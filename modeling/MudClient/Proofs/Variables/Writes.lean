import MudClient.Proofs.Variables.Contents

/-!
# Several writes in a row

* `Store.Declared`, `Store.Made.declared`: in every store that there can be, only computed variables are computed
* `Store.set_cases`: what a set does
* `Store.Declared.set_eq_set`: the clock and the settings do not matter to a set
* `Store.setAll`: the writes of an event, or of several
* `Store.get?_setAll_last`, `Store.get?_setAll_of_notMem`: what variables have after writes
-/

set_option autoImplicit false

namespace MudClient.Variables.Store

variable {s : Store} {key value : Text} {ps qs : List (Text × Text)}

/-! ## Stores -/

/-- Variables with a computed binding are computed ones, which cannot be overwritten. -/
def Declared (s : Store) : Prop :=
  ∀ key kind, s.bindings.get? key = some (.computed kind) → key ∈ s.dynamicKeys

theorem declared_empty (eventKey : Text) (fixed : List (Text × DynamicKind)) :
    Declared ⟨eventKey, fixed, .empty, [], [], false⟩ := by
  intro key kind h
  cases h

theorem Declared.addDynamic (h : s.Declared) (key : Text) (kind : DynamicKind) : (s.addDynamic key kind).Declared := by
  intro other kind' hget
  simp only [Store.addDynamic, OrderedMap.get?_insert] at hget ⊢
  split at hget
  · next heq => split <;> simp_all
  · split <;> simp [h other kind' hget]

theorem Declared.addDynamics (h : s.Declared) (kinds : List (Text × DynamicKind)) :
    (s.addDynamics kinds).Declared := by
  induction kinds generalizing s with
  | nil => exact h
  | cons p kinds ih => exact ih (h.addDynamic p.1 p.2)

theorem declared_new (eventKey : Text) (fixed : List (Text × DynamicKind)) : (new eventKey fixed).Declared :=
  (declared_empty eventKey fixed).addDynamics fixed

/-! ## One set -/

theorem set_cases (s : Store) (r : Reading) (key value : Text) :
    (s.set r key (some value)).1 = s ∧ (key ∈ s.dynamicKeys ∨ s.get? r key = some value) ∨
      key ∉ s.dynamicKeys ∧ ∃ pending, (s.set r key (some value)).1 =
        { s with bindings := s.bindings.insert key (.literal (some value)), pending := pending } := by
  rw [set, isDynamic]
  split
  · next hdynamic => exact .inl ⟨rfl, .inl (of_decide_eq_true hdynamic)⟩
  next hdynamic =>
  split
  · next hsame =>
    refine .inl ⟨rfl, .inr ?_⟩
    rw [get?]
    cases hget : s.bindings.get? key <;> simp_all
  · exact .inr ⟨by simpa using hdynamic, exists_notify _ _⟩

theorem dynamicKeys_set (s : Store) (r : Reading) (key value : Text) :
    (s.set r key (some value)).1.dynamicKeys = s.dynamicKeys := by
  obtain ⟨bindings, pending, h⟩ := exists_set s r key (some value)
  rw [h]

theorem Declared.set (h : s.Declared) (r : Reading) (key value : Text) : (s.set r key (some value)).1.Declared := by
  rcases set_cases s r key value with ⟨heq, -⟩ | ⟨-, pending, heq⟩
  · rwa [heq]
  · rw [heq]
    intro other kind hget
    rw [OrderedMap.get?_insert] at hget
    split at hget
    · cases hget
    · exact h other kind hget

theorem Declared.remove (h : s.Declared) (key : Text) : (s.remove key).Declared := by
  rw [Store.remove]
  split
  · exact h
  · intro other kind hget
    simp only [OrderedMap.get?_erase] at hget
    split at hget
    · cases hget
    · exact h other kind hget

theorem Declared.perform (h : s.Declared) (call : StoreCall) : (call.perform s).1.Declared := by
  cases call with
  | set r key value =>
    cases value with
    | none => exact h.set r key []
    | some value => exact h.set r key value
  | remove key => exact h.remove key
  | clear => exact Declared.addDynamics (s := { s with bindings := .empty, dynamicKeys := [] }) nofun s.fixed
  | close => exact h

/-- The stores that there can be: new ones, and those that come of what is done to a store. -/
inductive Made : Store → Prop
  | new (eventKey : Text) (fixed : List (Text × DynamicKind)) : Made (new eventKey fixed)
  | addDynamic {s : Store} (key : Text) (kind : DynamicKind) : Made s → Made (s.addDynamic key kind)
  | perform {s : Store} (call : StoreCall) : Made s → Made (call.perform s).1
  | take {s s' : Store} {change : Change} : s.nextPending? = some (change, s') → Made s → Made s'

theorem Made.declared (h : s.Made) : s.Declared := by
  induction h with
  | new eventKey fixed => exact declared_new eventKey fixed
  | addDynamic key kind _ ih => exact ih.addDynamic key kind
  | perform call _ ih => exact ih.perform call
  | @take s s' change hnext _ ih =>
    rw [nextPending?] at hnext
    split at hnext
    · cases hnext
    · obtain ⟨-, rfl⟩ := Prod.mk.inj (Option.some.inj hnext)
      exact ih

theorem Declared.get?_eq_get? (h : s.Declared) (hkey : key ∉ s.dynamicKeys) (r r' : Reading) :
    s.get? r key = s.get? r' key := by
  rw [get?, get?]
  cases hget : s.bindings.get? key with
  | none => rfl
  | some binding =>
    cases binding with
    | literal text => rfl
    | computed kind => exact absurd (h key kind hget) hkey

/-- Texts are compared with texts only, so that it does not matter what the clock and the settings are. -/
theorem Declared.set_eq_set (h : s.Declared) (r r' : Reading) (key : Text) (value : Option Text) :
    s.set r key value = s.set r' key value := by
  rw [Store.set, Store.set]
  split
  · rfl
  · next hdynamic =>
    have hany : ∀ r, ((s.bindings.get? key).any fun b => b.evaluate r == some (value.getD [])) =
        (s.get? r key == some (value.getD [])) := by
      intro r
      rw [get?]
      cases s.bindings.get? key <;> rfl
    simp only [hany, h.get?_eq_get? (by simpa [isDynamic] using hdynamic) r r']

theorem get?_set_self (h : s.Declared) (hkey : key ∉ s.dynamicKeys) (r r' : Reading) (value : Text) :
    (s.set r key (some value)).1.get? r' key = some value := by
  rcases set_cases s r key value with ⟨heq, hsame⟩ | ⟨-, pending, heq⟩
  · rw [heq, h.get?_eq_get? hkey r' r]
    exact hsame.resolve_left hkey
  · rw [heq, get?, OrderedMap.get?_insert, if_pos rfl]
    rfl

theorem bindings_set_of_ne {other : Text} (r : Reading) (value : Text)
    (hkey : key ∈ s.dynamicKeys ∨ key ≠ other) :
    (s.set r other (some value)).1.bindings.get? key = s.bindings.get? key := by
  rcases set_cases s r other value with ⟨heq, -⟩ | ⟨hother, pending, heq⟩
  · rw [heq]
  · have hne : key ≠ other := hkey.elim (fun hdynamic e => hother (e ▸ hdynamic)) id
    rw [heq]
    exact (OrderedMap.get?_insert _ _ _ _).trans (if_neg hne)

/-! ## Several sets -/

def setAll (s : Store) (r : Reading) (ps : List (Text × Text)) : Store :=
  ps.foldl (fun s p => (s.set r p.1 (some p.2)).1) s

theorem setAll_cons (s : Store) (r : Reading) (p : Text × Text) (ps : List (Text × Text)) :
    s.setAll r (p :: ps) = (s.set r p.1 (some p.2)).1.setAll r ps := rfl

theorem setAll_append (s : Store) (r : Reading) (ps qs : List (Text × Text)) :
    s.setAll r (ps ++ qs) = (s.setAll r ps).setAll r qs :=
  List.foldl_append

theorem Declared.setAll (h : s.Declared) (r : Reading) (ps : List (Text × Text)) : (s.setAll r ps).Declared := by
  induction ps generalizing s with
  | nil => exact h
  | cons p ps ih => exact ih (h.set r p.1 p.2)

theorem dynamicKeys_setAll (s : Store) (r : Reading) (ps : List (Text × Text)) :
    (s.setAll r ps).dynamicKeys = s.dynamicKeys := by
  induction ps generalizing s with
  | nil => rfl
  | cons p ps ih => rw [setAll_cons, ih, dynamicKeys_set]

/-- Writes leave computed variables alone, and all those that they do not name. -/
theorem bindings_setAll_of_notMem (r : Reading) (hkey : key ∈ s.dynamicKeys ∨ key ∉ ps.map Prod.fst) :
    (s.setAll r ps).bindings.get? key = s.bindings.get? key := by
  induction ps generalizing s with
  | nil => rfl
  | cons p ps ih =>
    simp only [List.map_cons, List.mem_cons, not_or] at hkey
    rw [setAll_cons, ih (by rw [dynamicKeys_set]; exact hkey.imp_right And.right),
      bindings_set_of_ne r p.2 (hkey.imp_right And.left)]

/-- A variable has what was written to it last. -/
theorem get?_setAll_last (h : s.Declared) (hkey : key ∉ s.dynamicKeys) (hlast : key ∉ qs.map Prod.fst)
    (r r' : Reading) : (s.setAll r (ps ++ (key, value) :: qs)).get? r' key = some value := by
  have hkey' : key ∉ (s.setAll r ps).dynamicKeys := by rwa [dynamicKeys_setAll]
  have hset := get?_set_self (h.setAll r ps) hkey' r r' value
  rw [setAll_append, setAll_cons, get?, bindings_setAll_of_notMem r (.inr hlast)]
  exact hset

end MudClient.Variables.Store

import Mathlib.Data.List.Forall2
import MudClient.Proofs.Reference.Form

/-!
# How an expansion can end

* `Ends`: what the cache, the value and the error of a computation satisfy at its end
* `Congruence`: a relation between texts before and after; if every pass keeps it, then so does an expansion
* `ends_simplifyAll`: the cascade does not fail, and adds no characters but those of values
* `ends_expandIndexed`: forms fail at an index with too many digits only
* `ends_rounds`, `ends_expand`: how an expansion ends follows from how its forms do
-/

set_option autoImplicit false

namespace MudClient.Reference

open Pattern

variable {World α β : Type} {I : Cache → Prop} {P : ExpandError → Prop} {Q : α → Prop} {R : β → Prop}
  {ok : Char → Prop} {ctx : Context World} {setting : Setting World} {t u : Text}

/-! ## Ends of computations -/

/-- From a cache that satisfies `I` the computation comes to a cache that does so too, and to a value that
satisfies `Q` or an error that satisfies `P`. -/
def Ends (I : Cache → Prop) (P : ExpandError → Prop) (Q : α → Prop) (m : Expansion World α) : Prop :=
  ∀ ledger, I ledger.cache → I (m.run.run ledger).2.cache ∧
    match (m.run.run ledger).1 with
    | .ok a => Q a
    | .error e => P e

theorem ends_pure {a : α} (h : Q a) : Ends I P Q (pure a : Expansion World α) := fun _ hI => ⟨hI, h⟩

theorem ends_bind {m : Expansion World α} {f : α → Expansion World β} (hm : Ends I P Q m)
    (hf : ∀ a, Q a → Ends I P R (f a)) : Ends I P R (m >>= f) := by
  intro ledger hI
  obtain ⟨hI', h⟩ := hm ledger hI
  rw [run_bind]
  cases hr : m.run.run ledger with
  | mk result ledger' =>
    rw [hr] at hI' h
    cases result with
    | ok a => exact hf a h ledger' hI'
    | error e => exact ⟨hI', h⟩

theorem ends_mono {Q' : α → Prop} {m : Expansion World α} (hm : Ends I P Q m) (h : ∀ a, Q a → Q' a) :
    Ends I P Q' m := by
  have hbind := ends_bind hm fun a ha => ends_pure (h a ha)
  rwa [bind_pure] at hbind

theorem ends_mapM {S : α → β → Prop} {l : List α} {f : α → Expansion World β}
    (h : ∀ a ∈ l, Ends I P (S a) (f a)) : Ends I P (List.Forall₂ S l) (l.mapM f) := by
  induction l with
  | nil => exact ends_pure .nil
  | cons a l ih =>
    rw [List.mapM_cons]
    refine ends_bind (h a List.mem_cons_self) fun b hb => ?_
    refine ends_bind (ih fun x hx => h x (List.mem_cons_of_mem a hx)) fun bs hbs => ?_
    exact ends_pure (.cons hb hbs)

/-! ## The cascade -/

/-- The characters of a text all satisfy a condition. -/
def Within (ok : Char → Prop) (t : Text) : Prop := ∀ c ∈ t, ok c

theorem within_append : Within ok (t ++ u) ↔ Within ok t ∧ Within ok u := List.forall_mem_append

theorem within_true (t : Text) : Within (fun _ => True) t := fun _ _ => trivial

/-- The characters of all values that a setting may give satisfy a condition. -/
def Setting.ValuesWithin (setting : Setting World) (ok : Char → Prop) : Prop :=
  ∀ name world value, (setting.resolve name world).1 = some value → Within ok value

/-- Patterns for references may be put into the cache. -/
def KeptByPatterns (I : Cache → Prop) : Prop :=
  ∀ cache sigil (k : NameClass), I cache → I (cache.read (referencePattern sigil k.source) 0).2

theorem ends_ask (hv : setting.ValuesWithin ok) (name : Text) :
    Ends I P (fun value => ∀ v ∈ value, Within ok v) (setting.ask name) :=
  fun ledger hI => ⟨hI, fun _ hvalue => hv name ledger.world _ hvalue⟩

/-- Reading a pattern for references does not fail, not even from a cache that holds other patterns. -/
theorem exists_read (cache : Cache) (sigil : Text) (k : NameClass) :
    ∃ re, (cache.read (referencePattern sigil k.source) 0).1 = .ok re := by
  rw [Cache.read]
  split
  · exact ⟨_, rfl⟩
  · rw [read_referencePattern]
    exact ⟨_, rfl⟩

theorem ends_pattern (hI : KeptByPatterns I) (sigil : Text) (k : NameClass) :
    Ends I P (fun _ => True) (pattern (referencePattern sigil k.source) : Expansion World Regex) := by
  intro ledger hcache
  obtain ⟨re, hre⟩ := exists_read ledger.cache sigil k
  rw [run_pattern, hre]
  exact ⟨hI _ sigil k hcache, trivial⟩

theorem ends_fill (hv : setting.ValuesWithin ok) (source : Text) (found : List Match) (ht : Within ok t) :
    Ends I P (Within ok) (fill setting source t found) := by
  induction found generalizing t with
  | nil => exact ends_pure ht
  | cons m earlier ih =>
    simp only [fill]
    split
    · exact ih ht
    · next name _ =>
      refine ends_bind (ends_ask hv name) fun value hvalue => ?_
      cases value with
      | none => exact ih ht
      | some value =>
        refine ih (within_append.2 ⟨within_append.2 ⟨fun c hc => ?_, hvalue value rfl⟩, fun c hc => ?_⟩)
        · exact ht c (List.mem_of_mem_take hc)
        · exact ht c (List.mem_of_mem_drop hc)

theorem ends_pass (hI : KeptByPatterns I) (hv : setting.ValuesWithin ok) (k : NameClass) (ht : Within ok t) :
    Ends I P (Within ok) (pass setting t k.source) :=
  ends_bind (ends_pattern hI setting.sigil k) fun _ _ => ends_fill hv t _ ht

/-! ## Relations that are kept -/

/-- A relation between a text before and after. It holds of texts put together if it holds of each. -/
structure Congruence (S : Text → Text → Prop) : Prop where
  refl (t : Text) : S t t
  trans {t u v : Text} : S t u → S u v → S t v
  append {t u t' u' : Text} : S t u → S t' u' → S (t ++ t') (u ++ u')

namespace Congruence

variable {S : Text → Text → Prop}

theorem ends_bind {m : Expansion World Text} {f : Text → Expansion World Text} (hS : Congruence S)
    (hm : Ends I P (S t) m) (hf : ∀ u, Ends I P (S u) (f u)) : Ends I P (S t) (m >>= f) :=
  Reference.ends_bind hm fun u hu => ends_mono (hf u) fun _ hv => hS.trans hu hv

theorem flatten (hS : Congruence S) {l : List Segment} {parts : List Text}
    (h : List.Forall₂ (fun s part => S s.source part) l parts) :
    S (l.flatMap Segment.source) parts.flatten := by
  induction h with
  | nil => exact hS.refl []
  | cons hs _ ih => exact hS.append hs ih

theorem ends_simplify (hS : Congruence S) (hpass : ∀ t (k : NameClass), Ends I P (S t) (pass setting t k.source))
    (t : Text) : Ends I P (S t) (simplify setting t) := by
  rw [simplify_passes]
  split
  · exact hS.ends_bind (hpass t _) fun t₁ => hS.ends_bind (hpass t₁ _) fun t₂ => hpass t₂ _
  · exact ends_pure (hS.refl t)

section

variable (hS : Congruence S)
  (hpass : ∀ setting ∈ ctx, ∀ t (k : NameClass), Ends I P (S t) (pass setting t k.source))
include hS hpass

theorem ends_simplifyAll (t : Text) : Ends I P (S t) (simplifyAll ctx t) := by
  rw [simplifyAll]
  induction ctx generalizing t with
  | nil => exact ends_pure (hS.refl t)
  | cons setting ctx ih =>
    rw [List.foldlM_cons]
    refine hS.ends_bind (hS.ends_simplify (hpass setting List.mem_cons_self) t) fun t' => ?_
    exact ih (fun s hs => hpass s (List.mem_cons_of_mem _ hs)) t'

theorem ends_settle (n : Nat) (t : Text) : Ends I P (S t) (settle ctx n t) := by
  induction n generalizing t with
  | zero => exact ends_pure (hS.refl t)
  | succ n ih =>
    rw [settle]
    split
    · exact ends_pure (hS.refl t)
    · refine hS.ends_bind (hS.ends_simplifyAll hpass t) fun t' => ?_
      split
      · exact ends_pure (hS.refl t')
      · exact ih t'

variable (hform : ∀ name name' bracket index index', S name name' → S index index' →
  Ends I P (S (Segment.indexed name bracket index).source)
    (expandIndexed.liftExcept (indexedForm name name' bracket index') : Expansion World Text))
include hform

theorem ends_expandIndexed (t : Text) : Ends I P (S t) (expandIndexed ctx t) := by
  -- The name and the index of a form are shorter than the text.
  induction h : t.length using Nat.strongRecOn generalizing t with
  | ind n ih =>
    have hpart (u : Text) (hu : u.length < t.length) : Ends I P (S u) (expandPart ctx u) :=
      hS.ends_bind (ih u.length (h ▸ hu) u rfl) (hS.ends_settle hpass roundLimit)
    have hsegments : Ends I P (List.Forall₂ (fun s part => S s.source part) (segments ctx.sigils t))
        ((segments ctx.sigils t).mapM (expandSegment ctx)) := by
      refine ends_mapM fun segment hs => ?_
      cases segment with
      | plain content => exact ends_pure (hS.refl content)
      | indexed name bracket index =>
        obtain ⟨hname, hindex⟩ := length_of_indexed hs
        refine Reference.ends_bind (hpart name hname) fun name' hname' => ?_
        refine Reference.ends_bind (hpart index hindex) fun index' hindex' => ?_
        exact hform name name' bracket index index' hname' hindex'
    rw [expandIndexed_eq, ← bind_pure_comp]
    refine Reference.ends_bind hsegments fun parts hparts => ends_pure ?_
    rw [← segments_source ctx.sigils t]
    exact hS.flatten hparts

theorem ends_goOver (t : Text) : Ends I P (S t) (goOver ctx t) :=
  hS.ends_bind (hS.ends_expandIndexed hpass hform t) (hS.ends_simplifyAll hpass)

theorem ends_rounds (n : Nat) (t : Text) : Ends I P (S t) (rounds ctx n t) := by
  induction n generalizing t with
  | zero => exact ends_pure (hS.refl t)
  | succ n ih =>
    rw [rounds_succ]
    refine hS.ends_bind (hS.ends_goOver hpass hform t) fun t' => ?_
    split
    · exact ends_pure (hS.refl t')
    · exact ih t'

theorem ends_expand (t : Text) : Ends I P (S t) (expand ctx t) := by
  rw [expand]
  split
  · exact hS.ends_rounds hpass hform roundLimit t
  · exact ends_pure (hS.refl t)

end

protected theorem trivial : Congruence fun _ _ => True :=
  ⟨fun _ => trivial, fun _ _ => trivial, fun _ _ => trivial⟩

theorem within (ok : Char → Prop) : Congruence fun t u => Within ok t → Within ok u where
  refl _ := id
  trans htu huv ht := huv (htu ht)
  append hu hu' h := within_append.2 ⟨hu (within_append.1 h).1, hu' (within_append.1 h).2⟩

end Congruence

theorem ends_simplifyAll (hI : KeptByPatterns I) (hv : ∀ setting ∈ ctx, setting.ValuesWithin ok)
    (ht : Within ok t) : Ends I P (Within ok) (simplifyAll ctx t) := by
  refine ends_mono ((Congruence.within ok).ends_simplifyAll (fun setting hs u k => ?_) t) fun u hu => hu ht
  by_cases hu : Within ok u
  · exact ends_mono (ends_pass hI (hv setting hs) k hu) fun _ hv _ => hv
  · exact ends_mono (ends_pass hI (fun _ _ v _ => within_true v) k (within_true u)) fun _ _ h => absurd h hu

/-! ## Forms -/

/-- An index has more digits than numbers are read with. -/
def ExpandError.IsTooLong (e : ExpandError) : Prop :=
  ∃ n, 4300 < n ∧ e = .indexTooLong ⟨n⟩

theorem isTooLong_of_element? {values index : Text} {e : ExpandError} (h : element? values index = .error e) :
    e.IsTooLong := by
  simp only [element?, Text.decimal?] at h
  split at h
  · cases h
  · split at h
    · next e' he =>
      split at he
      · next hlong =>
        cases he
        cases h
        exact ⟨index.length, hlong, rfl⟩
      · cases he
    · cases h

theorem isTooLong_of_indexedForm {written name index : Text} {bracket : Bracket} {e : ExpandError}
    (h : indexedForm written name bracket index = .error e) : e.IsTooLong := by
  rw [indexedForm] at h
  split at h
  · cases h
  · cases hpicked : element? name index with
    | ok picked =>
      rw [hpicked] at h
      cases h
    | error e' =>
      rw [hpicked] at h
      cases h
      exact isTooLong_of_element? hpicked

theorem ends_indexedForm (written name : Text) (bracket : Bracket) (index : Text) :
    Ends I ExpandError.IsTooLong (fun _ => True)
      (expandIndexed.liftExcept (indexedForm written name bracket index) : Expansion World Text) := by
  intro ledger hcache
  rw [run_liftExcept]
  refine ⟨hcache, ?_⟩
  cases h : indexedForm written name bracket index with
  | ok t => trivial
  | error e => exact isTooLong_of_indexedForm h

theorem ends_expandIndexed (hI : KeptByPatterns I) (ctx : Context World) (t : Text) :
    Ends I ExpandError.IsTooLong (fun _ => True) (expandIndexed ctx t) := by
  refine Congruence.trivial.ends_expandIndexed (fun setting _ u k => ?_)
    (fun name name' bracket index index' _ _ => ends_indexedForm name name' bracket index') t
  exact ends_mono (ends_pass hI (fun _ _ v _ => within_true v) k (within_true u)) fun _ _ => trivial

/-! ## Expansions -/

theorem ends_rounds (hI : KeptByPatterns I) (hv : ∀ setting ∈ ctx, setting.ValuesWithin ok)
    (hforms : ∀ t, Within ok t → Ends I P (Within ok) (expandIndexed ctx t)) (n : Nat) (ht : Within ok t) :
    Ends I P (Within ok) (rounds ctx n t) := by
  induction n generalizing t with
  | zero => exact ends_pure ht
  | succ n ih =>
    rw [rounds]
    refine ends_bind (hforms t ht) fun t₁ h₁ => ends_bind (ends_simplifyAll hI hv h₁) fun t₂ h₂ => ?_
    split
    · exact ends_pure h₂
    · exact ih h₂

theorem ends_expand (hI : KeptByPatterns I) (hv : ∀ setting ∈ ctx, setting.ValuesWithin ok)
    (hforms : ∀ t, Within ok t → Ends I P (Within ok) (expandIndexed ctx t)) (ht : Within ok t) :
    Ends I P (Within ok) (expand ctx t) := by
  rw [expand]
  split
  · exact ends_rounds hI hv hforms _ ht
  · exact ends_pure ht

end MudClient.Reference

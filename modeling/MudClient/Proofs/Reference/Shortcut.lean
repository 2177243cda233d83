import MudClient.Proofs.Reference.Division
import MudClient.Proofs.Reference.Glossary

/-!
# Expansions without shortcuts

* `fullCascade`, `fullSettle`, `fullIndexed`, `fullPass`, `fullPasses`: the steps of an expansion, none of them left
  out because it would change nothing
* `Agree`: two computations that come to the same result
* `gives_fullPass_of_not_occursIn`: a text without a sigil does not change
* `agree_expandIndexed`, `agree_goOver`: what is left out within a round changes nothing
* `expand_fullPasses`: nor do the rounds that are left out
-/

set_option autoImplicit false

namespace MudClient.Reference

open Pattern

variable {World α β : Type} {ctx : Context World} {gs : List Glossary} {t : Text}

/-! ## Every step taken -/

/-- The passes of a setting, whether or not the text holds its sigil. -/
def fullCascade (setting : Setting World) (t : Text) : Expansion World Text :=
  nameClasses.foldlM (pass setting) t

def fullCascadeAll (ctx : Context World) (t : Text) : Expansion World Text :=
  ctx.foldlM (fun t setting => fullCascade setting t) t

/-- The cascade of all settings, `n` times. -/
def fullSettle (ctx : Context World) : Nat → Text → Expansion World Text
  | 0, t => return t
  | n + 1, t => do fullSettle ctx n (← fullCascadeAll ctx t)

/-- A text put together from its segments again, every name and every index expanded. -/
def fullIndexed (ctx : Context World) (t : Text) : Expansion World Text := do
  let parts ← (segments ctx.sigils t).attach.mapM fun ⟨segment, h⟩ =>
    match segment with
    | .plain content => return content
    | .indexed name bracket index => do
      have := length_of_indexed h
      let name' ← fullSettle ctx 15 (← fullIndexed ctx name)
      let index' ← fullSettle ctx 15 (← fullIndexed ctx index)
      expandIndexed.liftExcept (indexedForm name name' bracket index')
  return parts.flatten
termination_by t.length

def fullPass (ctx : Context World) (t : Text) : Expansion World Text := do
  fullCascadeAll ctx (← fullIndexed ctx t)

def fullPasses (ctx : Context World) : Nat → Text → Expansion World Text
  | 0, t => return t
  | n + 1, t => do fullPasses ctx n (← fullPass ctx t)

def fullPart (ctx : Context World) (t : Text) : Expansion World Text := do
  fullSettle ctx 15 (← fullIndexed ctx t)

def fullSegment (ctx : Context World) : Segment → Expansion World Text
  | .plain content => return content
  | .indexed name bracket index => do
    let name' ← fullPart ctx name
    let index' ← fullPart ctx index
    expandIndexed.liftExcept (indexedForm name name' bracket index')

theorem fullIndexed_eq (ctx : Context World) (t : Text) :
    fullIndexed ctx t = List.flatten <$> (segments ctx.sigils t).mapM (fullSegment ctx) := by
  rw [fullIndexed, bind_pure_comp, List.mapM_subtype (g := fullSegment ctx), List.unattach_attach]
  intro segment hs
  cases segment with
  | plain content => rfl
  | indexed name bracket index => simp [fullSegment, fullPart]

/-! ## Agreement -/

/-- Both computations come to the same result, whichever patterns a faithful cache holds. -/
def Agree (m m' : Expansion World α) : Prop := ∃ result, Gives m result ∧ Gives m' result

theorem agree_of_gives {m m' : Expansion World α} {result : Except ExpandError α} (hm : Gives m result)
    (hm' : Gives m' result) : Agree m m' := ⟨result, hm, hm'⟩

theorem agree_bind {m m' : Expansion World α} {f f' : α → Expansion World β} (hm : Agree m m')
    (hf : ∀ a, Agree (f a) (f' a)) : Agree (m >>= f) (m' >>= f') := by
  obtain ⟨result, hm, hm'⟩ := hm
  cases result with
  | error e => exact ⟨.error e, gives_bind_error hm, gives_bind_error hm'⟩
  | ok a =>
    obtain ⟨result, hf, hf'⟩ := hf a
    exact ⟨result, gives_bind hm hf, gives_bind hm' hf'⟩

theorem agree_pure (a : α) : Agree (pure a : Expansion World α) (pure a) :=
  agree_of_gives (gives_pure a) (gives_pure a)

theorem agree_mapM {l : List α} {f f' : α → Expansion World β} (h : ∀ a ∈ l, Agree (f a) (f' a)) :
    Agree (l.mapM f) (l.mapM f') := by
  induction l with
  | nil => exact agree_pure []
  | cons a l ih =>
    rw [List.mapM_cons, List.mapM_cons]
    refine agree_bind (h a List.mem_cons_self) fun b => ?_
    exact agree_bind (ih fun x hx => h x (List.mem_cons_of_mem a hx)) fun bs => agree_pure (b :: bs)

/-! ## Within a round -/

theorem gives_fullCascade (g : Glossary) (t : Text) :
    Gives (fullCascade (g.setting : Setting World) t) (.ok (g.cascade t)) := by
  rw [fullCascade, nameClasses_eq, List.foldlM_map]
  exact gives_bind (gives_pass g _ _) (gives_bind (gives_pass g _ _) (gives_bind (gives_pass g _ _) (gives_pure _)))

theorem gives_fullCascadeAll (gs : List Glossary) (t : Text) :
    Gives (fullCascadeAll (glossed gs : Context World) t) (.ok (cascadeAll gs t)) := by
  rw [fullCascadeAll]
  induction gs generalizing t with
  | nil => exact gives_pure t
  | cons g gs ih => exact gives_bind (gives_fullCascade g t) (ih (g.cascade t))

theorem gives_fullSettle (gs : List Glossary) (n : Nat) (t : Text) :
    Gives (fullSettle (glossed gs : Context World) n t) (.ok ((cascadeAll gs)^[n] t)) := by
  induction n generalizing t with
  | zero => exact gives_pure t
  | succ n ih => exact gives_bind (gives_fullCascadeAll gs t) (ih (cascadeAll gs t))

theorem agree_expandIndexed (gs : List Glossary) (t : Text) :
    Agree (expandIndexed (glossed gs : Context World) t) (fullIndexed (glossed gs) t) := by
  -- The name and the index of a form are shorter than the text.
  induction h : t.length using Nat.strongRecOn generalizing t with
  | ind n ih =>
    have hpart (u : Text) (hu : u.length < t.length) :
        Agree (expandPart (glossed gs : Context World) u) (fullPart (glossed gs) u) :=
      agree_bind (ih u.length (h ▸ hu) u rfl) fun u' =>
        agree_of_gives (gives_settle gs roundLimit u') (gives_fullSettle gs 15 u')
    rw [fullIndexed_eq, expandIndexed_eq, ← bind_pure_comp, ← bind_pure_comp]
    refine agree_bind (agree_mapM fun segment hs => ?_) fun parts => agree_pure parts.flatten
    cases segment with
    | plain content => exact agree_pure content
    | indexed name bracket index =>
      obtain ⟨hname, hindex⟩ := length_of_indexed hs
      refine agree_bind (hpart name hname) fun name' => ?_
      refine agree_bind (hpart index hindex) fun index' => ?_
      exact agree_of_gives (gives_liftExcept _) (gives_liftExcept _)

theorem agree_goOver (gs : List Glossary) (t : Text) :
    Agree (goOver (glossed gs : Context World) t) (fullPass (glossed gs) t) :=
  agree_bind (agree_expandIndexed gs t) fun u =>
    agree_of_gives (gives_simplifyAll gs u) (gives_fullCascadeAll gs u)

/-! ## The rounds that are left out -/

/-- A text without a sigil has no forms. -/
theorem any_isIndexed_of_not_occursIn (h : ∀ g ∈ gs, ¬g.sigil.occursIn t) :
    (segments (glossed gs : Context World).sigils t).any Segment.isIndexed = false := by
  rw [Bool.eq_false_iff]
  intro hany
  obtain ⟨segment, hs, hi⟩ := List.any_eq_true.1 hany
  obtain ⟨sigil, hsigil, hoccurs⟩ := exists_occursIn_of_isIndexed hs hi
  obtain ⟨g, hg, rfl⟩ : ∃ g ∈ gs, g.sigil = sigil := by
    simpa [Context.sigils, glossed, Glossary.setting, Setting.pure] using hsigil
  exact h g hg hoccurs

/-- A text without a sigil does not change, however the segments and then the settings are gone through. -/
theorem gives_unchanged {f : Segment → Expansion World Text} {m : Text → Expansion World Text}
    (hf : ∀ content, f (.plain content) = pure content) (hm : ∀ u, Gives (m u) (.ok (cascadeAll gs u)))
    (h : ∀ g ∈ gs, ¬g.sigil.occursIn t) :
    Gives (List.flatten <$> (segments (glossed gs : Context World).sigils t).mapM f >>= m) (.ok t) := by
  have hcascade := hm t
  rw [cascadeAll_of_not_occursIn h] at hcascade
  rwa [mapM_of_plain hf (any_isIndexed_of_not_occursIn h), pure_bind]

theorem gives_goOver_of_not_occursIn (h : ∀ g ∈ gs, ¬g.sigil.occursIn t) :
    Gives (goOver (glossed gs : Context World) t) (.ok t) := by
  rw [goOver, expandIndexed_eq]
  exact gives_unchanged (fun _ => rfl) (gives_simplifyAll gs) h

theorem gives_fullPass_of_not_occursIn (h : ∀ g ∈ gs, ¬g.sigil.occursIn t) :
    Gives (fullPass (glossed gs : Context World) t) (.ok t) := by
  rw [fullPass, fullIndexed_eq]
  exact gives_unchanged (fun _ => rfl) (gives_fullCascadeAll gs) h

/-- A text that one pass does not change stays as it is. -/
theorem gives_fullPasses_of_fixed (h : Gives (fullPass ctx t) (.ok t)) (n : Nat) :
    Gives (fullPasses ctx n t) (.ok t) := by
  induction n with
  | zero => exact gives_pure t
  | succ n ih => exact gives_bind h ih

theorem not_occursIn_of_not_mayRefer (h : ¬(glossed gs : Context World).mayRefer t) :
    ∀ g ∈ gs, ¬g.sigil.occursIn t :=
  fun g hg hoccurs => h (mayRefer_glossed.2 ⟨g, hg, hoccurs⟩)

/-- Behind a round either the expansion stops, because nothing has changed or no sigil is left, or it goes on with a
changed text. -/
theorem rounds_cases {t' : Text} (hround : Gives (goOver (glossed gs : Context World) t) (.ok t')) (n : Nat) :
    ((t' = t ∨ ∀ g ∈ gs, ¬g.sigil.occursIn t') ∧
        Gives (rounds (glossed gs : Context World) (n + 1) t) (.ok t')) ∨
      (t' ≠ t ∧ ∀ result, Gives (rounds (glossed gs : Context World) n t') result →
        Gives (rounds (glossed gs : Context World) (n + 1) t) result) := by
  rw [rounds_succ]
  by_cases hstop : t' = t ∨ ¬(glossed gs : Context World).mayRefer t'
  · refine .inl ⟨hstop.imp_right not_occursIn_of_not_mayRefer, gives_bind hround ?_⟩
    rw [if_pos (by simpa using hstop)]
    exact gives_pure t'
  · refine .inr ⟨fun hsame => hstop (.inl hsame), fun result hrest => gives_bind hround ?_⟩
    rwa [if_neg (by simpa using hstop)]

theorem agree_rounds (gs : List Glossary) (n : Nat) (t : Text) :
    Agree (rounds (glossed gs : Context World) n t) (fullPasses (glossed gs) n t) := by
  induction n generalizing t with
  | zero => exact agree_pure t
  | succ n ih =>
    obtain ⟨result, hround, hpass⟩ :
        Agree (goOver (glossed gs : Context World) t) (fullPass (glossed gs) t) := agree_goOver gs t
    cases result with
    | error e =>
      rw [rounds_succ]
      exact agree_of_gives (gives_bind_error hround) (gives_bind_error hpass)
    | ok t' =>
      rcases rounds_cases hround n with ⟨hstop, hrounds⟩ | ⟨-, hrounds⟩
      · have hfixed : Gives (fullPass (glossed gs : Context World) t') (.ok t') := by
          rcases hstop with rfl | hnone
          · exact hpass
          · exact gives_fullPass_of_not_occursIn hnone
        exact agree_of_gives hrounds (gives_bind hpass (gives_fullPasses_of_fixed hfixed n))
      · obtain ⟨result, hrest, hpasses⟩ := ih t'
        exact agree_of_gives (hrounds result hrest) (gives_bind hpass hpasses)

/-- An expansion comes to the value or the error to which fifteen passes come of which no step is left out. -/
theorem expand_fullPasses (gs : List Glossary) (t : Text) (ledger : Ledger World)
    (hcache : ledger.cache.Faithful) :
    ((expand (glossed gs) t).run.run ledger).1 = ((fullPasses (glossed gs) 15 t).run.run ledger).1 := by
  have hagree : Agree (expand (glossed gs : Context World) t) (fullPasses (glossed gs) 15 t) := by
    rw [expand]
    split
    · exact agree_rounds gs 15 t
    · next hnone =>
      have hfixed : Gives (fullPass (glossed gs : Context World) t) (.ok t) :=
        gives_fullPass_of_not_occursIn (not_occursIn_of_not_mayRefer hnone)
      exact agree_of_gives (gives_pure t) (gives_fullPasses_of_fixed hfixed 15)
  obtain ⟨result, hexpand, hpasses⟩ := hagree
  obtain ⟨cache, -, hrun⟩ := hexpand ledger hcache
  obtain ⟨cache', -, hrun'⟩ := hpasses ledger hcache
  rw [hrun, hrun']

/-- Two sigils, one at the front of the other, with values that refer to themselves and to each other. -/
def growing : List Glossary :=
  [⟨['$'], fun name => if name = ['x'] then some "a$x|$$y[0]".toList else none⟩,
    ⟨['$', '$'], fun _ => some "$x".toList⟩]

theorem expand_fullPasses_growing :
    Cache.Faithful .empty ∧
      ((expand (glossed growing) "$x[$$z(1)] ($x)".toList).run.run (⟨.empty, ()⟩ : Ledger Unit)).1 =
        ((fullPasses (glossed growing) 15 "$x[$$z(1)] ($x)".toList).run.run (⟨.empty, ()⟩ : Ledger Unit)).1 :=
  ⟨Cache.faithful_empty, expand_fullPasses growing "$x[$$z(1)] ($x)".toList ⟨.empty, ()⟩ Cache.faithful_empty⟩

end MudClient.Reference

import MudClient.Proofs.Reference.Ending

/-!
# References that cannot be resolved

* `Setting.KnowsNothing`: a resolver that has no value for any name, whatever its world
* `ends_pass_unresolved`: a pass that asks such a resolver changes nothing
* `expand_unresolved`: nor does an expansion, in which every form is put together again as it was
-/

set_option autoImplicit false

namespace MudClient.Reference

open Pattern

variable {World : Type} {I : Cache → Prop} {P : ExpandError → Prop} {setting : Setting World} {t : Text}

def Setting.KnowsNothing (setting : Setting World) : Prop :=
  ∀ name world, (setting.resolve name world).1 = none

theorem ends_fill_unresolved (h : setting.KnowsNothing) (source t : Text) (found : List Match) :
    Ends I P (· = t) (fill setting source t found) := by
  induction found with
  | nil => exact ends_pure rfl
  | cons m earlier ih =>
    simp only [fill]
    split
    · exact ih
    · next name _ =>
      have hask : Ends I P (· = none) (setting.ask name) := fun ledger hI => ⟨hI, h name ledger.world⟩
      refine ends_bind hask fun value hvalue => ?_
      rw [hvalue]
      exact ih

theorem ends_pass_unresolved (hI : KeptByPatterns I) (h : setting.KnowsNothing) (t : Text) (k : NameClass) :
    Ends I P (· = t) (pass setting t k.source) :=
  ends_bind (ends_pattern hI setting.sigil k) fun re _ => ends_fill_unresolved h t t (re.all t).reverse

theorem congruence_same : Congruence fun t u => u = t where
  refl _ := rfl
  trans htu huv := huv.trans htu
  append h h' := by rw [h, h']

/-- A name that stayed the same picks nothing, so its form is put together again. -/
theorem ends_indexedForm_same (name : Text) (bracket : Bracket) (index : Text) :
    Ends I P (· = (Segment.indexed name bracket index).source)
      (expandIndexed.liftExcept (indexedForm name name bracket index) : Expansion World Text) := by
  intro ledger hI
  rw [run_liftExcept, indexedForm, if_pos rfl]
  exact ⟨hI, rfl⟩

theorem run_of_ends {m : Expansion World Text} (h : Ends (fun _ => True) (fun _ => False) (· = t) m)
    (ledger : Ledger World) : (m.run.run ledger).1 = .ok t := by
  have hend := (h ledger trivial).2
  cases hrun : (m.run.run ledger).1 with
  | ok u =>
    rw [hrun] at hend
    exact congrArg _ hend
  | error e =>
    rw [hrun] at hend
    exact hend.elim

/-- If no name has a value, then every text is expanded to itself without an error, whatever sigils and brackets
it holds, and so are its indexed forms. -/
theorem expand_unresolved (ctx : Context World) (h : ∀ setting ∈ ctx, setting.KnowsNothing) (t : Text)
    (ledger : Ledger World) :
    ((expand ctx t).run.run ledger).1 = .ok t ∧ ((expandIndexed ctx t).run.run ledger).1 = .ok t := by
  have hpass : ∀ setting ∈ ctx, ∀ u (k : NameClass),
      Ends (fun _ => True) (fun _ => False) (· = u) (pass setting u k.source) :=
    fun setting hs => ends_pass_unresolved (fun _ _ _ _ => trivial) (h setting hs)
  have hform (name name' : Text) (bracket : Bracket) (index index' : Text) (hname : name' = name)
      (hindex : index' = index) :
      Ends (fun _ => True) (fun _ => False) (· = (Segment.indexed name bracket index).source)
        (expandIndexed.liftExcept (indexedForm name name' bracket index') : Expansion World Text) := by
    rw [hname, hindex]
    exact ends_indexedForm_same name bracket index
  exact ⟨run_of_ends (congruence_same.ends_expand hpass hform t) ledger,
    run_of_ends (congruence_same.ends_expandIndexed hpass hform t) ledger⟩

/-- Resolvers that know nothing and count how often they are asked. One sigil is empty, and one comes twice. -/
def clueless : Context Nat :=
  [[], ['$'], ['$']].map fun sigil => ⟨sigil, fun _ asked => (none, asked + 1)⟩

/-- Forms in forms, a form of the empty sigil, and brackets that nothing closes. -/
theorem expand_unresolved_clueless :
    (∀ setting ∈ clueless, setting.KnowsNothing) ∧
      ((expand clueless "$nope[0] go($a($b.[1]))[[x".toList).run.run ⟨.empty, 0⟩).1 =
        .ok "$nope[0] go($a($b.[1]))[[x".toList ∧
      ((expandIndexed clueless "$nope[0] go($a($b.[1]))[[x".toList).run.run ⟨.empty, 0⟩).1 =
        .ok "$nope[0] go($a($b.[1]))[[x".toList := by
  have h : ∀ setting ∈ clueless, setting.KnowsNothing := by simp [clueless, Setting.KnowsNothing]
  exact ⟨h, expand_unresolved clueless h _ _⟩

end MudClient.Reference

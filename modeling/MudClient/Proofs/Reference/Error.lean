import MudClient.Proofs.Reference.Ending
import MudClient.Proofs.Reference.Indexing

/-!
# Errors of expansions

* `gives_tooLong`: an index with too many digits is an error
* `expand_error`: there is no other one, and none at all without brackets
-/

set_option autoImplicit false

namespace MudClient.Reference

open Pattern

variable {World : Type} {V : Vocabulary} {m : Mention} {bracket : Bracket} {digits : Text}

theorem gives_tooLong (hm : m.sign ∈ V.signs) (hvalue : m.value ≠ m.written) (h : isIndex digits)
    (hlong : Text.digitLimit < digits.length) :
    Gives (expand (lookups V.signs : Context World) (m.indexed bracket digits))
      (.error (.indexTooLong ⟨digits.length⟩)) := by
  have hindex : Gives (expandPart (lookups V.signs : Context World) digits) (.ok digits) :=
    gives_bind (gives_nested (.digits digits h) rfl)
      (gives_settle_of_free (fun sign _ => notMem_of_isIndex h sign) roundLimit)
  have hforms : Gives (expandIndexed (lookups V.signs : Context World) (m.indexed bracket digits))
      (indexedForm m.written m.value bracket digits) :=
    gives_form hm (balanced_of_noBracket (noBracket_of_isIndex h)) hindex
  have hpicked : indexedForm m.written m.value bracket digits = .error (.indexTooLong ⟨digits.length⟩) := by
    rw [indexedForm, if_neg hvalue, element?, Text.decimal?, h, if_pos hlong]
    rfl
  rw [hpicked] at hforms
  rw [expand, if_pos (mayRefer_lookups hm (m.char_mem_indexed bracket digits))]
  exact gives_bind_error hforms

/-- An expansion fails at an index with more than 4300 digits only, whatever the sigils, the resolvers and the
text, and so does the expansion of indexed forms. Where neither the text nor a value holds an opening bracket
it does not fail. -/
theorem expand_error (ctx : Context World) (t : Text) (ledger : Ledger World) :
    (∀ e, ((expand ctx t).run.run ledger).1 = .error e → ∃ n, 4300 < n ∧ e = .indexTooLong ⟨n⟩) ∧
      (∀ e, ((expandIndexed ctx t).run.run ledger).1 = .error e → ∃ n, 4300 < n ∧ e = .indexTooLong ⟨n⟩) ∧
      ('[' ∉ t ∧ '(' ∉ t →
        (∀ setting ∈ ctx, ∀ name world value, (setting.resolve name world).1 = some value →
          '[' ∉ value ∧ '(' ∉ value) →
        ∃ u, ((expand ctx t).run.run ledger).1 = .ok u) := by
  have hI : KeptByPatterns fun _ => True := fun _ _ _ _ => trivial
  have hforms (u : Text) :
      Ends (fun _ => True) ExpandError.IsTooLong (Within fun _ => True) (expandIndexed ctx u) :=
    ends_mono (ends_expandIndexed hI ctx u) fun v _ => within_true v
  have hexpand : Ends (fun _ => True) ExpandError.IsTooLong (Within fun _ => True) (expand ctx t) :=
    ends_expand hI (fun _ _ _ _ v _ => within_true v) (fun u _ => hforms u) (within_true t)
  have herror {m : Expansion World Text}
      (h : Ends (fun _ => True) ExpandError.IsTooLong (Within fun _ => True) m)
      (e : ExpandError) (he : (m.run.run ledger).1 = .error e) : e.IsTooLong := by
    have hend := (h ledger trivial).2
    rwa [he] at hend
  refine ⟨herror hexpand, herror (hforms t), fun ht hv => ?_⟩
  have hwithin (u : Text) : Within (fun c => c ≠ '[' ∧ c ≠ '(') u ↔ '[' ∉ u ∧ '(' ∉ u := by
    constructor
    · intro h
      exact ⟨fun hc => (h _ hc).1 rfl, fun hc => (h _ hc).2 rfl⟩
    · rintro ⟨hsquare, hround⟩ c hc
      exact ⟨fun he => hsquare (he ▸ hc), fun he => hround (he ▸ hc)⟩
  -- Without brackets there are no forms, so the only step that can fail is never taken.
  have hplain : Ends (fun _ => True) (fun _ => False) (Within fun c => c ≠ '[' ∧ c ≠ '(')
      (expand ctx t) := by
    refine ends_expand hI (fun setting hs name world value h => ?_) (fun u hu => ?_) ((hwithin t).2 ht)
    · exact (hwithin value).2 (hv setting hs name world value h)
    · rw [expandIndexed_of_noBracket ((hwithin u).1 hu)]
      exact ends_pure hu
  have hend := (hplain ledger trivial).2
  cases hrun : ((expand ctx t).run.run ledger).1 with
  | ok u => exact ⟨u, rfl⟩
  | error e =>
    rw [hrun] at hend
    exact hend.elim

/-- The number zero with `n` more digits than it needs. -/
def zeros (n : Nat) : Text := List.replicate (n + 1) '0'

theorem isIndex_zeros (n : Nat) : isIndex (zeros n) := by
  simp [isIndex, zeros, List.replicate_succ]

theorem expand_error_zeros :
    (∃ e n, ((expand (lookups compass.signs) (ways.indexed .square (zeros 4300))).run.run
        (⟨.empty, ()⟩ : Ledger Unit)).1 = .error e ∧ 4300 < n ∧ e = .indexTooLong ⟨n⟩) ∧
      ('[' ∉ ways.written ∧ '(' ∉ ways.written) ∧
      ∃ u, ((expand (lookups compass.signs) ways.written).run.run (⟨.empty, ()⟩ : Ledger Unit)).1 = .ok u := by
  have hlong : Text.digitLimit < (zeros 4300).length := by
    rw [zeros, List.length_replicate]
    decide
  have hgives : Gives (expand (lookups compass.signs : Context Unit) (ways.indexed .square (zeros 4300)))
      (.error (.indexTooLong ⟨(zeros 4300).length⟩)) :=
    gives_tooLong List.mem_cons_self (by decide) (isIndex_zeros 4300) hlong
  obtain ⟨cache, -, hrun⟩ := hgives ⟨.empty, ()⟩ Cache.faithful_empty
  have herror := congrArg Prod.fst hrun
  obtain ⟨n, hn, he⟩ :=
    (expand_error (lookups compass.signs) (ways.indexed .square (zeros 4300)) ⟨.empty, ()⟩).1 _ herror
  refine ⟨⟨_, n, herror, hn, he⟩, by decide, ?_⟩
  refine (expand_error (lookups compass.signs) ways.written ⟨.empty, ()⟩).2.2 (by decide) ?_
  intro setting hs name world value hv
  obtain ⟨sign, hsign, rfl⟩ := List.mem_map.1 hs
  rcases lookup_compass hsign hv with rfl | rfl <;> decide

end MudClient.Reference

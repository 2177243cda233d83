import MudClient.Proofs.Pattern.Cache
import MudClient.Proofs.Reference.Piece

/-!
# One pass over a text

* `rewrite`: the pieces of a text with every reference asked for, from the last to the first
* `fill_matchesFrom`: to fill in the matches of a text is to rewrite its pieces
* `run_pass`: a pass rewrites the references of its class
-/

set_option autoImplicit false

namespace MudClient.Reference

open Pattern

variable {World α β : Type} {setting : Setting World} {ledger : Ledger World} {k : NameClass} {lead t : Text}

/-! ## Runs -/

theorem run_bind (m : Expansion World α) (f : α → Expansion World β) (ledger : Ledger World) :
    (m >>= f).run.run ledger =
      match m.run.run ledger with
      | (.ok a, ledger') => (f a).run.run ledger'
      | (.error e, ledger') => (.error e, ledger') := by
  rw [ExceptT.run_bind, StateT.run_bind]
  cases m.run.run ledger with
  | mk result ledger' => cases result <;> rfl

theorem run_map (g : α → β) (m : Expansion World α) (ledger : Ledger World) :
    (g <$> m).run.run ledger = ((m.run.run ledger).1.map g, (m.run.run ledger).2) := by
  rw [← bind_pure_comp, run_bind]
  cases m.run.run ledger with
  | mk result ledger' => cases result <;> rfl

theorem run_get (ledger : Ledger World) :
    (get : Expansion World (Ledger World)).run.run ledger = (.ok ledger, ledger) := rfl

theorem run_set (ledger ledger' : Ledger World) :
    (set ledger' : Expansion World PUnit).run.run ledger = (.ok .unit, ledger') := rfl

theorem run_pattern (source : Text) (ledger : Ledger World) :
    (pattern source).run.run ledger =
      ((ledger.cache.read source 0).1.mapError (.badPattern source),
        { ledger with cache := (ledger.cache.read source 0).2 }) := by
  simp only [pattern, run_bind, run_get]
  cases h : ledger.cache.read source 0 with
  | mk result cache =>
    simp only [run_set]
    cases result <;> rfl

/-! ## Filling in -/

/-- The text of pieces, each name replaced that has a value. The last reference is asked for first. -/
def rewrite (setting : Setting World) : List (Piece Text) → Expansion World Text
  | [] => return []
  | .char c :: pieces => do
    let rest ← rewrite setting pieces
    return c :: rest
  | .item name :: pieces => do
    let rest ← rewrite setting pieces
    let value ← setting.ask name
    return value.getD (setting.sigil ++ name) ++ rest

theorem fill_append (setting : Setting World) (source t : Text) (later earlier : List Match) :
    fill setting source t (later ++ earlier) =
      fill setting source t later >>= fun t' => fill setting source t' earlier := by
  induction later generalizing t with
  | nil => simp [fill]
  | cons m later ih =>
    simp only [List.cons_append, fill]
    split
    · exact ih t
    · rw [bind_assoc]
      congr 1
      funext value
      cases value <;> exact ih _

theorem text?_matchesFrom {lead sigil name rest : Text} :
    Match.text? ⟨⟨lead.length, lead.length + sigil.length + name.length⟩,
        [some ⟨lead.length, lead.length + sigil.length + name.length⟩,
          some ⟨lead.length + sigil.length, lead.length + sigil.length + name.length⟩]⟩
      (lead ++ (sigil ++ (name ++ rest))) 2 = some name := by
  have hname : lead.length + sigil.length + name.length - (lead.length + sigil.length) = name.length := by omega
  have hdrop : (lead ++ (sigil ++ (name ++ rest))).drop (lead.length + sigil.length) = name ++ rest := by
    rw [← List.append_assoc, ← List.length_append, List.drop_left]
  simp only [Match.text?, Match.span?, List.getElem?_cons_succ, List.getElem?_cons_zero, Option.join_some,
    Option.map_some, hname, hdrop, List.take_left]

/-- Matches after a text that holds none are filled in behind it. -/
theorem fill_matchesFrom (setting : Setting World) (lead : Text) (pieces : List (Piece Text)) :
    fill setting (lead ++ written setting.sigil pieces) (lead ++ written setting.sigil pieces)
        (matchesFrom setting.sigil lead.length pieces).reverse =
      (lead ++ ·) <$> rewrite setting pieces := by
  -- On the pieces from the left, with what is behind filled in already: the last match comes first.
  induction pieces generalizing lead with
  | nil => simp [matchesFrom, fill, rewrite, written]
  | cons piece pieces ih =>
    cases piece with
    | char c =>
      have h := ih (lead ++ [c])
      simp only [List.append_assoc, List.length_append, List.length_singleton] at h
      have hwritten : written setting.sigil (.char c :: pieces) = [c] ++ written setting.sigil pieces := rfl
      rw [hwritten, matchesFrom, h, rewrite, map_bind, ← bind_pure_comp]
      simp
    | item name =>
      have h := ih (lead ++ (setting.sigil ++ name))
      have hwritten : written setting.sigil (.item name :: pieces) =
          setting.sigil ++ (name ++ written setting.sigil pieces) := List.append_assoc _ _ _
      simp only [List.append_assoc, List.length_append, ← Nat.add_assoc] at h
      rw [hwritten, matchesFrom, List.reverse_cons, fill_append, h, rewrite, map_bind, bind_map_left]
      congr 1
      funext rest
      simp only [fill, text?_matchesFrom, map_bind]
      congr 1
      funext value
      cases value with
      | none => simp
      | some value =>
        have htake : (lead ++ (setting.sigil ++ (name ++ rest))).take lead.length = lead := List.take_left
        have hdrop : (lead ++ (setting.sigil ++ (name ++ rest))).drop
            (lead.length + setting.sigil.length + name.length) = rest := by
          rw [← List.append_assoc, ← List.append_assoc, ← List.length_append, ← List.length_append,
            List.drop_left]
        simp [htake, hdrop]

/-! ## A pass -/

theorem run_pass (setting : Setting World) (k : NameClass) (t : Text) (h : ledger.cache.Faithful) :
    (pass setting t k.source).run.run ledger =
      (rewrite setting (references setting.sigil k t)).run.run
        { ledger with cache := (ledger.cache.read (referencePattern setting.sigil k.source) 0).2 } := by
  have hread := Cache.read_of_faithful h (referencePattern setting.sigil k.source) 0
  rw [read_referencePattern] at hread
  have hfill := fill_matchesFrom setting [] (references setting.sigil k t)
  simp only [List.nil_append, List.length_nil, written_references, id_map'] at hfill
  have hpattern (result : Except Refusal Regex) (re : Regex) (h : result = .ok re) (source : Text) :
      result.mapError (ExpandError.badPattern source) = .ok re := h ▸ rfl
  rw [pass, run_bind, run_pattern, hpattern _ _ hread]
  simp only [all_referenceRegex, hfill]

/-- The cascade of a setting is three passes over a text that holds its sigil. -/
theorem simplify_passes (setting : Setting World) (t : Text) :
    simplify setting t =
      if setting.sigil.occursIn t then do
        let t₁ ← pass setting t NameClass.dotted.source
        let t₂ ← pass setting t₁ NameClass.hyphened.source
        pass setting t₂ NameClass.alphanumeric.source
      else pure t := by
  rw [simplify, nameClasses_eq]
  simp

end MudClient.Reference

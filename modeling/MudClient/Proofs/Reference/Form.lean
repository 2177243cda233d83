import MudClient.Proofs.Reference.Pass
import MudClient.Reference.Expand

/-!
# Indexed forms, one at a time

* `expandPart`, `expandSegment`: a name or an index expanded, and a form with both expanded
* `goOver`: one of the rounds in which a text is gone over
* `expandIndexed_eq`: the forms of a text are expanded from left to right, the text between them stays
* `forms`: a text as its forms and the characters between them
* `segmentsFrom_skip`, `segmentsFrom_form`: one step along a text
* `segmentsFrom_noBracket`: no form begins without a bracket
* `closing_opening`, `closing_outer`, `closing_inner`, `closing_other`: one step towards the bracket that closes
-/

set_option autoImplicit false

namespace MudClient.Reference

variable {World : Type} {ctx : Context World} {t : Text}

/-- The name or the index of a form expanded: the forms in it first, then the cascade. -/
def expandPart (ctx : Context World) (t : Text) : Expansion World Text := do
  settle ctx roundLimit (← expandIndexed ctx t)

/-- Goes over a text once: indexed forms first, then the cascade of each setting. -/
def goOver (ctx : Context World) (t : Text) : Expansion World Text := do
  simplifyAll ctx (← expandIndexed ctx t)

theorem rounds_succ (ctx : Context World) (n : Nat) (t : Text) :
    rounds ctx (n + 1) t =
      goOver ctx t >>= fun t' => if t' = t || !ctx.mayRefer t' then pure t' else rounds ctx n t' := by
  rw [rounds, goOver, bind_assoc]

theorem run_liftExcept (result : Except ExpandError Text) (ledger : Ledger World) :
    StateT.run (ExceptT.run (expandIndexed.liftExcept result : Expansion World Text)) ledger =
      (result, ledger) := rfl

def expandSegment (ctx : Context World) : Segment → Expansion World Text
  | .plain content => return content
  | .indexed name bracket index => do
    let name' ← expandPart ctx name
    let index' ← expandPart ctx index
    expandIndexed.liftExcept (indexedForm name name' bracket index')

theorem opening_mem_of_indexed {sigils : List Text} {segment : Segment} (hs : segment ∈ segments sigils t)
    (hi : segment.isIndexed) : '[' ∈ t ∨ '(' ∈ t := by
  have hmem {c : Char} (hc : c ∈ segment.source) : c ∈ t := by
    rw [← segments_source sigils t]
    exact List.mem_flatMap.2 ⟨segment, hs, hc⟩
  cases segment with
  | plain content => cases hi
  | indexed name bracket index =>
    cases bracket
    · exact .inl (hmem (by simp [Segment.source, Bracket.opening]))
    · exact .inr (hmem (by simp [Segment.source, Bracket.opening]))

/-- A text without forms is what its segments are. -/
theorem mapM_of_plain {f : Segment → Expansion World Text} (hf : ∀ content, f (.plain content) = pure content)
    {sigils : List Text} (h : (segments sigils t).any Segment.isIndexed = false) :
    List.flatten <$> (segments sigils t).mapM f = pure t := by
  have hmapM (l : List Segment) (h : l.any Segment.isIndexed = false) : l.mapM f = pure (l.map Segment.source) := by
    induction l with
    | nil => simp
    | cons segment l ih =>
      simp only [List.any_cons, Bool.or_eq_false_iff] at h
      cases segment with
      | plain content => simp [ih h.2, hf, Segment.source]
      | indexed name bracket index => cases h.1
  rw [hmapM _ h, map_pure, ← List.flatMap_def, segments_source]

/-- The forms of a text are expanded from left to right, and the text between them stays. -/
theorem expandIndexed_eq (ctx : Context World) (t : Text) :
    expandIndexed ctx t = List.flatten <$> (segments ctx.sigils t).mapM (expandSegment ctx) := by
  have hplain (h : (segments ctx.sigils t).any Segment.isIndexed = false) :
      (pure t : Expansion World Text) = List.flatten <$> (segments ctx.sigils t).mapM (expandSegment ctx) :=
    (mapM_of_plain (fun _ => rfl) h).symm
  rw [expandIndexed]
  split
  · next hb =>
    refine hplain (Bool.eq_false_iff.2 fun h => ?_)
    obtain ⟨segment, hs, hi⟩ := List.any_eq_true.1 h
    have := opening_mem_of_indexed hs hi
    simp_all
  · split
    · next h => exact hplain (by simpa using h)
    · rw [bind_pure_comp, List.mapM_subtype (g := expandSegment ctx), List.unattach_attach]
      intro segment hs
      cases segment with
      | plain content => rfl
      | indexed name bracket index => simp [expandSegment, expandPart]

theorem expandIndexed_of_noBracket (h : '[' ∉ t ∧ '(' ∉ t) : expandIndexed ctx t = pure t := by
  rw [expandIndexed, if_pos (by simp [h])]

theorem expandIndexed_of_segments {backwards : Text} (h : segments ctx.sigils t = plainRun backwards) :
    expandIndexed ctx t = pure t := by
  have hplain : (segments ctx.sigils t).any Segment.isIndexed = false := by
    rw [h, plainRun]
    split <;> rfl
  rw [expandIndexed, hplain, if_pos (show (!false) = true from rfl), ite_self]

/-! ## Forms as pieces -/

/-- A segment as pieces: a form is one piece. -/
def Segment.pieces : Segment → List (Piece Segment)
  | .plain content => Piece.chars content
  | .indexed name bracket index => [.item (.indexed name bracket index)]

/-- A text as its forms and the characters between them. -/
def forms (sigils : List Text) (t : Text) : List (Piece Segment) :=
  (segments sigils t).flatMap Segment.pieces

/-- The text of pieces with every form expanded, the first one first. -/
def expandPieces (ctx : Context World) : List (Piece Segment) → Expansion World Text
  | [] => return []
  | .char c :: pieces => do
    let rest ← expandPieces ctx pieces
    return c :: rest
  | .item segment :: pieces => do
    let expanded ← expandSegment ctx segment
    let rest ← expandPieces ctx pieces
    return expanded ++ rest

theorem expandPieces_chars (ctx : Context World) (t : Text) (pieces : List (Piece Segment)) :
    expandPieces ctx (Piece.chars t ++ pieces) = (t ++ ·) <$> expandPieces ctx pieces := by
  induction t with
  | nil => simp
  | cons c t ih => simp [expandPieces, ih]

theorem expandIndexed_forms (ctx : Context World) (t : Text) :
    expandIndexed ctx t = expandPieces ctx (forms ctx.sigils t) := by
  rw [expandIndexed_eq, forms]
  induction segments ctx.sigils t with
  | nil => simp [expandPieces]
  | cons segment l ih =>
    rw [List.mapM_cons, List.flatMap_cons]
    cases segment with
    | plain content =>
      rw [Segment.pieces, expandPieces_chars, ← ih]
      simp [expandSegment]
    | indexed name bracket index =>
      rw [Segment.pieces, List.singleton_append, expandPieces, ← ih]
      simp

/-! ## Along a text -/

variable {sigils : List Text} {c : Char} {bracket : Bracket} {earlier plain rest index after : Text} {n : Nat}

theorem segmentsFrom_skip
    (h : ∀ bracket, bracket? c = some bracket → formAt sigils earlier plain bracket rest = none) :
    segmentsFrom sigils earlier plain (c :: rest) = segmentsFrom sigils earlier (c :: plain) rest := by
  rw [segmentsFrom]
  split
  · rfl
  · next bracket hb =>
    split
    · rfl
    · next hf => rw [h bracket hb] at hf; cases hf

theorem segmentsFrom_form (hb : bracket? c = some bracket)
    (hf : formAt sigils earlier plain bracket rest = some (n, index, after)) :
    segmentsFrom sigils earlier plain (c :: rest) =
      plainRun (plain.drop n) ++ .indexed (plain.take n).reverse bracket index ::
        segmentsFrom sigils (bracket.closing :: index.reverse ++ c :: plain ++ earlier) [] after := by
  rw [segmentsFrom]
  split
  · next hn => rw [hn] at hb; cases hb
  · next bracket' hb' =>
    obtain rfl : bracket' = bracket := Option.some.inj (hb'.symm.trans hb)
    split
    · next hn => rw [hn] at hf; cases hf
    · next hf' =>
      obtain ⟨rfl, rfl, rfl⟩ : _ ∧ _ ∧ _ := by simpa using hf'.symm.trans hf
      rfl

/-- Text without an opening bracket is passed over. -/
theorem segmentsFrom_noBracket {s : Text} (hs : '[' ∉ s ∧ '(' ∉ s) :
    segmentsFrom sigils earlier plain (s ++ t) = segmentsFrom sigils earlier (s.reverse ++ plain) t := by
  induction s generalizing plain with
  | nil => rfl
  | cons c s ih =>
    simp only [List.mem_cons, not_or] at hs
    have hc : bracket? c = none := by rw [bracket?, if_neg (Ne.symm hs.1.1), if_neg (Ne.symm hs.2.1)]
    rw [List.cons_append, segmentsFrom_skip (by simp [hc]), ih ⟨hs.1.2, hs.2.2⟩]
    simp

theorem pieces_plainRun (t : Text) : (plainRun t).flatMap Segment.pieces = Piece.chars t.reverse := by
  rw [plainRun]
  split
  · next h => rw [List.isEmpty_iff.1 h]; rfl
  · simp [Segment.pieces]

/-! ## Brackets that close -/

section

variable (bracket : Bracket) (depth : Nat) (c : Char) (t : Text)

theorem closing_opening : closing bracket depth (bracket.opening :: t) =
    (closing bracket (depth + 1) t).map fun p => (bracket.opening :: p.1, p.2) := by
  simp [closing]

theorem closing_outer : closing bracket 0 (bracket.closing :: t) = some ([], t) := by
  have hne : bracket.closing ≠ bracket.opening := by cases bracket <;> decide
  simp [closing, hne]

theorem closing_inner : closing bracket (depth + 1) (bracket.closing :: t) =
    (closing bracket depth t).map fun p => (bracket.closing :: p.1, p.2) := by
  have hne : bracket.closing ≠ bracket.opening := by cases bracket <;> decide
  simp [closing, hne]

theorem closing_other (hopening : c ≠ bracket.opening) (hclosing : c ≠ bracket.closing) :
    closing bracket depth (c :: t) = (closing bracket depth t).map fun p => (c :: p.1, p.2) := by
  simp [closing, hopening, hclosing]

end

end MudClient.Reference

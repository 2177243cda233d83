import MudClient.Pattern.Match

/-!
# Matching characters

* `run_char_nil`, `run_char_cons`: a test on one character
* `run_literals`: a row of tests on single characters takes a text that stands there
* `greedily_char`: a repetition of a test takes the longest run of characters that pass
* `allFrom_skip`, `allFrom_found`: matches are found from left to right
-/

set_option autoImplicit false

namespace MudClient.Pattern

variable {before t rest : Text} {c : Char} {groups : List (Option Span)} {k : Follow} {test : CharTest}

@[simp] theorem Cursor.index_between : (Cursor.between before t).index = before.length := rfl

@[simp] theorem Cursor.left_between : (Cursor.between before t).left = t.length := rfl

@[simp] theorem Cursor.next?_nil : (Cursor.between before []).next? = none := rfl

@[simp] theorem Cursor.next?_cons :
    (Cursor.between before (c :: t)).next? = some (c, .between (c :: before) t) := rfl

theorem run_char_nil : (Node.char test).run ⟨.between before [], groups⟩ k = none := rfl

theorem run_char_cons : (Node.char test).run ⟨.between before (c :: t), groups⟩ k =
    if test.passes c then k ⟨.between (c :: before) t, groups⟩ else none := rfl

/-- The test that one character alone passes. -/
def only (c : Char) : CharTest :=
  ⟨[.code c.toNat], false, .exact, false⟩

theorem passes_only {d : Char} : (only c).passes d = decide (d = c) := by
  rw [Bool.eq_iff_iff]
  simp [only, CharTest.passes, ClassItem.holds, Char.toNat_inj]

/-- A row of tests for the characters of a text, and then a pattern. -/
theorem run_literals {last : Node} (lead : Text) :
    (Node.all (lead.map (fun c => .char (only c)) ++ [last])).run ⟨.between before t, groups⟩ k =
      match Text.after? lead t with
      | some rest => last.run ⟨.between (lead.reverse ++ before) rest, groups⟩ k
      | none => none := by
  induction lead generalizing before t with
  | nil => rfl
  | cons c lead ih =>
    have hrow : Node.all ((c :: lead).map (fun c => .char (only c)) ++ [last]) =
        .seq (.char (only c)) (Node.all (lead.map (fun c => .char (only c)) ++ [last])) := by
      cases lead <;> rfl
    rw [hrow]
    cases t with
    | nil => rfl
    | cons d t =>
      simp only [Node.run, Cursor.next?_cons, passes_only, Text.after?, decide_eq_true_eq]
      by_cases h : c = d
      · rw [if_pos h.symm, if_pos h, ih, h]
        simp
      · rw [if_neg (Ne.symm h), if_neg h]

/-- The longest run of characters that pass is taken, if what follows accepts every place. -/
theorem greedily_char (hk : ∀ s, (k s).isSome) :
    Matcher.greedily (Node.char test).run none ⟨.between before t, groups⟩ k =
      k ⟨.between ((t.takeWhile test.passes).reverse ++ before) (t.dropWhile test.passes), groups⟩ := by
  induction t generalizing before with
  | nil =>
    rw [Matcher.greedily]
    simp [run_char_nil]
  | cons c t ih =>
    rw [Matcher.greedily, run_char_cons]
    by_cases hc : test.passes c
    · have htaken := hk
        ⟨.between ((t.takeWhile test.passes).reverse ++ c :: before) (t.dropWhile test.passes), groups⟩
      obtain ⟨result, hresult⟩ := Option.isSome_iff_exists.1 htaken
      simp [hc, ih, hresult]
    · simp [hc]

theorem repeated_char (hk : ∀ s, (k s).isSome) :
    (Node.repeated .greedy 1 none (.char test)).run ⟨.between before t, groups⟩ k =
      if t.takeWhile test.passes = [] then none
      else
        k ⟨.between ((t.takeWhile test.passes).reverse ++ before) (t.dropWhile test.passes), groups⟩ := by
  cases t with
  | nil => rfl
  | cons c t =>
    have hrun : (Node.repeated .greedy 1 none (.char test)).run ⟨.between before (c :: t), groups⟩ k =
        if test.passes c then
          Matcher.greedily (Node.char test).run none ⟨.between (c :: before) t, groups⟩ k
        else none := rfl
    rw [hrun, greedily_char hk]
    by_cases hc : test.passes c <;> simp [hc]

/-! ## Searching -/

namespace Regex

theorem search_eq (re : Regex) (advance : Bool) (c : Cursor) :
    re.search advance c =
      match re.matchAt advance c with
      | some s => some (c, s)
      | none =>
        match c.next? with
        | none => none
        | some (_, d) => re.search false d := by
  rw [search]
  cases re.matchAt advance c with
  | some s => rfl
  | none =>
    dsimp only
    split <;> next h => simp only [h]

theorem allFrom_eq (re : Regex) (advance : Bool) (c : Cursor) :
    re.allFrom advance c =
      match re.search advance c with
      | none => []
      | some (d, s) => matchOf d s :: re.allFrom (s.cursor.left == d.left) s.cursor := by
  rw [allFrom]
  split <;> next h => simp only [h]

/-- Where nothing matches, the search goes on at the next place. -/
theorem allFrom_skip {re : Regex} {before t : Text} {c : Char}
    (h : re.matchAt false (.between before (c :: t)) = none) :
    re.allFrom false (.between before (c :: t)) = re.allFrom false (.between (c :: before) t) := by
  have hs : re.search false (.between before (c :: t)) = re.search false (.between (c :: before) t) := by
    rw [search_eq, h]
    rfl
  rw [allFrom_eq, hs, ← allFrom_eq]

theorem allFrom_found {re : Regex} {c : Cursor} {s : State} (h : re.matchAt false c = some s)
    (hlt : s.cursor.left ≠ c.left) :
    re.allFrom false c = matchOf c s :: re.allFrom false s.cursor := by
  have hstart : (s.cursor.left == c.left) = false := beq_eq_false_iff_ne.2 hlt
  rw [allFrom_eq, search_eq, h]
  exact congrArg (fun advance => matchOf c s :: re.allFrom advance s.cursor) hstart

end Regex

end MudClient.Pattern

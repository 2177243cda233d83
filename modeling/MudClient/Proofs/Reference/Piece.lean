import MudClient.Proofs.Reference.Pattern

/-!
# Texts in pieces

* `Piece`: a character, or something that a text holds in between
* `nameAt?`: the name behind a sigil that stands at the front of a text
* `references`: a text as its references to one class of names and the characters between them
* `all_referenceRegex`: a pattern for references finds just these, from left to right
-/

set_option autoImplicit false

namespace MudClient.Reference

open Pattern

/-- A character of a text, or what stands in it between characters. -/
inductive Piece (α : Type)
  | char (c : Char)
  | item (a : α)
deriving DecidableEq

namespace Piece

variable {α : Type}

/-- A text without any item. -/
def chars (t : Text) : List (Piece α) := t.map .char

@[simp] theorem chars_nil : (chars [] : List (Piece α)) = [] := rfl

@[simp] theorem chars_cons (c : Char) (t : Text) :
    (chars (c :: t) : List (Piece α)) = .char c :: chars t := rfl

@[simp] theorem chars_append (t u : Text) : (chars (t ++ u) : List (Piece α)) = chars t ++ chars u :=
  List.map_append

end Piece

/-! ## References -/

variable {sigil t u name rest : Text} {k : NameClass} {c : Char}

/-- The name behind a sigil that stands at the front of a text, as long as can be, and what follows it. -/
def nameAt? (sigil : Text) (k : NameClass) (t : Text) : Option (Text × Text) :=
  match Text.after? sigil t with
  | none => none
  | some rest =>
    if rest.takeWhile k.holds = [] then none else some (rest.takeWhile k.holds, rest.dropWhile k.holds)

theorem nameAt?_eq_some :
    nameAt? sigil k t = some (name, rest) ↔ t = sigil ++ (name ++ rest) ∧ name ≠ [] ∧
      (name ++ rest).takeWhile k.holds = name := by
  simp only [nameAt?]
  cases h : Text.after? sigil t with
  | none =>
    simp only [reduceCtorEq, false_iff, not_and]
    rintro rfl
    rw [Text.after?_eq_some.2 rfl] at h
    cases h
  | some u =>
    obtain rfl := Text.after?_eq_some.1 h
    simp only [List.append_cancel_left_eq]
    constructor
    · intro hname
      split at hname
      · cases hname
      · next hne =>
        simp only [Option.some.injEq, Prod.mk.injEq] at hname
        obtain ⟨rfl, rfl⟩ := hname
        have hu : u.takeWhile k.holds ++ u.dropWhile k.holds = u := List.takeWhile_append_dropWhile
        rw [hu]
        exact ⟨rfl, hne, rfl⟩
    · rintro ⟨rfl, hne, hname⟩
      have hrest : (name ++ rest).dropWhile k.holds = rest := by
        have hboth : (name ++ rest).takeWhile k.holds ++ (name ++ rest).dropWhile k.holds = name ++ rest :=
          List.takeWhile_append_dropWhile
        rwa [hname, List.append_cancel_left_eq] at hboth
      rw [hname, hrest, if_neg hne]

theorem length_of_nameAt? (h : nameAt? sigil k t = some (name, rest)) : rest.length < t.length := by
  obtain ⟨rfl, hne, -⟩ := nameAt?_eq_some.1 h
  have := List.length_pos_iff.2 hne
  simp only [List.length_append]
  omega

/-- A text as its references and the characters between them: from the left, each reference as long as
can be. -/
def references (sigil : Text) (k : NameClass) : Text → List (Piece Text)
  | [] => []
  | c :: t =>
    match h : nameAt? sigil k (c :: t) with
    | some (name, rest) =>
      have := length_of_nameAt? h
      .item name :: references sigil k rest
    | none => .char c :: references sigil k t
termination_by t => t.length
decreasing_by
  · exact this
  · exact Nat.lt_succ_self _

theorem references_item (h : nameAt? sigil k (c :: t) = some (name, rest)) :
    references sigil k (c :: t) = .item name :: references sigil k rest := by
  rw [references]
  split <;> simp_all

theorem references_char (h : nameAt? sigil k (c :: t) = none) :
    references sigil k (c :: t) = .char c :: references sigil k t := by
  rw [references]
  split <;> simp_all

/-- The text that pieces were made of. -/
def written (sigil : Text) (pieces : List (Piece Text)) : Text :=
  pieces.flatMap fun
    | .char c => [c]
    | .item name => sigil ++ name

theorem written_references : written sigil (references sigil k t) = t := by
  fun_induction references sigil k t with
  | case1 => rfl
  | case2 c t name rest h hlt ih =>
    have hwritten : written sigil (.item name :: references sigil k rest) =
        sigil ++ name ++ written sigil (references sigil k rest) := rfl
    rw [hwritten, ih, (nameAt?_eq_some.1 h).1, List.append_assoc]
  | case3 c t h ih => exact congrArg (c :: ·) ih

/-! ## Their pattern -/

/-- The matches of a pattern for references in a text, which starts at `i`. -/
def matchesFrom (sigil : Text) (i : Nat) : List (Piece Text) → List Match
  | [] => []
  | .char _ :: pieces => matchesFrom sigil (i + 1) pieces
  | .item name :: pieces =>
    let whole : Span := ⟨i, i + sigil.length + name.length⟩
    ⟨whole, [some whole, some ⟨i + sigil.length, whole.stop⟩]⟩ :: matchesFrom sigil whole.stop pieces

theorem matchAt_referenceRegex (sigil : Text) (k : NameClass) (before t : Text) :
    (referenceRegex sigil k).matchAt false (.between before t) =
      (nameAt? sigil k t).map fun (name, rest) =>
        let i := before.length
        let j := i + sigil.length
        ⟨.between (name.reverse ++ (sigil.reverse ++ before)) rest,
          [some ⟨i, j + name.length⟩, some ⟨j, j + name.length⟩]⟩ := by
  have hopen : (referenceRegex sigil k).matchAt false (.between before t) =
      (Node.all (sigil.map (fun c => .char (only c)) ++
          [.group 2 (.repeated .greedy 1 none (.char k.test))])).run
        ⟨.between before t, [none, none]⟩ fun s => some (s.capture 1 before.length) := rfl
  have htest : k.test.passes = k.holds := funext fun _ => passes_test
  rw [hopen, run_literals, nameAt?]
  cases Text.after? sigil t with
  | none => rfl
  | some rest =>
    refine (repeated_char fun _ => rfl).trans ?_
    rw [htest]
    by_cases hne : rest.takeWhile k.holds = []
    · simp [hne]
    · have hj : (sigil.reverse ++ before).length = before.length + sigil.length := by
        rw [List.length_append, List.length_reverse, Nat.add_comm]
      have hstop : ((rest.takeWhile k.holds).reverse ++ (sigil.reverse ++ before)).length =
          before.length + sigil.length + (rest.takeWhile k.holds).length := by
        rw [List.length_append, List.length_reverse, hj, Nat.add_comm]
      simp only [if_neg hne, Option.map_some, State.capture, Cursor.index_between, hj, hstop]
      rfl

theorem nameAt?_nil : nameAt? sigil k [] = none := by
  cases h : nameAt? sigil k [] with
  | none => rfl
  | some found => exact absurd (length_of_nameAt? h) (Nat.not_lt_zero _)

theorem allFrom_referenceRegex (sigil : Text) (k : NameClass) (before t : Text) :
    (referenceRegex sigil k).allFrom false (.between before t) =
      matchesFrom sigil before.length (references sigil k t) := by
  fun_induction references sigil k t generalizing before with
  | case1 =>
    have hmatch := matchAt_referenceRegex sigil k before []
    rw [nameAt?_nil] at hmatch
    rw [Regex.allFrom_eq, Regex.search_eq, hmatch]
    rfl
  | case2 c t name rest h hlt ih =>
    have hmatch := matchAt_referenceRegex sigil k before (c :: t)
    rw [h] at hmatch
    have hplace : (name.reverse ++ (sigil.reverse ++ before)).length =
        before.length + sigil.length + name.length := by
      simp only [List.length_append, List.length_reverse]
      omega
    rw [Regex.allFrom_found hmatch (Nat.ne_of_lt hlt), ih, hplace]
    simp [matchesFrom, Regex.matchOf, hplace]
  | case3 c t h ih =>
    have hmatch := matchAt_referenceRegex sigil k before (c :: t)
    rw [h] at hmatch
    rw [Regex.allFrom_skip hmatch, ih]
    rfl

/-- A pattern for references finds all of them, from left to right. -/
theorem all_referenceRegex (sigil : Text) (k : NameClass) (t : Text) :
    (referenceRegex sigil k).all t = matchesFrom sigil 0 (references sigil k t) :=
  allFrom_referenceRegex sigil k [] t

end MudClient.Reference

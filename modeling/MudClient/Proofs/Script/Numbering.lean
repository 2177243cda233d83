import Mathlib.Data.List.Basic
import MudClient.Script.Lexer

/-!
# Scripts line by line

* `Text.Divides`: a text as lines with a break after each but perhaps the last
* `Text.divides_iff`: `scriptLines` gives the only such division
* `Text.scriptLines_append`: lines of a text that goes on after a break
* `readLines_eq`: the instructions of lines as a list with numbers that is filtered
* `readScript_append_and_numbers`: scripts are read line by line, and instructions have the numbers of their lines
-/

set_option autoImplicit false

namespace MudClient

/-! ## Division into lines -/

namespace Text

variable {a b t line rest : Text} {c : Char} {lines more : List Text}

/-- What stands between a line and the rest: one character that breaks, or a carriage return with the line feed
after it. A carriage return alone stands before no line feed. -/
inductive Breaks : Text → Text → Prop
  | pair (rest : Text) : Breaks ['\r', '\n'] rest
  | single {c : Char} {rest : Text} (hc : isLineBreak c) (hrest : c = '\r' → rest.head? ≠ some '\n') :
      Breaks [c] rest

/-- The lines of a text. The last one may go without a break, and is not empty then. -/
inductive Divides : Text → List Text → Prop
  | nil : Divides [] []
  | last {line : Text} (hne : line ≠ []) (hline : line.any isLineBreak = false) : Divides line [line]
  | cons {line brk rest : Text} {lines : List Text} (hline : line.any isLineBreak = false) (hbreak : Breaks brk rest)
      (hrest : Divides rest lines) : Divides (line ++ (brk ++ rest)) (line :: lines)

theorem scriptLines_char (h : c = '\r' → t.head? ≠ some '\n') :
    scriptLines (c :: t) = if isLineBreak c then [] :: scriptLines t else consLine c (scriptLines t) := by
  rw [scriptLines.eq_def]
  split
  · next heq => cases heq
  · next u heq =>
    obtain ⟨rfl, rfl⟩ := List.cons.inj heq
    exact absurd rfl (h rfl)
  · next d u hpair heq =>
    obtain ⟨rfl, rfl⟩ := List.cons.inj heq
    rfl

theorem scriptLines_break {brk : Text} (h : Breaks brk rest) : scriptLines (brk ++ rest) = [] :: scriptLines rest := by
  cases h with
  | pair => rfl
  | single hc hrest => exact (scriptLines_char hrest).trans (if_pos hc)

theorem scriptLines_line (h : line.any isLineBreak = false) (rest : Text) :
    scriptLines (line ++ rest) = line.foldr consLine (scriptLines rest) := by
  induction line with
  | nil => rfl
  | cons c line ih =>
    obtain ⟨hc, hline⟩ := Bool.or_eq_false_iff.1 h
    have hne : c = '\r' → (line ++ rest).head? ≠ some '\n' := by
      rintro rfl
      exact absurd hc (by decide)
    rw [List.cons_append, scriptLines_char hne, if_neg (by simp [hc]), ih hline, List.foldr_cons]

theorem foldr_consLine_cons (line front : Text) (lines : List Text) :
    line.foldr consLine (front :: lines) = (line ++ front) :: lines := by
  induction line with
  | nil => rfl
  | cons c line ih => rw [List.foldr_cons, ih, consLine, List.cons_append]

theorem foldr_consLine_nil (hne : line ≠ []) : line.foldr consLine [] = [line] := by
  obtain ⟨front, c, rfl⟩ := (List.eq_nil_or_concat line).resolve_left hne
  rw [List.concat_eq_append, List.foldr_append]
  exact foldr_consLine_cons front [c] []

theorem scriptLines_of_divides (h : Divides t lines) : scriptLines t = lines := by
  induction h with
  | nil => rfl
  | last hne hline =>
    have hlines := scriptLines_line hline []
    have hnil : scriptLines [] = [] := rfl
    rwa [List.append_nil, hnil, foldr_consLine_nil hne] at hlines
  | cons hline hbreak _ ih =>
    rw [scriptLines_line hline, scriptLines_break hbreak, ih, foldr_consLine_cons, List.append_nil]

theorem divides_consLine (hc : isLineBreak c = false) (h : Divides t lines) : Divides (c :: t) (consLine c lines) := by
  have hline {line : Text} (h : line.any isLineBreak = false) : (c :: line).any isLineBreak = false := by
    rw [List.any_cons, hc, h]
    rfl
  cases h with
  | nil => exact .last (List.cons_ne_nil c []) (hline rfl)
  | last hne h => exact .last (List.cons_ne_nil c _) (hline h)
  | cons h hbreak hrest => exact .cons (hline h) hbreak hrest

theorem divides_scriptLines (t : Text) : Divides t (scriptLines t) := by
  induction t using scriptLines.induct with
  | case1 => exact .nil
  | case2 t ih => exact @Divides.cons [] _ _ _ rfl (.pair t) ih
  | case3 c t hpair hc ih =>
    have hhead : c = '\r' → t.head? ≠ some '\n' := by
      rintro rfl hhead
      obtain ⟨u, rfl⟩ := List.head?_eq_some_iff.1 hhead
      exact hpair u rfl rfl
    rw [scriptLines_char hhead, if_pos hc]
    exact @Divides.cons [] _ _ _ rfl (.single hc hhead) ih
  | case4 c t hpair hc ih =>
    have hhead : c = '\r' → t.head? ≠ some '\n' := by
      rintro rfl
      exact absurd rfl hc
    rw [scriptLines_char hhead, if_neg hc]
    exact divides_consLine (Bool.eq_false_iff.2 hc) ih

theorem divides_iff : Divides t lines ↔ lines = scriptLines t :=
  ⟨fun h => (scriptLines_of_divides h).symm, fun h => h ▸ divides_scriptLines t⟩

theorem Breaks.append {brk : Text} (h : Breaks brk rest) (hrest : rest ≠ []) (b : Text) : Breaks brk (rest ++ b) := by
  cases h with
  | pair => exact .pair _
  | single hc hhead =>
    refine .single hc fun e => ?_
    rw [List.head?_append_of_ne_nil rest hrest]
    exact hhead e

theorem Breaks.before {brk : Text} (h : Breaks brk rest) (hb : brk.getLast? = some '\r' → b.head? ≠ some '\n') :
    Breaks brk b := by
  cases h with
  | pair => exact .pair b
  | single hc _ => exact .single hc fun e => hb (by rw [e]; rfl)

/-- A division goes on behind a break, unless that break is the first half of one. -/
theorem Divides.append (ha : Divides a lines) (hb : Divides b more) (hbreak : a.getLast?.any isLineBreak)
    (hpair : a.getLast? = some '\r' → b.head? ≠ some '\n') : Divides (a ++ b) (lines ++ more) := by
  induction ha with
  | nil => cases hbreak
  | @last line hne hline =>
    rw [List.getLast?_eq_some_getLast hne, Option.any_some] at hbreak
    rw [List.any_eq_false] at hline
    exact absurd hbreak (hline _ (List.getLast_mem hne))
  | @cons line brk rest lines hline hbrk hrest ih =>
    rw [List.append_assoc, List.append_assoc, List.cons_append]
    by_cases hnil : rest = []
    · subst hnil
      obtain rfl : lines = [] := divides_iff.1 hrest
      have hne : brk ≠ [] := by
        cases hbrk <;> exact List.cons_ne_nil _ _
      rw [List.append_nil, List.getLast?_append_of_ne_nil line hne] at hpair
      exact .cons hline (hbrk.before hpair) hb
    · have hlast : (line ++ (brk ++ rest)).getLast? = rest.getLast? := by
        rw [List.getLast?_append_of_ne_nil _ (by simp [hnil]), List.getLast?_append_of_ne_nil _ hnil]
      rw [hlast] at hbreak hpair
      exact .cons hline (hbrk.append hnil b) (ih hbreak hpair)

theorem scriptLines_append (hbreak : a.getLast?.any isLineBreak)
    (hpair : a.getLast? = some '\r' → b.head? ≠ some '\n') :
    scriptLines (a ++ b) = scriptLines a ++ scriptLines b :=
  (divides_iff.1 ((divides_scriptLines a).append (divides_scriptLines b) hbreak hpair)).symm

end Text

/-! ## Numbers of lines -/

namespace Script

/-- The instructions of lines are those that the lines have, each with the number of its line. -/
theorem readLines_eq (number : Nat) (lines : List Text) :
    readLines number lines =
      (lines.zipIdx number).filterMap fun p => (readLine p.1).map fun instruction => (p.2, instruction) := by
  induction lines generalizing number with
  | nil => rfl
  | cons line lines ih =>
    rw [readLines, List.zipIdx_cons, List.filterMap_cons, ih]
    cases readLine line <;> rfl

theorem readLines_append (number : Nat) (lines more : List Text) :
    readLines number (lines ++ more) = readLines number lines ++ readLines (number + lines.length) more := by
  rw [readLines_eq, readLines_eq, readLines_eq, List.zipIdx_append, List.filterMap_append]

theorem readLines_add (number shift : Nat) (lines : List Text) :
    readLines (number + shift) lines = (readLines number lines).map fun p => (p.1 + shift, p.2) := by
  have hnumbers : lines.zipIdx (number + shift) = (lines.zipIdx number).map (Prod.map id (· + shift)) := by
    rw [List.map_snd_add_zipIdx_eq_zipIdx, Nat.add_comm]
  rw [readLines_eq, readLines_eq, hnumbers, List.filterMap_map, List.map_filterMap]
  refine List.filterMap_congr fun p _ => ?_
  rw [Option.map_map]
  rfl

theorem mem_readLines (number : Nat) (lines : List Text) (n : Nat) (instruction : Instruction) :
    (n, instruction) ∈ readLines number lines ↔
      number ≤ n ∧ ∃ line, lines[n - number]? = some line ∧ readLine line = some instruction := by
  rw [readLines_eq, List.mem_filterMap]
  constructor
  · rintro ⟨⟨line, m⟩, hmem, hmap⟩
    obtain ⟨instruction', hread, he⟩ := Option.map_eq_some_iff.1 hmap
    obtain ⟨rfl, rfl⟩ := Prod.mk.inj he
    obtain ⟨hle, hline⟩ := List.mk_mem_zipIdx_iff_le_and_getElem?_sub.1 hmem
    exact ⟨hle, line, hline, hread⟩
  · rintro ⟨hle, line, hline, hread⟩
    refine ⟨(line, n), List.mk_mem_zipIdx_iff_le_and_getElem?_sub.2 ⟨hle, hline⟩, ?_⟩
    rw [hread, Option.map_some]

theorem ascending_readLines (number : Nat) (lines : List Text) :
    ((readLines number lines).map Prod.fst).Pairwise (· < ·) := by
  have hnumbers : (lines.zipIdx number).Pairwise fun p q => p.2 < q.2 := by
    rw [← List.pairwise_map (f := Prod.snd) (R := (· < ·)), List.zipIdx_map_snd]
    exact List.pairwise_lt_range' 1
  rw [List.pairwise_map, readLines_eq]
  refine hnumbers.filterMap _ fun p q hlt r hr r' hr' => ?_
  obtain ⟨_, -, rfl⟩ := Option.map_eq_some_iff.1 hr
  obtain ⟨_, -, rfl⟩ := Option.map_eq_some_iff.1 hr'
  exact hlt

/-- A script that goes on after a break is read as two scripts, the second with its numbers counted on. The numbers of
instructions ascend from 1 at least, and the number `n` comes with what the `n`th line of the script says, if it says
anything. -/
theorem readScript_append_and_numbers :
    (∀ a b : Text, a.getLast?.any Text.isLineBreak → ¬(a.getLast? = some '\r' ∧ b.head? = some '\n') →
      readScript (a ++ b) = readScript a ++ (readScript b).map fun p => (p.1 + (Text.scriptLines a).length, p.2)) ∧
    ∀ source : Text,
      (∀ lines, Text.Divides source lines ↔ lines = Text.scriptLines source) ∧
      ((readScript source).map Prod.fst).Pairwise (· < ·) ∧
      (∀ p ∈ readScript source, 1 ≤ p.1) ∧
      ∀ n instruction, (n, instruction) ∈ readScript source ↔
        1 ≤ n ∧ ∃ line, (Text.scriptLines source)[n - 1]? = some line ∧ readLine line = some instruction := by
  constructor
  · intro a b hbreak hpair
    have hlines := Text.scriptLines_append hbreak fun ha hb => hpair ⟨ha, hb⟩
    rw [readScript, hlines, readLines_append, readLines_add]
    rfl
  · intro source
    have hmem := mem_readLines 1 (Text.scriptLines source)
    exact ⟨fun lines => Text.divides_iff, ascending_readLines 1 _, fun p hp => ((hmem p.1 p.2).1 hp).1, hmem⟩

/-- A first part whose lines end in four ways, and a second part that starts with a line feed. -/
theorem readScript_append_and_numbers_breaks :
    let a : Text := "exit\r\n\n#\x85put x\r\x0b".toList
    let b : Text := "\nexit\u2028".toList
    a.getLast?.any Text.isLineBreak ∧ ¬(a.getLast? = some '\r' ∧ b.head? = some '\n') ∧
      readScript (a ++ b) =
        [(1, .exit), (3, .comment []), (4, .single .put ['x'])] ++ [(2, .exit)].map fun p => (p.1 + 5, p.2) := by
  intro a b
  have hbreak : a.getLast?.any Text.isLineBreak := by decide
  have hpair : ¬(a.getLast? = some '\r' ∧ b.head? = some '\n') := by decide
  have ha : readScript a = [(1, .exit), (3, .comment []), (4, .single .put ['x'])] := by decide +kernel
  have hb : readScript b = [(2, .exit)] := by decide +kernel
  have hlines : (Text.scriptLines a).length = 5 := by decide
  refine ⟨hbreak, hpair, ?_⟩
  rw [readScript_append_and_numbers.1 a b hbreak hpair, ha, hb, hlines]

end Script

end MudClient

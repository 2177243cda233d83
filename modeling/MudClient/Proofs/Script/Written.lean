import Mathlib.Data.List.DropRight
import MudClient.Script.Lexer

/-!
# Written instructions

* `Started`, `Ended`, `Solid`: texts that keep their blanks and line ends when they are read
* `Instruction.Canonical`: the instructions that a line can have
* `Instruction.written`: a line for an instruction
* `readWords_announced`: a keyword with what follows it
* `canonical_of_readWords`, `readWords_written`: what is read is canonical, and what is canonical is read back
* `canonical_iff_readLine`: the canonical instructions are those of lines, and each has its written form
-/

set_option autoImplicit false

namespace MudClient.Script

/-! ## Blanks and line ends -/

def isLineEnd (c : Char) : Bool :=
  c = '\n' || c = '\r'

/-- Neither a space nor a tab stands in front. -/
def Started (t : Text) : Prop :=
  ∀ c ∈ t.head?, isSpace c = false

/-- Neither a line feed nor a carriage return stands at the end. -/
def Ended (t : Text) : Prop :=
  ∀ c ∈ t.getLast?, isLineEnd c = false

/-- Free of spaces and tabs. -/
def Solid (t : Text) : Prop :=
  ∀ c ∈ t, isSpace c = false

instance (t : Text) : Decidable (Started t) :=
  Option.decidableForallMem t.head?

instance (t : Text) : Decidable (Ended t) :=
  Option.decidableForallMem t.getLast?

instance (t : Text) : Decidable (Solid t) :=
  List.decidableBAll (fun c => isSpace c = false) t

variable {t u w rest : Text} {c : Char}

theorem Ended.of_suffix (h : Ended t) (hu : u <:+ t) : Ended u := by
  obtain ⟨front, rfl⟩ := hu
  intro c hc
  refine h c ?_
  rw [List.getLast?_append, Option.mem_def.1 hc]
  rfl

theorem ended_cons (hc : isLineEnd c = false) (h : Ended t) : Ended (c :: t) := by
  intro d hd
  rw [List.getLast?_cons] at hd
  cases hlast : t.getLast? with
  | none =>
    rw [hlast] at hd
    exact Option.some.inj hd ▸ hc
  | some e =>
    rw [hlast] at hd
    exact Option.some.inj hd ▸ h e hlast

theorem ended_append (h : Ended u) (hu : u ≠ []) (t : Text) : Ended (t ++ u) := by
  intro c hc
  rw [List.getLast?_append_of_ne_nil t hu] at hc
  exact h c hc

theorem ended_dropLineEnd (line : Text) : Ended (dropLineEnd line) := by
  intro c hc
  obtain ⟨hne, rfl⟩ := List.mem_getLast?_eq_getLast hc
  have hlast := List.rdropWhile_last_not isLineEnd line hne
  exact Bool.eq_false_iff.2 hlast

theorem dropLineEnd_of_ended (h : Ended t) : dropLineEnd t = t := by
  refine (List.rdropWhile_eq_self_iff (p := isLineEnd)).2 fun hne => ?_
  rw [h _ (List.getLast_mem_getLast? hne)]
  exact Bool.false_ne_true

theorem started_dropSpaces (t : Text) : Started (dropSpaces t) := by
  intro c hc
  have hhead := List.head?_dropWhile_not isSpace t
  rwa [← dropSpaces, Option.mem_def.1 hc] at hhead

theorem dropSpaces_of_started (h : Started t) : dropSpaces t = t := by
  cases t with
  | nil => rfl
  | cons c t => exact List.dropWhile_cons_of_neg (by simp [h c rfl])

theorem dropSpaces_space (t : Text) : dropSpaces (' ' :: t) = dropSpaces t :=
  List.dropWhile_cons_of_pos rfl

theorem dropSpaces_suffix (t : Text) : dropSpaces t <:+ t :=
  List.dropWhile_suffix isSpace

theorem afterWord_suffix (t : Text) : afterWord t <:+ t :=
  List.dropWhile_suffix (!isSpace ·)

/-! ## Words -/

theorem solid_word (t : Text) : Solid (word t) := by
  intro c hc
  simpa using List.mem_takeWhile_imp hc

theorem word_append (h : Solid w) (hc : isSpace c) : word (w ++ c :: rest) = w := by
  rw [word, List.takeWhile_append_of_pos (by simpa [Solid] using h), List.takeWhile_cons_of_neg (by simp [hc]),
    List.append_nil]

theorem afterWord_append (h : Solid w) (hc : isSpace c) : afterWord (w ++ c :: rest) = c :: rest := by
  rw [afterWord, List.dropWhile_append_of_pos (by simpa [Solid] using h), List.dropWhile_cons_of_neg (by simp [hc])]

theorem word_of_solid (h : Solid w) : word w = w :=
  List.takeWhile_eq_self_iff.2 (by simpa [Solid] using h)

theorem word_eq_nil (h : Started t) : word t = [] ↔ t = [] := by
  cases t with
  | nil => simp [word]
  | cons c t => simp [word, h c rfl]

/-! ## Canonical instructions -/

namespace Instruction

/-- What a line can say: the blanks before a payload and the ends of the line belong to none. -/
def Canonical : Instruction → Prop
  | comment content => Ended content
  | label name => Solid name ∧ name.head? ≠ some '#'
  | single _ payload => Started payload ∧ Ended payload
  | pair _ first second => Solid first ∧ (first = [] → second = []) ∧ Started second ∧ Ended second
  | exit => True

instance : DecidablePred Canonical
  | comment content => inferInstanceAs (Decidable (Ended content))
  | label name => inferInstanceAs (Decidable (Solid name ∧ name.head? ≠ some '#'))
  | single _ payload => inferInstanceAs (Decidable (Started payload ∧ Ended payload))
  | pair _ first second =>
    inferInstanceAs (Decidable (Solid first ∧ (first = [] → second = []) ∧ Started second ∧ Ended second))
  | exit => inferInstanceAs (Decidable True)

end Instruction

def Command.word (command : Command) : Text :=
  command.name.toList

/-- The shorter word of the two for a variable. -/
def PairCommand.word : PairCommand → Text
  | .variable => "var".toList
  | command => command.name.toList

namespace Instruction

/-- A line for an instruction. -/
def written : Instruction → Text
  | comment content => '#' :: content
  | label name => name ++ [':']
  | single command payload => command.word ++ ' ' :: payload
  | pair command first second => command.word ++ ' ' :: (first ++ ' ' :: second)
  | exit => "exit".toList

end Instruction

/-! ## Reading a line -/

theorem readWords_cons (hspace : isSpace c = false) (hc : c ≠ '#') (rest : Text) :
    readWords (c :: rest) =
      if (word (c :: rest)).getLast? = some ':' then some (.label (word (c :: rest)).dropLast)
      else (keywords.lookup (word (c :: rest)).lower).map fun keyword =>
        keyword.instruction (afterWord (c :: rest)) := by
  have hstarted : Started (c :: rest) := fun d hd => Option.some.inj hd ▸ hspace
  rw [readWords, dropSpaces_of_started hstarted]
  split
  · contradiction
  · next h => exact absurd (List.cons.inj h).1 hc
  · next h =>
    obtain ⟨rfl, rfl⟩ := List.cons.inj h
    rfl

/-- A word that announces a command is one word, which is read neither as a comment nor as a label. -/
structure Announces (w : Text) (keyword : Keyword) : Prop where
  lookup_eq : keywords.lookup w.lower = some keyword
  solid : Solid w
  head?_ne : w.head? ≠ some '#'
  getLast?_ne : w.getLast? ≠ some ':'

theorem announces_command (command : Command) : Announces command.word (.single command) := by
  cases command <;> exact ⟨by decide, by decide, by decide, by decide⟩

theorem announces_pairCommand (command : PairCommand) : Announces command.word (.pair command) := by
  cases command <;> exact ⟨by decide, by decide, by decide, by decide⟩

theorem readWords_announced {keyword : Keyword} (h : Announces w keyword) (rest : Text) :
    readWords (w ++ ' ' :: rest) = some (keyword.instruction (' ' :: rest)) := by
  obtain ⟨hlookup, hsolid, hhead, hlast⟩ := h
  cases w with
  | nil => cases hlookup
  | cons c w =>
    have hc : c ≠ '#' := fun e => hhead (congrArg some e)
    have hword : word (c :: (w ++ ' ' :: rest)) = c :: w := word_append hsolid rfl
    have hafter : afterWord (c :: (w ++ ' ' :: rest)) = ' ' :: rest := afterWord_append hsolid rfl
    rw [List.cons_append, readWords_cons (hsolid c List.mem_cons_self) hc, hword, hafter, if_neg hlast, hlookup]
    rfl

theorem canonical_instruction (h : Ended rest) (keyword : Keyword) : (keyword.instruction rest).Canonical := by
  have hpayload : Ended (dropSpaces rest) := h.of_suffix (dropSpaces_suffix rest)
  cases keyword with
  | single command => exact ⟨started_dropSpaces rest, hpayload⟩
  | pair command =>
    refine ⟨solid_word _, fun hfirst => ?_, started_dropSpaces _, hpayload.of_suffix ?_⟩
    · rw [(word_eq_nil (started_dropSpaces rest)).1 hfirst]
      rfl
    · exact (dropSpaces_suffix _).trans (afterWord_suffix _)
  | exit => trivial

theorem canonical_of_readWords {instruction : Instruction} (h : Ended t) (hread : readWords t = some instruction) :
    instruction.Canonical := by
  have hended := h.of_suffix (dropSpaces_suffix t)
  rw [readWords] at hread
  split at hread
  · cases hread
  · next content hline =>
    obtain rfl := Option.some.inj hread
    rw [hline] at hended
    exact hended.of_suffix (List.suffix_cons '#' content)
  · next c rest hc hline =>
    rw [hline] at hended
    simp only at hread
    split at hread
    · obtain rfl := Option.some.inj hread
      refine ⟨fun d hd => solid_word _ d (List.dropLast_subset _ hd), fun hhead => ?_⟩
      -- the label starts with the first character of the line, which is no number sign
      rw [List.head?_dropLast] at hhead
      split at hhead
      · rw [word, List.head?_takeWhile, Option.filter_eq_some_iff] at hhead
        exact hc (Option.some.inj hhead.1)
      · cases hhead
    · obtain ⟨keyword, -, rfl⟩ := Option.map_eq_some_iff.1 hread
      exact canonical_instruction (hended.of_suffix (afterWord_suffix _)) keyword

theorem readWords_label {name : Text} (h : (Instruction.label name).Canonical) :
    readWords (name ++ [':']) = some (.label name) := by
  obtain ⟨hsolid, hhead⟩ := h
  have hword : word (name ++ [':']) = name ++ [':'] := by
    refine word_of_solid fun c hc => ?_
    rcases List.mem_append.1 hc with hc | hc
    · exact hsolid c hc
    · rw [List.mem_singleton.1 hc]
      rfl
  have hlast : (name ++ [':']).getLast? = some ':' := List.getLast?_concat
  have hlabel : (name ++ [':']).dropLast = name := List.dropLast_concat
  cases name with
  | nil => rfl
  | cons c name =>
    have hc : c ≠ '#' := fun e => hhead (congrArg some e)
    rw [List.cons_append] at hword hlast hlabel ⊢
    rw [readWords_cons (hsolid c List.mem_cons_self) hc, hword, if_pos hlast, hlabel]

theorem instruction_single {payload : Text} (command : Command) (h : Started payload) :
    (Keyword.single command).instruction (' ' :: payload) = .single command payload := by
  rw [Keyword.instruction, dropSpaces_space, dropSpaces_of_started h]

theorem instruction_pair {first second : Text} (command : PairCommand) (hfirst : Solid first)
    (hempty : first = [] → second = []) (hsecond : Started second) :
    (Keyword.pair command).instruction (' ' :: (first ++ ' ' :: second)) = .pair command first second := by
  cases first with
  | nil =>
    rw [hempty rfl]
    rfl
  | cons c first =>
    have hstarted : Started (c :: first ++ ' ' :: second) := fun d hd =>
      Option.some.inj hd ▸ hfirst c List.mem_cons_self
    rw [Keyword.instruction, dropSpaces_space, dropSpaces_of_started hstarted, word_append hfirst rfl,
      afterWord_append hfirst rfl, dropSpaces_space, dropSpaces_of_started hsecond]

theorem readWords_written {instruction : Instruction} (h : instruction.Canonical) :
    readWords instruction.written = some instruction := by
  cases instruction with
  | comment content => rfl
  | label name => exact readWords_label h
  | single command payload =>
    rw [Instruction.written, readWords_announced (announces_command command), instruction_single command h.1]
  | pair command first second =>
    obtain ⟨hfirst, hempty, hsecond, -⟩ := h
    rw [Instruction.written, readWords_announced (announces_pairCommand command),
      instruction_pair command hfirst hempty hsecond]
  | exit => decide

theorem ended_written {instruction : Instruction} (h : instruction.Canonical) : Ended instruction.written := by
  cases instruction with
  | comment content => exact ended_cons (by decide) h
  | label name => exact ended_append (by decide) (List.cons_ne_nil _ _) name
  | single command payload => exact ended_append (ended_cons rfl h.2) (List.cons_ne_nil _ _) _
  | pair command first second =>
    have hsecond : Ended (' ' :: second) := ended_cons rfl h.2.2.2
    rw [Instruction.written, ← List.cons_append, ← List.append_assoc]
    exact ended_append hsecond (List.cons_ne_nil _ _) _
  | exit => decide

/-- An instruction is canonical if and only if some line has it, and then its written form is such a line. -/
theorem canonical_iff_readLine (instruction : Instruction) :
    (instruction.Canonical ↔ ∃ line, readLine line = some instruction) ∧
      (instruction.Canonical ↔ readLine instruction.written = some instruction) := by
  have hread (line : Text) (hline : readLine line = some instruction) : instruction.Canonical :=
    canonical_of_readWords (ended_dropLineEnd line) hline
  have hwritten (h : instruction.Canonical) : readLine instruction.written = some instruction := by
    rw [readLine, dropLineEnd_of_ended (ended_written h), readWords_written h]
  exact ⟨⟨fun h => ⟨_, hwritten h⟩, fun ⟨line, hline⟩ => hread line hline⟩, hwritten, hread _⟩

/-- The first payload of two is the first word, so that it is missing only where the second is. -/
example : ¬(Instruction.pair .match [] "text".toList).Canonical ∧
    readLine "match  text".toList = some (.pair .match "text".toList []) := by decide

end MudClient.Script

import MudClient.Pattern.Reader

/-!
# Reading a pattern step by step

* `Reading.Steps`: one step takes a reading from one source to another
* `ReadsSet`: the members of a set, read from one source to another
* `steps_open`, `steps_close`, `steps_set`, `steps_more`: parentheses, sets and repetitions
* `run_escaped`: an escaped text is read as a pattern for itself
-/

set_option autoImplicit false

namespace MudClient.Pattern

variable {names : CharacterNames} {r r' : Reading} {s s' : Source} {i opening : Nat} {a b c : Char} {t rest : Text}
  {items all : List ClassItem}

/-! ## Tokens -/

theorem pop_plain (hc : c ≠ '\\') (hrest : rest ≠ ['\\']) :
    ∃ h, Source.pop ⟨i, c :: rest⟩ = .ok (some (.plain c, ⟨⟨i + 1, rest⟩, h⟩)) := by
  cases rest with
  | nil => exact ⟨by simp, rfl⟩
  | cons d t =>
    refine ⟨by simp, ?_⟩
    simp only [Source.pop]
    rw [if_neg hc, if_neg hrest]

theorem pop_escaped (hrest : rest ≠ ['\\']) :
    ∃ h, Source.pop ⟨i, '\\' :: c :: rest⟩ = .ok (some (.escaped c, ⟨⟨i + 2, rest⟩, h⟩)) := by
  refine ⟨by simp only [List.length_cons]; omega, ?_⟩
  simp [Source.pop, hrest]

theorem peek_plain (hc : c ≠ '\\') : Source.peek ⟨i, c :: rest⟩ = some (.plain c) := by
  cases rest <;> simp [Source.peek, hc]

@[simp] theorem nextIs_escaped : Source.nextIs ⟨i, '\\' :: c :: rest⟩ a = false := by
  simp [Source.nextIs, Source.peek]

theorem nextIs_plain (hc : c ≠ '\\') : Source.nextIs ⟨i, c :: rest⟩ a = decide (c = a) := by
  rw [Source.nextIs, peek_plain hc, Bool.eq_iff_iff]
  simp

/-! ## Sets -/

/-- The members of a set are `all` after `items` have been read, and `s'` is what they leave. -/
def ReadsSet (names : CharacterNames) (opening : Nat) (items : List ClassItem) (s : Source) (all : List ClassItem)
    (s' : Source) : Prop :=
  ∃ h, setItems names opening items s = .ok (all, ⟨s', h⟩)

theorem readsSet_end (hi : items ≠ []) (hrest : rest ≠ ['\\']) :
    ReadsSet names opening items ⟨i, ']' :: rest⟩ items ⟨i + 1, rest⟩ := by
  obtain ⟨hlt, hp⟩ := pop_plain (i := i) (c := ']') (by decide) hrest
  refine ⟨hlt, ?_⟩
  rw [setItems, hp]
  simp [hi, bind, Except.bind, pure, Except.pure]

theorem readsSet_char (hc : c ≠ '\\') (hb : c ≠ ']') (hrest : rest ≠ ['\\'])
    (hr : Source.nextIs ⟨i + 1, rest⟩ '-' = false)
    (h : ReadsSet names opening (items ++ [.code c.toNat]) ⟨i + 1, rest⟩ all s') :
    ReadsSet names opening items ⟨i, c :: rest⟩ all s' := by
  obtain ⟨hlt, hp⟩ := pop_plain (i := i) hc hrest
  obtain ⟨hmore, h⟩ := h
  refine ⟨Nat.lt_trans hmore hlt, ?_⟩
  rw [setItems, hp]
  simp [hb, bind, Except.bind, pure, Except.pure, classItem, Source.accept, hr, h, Source.Shorter.reach,
    Source.itself, Source.Shorter.within]

/-- An escaped mark stands for itself in a set. -/
theorem readsSet_escaped (hc : c ∈ ['-', '.']) (hrest : rest ≠ ['\\'])
    (hr : Source.nextIs ⟨i + 2, rest⟩ '-' = false)
    (h : ReadsSet names opening (items ++ [.code c.toNat]) ⟨i + 2, rest⟩ all s') :
    ReadsSet names opening items ⟨i, '\\' :: c :: rest⟩ all s' := by
  obtain ⟨hlt, hp⟩ := pop_escaped (i := i) (c := c) hrest
  obtain ⟨hmore, h⟩ := h
  refine ⟨Nat.lt_trans hmore hlt, ?_⟩
  have hitem (u : Source) (start : Nat) : classEscape names start c u = .ok (.code c.toNat, u.itself) := by
    simp only [List.mem_cons, List.not_mem_nil, or_false] at hc
    rcases hc with rfl | rfl <;> rfl
  rw [setItems, hp]
  simp [hitem, bind, Except.bind, pure, Except.pure, classItem, Source.accept, hr, h, Source.Shorter.reach,
    Source.itself, Source.Shorter.within]

theorem readsSet_range (ha : a ≠ '\\') (ha' : a ≠ ']') (hb : b ≠ '\\') (hb' : b ≠ ']') (hab : a ≤ b)
    (hrest : rest ≠ ['\\'])
    (h : ReadsSet names opening (items ++ [.range a.toNat b.toNat]) ⟨i + 3, rest⟩ all s') :
    ReadsSet names opening items ⟨i, a :: '-' :: b :: rest⟩ all s' := by
  have hb₀ : b :: rest ≠ ['\\'] := by simpa using fun e => absurd e hb
  obtain ⟨_, hp₁⟩ := pop_plain (i := i) ha (by simp : '-' :: b :: rest ≠ ['\\'])
  obtain ⟨_, hp₂⟩ := pop_plain (i := i + 1) (c := '-') (by decide) hb₀
  obtain ⟨_, hp₃⟩ := pop_plain (i := i + 2) hb hrest
  have horder : ¬b.toNat < a.toNat := Nat.not_lt.2 hab
  obtain ⟨hmore, h⟩ := h
  refine ⟨Nat.lt_trans hmore (by simp only [List.length_cons]; omega), ?_⟩
  rw [setItems, hp₁]
  simp [ha', hb', bind, Except.bind, pure, Except.pure, classItem, Source.accept, nextIs_plain, hp₂, hp₃, h,
    rangeItem, horder, Source.Shorter.reach, Source.itself, Source.Shorter.within]

/-! ## Steps -/

namespace Reading

/-- One step takes a reading from one source to another. -/
def Steps (r : Reading) (s : Source) (r' : Reading) (s' : Source) : Prop :=
  ∃ h, r.step s = .ok (some (r', ⟨s', h⟩))

theorem run_of_steps (h : r.Steps s r' s') : r.run s = r'.run s' := by
  obtain ⟨hlt, h⟩ := h
  rw [run, h]
  rfl

theorem run_end : r.run ⟨i, []⟩ = .ok (r, ⟨i, []⟩) := by
  rw [run]
  rfl

theorem steps_character {h : s'.rest.length ≤ rest.length} (hc : c ≠ '\\') (hbar : c ≠ '|')
    (hclose : c ≠ ')') (hrest : rest ≠ ['\\'])
    (hr : r.character i c ⟨i + 1, rest⟩ = .ok (r', ⟨s', h⟩)) : r.Steps ⟨i, c :: rest⟩ r' s' := by
  obtain ⟨hlt, hp⟩ := pop_plain (i := i) hc hrest
  refine ⟨Nat.lt_of_le_of_lt h hlt, ?_⟩
  simp [step, nextIs_plain hc, hbar, hclose, hp, hr, bind, Except.bind, pure, Except.pure,
    Source.Shorter.reach]

theorem steps_escape {h : s'.rest.length ≤ rest.length} (hrest : rest ≠ ['\\'])
    (hr : r.escape i c ⟨i + 2, rest⟩ = .ok (r', ⟨s', h⟩)) :
    r.Steps ⟨i, '\\' :: c :: rest⟩ r' s' := by
  obtain ⟨hlt, hp⟩ := pop_escaped (i := i) (c := c) hrest
  refine ⟨Nat.lt_of_le_of_lt h hlt, ?_⟩
  simp [step, hp, hr, bind, Except.bind, pure, Except.pure, Source.Shorter.reach]

/-- The reading inside a parenthesis that has just been opened. -/
def afterOpen (r : Reading) (i : Nat) : Reading :=
  { r with groups := { r.groups with widths := r.groups.widths ++ [none] } }.enter
    (.capture r.groups.next) i r.frame.flags

theorem steps_open (hv : r.frame.flags.verbose = false) (hrest : rest ≠ ['\\'])
    (hq : Source.nextIs ⟨i + 1, rest⟩ '?' = false) :
    r.Steps ⟨i, '(' :: rest⟩ (r.afterOpen i) ⟨i + 1, rest⟩ := by
  refine steps_character (h := Nat.le_refl _) (by decide) (by decide) (by decide) hrest ?_
  simp [character, hv, parenthesis, Source.accept, hq, enterGroup, Groups.opened, bind, Except.bind, pure,
    Except.pure, afterOpen, Source.itself]

/-- The reading behind the parenthesis that closes the innermost frame. -/
def afterClose (r : Reading) (frame : Frame) (outer : List Frame) : Reading :=
  { r with frame := frame, outer := outer, groups := (leave r.frame r.groups).2 }.push
    (leave r.frame r.groups).1 .other

theorem steps_close {frame : Frame} {outer : List Frame} (ho : r.outer = frame :: outer)
    (hrest : rest ≠ ['\\']) : r.Steps ⟨i, ')' :: rest⟩ (r.afterClose frame outer) ⟨i + 1, rest⟩ := by
  obtain ⟨hlt, hp⟩ := pop_plain (i := i) (c := ')') (by decide) hrest
  refine ⟨hlt, ?_⟩
  simp [step, nextIs_plain, ho, hp, bind, Except.bind, pure, Except.pure, afterClose]

theorem steps_set (hv : r.frame.flags.verbose = false) (hrest : rest ≠ ['\\'])
    (hn : Source.nextIs ⟨i + 1, rest⟩ '^' = false) (h : ReadsSet r.names i [] ⟨i + 1, rest⟩ all s') :
    r.Steps ⟨i, '[' :: rest⟩ (r.pushTest false all) s' := by
  obtain ⟨hlt, h⟩ := h
  refine steps_character (h := Nat.le_of_lt hlt) (by decide) (by decide) (by decide) hrest ?_
  simp [character, hv, readSet, Source.accept, hn, h, bind, Except.bind, pure, Except.pure,
    Source.Shorter.within]

/-- One or more of the latest item, when no second quantifier follows. -/
theorem steps_more {node : Node} {earlier : List Item} (hv : r.frame.flags.verbose = false)
    (hi : r.frame.items = ⟨node, .other⟩ :: earlier) (hrest : rest ≠ ['\\'])
    (hlazy : Source.nextIs ⟨i + 1, rest⟩ '?' = false)
    (hmore : Source.nextIs ⟨i + 1, rest⟩ '+' = false) :
    r.Steps ⟨i, '+' :: rest⟩ { r with frame := { r.frame with
      items := ⟨.repeated .greedy 1 none node, .repetition⟩ :: earlier } } ⟨i + 1, rest⟩ := by
  refine steps_character (h := Nat.le_refl _) (by decide) (by decide) (by decide) hrest ?_
  simp [character, hv, quantify, hi, Source.accept, hlazy, hmore, bind, Except.bind, pure, Except.pure,
    Source.itself]

/-! ## Escaped text -/

/-- The pattern for one character alone. -/
def literal (flags : Flags) (c : Char) : Node :=
  .char ⟨[.code c.toNat], false, flags.folding, flags.ascii⟩

/-- The reading after the characters of a text have been read as patterns for themselves. -/
def pushText (r : Reading) (t : Text) : Reading :=
  { r with frame := { r.frame with
    items := t.reverse.map (fun c => ⟨literal r.frame.flags c, .other⟩) ++ r.frame.items } }

theorem pushText_cons : (r.pushCode c.toNat).pushText t = r.pushText (c :: t) := by
  simp [pushText, pushCode, pushTest, push, literal]

theorem escape_special {u : Source} (hc : Text.specialChars.contains c) :
    r.escape i c u = .ok (r.pushCode c.toNat, u.itself) := by
  simp only [Text.specialChars, List.contains_iff_mem, List.mem_cons, List.not_mem_nil, or_false] at hc
  rcases hc with rfl | rfl | rfl | rfl | rfl | rfl | rfl | rfl | rfl | rfl | rfl | rfl | rfl | rfl | rfl | rfl |
    rfl | rfl | rfl | rfl | rfl | rfl | rfl | rfl <;> rfl

theorem character_ordinary {u : Source} (hv : r.frame.flags.verbose = false)
    (hc : Text.specialChars.contains c = false) : r.character i c u = .ok (r.pushCode c.toNat, u.itself) := by
  simp only [Text.specialChars, List.contains_eq_mem, List.mem_cons, List.not_mem_nil, or_false,
    decide_eq_false_iff_not, not_or] at hc
  simp only [character, hv, Bool.false_and, Bool.false_eq_true, if_false]
  split <;> simp_all [pure, Except.pure]

theorem ne_backslash_escaped (hrest : rest ≠ ['\\']) : t.escaped ++ rest ≠ ['\\'] := by
  cases t with
  | nil => simpa [Text.escaped] using hrest
  | cons c t =>
    simp only [Text.escaped, List.flatMap_cons]
    split
    · simp
    · next hc =>
      intro h
      have : c = '\\' := by simpa using congrArg List.head? h
      exact hc (this ▸ by decide)

theorem steps_escapedChar (hv : r.frame.flags.verbose = false) (hrest : rest ≠ ['\\']) :
    ∃ j, r.Steps ⟨i, Text.escaped [c] ++ rest⟩ (r.pushCode c.toNat) ⟨j, rest⟩ := by
  cases hc : Text.specialChars.contains c with
  | true =>
    refine ⟨i + 2, ?_⟩
    simp only [Text.escaped, List.flatMap_cons, hc, List.flatMap_nil, if_true, List.append_nil]
    exact steps_escape (h := Nat.le_refl _) hrest (escape_special hc)
  | false =>
    have hne (d : Char) (hd : Text.specialChars.contains d) : c ≠ d := by
      rintro rfl
      rw [hc] at hd
      exact absurd hd Bool.false_ne_true
    refine ⟨i + 1, ?_⟩
    simp only [Text.escaped, List.flatMap_cons, hc, List.flatMap_nil, Bool.false_eq_true, if_false,
      List.append_nil]
    exact steps_character (h := Nat.le_refl _) (hne _ (by decide)) (hne _ (by decide)) (hne _ (by decide)) hrest
      (character_ordinary hv hc)

/-- An escaped text is read as a pattern for each of its characters. -/
theorem run_escaped (hv : r.frame.flags.verbose = false) (hrest : rest ≠ ['\\']) :
    ∃ j, r.run ⟨i, t.escaped ++ rest⟩ = (r.pushText t).run ⟨j, rest⟩ := by
  induction t generalizing r i with
  | nil => exact ⟨i, rfl⟩
  | cons c t ih =>
    obtain ⟨j, hstep⟩ :=
      steps_escapedChar (r := r) (i := i) (c := c) hv (ne_backslash_escaped (t := t) hrest)
    obtain ⟨k, hrun⟩ := ih (r := r.pushCode c.toNat) (i := j) hv
    refine ⟨k, ?_⟩
    have hsplit : Text.escaped (c :: t) ++ rest = Text.escaped [c] ++ (Text.escaped t ++ rest) := by
      rw [Text.escaped, List.flatMap_cons, List.append_assoc]
      simp [Text.escaped]
    rw [hsplit, run_of_steps hstep, hrun, pushText_cons]

end Reading

end MudClient.Pattern

import MudClient.Pattern.Syntax

/-!
# Matching

* `Cursor`: a place in a text
* `State`: a place and the groups that have taken part
* `Matcher`: what a pattern does with a state, given what is to follow it
* `Node.run`: the matcher of a pattern, which tries its possibilities in order of preference
* `Matcher.Through`, `Node.run_through`: what follows a pattern is at a state that its own leads to
* `Node.run_forward`: what follows a pattern never starts before it

A matcher hands each state it can reach to what follows, until one of them leads to a match.
-/

set_option autoImplicit false

namespace MudClient.Pattern

/-- A place in a text: what lies before it, nearest first, and what lies after it. -/
structure Cursor where
  before : Text
  after : Text
  index : Nat
  left : Nat
  index_eq : index = before.length
  left_eq : left = after.length

namespace Cursor

def start (t : Text) : Cursor := ⟨[], t, 0, t.length, rfl, rfl⟩

/-- The place between two texts, the first of them backwards. -/
def between (before after : Text) : Cursor :=
  ⟨before, after, before.length, after.length, rfl, rfl⟩

def text (c : Cursor) : Text := c.before.reverse ++ c.after

def next? (c : Cursor) : Option (Char × Cursor) :=
  match h : c.after with
  | [] => none
  | x :: rest =>
    some (x, ⟨x :: c.before, rest, c.index + 1, c.left - 1, by simp [c.index_eq],
      by simp [c.left_eq, h]⟩)

/-- The place so many characters before, if there are so many. -/
def back? (n : Nat) (c : Cursor) : Option Cursor :=
  match n with
  | 0 => some c
  | n + 1 =>
    match h : c.before with
    | [] => none
    | x :: rest =>
      back? n ⟨rest, x :: c.after, c.index - 1, c.left + 1, by simp [c.index_eq, h],
        by simp [c.left_eq]⟩

theorem left_of_next? {c d : Cursor} {x : Char} (h : c.next? = some (x, d)) :
    d.left + 1 = c.left := by
  simp only [next?] at h
  split at h
  · simp at h
  · next y rest e =>
    simp only [Option.some.injEq, Prod.mk.injEq] at h
    have hl := c.left_eq
    rw [e, List.length_cons] at hl
    rw [← h.2]
    show c.left - 1 + 1 = c.left
    omega

end Cursor

structure Span where
  start : Nat
  stop : Nat
deriving DecidableEq, Repr

/-- A place, and for each group from number 1 on the piece it matched last. -/
structure State where
  cursor : Cursor
  groups : List (Option Span)

namespace State

def group? (s : State) (number : Nat) : Option Span :=
  match number with
  | 0 => none
  | n + 1 => (s.groups[n]?).join

/-- The state after a group has matched from `start` up to the place. -/
def capture (s : State) (number start : Nat) : State :=
  { s with groups := s.groups.set (number - 1) (some ⟨start, s.cursor.index⟩) }

end State

/-- What follows a pattern: a match, or nothing. -/
abbrev Follow := State → Option State

/-- What a pattern does with a state, given what is to follow. -/
abbrev Matcher := State → Follow → Option State

namespace Matcher

/-- The first possibility alone. -/
def atomic (m : Matcher) : Matcher := fun s k => (m s some).bind k

def times (m : Matcher) : Nat → Matcher
  | 0 => fun s k => k s
  | n + 1 => fun s k => m s fun s' => times m n s' k

/-- At most `most` times, more rather than fewer. A repetition that takes no text is the last. -/
def greedily (m : Matcher) (most : Option Nat) (s : State) (k : Follow) : Option State :=
  if most = some 0 then k s
  else
    match m s fun s' =>
      if s'.cursor.left < s.cursor.left then greedily m (most.map (· - 1)) s' k else k s' with
    | some result => some result
    | none => k s
termination_by s.cursor.left

/-- At most `most` times, fewer rather than more. A repetition that takes no text is the last. -/
def lazily (m : Matcher) (most : Option Nat) (s : State) (k : Follow) : Option State :=
  match k s with
  | some result => some result
  | none =>
    if most = some 0 then none
    else
      m s fun s' =>
        if s'.cursor.left < s.cursor.left then lazily m (most.map (· - 1)) s' k else k s'
termination_by s.cursor.left

/-- A repetition: so many times, then more. -/
def repeated (m : Matcher) (greed : Greed) (least : Nat) (most : Option Nat) : Matcher :=
  let further := most.map (· - least)
  match greed with
  | .greedy => fun s k => times m least s fun s' => greedily m further s' k
  | .lazy => fun s k => times m least s fun s' => lazily m further s' k
  | .possessive =>
    atomic fun s k => times (atomic m) least s fun s' => greedily (atomic m) further s' k

end Matcher

/-! ## Places -/

/-- Whether the character next to a place, if any, belongs to a word. -/
def wordBeside (ascii : Bool) (t : Text) : Bool :=
  match t with
  | [] => false
  | c :: _ => Category.word.holds ascii c

/-- Whether a place passes a test. In an empty text there are neither boundaries nor places
without one. -/
def Anchor.holds (anchor : Anchor) (c : Cursor) : Bool :=
  match anchor with
  | .textStart => c.before.isEmpty
  | .lineStart => c.before.isEmpty || c.before.head? == some '\n'
  | .textEnd => c.after.isEmpty
  | .textEndOrLastBreak => c.after.isEmpty || c.after == ['\n']
  | .lineEnd => c.after.isEmpty || c.after.head? == some '\n'
  | .boundary ascii =>
    !(c.before.isEmpty && c.after.isEmpty) && wordBeside ascii c.before != wordBeside ascii c.after
  | .noBoundary ascii =>
    !(c.before.isEmpty && c.after.isEmpty) && wordBeside ascii c.before == wordBeside ascii c.after

/-- The place after a text that stands here, compared with regard to case as asked. -/
def Cursor.skip? (folding : Folding) (t : Text) (c : Cursor) : Option Cursor :=
  match t with
  | [] => some c
  | x :: rest =>
    match c.next? with
    | none => none
    | some (y, d) => if folding.fold x.toNat = folding.fold y.toNat then skip? folding rest d else none

def Cursor.slice (c : Cursor) (span : Span) : Text :=
  (c.text.drop span.start).take (span.stop - span.start)

/-! ## Patterns -/

def Node.run : Node → Matcher
  | empty => fun s k => k s
  | char test => fun s k =>
    match s.cursor.next? with
    | some (x, c) => if test.passes x then k { s with cursor := c } else none
    | none => none
  | anchor a => fun s k => if a.holds s.cursor then k s else none
  | seq a b => fun s k => a.run s fun s' => b.run s' k
  | either a b => fun s k =>
    match a.run s k with
    | some result => some result
    | none => b.run s k
  | repeated greed least most body => body.run.repeated greed least most
  | group number body => fun s k =>
    body.run s fun s' => k (s'.capture number s.cursor.index)
  | reference number folding _ => fun s k =>
    match s.group? number with
    | none => none
    | some span =>
      match s.cursor.skip? folding (s.cursor.slice span) with
      | none => none
      | some c => k { s with cursor := c }
  | ahead positive body => fun s k =>
    match body.run s some with
    | some found => if positive then k { s with groups := found.groups } else none
    | none => if positive then none else k s
  | behind positive width body => fun s k =>
    match (s.cursor.back? width).bind fun c => body.run { s with cursor := c } some with
    | some found => if positive then k { s with groups := found.groups } else none
    | none => if positive then none else k s
  | ifGroup number yes no => fun s k =>
    if (s.group? number).isSome then yes.run s k else no.run s k
  | atomic body => body.run.atomic

/-! ## Progress -/

/-- The result of a matcher comes from what follows it, at a state to which its own state is related. -/
def Matcher.Through (R : State → State → Prop) (m : Matcher) : Prop :=
  ∀ s k r, m s k = some r → ∃ s', k s' = some r ∧ R s s'

/-- A matcher that moves forward only: its result comes from what follows it, at a place that is
not before its own. -/
def Matcher.Forward (m : Matcher) : Prop :=
  ∀ s k r, m s k = some r → ∃ s', k s' = some r ∧ s'.cursor.left ≤ s.cursor.left

namespace Matcher

variable {R : State → State → Prop} {m : Matcher}

theorem Through.atomic (h : m.Through R) : (Matcher.atomic m).Through R := by
  intro s k r hr
  obtain ⟨s', h1, h2⟩ := Option.bind_eq_some_iff.1 hr
  obtain ⟨s'', h3, h4⟩ := h _ _ _ h1
  simp only [Option.some.injEq] at h3
  exact ⟨s', h2, h3 ▸ h4⟩

section

variable (hrefl : ∀ s, R s s) (htrans : ∀ s s' s'', R s s' → R s' s'' → R s s'')
include hrefl htrans

theorem Through.times (h : m.Through R) (n : Nat) : (Matcher.times m n).Through R := by
  induction n with
  | zero => exact fun s k r hr => ⟨s, hr, hrefl s⟩
  | succ n ih =>
    intro s k r hr
    obtain ⟨s', h1, h2⟩ := h _ _ _ hr
    obtain ⟨s'', h3, h4⟩ := ih _ _ _ h1
    exact ⟨s'', h3, htrans _ _ _ h2 h4⟩

theorem Through.greedily (h : m.Through R) (most : Option Nat) :
    Matcher.Through R (Matcher.greedily m most) := by
  intro s k r hr
  induction hn : s.cursor.left using Nat.strongRecOn generalizing s most with
  | ind n ih =>
    rw [Matcher.greedily] at hr
    split at hr
    · exact ⟨s, hr, hrefl s⟩
    · split at hr
      · next result hm =>
        obtain ⟨s', h1, h2⟩ := h _ _ _ hm
        simp only [Option.some.injEq] at hr
        subst hr
        split at h1
        · next hlt =>
          obtain ⟨s'', h3, h4⟩ := ih _ (hn ▸ hlt) _ _ h1 rfl
          exact ⟨s'', h3, htrans _ _ _ h2 h4⟩
        · exact ⟨s', h1, h2⟩
      · exact ⟨s, hr, hrefl s⟩

theorem Through.lazily (h : m.Through R) (most : Option Nat) :
    Matcher.Through R (Matcher.lazily m most) := by
  intro s k r hr
  induction hn : s.cursor.left using Nat.strongRecOn generalizing s most with
  | ind n ih =>
    rw [Matcher.lazily] at hr
    split at hr
    · next result hk => exact ⟨s, hk.trans hr, hrefl s⟩
    · split at hr
      · simp at hr
      · obtain ⟨s', h1, h2⟩ := h _ _ _ hr
        split at h1
        · next hlt =>
          obtain ⟨s'', h3, h4⟩ := ih _ (hn ▸ hlt) _ _ h1 rfl
          exact ⟨s'', h3, htrans _ _ _ h2 h4⟩
        · exact ⟨s', h1, h2⟩

theorem Through.repeated (h : m.Through R) (greed : Greed) (least : Nat) (most : Option Nat) :
    (Matcher.repeated m greed least most).Through R := by
  have both {m : Matcher} {n : Nat} {l : State → Follow → Option State}
      (h : m.Through R) (hl : Matcher.Through R l) :
      Matcher.Through R fun s k => Matcher.times m n s fun s' => l s' k := by
    intro s k r hr
    obtain ⟨s', h1, h2⟩ := h.times hrefl htrans n _ _ _ hr
    obtain ⟨s'', h3, h4⟩ := hl _ _ _ h1
    exact ⟨s'', h3, htrans _ _ _ h2 h4⟩
  cases greed with
  | greedy => exact both h (h.greedily hrefl htrans _)
  | lazy => exact both h (h.lazily hrefl htrans _)
  | possessive => exact Through.atomic (both h.atomic (h.atomic.greedily hrefl htrans _))

end

end Matcher

/-- What a relation between states has to keep so that every matcher goes along it: steps over characters, captures,
and groups from a look ahead or behind. -/
structure State.Motion (R : State → State → Prop) : Prop where
  refl : ∀ s, R s s
  trans : ∀ s s' s'', R s s' → R s' s'' → R s s''
  next : ∀ s x c, s.cursor.next? = some (x, c) → R s { s with cursor := c }
  capture : ∀ s s' number, R s s' → R s (s'.capture number s.cursor.index)
  ahead : ∀ s found, R s found → R s { s with groups := found.groups }
  behind : ∀ s width c found, s.cursor.back? width = some c → R { s with cursor := c } found →
    R s { s with groups := found.groups }

theorem State.Motion.skip {R : State → State → Prop} (hR : State.Motion R) {folding : Folding} {t : Text}
    {s : State} {c : Cursor} (h : s.cursor.skip? folding t = some c) : R s { s with cursor := c } := by
  induction t generalizing s with
  | nil =>
    simp only [Cursor.skip?, Option.some.injEq] at h
    exact h ▸ hR.refl s
  | cons x t ih =>
    simp only [Cursor.skip?] at h
    split at h
    · simp at h
    · next y d hd =>
      split at h
      · exact hR.trans _ { s with cursor := d } _ (hR.next s y d hd) (ih h)
      · simp at h

/-- The matcher of every pattern goes along such a relation. -/
theorem Node.run_through {R : State → State → Prop} (hR : State.Motion R) (n : Node) : n.run.Through R := by
  induction n with
  | empty => exact fun s k r hr => ⟨s, hr, hR.refl s⟩
  | char test =>
    intro s k r hr
    simp only [run] at hr
    split at hr
    · next x c hc =>
      split at hr
      · exact ⟨_, hr, hR.next s x c hc⟩
      · simp at hr
    · simp at hr
  | anchor a =>
    intro s k r hr
    simp only [run] at hr
    split at hr
    · exact ⟨s, hr, hR.refl s⟩
    · simp at hr
  | seq a b iha ihb =>
    intro s k r hr
    obtain ⟨s', h1, h2⟩ := iha _ _ _ hr
    obtain ⟨s'', h3, h4⟩ := ihb _ _ _ h1
    exact ⟨s'', h3, hR.trans _ _ _ h2 h4⟩
  | either a b iha ihb =>
    intro s k r hr
    simp only [run] at hr
    split at hr
    · next result he => exact iha _ _ _ (he.trans hr)
    · exact ihb _ _ _ hr
  | repeated greed least most body ih => exact ih.repeated hR.refl hR.trans greed least most
  | group number body ih =>
    intro s k r hr
    obtain ⟨s', h1, h2⟩ := ih _ _ _ hr
    exact ⟨_, h1, hR.capture s s' number h2⟩
  | reference number folding width =>
    intro s k r hr
    simp only [run] at hr
    split at hr
    · simp at hr
    · split at hr
      · simp at hr
      · next c hc => exact ⟨_, hr, hR.skip hc⟩
  | ahead positive body ih =>
    intro s k r hr
    simp only [run] at hr
    split at hr
    · next found hfound =>
      split at hr
      · obtain ⟨s', h1, h2⟩ := ih _ _ _ hfound
        exact ⟨_, hr, hR.ahead s found (Option.some.inj h1 ▸ h2)⟩
      · simp at hr
    · split at hr
      · simp at hr
      · exact ⟨s, hr, hR.refl s⟩
  | behind positive width body ih =>
    intro s k r hr
    simp only [run] at hr
    split at hr
    · next found hfound =>
      split at hr
      · obtain ⟨c, hc, hfound⟩ := Option.bind_eq_some_iff.1 hfound
        obtain ⟨s', h1, h2⟩ := ih _ _ _ hfound
        exact ⟨_, hr, hR.behind s width c found hc (Option.some.inj h1 ▸ h2)⟩
      · simp at hr
    · split at hr
      · simp at hr
      · exact ⟨s, hr, hR.refl s⟩
  | ifGroup number yes no ihy ihn =>
    intro s k r hr
    simp only [run] at hr
    split at hr
    · exact ihy _ _ _ hr
    · exact ihn _ _ _ hr
  | atomic body ih => exact ih.atomic

theorem motion_left : State.Motion fun s s' => s'.cursor.left ≤ s.cursor.left where
  refl _ := Nat.le_refl _
  trans _ _ _ h h' := Nat.le_trans h' h
  next _ _ c h := Nat.le_of_lt (Nat.lt_of_lt_of_eq (Nat.lt_succ_self c.left) (Cursor.left_of_next? h))
  capture _ _ _ h := h
  ahead _ _ _ := Nat.le_refl _
  behind _ _ _ _ _ _ := Nat.le_refl _

/-- The matcher of every pattern moves forward only. -/
theorem Node.run_forward (n : Node) : n.run.Forward :=
  n.run_through motion_left

end MudClient.Pattern

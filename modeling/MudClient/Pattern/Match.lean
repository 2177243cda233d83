import MudClient.Pattern.Matcher
import MudClient.Pattern.Reader

/-!
# Matches

* `Match`: where a pattern matches, and where its groups do
* `Regex.search`: the leftmost match from a place on
* `Regex.first?`, `Regex.has`, `Regex.all`, `Regex.substitute`: the first match, whether there is one,
  all of them, and a text with all of them replaced

After a match the search goes on where it ended. After an empty match the next one may start at the
same place only if it is not empty.
-/

set_option autoImplicit false

namespace MudClient.Pattern

/-- Where a pattern matched, and each of its groups that took part. -/
structure Match where
  whole : Span
  groups : List (Option Span)
deriving DecidableEq, Repr

/-- A group was asked for by a negative number. -/
inductive GroupError
  | noSuchGroup
deriving DecidableEq, Repr

namespace Match

def count (m : Match) : Nat := m.groups.length + 1

/-- The piece of a group, and the whole for number zero. -/
def span? (m : Match) (number : Nat) : Option Span :=
  match number with
  | 0 => some m.whole
  | n + 1 => (m.groups[n]?).join

def spans (m : Match) : List (Option Span) :=
  some m.whole :: m.groups

def text? (m : Match) (t : Text) (number : Nat) : Option Text :=
  (m.span? number).map fun s => (t.drop s.start).take (s.stop - s.start)

/-- The piece by a number that may be out of range: above it there is none, below it is an error. -/
def spanAt (m : Match) (number : Int) : Except GroupError (Option Span) :=
  match number with
  | .ofNat n => .ok (m.span? n)
  | .negSucc _ => .error .noSuchGroup

end Match

namespace Regex

def initial (re : Regex) (c : Cursor) : State :=
  ⟨c, List.replicate re.groupCount none⟩

/-- The match that starts at a place; with `advance` it may not be empty. -/
def matchAt (re : Regex) (advance : Bool) (c : Cursor) : Option State :=
  re.node.run (re.initial c) fun s =>
    if advance && s.cursor.left == c.left then none else some s

/-- The leftmost match from a place on: where it starts, and the state it ends in. With `advance`
it may not be empty at that very place. -/
def search (re : Regex) (advance : Bool) (c : Cursor) : Option (Cursor × State) :=
  match re.matchAt advance c with
  | some s => some (c, s)
  | none =>
    match h : c.next? with
    | none => none
    | some (_, d) =>
      have : d.left < c.left := by
        have := Cursor.left_of_next? h
        omega
      search re false d
termination_by c.left

/-- The match between where a search succeeded and where it ended. -/
def matchOf (start : Cursor) (s : State) : Match :=
  ⟨⟨start.index, s.cursor.index⟩, s.groups⟩

theorem left_of_matchAt {re : Regex} {advance : Bool} {c : Cursor} {s : State}
    (h : re.matchAt advance c = some s) :
    s.cursor.left ≤ c.left ∧ (advance = true → s.cursor.left < c.left) := by
  obtain ⟨s', h1, h2⟩ := re.node.run_forward _ _ _ h
  split at h1
  · simp at h1
  · next hn =>
    simp only [Option.some.injEq] at h1
    subst h1
    refine ⟨h2, fun ha => ?_⟩
    simp only [ha, Bool.true_and, beq_iff_eq] at hn
    exact Nat.lt_of_le_of_ne h2 hn

/-- A match does not end before it starts, nor start before the search does. -/
theorem left_of_search {re : Regex} {advance : Bool} {c d : Cursor} {s : State}
    (h : re.search advance c = some (d, s)) :
    s.cursor.left ≤ d.left ∧ d.left ≤ c.left ∧ (advance = true → s.cursor.left < c.left) := by
  fun_induction search re advance c with
  | case1 advance c s' hm =>
    simp only [Option.some.injEq, Prod.mk.injEq] at h
    obtain ⟨rfl, rfl⟩ := h
    have := left_of_matchAt hm
    exact ⟨this.1, Nat.le_refl _, this.2⟩
  | case2 => simp at h
  | case3 advance c hm x d' hn hlt ih =>
    have := ih h
    exact ⟨this.1, by omega, fun _ => by omega⟩

/-- A search that goes on after a match has less text left, or may no longer find an empty match
where it starts. -/
theorem search_decreases {re : Regex} {advance : Bool} {c d : Cursor} {s : State}
    (h : re.search advance c = some (d, s)) :
    Prod.Lex (· < ·) (· < ·) (s.cursor.left, if s.cursor.left == d.left then 0 else 1)
      (c.left, if advance then 0 else 1) := by
  have := left_of_search h
  rcases Nat.lt_or_ge s.cursor.left c.left with hlt | hge
  · exact Prod.Lex.left _ _ hlt
  · have he : s.cursor.left = c.left := by omega
    have hd : s.cursor.left = d.left := by omega
    cases advance with
    | true => exact absurd (this.2.2 rfl) (by omega)
    | false =>
      rw [← hd, he]
      exact Prod.Lex.right _ (by simp)

def allFrom (re : Regex) (advance : Bool) (c : Cursor) : List Match :=
  match h : re.search advance c with
  | none => []
  | some (d, s) =>
    have := search_decreases h
    matchOf d s :: allFrom re (s.cursor.left == d.left) s.cursor
termination_by (c.left, if advance then 0 else 1)
decreasing_by assumption

/-- The text from a place on, with every match replaced. -/
def substituteFrom (re : Regex) (f : Match → Text) (advance : Bool) (c : Cursor) : Text :=
  match h : re.search advance c with
  | none => c.after
  | some (d, s) =>
    have := search_decreases h
    c.after.take (c.left - d.left) ++
      (f (matchOf d s) ++ substituteFrom re f (s.cursor.left == d.left) s.cursor)
termination_by (c.left, if advance then 0 else 1)
decreasing_by assumption

def first? (re : Regex) (t : Text) : Option Match :=
  (re.search false (.start t)).map fun p => matchOf p.1 p.2

def has (re : Regex) (t : Text) : Bool :=
  (re.search false (.start t)).isSome

def all (re : Regex) (t : Text) : List Match :=
  re.allFrom false (.start t)

/-- The pieces of the first match that took part, in the order of their groups. -/
def firstSpans (re : Regex) (t : Text) : List Span :=
  match re.first? t with
  | none => []
  | some m => m.spans.filterMap id

def substitute (re : Regex) (f : Match → Text) (t : Text) : Text :=
  re.substituteFrom f false (.start t)

end Regex

end MudClient.Pattern

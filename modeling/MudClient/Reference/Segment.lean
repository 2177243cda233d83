import MudClient.Text.Basic

/-!
# Indexed forms in a text

* `Bracket`: the two kinds of brackets around an index
* `Segment`: a run of plain text, or a name with an index in brackets
* `closing`: the text up to the bracket that closes
* `segments`: a text split into its indexed forms and the text between them
* `segments_source`: nothing is lost
* `length_of_indexed`: the name and the index of a form are shorter than the text
-/

set_option autoImplicit false

namespace MudClient.Reference

inductive Bracket
  | square
  | round
deriving DecidableEq, Repr

def Bracket.opening : Bracket → Char
  | square => '['
  | round => '('

def Bracket.closing : Bracket → Char
  | square => ']'
  | round => ')'

def bracket? (c : Char) : Option Bracket :=
  if c = '[' then some .square else if c = '(' then some .round else none

/-- The characters of names: ASCII letters and digits, underscore, hyphen and full stop. -/
def isNameChar (c : Char) : Bool :=
  c.isAlphanum || c = '_' || c = '-' || c = '.'

inductive Segment
  | plain (content : Text)
  | indexed (name : Text) (bracket : Bracket) (index : Text)
deriving DecidableEq, Repr

def Segment.source : Segment → Text
  | plain content => content
  | indexed name bracket index => name ++ bracket.opening :: index ++ [bracket.closing]

def Segment.isIndexed : Segment → Bool
  | plain _ => false
  | indexed _ _ _ => true

/-- What stands before the bracket that closes, and what stands after it; `depth` brackets of the same
kind have been opened inside. -/
def closing (bracket : Bracket) (depth : Nat) : Text → Option (Text × Text)
  | [] => none
  | c :: t =>
    if c = bracket.opening then (closing bracket (depth + 1) t).map fun p => (c :: p.1, p.2)
    else if c = bracket.closing then
      match depth with
      | 0 => some ([], t)
      | depth + 1 => (closing bracket depth t).map fun p => (c :: p.1, p.2)
    else (closing bracket depth t).map fun p => (c :: p.1, p.2)

theorem closing_eq {bracket : Bracket} {depth : Nat} {t index rest : Text}
    (h : closing bracket depth t = some (index, rest)) :
    t = index ++ bracket.closing :: rest := by
  induction t generalizing depth index with
  | nil => simp [closing] at h
  | cons c t ih =>
    have step {d : Nat} (h : (closing bracket d t).map (fun p => (c :: p.1, p.2)) = some (index, rest)) :
        c :: t = index ++ bracket.closing :: rest := by
      obtain ⟨⟨i, r⟩, hp, he⟩ := Option.map_eq_some_iff.1 h
      simp only [Prod.mk.injEq] at he
      obtain ⟨rfl, rfl⟩ := he
      rw [List.cons_append, ← ih hp]
    simp only [closing] at h
    split at h
    · exact step h
    · split at h
      · next hc =>
        split at h
        · simp only [Option.some.injEq, Prod.mk.injEq] at h
          rw [← h.1, ← h.2, hc, List.nil_append]
        · exact step h
      · exact step h

/-! ## Names -/

/-- The longest sigil that stands right before a place; `before` is the text there, backwards. -/
def longestSigil (sigils : List Text) (before : Text) : Option Text :=
  sigils.foldl
    (fun best sigil =>
      if Text.leads sigil.reverse before && best.all (·.length < sigil.length) then some sigil
      else best)
    none

/-- The length of the name that ends at a place: a run of name characters and the longest sigil
before it. -/
def nameLength? (sigils : List Text) (before : Text) : Option Nat :=
  let run := before.takeWhile isNameChar
  if run.isEmpty then none
  else (longestSigil sigils (before.drop run.length)).map fun sigil => sigil.length + run.length

/-! ## Splitting -/

/-- A run of plain text held backwards, unless it is empty. -/
def plainRun (backwards : Text) : List Segment :=
  if backwards.isEmpty then [] else [.plain backwards.reverse]

/-- The form whose bracket has been taken: the length of its name, its index and what follows it.
`plain` is the text since the last form and `earlier` all text before, both backwards. A name
may not reach into a form, and a bracket that nothing closes is text. -/
def formAt (sigils : List Text) (earlier plain : Text) (bracket : Bracket) (rest : Text) :
    Option (Nat × Text × Text) :=
  match nameLength? sigils (plain ++ earlier) with
  | none => none
  | some n => if n ≤ plain.length then (closing bracket 0 rest).map fun p => (n, p) else none

theorem length_of_formAt {sigils : List Text} {earlier plain rest index after : Text}
    {bracket : Bracket} {n : Nat}
    (h : formAt sigils earlier plain bracket rest = some (n, index, after)) :
    n ≤ plain.length ∧ rest = index ++ bracket.closing :: after := by
  simp only [formAt] at h
  split at h
  · simp at h
  · split at h
    · next hn =>
      obtain ⟨⟨i, r⟩, hp, he⟩ := Option.map_eq_some_iff.1 h
      simp only [Prod.mk.injEq] at he
      obtain ⟨rfl, rfl, rfl⟩ := he
      exact ⟨hn, closing_eq hp⟩
    · simp at h

def segmentsFrom (sigils : List Text) (earlier plain : Text) (t : Text) : List Segment :=
  match t with
  | [] => plainRun plain
  | c :: rest =>
    match bracket? c with
    | none => segmentsFrom sigils earlier (c :: plain) rest
    | some bracket =>
      match h : formAt sigils earlier plain bracket rest with
      | none => segmentsFrom sigils earlier (c :: plain) rest
      | some (n, index, after) =>
        have : after.length < rest.length + 1 := by
          rw [(length_of_formAt h).2, List.length_append, List.length_cons]
          omega
        plainRun (plain.drop n) ++ .indexed (plain.take n).reverse bracket index ::
          segmentsFrom sigils (bracket.closing :: index.reverse ++ c :: plain ++ earlier) [] after
termination_by t.length

/-- A text split into indexed forms and the text between them. A name is one of the sigils with a
run of name characters. -/
def segments (sigils : List Text) (t : Text) : List Segment :=
  segmentsFrom sigils [] [] t

/-! ## Nothing is lost -/

theorem source_plainRun (t : Text) : (plainRun t).flatMap Segment.source = t.reverse := by
  simp only [plainRun]
  split
  · next h => simp [List.isEmpty_iff.1 h]
  · simp [Segment.source]

theorem opening_of_bracket? {c : Char} {bracket : Bracket} (h : bracket? c = some bracket) :
    bracket.opening = c := by
  simp only [bracket?] at h
  split at h
  · next e => simp only [Option.some.injEq] at h; rw [← h, e]; rfl
  · split at h
    · next e => simp only [Option.some.injEq] at h; rw [← h, e]; rfl
    · simp at h

theorem segmentsFrom_source (sigils : List Text) (earlier plain t : Text) :
    (segmentsFrom sigils earlier plain t).flatMap Segment.source = plain.reverse ++ t := by
  fun_induction segmentsFrom sigils earlier plain t with
  | case1 earlier plain => simpa using source_plainRun plain
  | case2 earlier plain c rest hb ih => simpa using ih
  | case3 earlier plain c rest bracket hb hf ih => simpa using ih
  | case4 earlier plain c rest bracket hb n index after hf hlt ih =>
    have hp : (plain.drop n).reverse ++ (plain.take n).reverse = plain.reverse := by
      rw [← List.reverse_append, List.take_append_drop]
    simp only [List.flatMap_append, List.flatMap_cons, source_plainRun, Segment.source, ih,
      List.reverse_nil, List.nil_append, opening_of_bracket? hb]
    rw [(length_of_formAt hf).2, ← hp]
    simp

/-- The pieces of a text make up the text. -/
theorem segments_source (sigils : List Text) (t : Text) :
    (segments sigils t).flatMap Segment.source = t := by
  simpa [segments] using segmentsFrom_source sigils [] [] t

/-- The name and the index of a form are shorter than the text it stands in. -/
theorem length_of_indexed {sigils : List Text} {t name index : Text} {bracket : Bracket}
    (h : .indexed name bracket index ∈ segments sigils t) :
    name.length < t.length ∧ index.length < t.length := by
  have hle : (Segment.indexed name bracket index).source.length ≤ t.length := by
    obtain ⟨l, r, hs⟩ := List.append_of_mem h
    rw [← segments_source sigils t, hs]
    simp only [List.flatMap_append, List.flatMap_cons, List.length_append]
    omega
  simp only [Segment.source, List.length_append, List.length_cons, List.length_nil] at hle
  omega

end MudClient.Reference

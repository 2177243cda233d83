import MudClient.Proofs.Markup.Delimiter
import MudClient.Proofs.Markup.TextRun

/-!
# Writing events

* `QuoteMark`: the delimiter that a writer chooses for a value
* `escape`, `writeAttributes`, `writeTag`, `writeEvent`: events put into text
* `writeLine`: a line of events, with a choice of delimiter for each attribute of each event
* `Writable`, `WritableLine`: the events that have a written form
-/

set_option autoImplicit false

namespace MudClient.Markup

inductive QuoteMark
  | double
  | single
deriving DecidableEq, Repr

def QuoteMark.char : QuoteMark → Char
  | .double => '"'
  | .single => '\''

/-- A value with a backslash before each of its delimiters. -/
def escape (quote : Char) (value : Text) : Text :=
  value.flatMap fun c => if c = quote then ['\\', quote] else [c]

/-- The attributes of a tag, each behind a space; `choose` numbers them from zero. -/
def writeAttributes (choose : Nat → QuoteMark) : List (Text × Text) → Text
  | [] => []
  | (key, value) :: rest =>
    ' ' :: (key ++ '=' :: (choose 0).char :: (escape (choose 0).char value ++
      (choose 0).char :: writeAttributes (fun n => choose (n + 1)) rest))

def tagEnd (selfClosing : Bool) : Text :=
  if selfClosing then ['/', '>'] else ['>']

def writeTag (choose : Nat → QuoteMark) (selfClosing : Bool) (name : Text) (attributes : Attributes) :
    Text :=
  '<' :: (name ++ (writeAttributes choose attributes.toList ++ tagEnd selfClosing))

def writeEvent (choose : Nat → QuoteMark) : Event → Text
  | .text content => content
  | .opening name attributes => writeTag choose false name attributes
  | .selfClosing name attributes => writeTag choose true name attributes
  | .closing name => '<' :: '/' :: (name ++ ['>'])

/-- Events one after the other; `choose n` is the choice for the attributes of event number `n`. -/
def writeLine (choose : Nat → Nat → QuoteMark) : List Event → Text
  | [] => []
  | event :: events => writeEvent (choose 0) event ++ writeLine (fun n => choose (n + 1)) events

/-! ## What can be written -/

/-- A name that is read back as it is: a letter first, no character that ends a name, no capitals. -/
def WritableName (name : Text) : Prop :=
  name.head?.any Text.isLetter ∧ name.all isNameChar ∧ Text.lower name = name

/-- A key without blanks, quotes and punctuation of tags, and a value that no backslash ends. -/
def WritableAttribute (p : Text × Text) : Prop :=
  p.1 ≠ [] ∧ p.1.all isFurtherKeyChar ∧ p.2.getLast? ≠ some '\\'

def Writable : Event → Prop
  | .text content => content ≠ [] ∧ '<' ∉ content
  | .opening name attributes => WritableName name ∧ ∀ p ∈ attributes.toList, WritableAttribute p
  | .selfClosing name attributes => WritableName name ∧ ∀ p ∈ attributes.toList, WritableAttribute p
  | .closing name => WritableName name

/-- Every event can be written, and no two runs of text touch. -/
def WritableLine (events : List Event) : Prop :=
  (∀ event ∈ events, Writable event) ∧ Apart events

instance (p : Text × Text) : Decidable (WritableAttribute p) :=
  inferInstanceAs (Decidable (p.1 ≠ [] ∧ p.1.all isFurtherKeyChar ∧ p.2.getLast? ≠ some '\\'))

instance (name : Text) : Decidable (WritableName name) :=
  inferInstanceAs (Decidable (name.head?.any Text.isLetter ∧ name.all isNameChar ∧ Text.lower name = name))

instance : DecidablePred Writable
  | .text content => inferInstanceAs (Decidable (content ≠ [] ∧ '<' ∉ content))
  | .opening name attributes => inferInstanceAs
      (Decidable (WritableName name ∧ ∀ p ∈ attributes.toList, WritableAttribute p))
  | .selfClosing name attributes => inferInstanceAs
      (Decidable (WritableName name ∧ ∀ p ∈ attributes.toList, WritableAttribute p))
  | .closing name => inferInstanceAs (Decidable (WritableName name))

instance (events : List Event) : Decidable (WritableLine events) :=
  inferInstanceAs (Decidable ((∀ event ∈ events, Writable event) ∧ Apart events))

/-! ## Characters -/

theorem QuoteMark.char_ne_backslash (q : QuoteMark) : q.char ≠ '\\' := by
  cases q <;> decide

theorem QuoteMark.isQuote_char (q : QuoteMark) : isQuote q.char = true := by
  cases q <;> decide

theorem QuoteMark.isGap_char (q : QuoteMark) : isGap q.char = false := by
  cases q <;> decide

theorem isBlank_of_isGap {c : Char} (h : isGap c) : Text.isBlank c = true := by
  simp only [isGap, Bool.or_eq_true, decide_eq_true_eq] at h
  obtain ((rfl | rfl) | rfl) | rfl := h <;> decide

theorem isKeyChar_of_isFurtherKeyChar {c : Char} (h : isFurtherKeyChar c) : isKeyChar c = true := by
  have hgap : isGap c = false := by
    cases hg : isGap c with
    | false => rfl
    | true => simpa [isBlank_of_isGap hg] using isBlank_of_isFurtherKeyChar h
  simp only [isFurtherKeyChar, Bool.not_eq_true', Bool.or_eq_false_iff] at h
  simp [isKeyChar, hgap, h.1.1.1.1.1.2, h.1.1.1.1.2, h.1.1.1.2, h.2]

end MudClient.Markup

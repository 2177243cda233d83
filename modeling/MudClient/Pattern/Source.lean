import MudClient.Pattern.Problem
import MudClient.Text.Letter
import MudClient.Text.Numeral

/-!
# The source of a pattern

* `Token`: a character, or a backslash with the character after it
* `Source`: what is left of a pattern or a template, and the index it starts at
* `Source.pop`: takes a token; a backslash that would come next and be alone is refused at once
* `Source.accept`, `Source.takeUpTo`, `Source.takeWhile`, `Source.nameUntil`: longer pieces

Each reader returns a source with a proof that it is not longer, or shorter, than the one it was given.
-/

set_option autoImplicit false

namespace MudClient.Pattern

/-- Why a pattern is refused. Only a problem of the pattern is reported as such. -/
inductive Refusal
  | problem (problem : Problem)
  /-- The flag for byte patterns was given. -/
  | localeFlag
  /-- The flags for ASCII classes and for Unicode classes were both given. -/
  | asciiAndUnicode
  /-- A repetition has a bound beyond what can be counted. -/
  | hugeRepeat
  /-- A repetition has a bound with too many digits. -/
  | longRepeat (error : Text.TooManyDigits)
  /-- There are flags beyond those that can be held. -/
  | hugeFlags
deriving DecidableEq, Repr

def Refusal.message (refusal : Refusal) (source : Text) : String :=
  match refusal with
  | problem p => p.reason source
  | localeFlag => "cannot use LOCALE flag with a str pattern"
  | asciiAndUnicode => "ASCII and UNICODE flags are incompatible"
  | hugeRepeat => "the repetition number is too large"
  | longRepeat e => e.message
  | hugeFlags => "Python int too large to convert to C int"

def refuse {α : Type} (cause : Cause) (index : Nat) : Except Refusal α :=
  .error (.problem ⟨cause, some index⟩)

inductive Token
  | plain (c : Char)
  | escaped (c : Char)
deriving DecidableEq, Repr

def Token.written : Token → Text
  | plain c => [c]
  | escaped c => ['\\', c]

structure Source where
  index : Nat
  rest : Text

namespace Source

/-- Sources with less left. -/
abbrev Shorter (s : Source) : Type := { r : Source // r.rest.length < s.rest.length }

/-- Sources with no more left. -/
abbrev Within (s : Source) : Type := { r : Source // r.rest.length ≤ s.rest.length }

/-- A source is within itself. -/
def itself (s : Source) : s.Within :=
  ⟨s, Nat.le_refl _⟩

/-- A shorter source is within. -/
def Shorter.within {s : Source} (r : s.Shorter) : s.Within :=
  ⟨r.val, Nat.le_of_lt r.property⟩

/-- What is within a shorter source is shorter. -/
def Shorter.reach {s : Source} (r : s.Shorter) (t : r.val.Within) : s.Shorter :=
  ⟨t.val, Nat.lt_of_le_of_lt t.property r.property⟩

/-- What is within a source that is within is within. -/
def Within.reach {s : Source} (r : s.Within) (t : r.val.Within) : s.Within :=
  ⟨t.val, Nat.le_trans t.property r.property⟩

def peek (s : Source) : Option Token :=
  match s.rest with
  | [] => none
  | [c] => some (.plain c)
  | c :: d :: _ => if c = '\\' then some (.escaped d) else some (.plain c)

def nextIs (s : Source) (c : Char) : Bool :=
  s.peek == some (.plain c)

def nextSatisfies (s : Source) (p : Char → Bool) : Bool :=
  match s.peek with
  | some (.plain c) => p c
  | _ => false

def pop (s : Source) : Except Refusal (Option (Token × s.Shorter)) :=
  match h : s.rest with
  | [] => .ok none
  | [c] => .ok (some (.plain c, ⟨⟨s.index + 1, []⟩, by simp [h]⟩))
  | c :: d :: t =>
    if c = '\\' then
      if t = ['\\'] then refuse .danglingEscape (s.index + 2)
      else .ok (some (.escaped d, ⟨⟨s.index + 2, t⟩, by simp only [h, List.length_cons]; omega⟩))
    else if d :: t = ['\\'] then refuse .danglingEscape (s.index + 1)
    else .ok (some (.plain c, ⟨⟨s.index + 1, d :: t⟩, by simp [h]⟩))

def ofText (t : Text) : Except Refusal Source :=
  if t = ['\\'] then refuse .danglingEscape 0 else .ok ⟨0, t⟩

def accept (s : Source) (c : Char) : Except Refusal (Option s.Shorter) :=
  if s.nextIs c then do
    return (← s.pop).map (·.2)
  else return none

def takeUpTo (p : Char → Bool) : (n : Nat) → (s : Source) → Except Refusal (Text × s.Within)
  | 0, s => return ([], s.itself)
  | n + 1, s => do
    if s.nextSatisfies p then
      match ← s.pop with
      | none => return ([], s.itself)
      | some (token, s') =>
        let (more, s'') ← takeUpTo p n s'.val
        return (token.written ++ more, (s'.reach s'').within)
    else return ([], s.itself)

def takeWhile (p : Char → Bool) (s : Source) : Except Refusal (Text × s.Within) :=
  takeUpTo p s.rest.length s

/-- Takes a name up to `stop`; `read` has been taken of it, `what` is what is named. -/
def nameUntil (stop : Char) (what : String) (s : Source) (read : Text) :
    Except Refusal (Text × s.Shorter) := do
  match ← s.pop with
  | none =>
    if read.isEmpty then refuse (.missingName what) s.index
    else refuse (.unterminatedName stop) (s.index - read.length)
  | some (token, s') =>
    if token = .plain stop then
      if read.isEmpty then refuse (.missingName what) (s'.val.index - 1)
      else return (read, s')
    else
      let (name, s'') ← nameUntil stop what s'.val (read ++ token.written)
      return (name, s'.reach s''.within)
termination_by s.rest.length
decreasing_by exact s'.property

/-- Passes over everything up to a character and that character; false if it does not come. -/
def skipPast (stop : Char) (s : Source) : Except Refusal (Bool × s.Within) := do
  match ← s.pop with
  | none => return (false, s.itself)
  | some (token, s') =>
    if token = .plain stop then return (true, s'.within)
    else
      let (found, s'') ← skipPast stop s'.val
      return (found, (s'.reach s'').within)
termination_by s.rest.length
decreasing_by exact s'.property

end Source

end MudClient.Pattern

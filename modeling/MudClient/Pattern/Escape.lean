import MudClient.Pattern.Source
import MudClient.Pattern.Syntax

/-!
# Escapes and sets of characters

* `CharacterNames`: the characters that can be named
* `codeEscape`: escapes that give a code point by number or name
* `classEscape`: an escape inside a set
* `readSet`: a set after its opening bracket
* `Text.escaped`: a text written so that a pattern matches it literally
-/

set_option autoImplicit false

namespace MudClient

def Text.specialChars : List Char :=
  ['(', ')', '[', ']', '\x7b', '\x7d', '?', '*', '+', '-', '|', '^', '$', '\\', '.', '&', '~', '#',
    ' ', '\t', '\n', '\r', '\x0b', '\x0c']

/-- A text as a pattern for itself: a backslash before every special character. -/
def Text.escaped (t : Text) : Text :=
  t.flatMap fun c => if Text.specialChars.contains c then ['\\', c] else [c]

namespace Pattern

/-- The characters by name. What names there are, and how they may be spelled, is left to the table. -/
abbrev CharacterNames := Text → Option Char

def isOctalDigit (c : Char) : Bool := '0' ≤ c && c ≤ '7'

/-- The code points of the letters that stand for a control character, and of the backslash. -/
def controlEscape? (c : Char) : Option Nat :=
  match c with
  | 'a' => some 0x07
  | 'b' => some 0x08
  | 'f' => some 0x0C
  | 'n' => some 0x0A
  | 'r' => some 0x0D
  | 't' => some 0x09
  | 'v' => some 0x0B
  | '\\' => some 0x5C
  | _ => none

/-- The named classes by letter; a capital negates. -/
def categoryEscape? (c : Char) : Option ClassItem :=
  match c with
  | 'd' => some (.category .digit false)
  | 'D' => some (.category .digit true)
  | 's' => some (.category .space false)
  | 'S' => some (.category .space true)
  | 'w' => some (.category .word false)
  | 'W' => some (.category .word true)
  | _ => none

/-- The code point given by exactly `count` hexadecimal digits after `letter`; the backslash
is at `start`. -/
def hexEscape (start : Nat) (letter : Char) (count : Nat) (s : Source) :
    Except Refusal (Nat × s.Within) := do
  let (digits, s') ← s.takeUpTo Text.isHexDigit count
  let written := '\\' :: letter :: digits
  if digits.length ≠ count then refuse (.incompleteEscape written) start
  let code := Text.numeral 16 digits
  if code > 0x10FFFF then refuse (.badEscape written) start
  return (code, s')

/-- A character by its name between braces. -/
def namedEscape (names : CharacterNames) (start : Nat) (s : Source) :
    Except Refusal (Nat × s.Within) := do
  match ← s.accept '\x7b' with
  | none => refuse (.missingChar '\x7b') s.index
  | some s₁ =>
    let (name, s₂) ← s₁.val.nameUntil '\x7d' "character name" []
    match names name with
    | none => refuse (.unknownCharacter name) start
    | some c => return (c.toNat, (s₁.reach s₂.within).within)

/-- The code point of an escape by number or name, if the letter is one of those. -/
def codeEscape (names : CharacterNames) (start : Nat) (letter : Char) (s : Source) :
    Except Refusal (Option (Nat × s.Within)) := do
  match letter with
  | 'x' => return some (← hexEscape start 'x' 2 s)
  | 'u' => return some (← hexEscape start 'u' 4 s)
  | 'U' => return some (← hexEscape start 'U' 8 s)
  | 'N' => return some (← namedEscape names start s)
  | _ => return none

/-- The code point of octal digits, of which `first` has been taken. -/
def octalEscape (start : Nat) (digits : Text) : Except Refusal Nat := do
  let code := Text.numeral 8 digits
  if code > 0xFF then refuse (.octalTooLarge ('\\' :: digits)) start
  return code

/-- An escape inside a set; the backslash is at `start`. -/
def classEscape (names : CharacterNames) (start : Nat) (c : Char) (s : Source) :
    Except Refusal (ClassItem × s.Within) := do
  match controlEscape? c with
  | some code => return (.code code, s.itself)
  | none =>
    match categoryEscape? c with
    | some item => return (item, s.itself)
    | none =>
      match ← codeEscape names start c s with
      | some (code, s') => return (.code code, s')
      | none =>
        if isOctalDigit c then
          let (digits, s') ← s.takeUpTo isOctalDigit 2
          return (.code (← octalEscape start (c :: digits)), s')
        else if c.isDigit || c.isAlpha then refuse (.badEscape ['\\', c]) start
        else return (.code c.toNat, s.itself)

/-- The member of a set that starts with a token, which has been taken. -/
def classItem (names : CharacterNames) (token : Token) (s : Source) :
    Except Refusal (ClassItem × s.Within) :=
  match token with
  | .plain c => return (.code c.toNat, s.itself)
  | .escaped c => classEscape names (s.index - 2) c s

/-- The range between two members, which have to be characters in order; it ends at `index`. -/
def rangeItem (first last : ClassItem) (token token' : Token) (index : Nat) :
    Except Refusal ClassItem :=
  let wrong := refuse (.badRange token.written token'.written)
    (index - (token.written.length + 1 + token'.written.length))
  match first, last with
  | .code lo, .code hi => if hi < lo then wrong else return .range lo hi
  | _, _ => wrong

/-- The members of a set up to its closing bracket; a bracket that comes first is a member. The
opening bracket is at `opening`, and `items` have been read. -/
def setItems (names : CharacterNames) (opening : Nat) (items : List ClassItem) (s : Source) :
    Except Refusal (List ClassItem × s.Shorter) := do
  match ← s.pop with
  | none => refuse .unterminatedSet opening
  | some (token, s₁) =>
    if token = .plain ']' && !items.isEmpty then return (items, s₁)
    let (first, r₁) ← classItem names token s₁.val
    let s₂ := s₁.reach r₁
    match ← s₂.val.accept '-' with
    | none =>
      let (all, r) ← setItems names opening (items ++ [first]) s₂.val
      return (all, s₂.reach r.within)
    | some r₂ =>
      let s₃ := s₂.reach r₂.within
      match ← s₃.val.pop with
      | none => refuse .unterminatedSet opening
      | some (token', r₃) =>
        let s₄ := s₃.reach r₃.within
        if token' = .plain ']' then return (items ++ [first, .code '-'.toNat], s₄)
        let (last, r₄) ← classItem names token' s₄.val
        let s₅ := s₄.reach r₄
        let range ← rangeItem first last token token' s₅.val.index
        let (all, r) ← setItems names opening (items ++ [range]) s₅.val
        return (all, s₅.reach r.within)
termination_by s.rest.length
decreasing_by
  · exact s₂.property
  · exact s₅.property

/-- A set after its opening bracket: whether it is negated, and its members. -/
def readSet (names : CharacterNames) (s : Source) : Except Refusal (Bool × List ClassItem × s.Shorter) := do
  match ← s.accept '^' with
  | none =>
    let (items, s') ← setItems names (s.index - 1) [] s
    return (false, items, s')
  | some s' =>
    let (items, s'') ← setItems names (s.index - 1) [] s'.val
    return (true, items, s'.reach s''.within)

end Pattern

end MudClient

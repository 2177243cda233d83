import MudClient.Text.CodeRange
import MudClient.Text.NamedCharacter
import MudClient.Text.Numeral

/-!
# Character references

* `CharacterReference.ofNumber`: the character that a number stands for
* `CharacterReference.named`, `CharacterReference.longestNamed`: the characters that a name stands for
* `CharacterReference.read`: the reference after an ampersand
* `CharacterReference.decode`: a text with its references replaced, none of them twice
-/

set_option autoImplicit false

namespace MudClient.CharacterReference

open Text (TooManyDigits)

/-! ## Numbers -/

/-- The numbers of the upper controls stand for the printable characters of the code page 1252, where
it has one. -/
def replacements : List (Nat × Nat) :=
  [(0x80, 0x20AC), (0x82, 0x201A), (0x83, 0x192), (0x84, 0x201E), (0x85, 0x2026), (0x86, 0x2020),
    (0x87, 0x2021), (0x88, 0x2C6), (0x89, 0x2030), (0x8A, 0x160), (0x8B, 0x2039), (0x8C, 0x152),
    (0x8E, 0x17D), (0x91, 0x2018), (0x92, 0x2019), (0x93, 0x201C), (0x94, 0x201D), (0x95, 0x2022),
    (0x96, 0x2013), (0x97, 0x2014), (0x98, 0x2DC), (0x99, 0x2122), (0x9A, 0x161), (0x9B, 0x203A),
    (0x9C, 0x153), (0x9E, 0x17E), (0x9F, 0x178)]

/-- The control characters that no reference stands for. -/
def droppedControls : List (Nat × Nat) :=
  [(0x1, 0x8), (0xB, 0xB), (0xE, 0x1F), (0x7F, 0x7F)]

/-- Code points set apart from characters: a block of their own and the last two of every plane. -/
def isNoncharacter (code : Nat) : Bool :=
  (0xFDD0 ≤ code && code ≤ 0xFDEF) || 0xFFFE ≤ code % 0x10000

/-- The text that a numeric reference stands for: the replacement character for zero, surrogates and
numbers beyond the last code point, and nothing for controls and noncharacters. -/
def ofNumber (code : Nat) : Text :=
  if code = 0 || (0xD800 ≤ code && code ≤ 0xDFFF) || 0x10FFFF < code then ['\uFFFD']
  else
    match replacements.lookup code with
    | some other => [Char.ofNat other]
    | none =>
      if CodeRange.covers droppedControls code || isNoncharacter code then []
      else [Char.ofNat code]

/-! ## Names -/

/-- The characters of a name, given without its semicolon. -/
def named (name : Text) : Option Text :=
  (NamedCharacter.codes.lookup (String.ofList name)).map fun codes => codes.map Char.ofNat

def bare (name : Text) : Option Text :=
  if NamedCharacter.bareNames.contains (String.ofList name) then named name else none

/-- The longest name within the first `n` characters that needs no semicolon: what it stands for, and
its length. Names have two characters at least. -/
def longestNamed (t : Text) : Nat → Option (Text × Nat)
  | 0 => none
  | 1 => none
  | n + 2 =>
    match bare (t.take (n + 2)) with
    | some value => some (value, n + 2)
    | none => longestNamed t (n + 1)

/-- Names have at most so many characters. -/
def nameLimit : Nat := 32

def isNameChar (c : Char) : Bool :=
  !(c = '\t' || c = '\n' || c = '\x0c' || c = ' ' || c = '<' || c = '&' || c = '#' || c = ';')

/-! ## References -/

def closedAt (t : Text) (n : Nat) : Bool :=
  (t.drop n).head? = some ';'

/-- A numeric reference of `n` characters, with the semicolon after it if there is one. -/
def numeric (t : Text) (n code : Nat) : Text × Nat :=
  (ofNumber code, if closedAt t n then n + 1 else n)

/-- A name with the semicolon after it, or else the longest name in front that needs none. -/
def readNamed (t : Text) : Option (Text × Nat) :=
  let name := (t.take nameLimit).takeWhile isNameChar
  let whole := if closedAt t name.length then (named name).map fun v => (v, name.length + 1) else none
  match whole with
  | some found => some found
  | none => longestNamed name name.length

/-- The reference after an ampersand, if there is one: what it stands for, and how many characters
it takes. -/
def read (t : Text) : Except TooManyDigits (Option (Text × Nat)) :=
  match t with
  | '#' :: c :: rest =>
    if c = 'x' || c = 'X' then
      let digits := rest.takeWhile Text.isHexDigit
      if digits.isEmpty then .ok none
      else .ok (some (numeric t (digits.length + 2) (Text.numeral 16 digits)))
    else
      let digits := (c :: rest).takeWhile Char.isDigit
      if digits.isEmpty then .ok none
      else do
        let code ← Text.decimal? digits
        return some (numeric t (digits.length + 1) code)
  | _ => .ok (readNamed t)

/-- A text with its references replaced, from the left to the right; what they stand for is not
looked at again. -/
def decode (t : Text) : Except TooManyDigits Text :=
  match t with
  | [] => .ok []
  | c :: rest => do
    match ← if c = '&' then read rest else .ok none with
    | none => return c :: (← decode rest)
    | some (value, taken) => return value ++ (← decode (rest.drop taken))
termination_by t.length
decreasing_by
  · simp
  · simp only [List.length_drop, List.length_cons]; omega

theorem decode_of_no_ampersand {t : Text} (h : '&' ∉ t) : decode t = .ok t := by
  induction t with
  | nil => simp [decode]
  | cons c t ih =>
    rw [decode]
    have hc : c ≠ '&' := fun e => h (by simp [e])
    have ht : '&' ∉ t := fun m => h (List.mem_cons_of_mem _ m)
    simp [hc, ih ht, bind, Except.bind, pure, Except.pure]

end MudClient.CharacterReference

import MudClient.Pattern.Source
import MudClient.Pattern.Syntax

/-!
# Flags

* `Flags`: the settings a pattern is read and matched under
* `Flags.ofBits`: the settings from a set of bits
* `InlineFlags`, `readInlineFlags`: settings written inside a pattern
-/

set_option autoImplicit false

namespace MudClient.Pattern

structure Flags where
  /-- Nothing may be repeated. -/
  template : Bool
  ignoreCase : Bool
  locale : Bool
  multiline : Bool
  dotAll : Bool
  unicode : Bool
  verbose : Bool
  ascii : Bool
deriving DecidableEq, Repr

namespace Flags

/-- A bit of a number. A negative number has ones without end. -/
def bit (n : Int) (i : Nat) : Bool := n >>> i % 2 == 1

/-- The settings from the bits 1, 2, 4, 8, 16, 32, 64 and 256 of a number. -/
def ofBits (n : Int) : Flags where
  template := bit n 0
  ignoreCase := bit n 1
  locale := bit n 2
  multiline := bit n 3
  dotAll := bit n 4
  unicode := bit n 5
  verbose := bit n 6
  ascii := bit n 8

/-- Flags are held in 32 bits, one of them for the sign. -/
def fit (n : Int) : Bool := -0x80000000 ≤ n && n < 0x80000000

def folding (flags : Flags) : Folding :=
  if !flags.ignoreCase then .exact else if flags.ascii then .ascii else .all

/-- One setting switched by its letter. -/
def set (flags : Flags) (on : Bool) (letter : Char) : Flags :=
  match letter with
  | 'i' => { flags with ignoreCase := on }
  | 'm' => { flags with multiline := on }
  | 's' => { flags with dotAll := on }
  | 'x' => { flags with verbose := on }
  | 'a' => { flags with ascii := on }
  | 't' => { flags with template := on }
  | 'u' => { flags with unicode := on }
  | _ => flags

def turnOn (flags : Flags) (letters : List Char) : Flags :=
  letters.foldl (fun f letter => f.set true letter) flags

/-- Settings switched on and off inside a group. Choosing the character classes there undoes the
choice made outside. -/
def forGroup (flags : Flags) (on off : List Char) : Flags :=
  let base := if on.contains 'a' || on.contains 'u' then { flags with ascii := false, unicode := false }
    else flags
  off.foldl (fun f letter => f.set false letter) (base.turnOn on)

end Flags

def flagLetters : List Char := ['i', 'L', 'm', 's', 'x', 'a', 't', 'u']

def typeLetters : List Char := ['a', 'L', 'u']

def Token.flag? : Token → Option Char
  | .plain c => if flagLetters.contains c then some c else none
  | .escaped _ => none

/-- What stands where a letter was expected: an unknown letter, or something else altogether. -/
def Token.notFlag (token : Token) (otherwise : Cause) : Cause :=
  match token with
  | .plain c => if Text.isLetter c then .unknownFlag else otherwise
  | .escaped _ => otherwise

inductive InlineFlags
  /-- For the whole pattern. -/
  | overall (on : List Char)
  /-- For the group that begins. -/
  | forGroup (on off : List Char)
deriving Repr

/-- The letters to be switched on, from `letter` on, and the token that ends them. -/
def flagsOn (on : List Char) (letter : Char) (s : Source) :
    Except Refusal (List Char × Token × s.Shorter) := do
  if letter = 'L' then refuse .localeFlag s.index
  let on := on ++ [letter]
  if typeLetters.contains letter && on.any (fun c => typeLetters.contains c && c != letter) then
    refuse .incompatibleFlags s.index
  match ← s.pop with
  | none => refuse .missingFlagEnd s.index
  | some (token, s') =>
    if token = .plain ')' || token = .plain '-' || token = .plain ':' then return (on, token, s')
    match token.flag? with
    | none => refuse (token.notFlag .missingFlagEnd) (s'.val.index - token.written.length)
    | some next =>
      let (all, last, s'') ← flagsOn on next s'.val
      return (all, last, s'.reach s''.within)
termination_by s.rest.length
decreasing_by exact s'.property

/-- The letters to be switched off, from `letter` on, up to the colon. -/
def flagsOff (off : List Char) (letter : Char) (s : Source) :
    Except Refusal (List Char × s.Shorter) := do
  if typeLetters.contains letter then refuse .typeFlagOff s.index
  let off := off ++ [letter]
  match ← s.pop with
  | none => refuse .missingColon s.index
  | some (token, s') =>
    if token = .plain ':' then return (off, s')
    match token.flag? with
    | none => refuse (token.notFlag .missingColon) (s'.val.index - token.written.length)
    | some next =>
      let (all, s'') ← flagsOff off next s'.val
      return (all, s'.reach s''.within)
termination_by s.rest.length
decreasing_by exact s'.property

def flagsAfterMinus (s : Source) : Except Refusal (List Char × s.Shorter) := do
  match ← s.pop with
  | none => refuse .missingFlag s.index
  | some (token, s') =>
    match token.flag? with
    | none => refuse (token.notFlag .missingFlag) (s'.val.index - token.written.length)
    | some letter =>
      let (off, s'') ← flagsOff [] letter s'.val
      return (off, s'.reach s''.within)

/-- What letters before and after a minus sign say for a group; `index` is where its colon ends. -/
def groupFlags (on off : List Char) (index : Nat) : Except Refusal InlineFlags := do
  if off.contains 't' then refuse .globalFlagOff (index - 1)
  if on.any off.contains then refuse .flagOnAndOff (index - 1)
  return .forGroup on off

/-- Settings whose first token, a letter or a minus sign, has been taken. -/
def readInlineFlags (first : Token) (s : Source) : Except Refusal (InlineFlags × s.Shorter) := do
  match first.flag? with
  | none =>
    let (off, s') ← flagsAfterMinus s
    return (← groupFlags [] off s'.val.index, s')
  | some letter =>
    let (on, last, s') ← flagsOn [] letter s
    if last = .plain ')' then return (.overall on, s')
    if on.contains 't' then refuse .globalFlagOn (s'.val.index - 1)
    if last = .plain '-' then
      let (off, s'') ← flagsAfterMinus s'.val
      return (← groupFlags on off s''.val.index, s'.reach s''.within)
    return (← groupFlags on [] s'.val.index, s')

end MudClient.Pattern

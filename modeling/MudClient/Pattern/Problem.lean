import MudClient.Text.Quoted

/-!
# What can be wrong with a pattern

* `Cause`: the causes for which a pattern or a replacement template is refused
* `Problem`: a cause and the place it was found at
* `Problem.reason`: the wording, with line and column when the pattern has several lines
-/

set_option autoImplicit false

namespace MudClient.Pattern

/-- Why a pattern or a template cannot be read. Names and numbers are as they were written. -/
inductive Cause
  | unterminatedGroup
  | unterminatedComment
  | unterminatedSet
  | unterminatedName (stop : Char)
  | unbalancedParenthesis
  | badRange (first last : Text)
  | nothingToRepeat
  | multipleRepeat
  | emptyRepeatRange
  | groupRedefined (name : Text) (number earlier : Nat)
  | badGroupName (name : Text)
  | missingName (what : String)
  | missingChar (c : Char)
  | unknownGroup (name : Text)
  | invalidReference (number : Nat)
  | zeroGroup
  | openGroup
  | groupOfSameLookBehind
  | thirdBranch
  | danglingEscape
  | badEscape (written : Text)
  | incompleteEscape (written : Text)
  | octalTooLarge (written : Text)
  | unknownCharacter (name : Text)
  | unknownExtension (written : Text)
  | unexpectedEnd
  | lateGlobalFlags
  | localeFlag
  | incompatibleFlags
  | unknownFlag
  | missingFlag
  | missingFlagEnd
  | missingColon
  | globalFlagOn
  | globalFlagOff
  | typeFlagOff
  | flagOnAndOff
  | templateRepeat (operator : String)
  | farLookBehind
  | variableLookBehind
deriving DecidableEq, Repr

def Cause.message : Cause → String
  | unterminatedGroup => "missing ), unterminated subpattern"
  | unterminatedComment => "missing ), unterminated comment"
  | unterminatedSet => "unterminated character set"
  | unterminatedName stop => "missing " ++ String.singleton stop ++ ", unterminated name"
  | unbalancedParenthesis => "unbalanced parenthesis"
  | badRange first last =>
    "bad character range " ++ String.ofList first ++ "-" ++ String.ofList last
  | nothingToRepeat => "nothing to repeat"
  | multipleRepeat => "multiple repeat"
  | emptyRepeatRange => "min repeat greater than max repeat"
  | groupRedefined name number earlier =>
    "redefinition of group name " ++ String.ofList name.quoted ++ " as group " ++ toString number ++
      "; was group " ++ toString earlier
  | badGroupName name => "bad character in group name " ++ String.ofList name.quoted
  | missingName what => "missing " ++ what
  | missingChar c => "missing " ++ String.singleton c
  | unknownGroup name => "unknown group name " ++ String.ofList name.quoted
  | invalidReference number => "invalid group reference " ++ toString number
  | zeroGroup => "bad group number"
  | openGroup => "cannot refer to an open group"
  | groupOfSameLookBehind => "cannot refer to group defined in the same lookbehind subpattern"
  | thirdBranch => "conditional backref with more than two branches"
  | danglingEscape => "bad escape (end of pattern)"
  | badEscape written => "bad escape " ++ String.ofList written
  | incompleteEscape written => "incomplete escape " ++ String.ofList written
  | octalTooLarge written =>
    "octal escape value " ++ String.ofList written ++ " outside of range 0-0o377"
  | unknownCharacter name => "undefined character name " ++ String.ofList name.quoted
  | unknownExtension written => "unknown extension ?" ++ String.ofList written
  | unexpectedEnd => "unexpected end of pattern"
  | lateGlobalFlags => "global flags not at the start of the expression"
  | localeFlag => "bad inline flags: cannot use 'L' flag with a str pattern"
  | incompatibleFlags => "bad inline flags: flags 'a', 'u' and 'L' are incompatible"
  | unknownFlag => "unknown flag"
  | missingFlag => "missing flag"
  | missingFlagEnd => "missing -, : or )"
  | missingColon => "missing :"
  | globalFlagOn => "bad inline flags: cannot turn on global flag"
  | globalFlagOff => "bad inline flags: cannot turn off global flag"
  | typeFlagOff => "bad inline flags: cannot turn off flags 'a', 'u' and 'L'"
  | flagOnAndOff => "bad inline flags: flag turned on and off"
  | templateRepeat operator => "internal: unsupported template operator " ++ operator
  | farLookBehind => "looks too much behind"
  | variableLookBehind => "look-behind requires fixed-width pattern"

/-- A cause and the index it is reported at, unless it concerns the pattern as a whole. -/
structure Problem where
  cause : Cause
  position : Option Nat
deriving DecidableEq, Repr

/-- The number of the line that holds an index, from 1 on. -/
def lineAt (source : Text) (index : Nat) : Nat :=
  (source.take index).count '\n' + 1

/-- The number of the column of an index in its line, from 1 on. -/
def columnAt (source : Text) (index : Nat) : Nat :=
  ((source.take index).reverse.takeWhile (· ≠ '\n')).length + 1

def Problem.reason (problem : Problem) (source : Text) : String :=
  match problem.position with
  | none => problem.cause.message
  | some index =>
    let place := problem.cause.message ++ " at position " ++ toString index
    if source.contains '\n' then
      place ++ " (line " ++ toString (lineAt source index) ++ ", column " ++
        toString (columnAt source index) ++ ")"
    else place

end MudClient.Pattern

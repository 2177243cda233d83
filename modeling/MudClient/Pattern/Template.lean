import MudClient.Pattern.Match

/-!
# Replacement templates

* `TemplatePart`: a piece of text, or the text of a group
* `TemplateError`: what can be wrong with a template
* `readTemplate`: the parts of a template for a pattern
* `Regex.replace`: a text with every match replaced by a template
-/

set_option autoImplicit false

namespace MudClient.Pattern

inductive TemplatePart
  | literal (content : Text)
  | group (number : Nat)
deriving DecidableEq, Repr

inductive TemplateError
  | refused (refusal : Refusal)
  | unknownGroup (name : Text)
deriving DecidableEq, Repr

/-- Reads with the readers of patterns. -/
def asTemplate {α : Type} (m : Except Refusal α) : Except TemplateError α :=
  m.mapError .refused

def refuseTemplate {α : Type} (cause : Cause) (index : Nat) : Except TemplateError α :=
  asTemplate (refuse cause index)

/-- The group of a number, which the pattern must have; the number stands at `index`. -/
def groupPart (re : Regex) (number index : Nat) : Except TemplateError TemplatePart :=
  if re.groupCount < number then refuseTemplate (.invalidReference number) index
  else return .group number

def namedPart (re : Regex) (s : Source) : Except TemplateError (TemplatePart × s.Within) := do
  match ← asTemplate (s.accept '<') with
  | none => refuseTemplate (.missingChar '<') s.index
  | some s₁ =>
    let (name, s₂) ← asTemplate (s₁.val.nameUntil '>' "group name" [])
    let index := s₂.val.index - (name.length + 1)
    let rest := (s₁.reach s₂.within).within
    if Text.isIdentifier name then
      match re.names.lookup name with
      | none => throw (.unknownGroup name)
      | some number => return (.group number, rest)
    else
      match Text.integer? name with
      | some (.ofNat number) =>
        if Reading.groupBound ≤ number then refuseTemplate (.invalidReference number) index
        return (← groupPart re number index, rest)
      | _ => refuseTemplate (.badGroupName name) index

/-- A group by number, or a character by three octal digits; `c` is the first digit and the
backslash is at `start`. -/
def numberPart (re : Regex) (start : Nat) (c : Char) (s : Source) :
    Except TemplateError (TemplatePart × s.Within) := do
  let (more, s₁) ← asTemplate (s.takeUpTo Char.isDigit 1)
  let octal := isOctalDigit c && more.length == 1 && more.all isOctalDigit &&
    s₁.val.nextSatisfies isOctalDigit
  if octal then
    let (last, s₂) ← asTemplate (s₁.val.takeUpTo isOctalDigit 1)
    let code ← asTemplate (octalEscape start (c :: more ++ last))
    return (.literal [Char.ofNat code], s₁.reach s₂)
  else return (← groupPart re (Text.numeral 10 (c :: more)) (start + 1), s₁)

/-- An escape in a template; the backslash is at `start`. A backslash before a character
that is neither letter nor digit stands for itself, and so does the character. -/
def templateEscape (re : Regex) (start : Nat) (c : Char) (s : Source) :
    Except TemplateError (TemplatePart × s.Within) := do
  let here := s.itself
  if c = 'g' then namedPart re s
  else if c = '0' then
    let (digits, s') ← asTemplate (s.takeUpTo isOctalDigit 2)
    return (.literal [Char.ofNat (Text.numeral 8 digits % 256)], s')
  else if c.isDigit then numberPart re start c s
  else
    match controlEscape? c with
    | some code => return (.literal [Char.ofNat code], here)
    | none =>
      if c.isAlpha then refuseTemplate (.badEscape ['\\', c]) start
      else return (.literal ['\\', c], here)

def templateParts (re : Regex) (s : Source) : Except TemplateError (List TemplatePart) := do
  match ← asTemplate s.pop with
  | none => return []
  | some (token, s₁) =>
    let (part, s₂) ← show Except TemplateError (TemplatePart × s₁.val.Within) from
      match token with
      | .plain c => return (.literal [c], s₁.val.itself)
      | .escaped c => templateEscape re s.index c s₁.val
    return part :: (← templateParts re (s₁.reach s₂).val)
termination_by s.rest.length
decreasing_by exact (s₁.reach s₂).property

def readTemplate (re : Regex) (template : Text) : Except TemplateError (List TemplatePart) := do
  templateParts re (← asTemplate (Source.ofText template))

/-- What a part stands for in a match of `t`; a group that took no part is empty. -/
def TemplatePart.expand (t : Text) (m : Match) : TemplatePart → Text
  | literal content => content
  | group number => (m.text? t number).getD []

/-- The text with every match replaced by the template. A template is checked even when
nothing matches. -/
def Regex.replace (re : Regex) (template t : Text) : Except TemplateError Text := do
  let parts ← readTemplate re template
  return re.substitute (fun m => parts.flatMap (TemplatePart.expand t m)) t

end MudClient.Pattern

import MudClient.Reference.Cascade
import MudClient.Reference.Segment

/-!
# Expansion of references

* `roundLimit`: how often a text is gone over at most
* `element?`: the element that an index picks from a list of values
* `settle`: the cascade, repeated until nothing changes
* `expandIndexed`: indexed forms, with what is inside them expanded first
* `expand`: a text with every reference expanded that can be resolved
-/

set_option autoImplicit false

namespace MudClient.Reference

variable {World : Type}

/-- A text is gone over at most so many times, so that values that refer to themselves come to
an end. -/
def roundLimit : Nat := 15

/-- An index is one or more ASCII digits. -/
def isIndex (t : Text) : Bool :=
  !t.isEmpty && t.all Char.isDigit

/-- The element of a list between vertical bars that an index picks, if it is an index within
the list. -/
def element? (values index : Text) : Except ExpandError (Option Text) :=
  if !isIndex index then .ok none
  else
    match Text.decimal? index with
    | .error e => .error (.indexTooLong e)
    | .ok n => .ok (Text.splitOn '|' values)[n]?

/-- The cascade over a text, at most `n` times, while it holds a sigil and changes. -/
def settle (ctx : Context World) : Nat → Text → Expansion World Text
  | 0, t => return t
  | n + 1, t =>
    if !ctx.mayRefer t then return t
    else do
      let t' ← simplifyAll ctx t
      if t' = t then return t' else settle ctx n t'

/-- An indexed form whose name and index have been expanded: the element that is picked, or else
the form with what its parts have become. A name that stayed the same picks nothing. -/
def indexedForm (written name : Text) (bracket : Bracket) (index : Text) :
    Except ExpandError Text := do
  let picked ← if name = written then .ok none else element? name index
  return picked.getD (Segment.indexed name bracket index).source

/-- Expands the indexed forms of a text. The name and the index of a form are shorter than the text,
so the forms inside them come to an end; then the cascade is run over each. -/
def expandIndexed (ctx : Context World) (t : Text) : Expansion World Text :=
  if !(t.contains '[' || t.contains '(') then return t
  else if !(segments ctx.sigils t).any Segment.isIndexed then return t
  else do
    let parts ← (segments ctx.sigils t).attach.mapM fun ⟨segment, h⟩ =>
      match segment with
      | .plain content => return content
      | .indexed name bracket index => do
        have := length_of_indexed h
        let name' ← settle ctx roundLimit (← expandIndexed ctx name)
        let index' ← settle ctx roundLimit (← expandIndexed ctx index)
        liftExcept (indexedForm name name' bracket index')
    return parts.flatten
termination_by t.length
where
  /-- A step that neither reads patterns nor asks resolvers. -/
  liftExcept (e : Except ExpandError Text) : Expansion World Text :=
    fun ledger => (e, ledger)

/-- Goes over a text at most `n` times: indexed forms first, then the cascade of each setting. -/
def rounds (ctx : Context World) : Nat → Text → Expansion World Text
  | 0, t => return t
  | n + 1, t => do
    let t' ← simplifyAll ctx (← expandIndexed ctx t)
    if t' = t || !ctx.mayRefer t' then return t' else rounds ctx n t'

/-- Expands every reference that can be resolved. A text without a sigil stays as it is. -/
def expand (ctx : Context World) (t : Text) : Expansion World Text :=
  if ctx.mayRefer t then rounds ctx roundLimit t else return t

end MudClient.Reference

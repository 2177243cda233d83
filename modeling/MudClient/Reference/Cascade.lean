import MudClient.Pattern.Cache
import MudClient.Reference.Context
import MudClient.Text.Numeral

/-!
# The cascade of name patterns

* `Ledger`: the patterns read so far, and the world of the resolvers
* `Expansion`: a computation that reads patterns and asks resolvers
* `nameClasses`: the three classes of names, most permissive first
* `pass`: one pattern over a text, from the last reference to the first
* `simplify`: the whole cascade for one setting
-/

set_option autoImplicit false

namespace MudClient.Reference

open Pattern (Cache Regex Match Refusal)

inductive ExpandError
  /-- A pattern for references could not be read. -/
  | badPattern (source : Text) (refusal : Refusal)
  /-- An index has more digits than numbers are read with. -/
  | indexTooLong (error : Text.TooManyDigits)
deriving DecidableEq, Repr

def ExpandError.message : ExpandError → String
  | badPattern source refusal => (Pattern.Failure.refused source refusal).message
  | indexTooLong e => e.message

/-- What an expansion reads and changes besides the text. -/
structure Ledger (World : Type) where
  cache : Cache
  world : World

/-- A computation that reads patterns and asks resolvers, and may fail. -/
abbrev Expansion (World : Type) := ExceptT ExpandError (StateM (Ledger World))

variable {World : Type}

def Setting.ask (setting : Setting World) (key : Text) : Expansion World (Option Text) := do
  let ledger ← get
  let (value, world) := setting.resolve key ledger.world
  set { ledger with world := world }
  return value

def pattern (source : Text) : Expansion World Regex := do
  let ledger ← get
  let (result, cache) := ledger.cache.read source 0
  set { ledger with cache := cache }
  match result with
  | .ok re => return re
  | .error refusal => throw (.badPattern source refusal)

/-- The classes of names: with hyphens and full stops, with hyphens, and letters and digits alone.
A later class finds the names that an earlier one took too much for. -/
def nameClasses : List Text :=
  ["[a-zA-Z0-9_\\-.]+".toList, "[a-zA-Z0-9_\\-]+".toList, "[a-zA-Z0-9]+".toList]

/-- The pattern for references: the whole is its first group, the name its second one. -/
def referencePattern (sigil nameClass : Text) : Text :=
  '(' :: sigil.escaped ++ '(' :: nameClass ++ [')', ')']

/-- Replaces those of the matches, given from the last to the first, whose name has a value. The
matches were found in `source`, of which `t` still has everything before the last one. -/
def fill (setting : Setting World) (source t : Text) : List Match → Expansion World Text
  | [] => return t
  | m :: earlier =>
    match m.text? source 2 with
    | none => fill setting source t earlier
    | some key => do
      match ← setting.ask key with
      | none => fill setting source t earlier
      | some value =>
        fill setting source (t.take m.whole.start ++ value ++ t.drop m.whole.stop) earlier

def pass (setting : Setting World) (t nameClass : Text) : Expansion World Text := do
  let re ← pattern (referencePattern setting.sigil nameClass)
  fill setting t t (re.all t).reverse

/-- All classes in turn over a text that holds the sigil. -/
def simplify (setting : Setting World) (t : Text) : Expansion World Text :=
  if setting.sigil.occursIn t then nameClasses.foldlM (pass setting) t else return t

def simplifyAll (ctx : Context World) (t : Text) : Expansion World Text :=
  ctx.foldlM (fun t setting => simplify setting t) t

end MudClient.Reference

import MudClient.Reference.Expand
import MudClient.Script.Instruction
import MudClient.Variables.Store

/-!
# Expansion against a store

* `Store.context`: references to variables start with a dollar sign
* `Store.expand`: a text with the references to variables expanded
* `Store.expandAll`: the payloads of an instruction expanded
-/

set_option autoImplicit false

namespace MudClient.Variables.Store

open Reference (ExpandError Context Setting)

def sigil : Text := ['$']

/-- The variables of a store as the only names. -/
def context (s : Store) (r : Reading) : Context Unit :=
  [Setting.pure sigil (s.get? r)]

def expand (s : Store) (r : Reading) (t : Text) : Except ExpandError Text :=
  ((Reference.expand (s.context r) t).run.run ⟨.empty, ()⟩).1

def expandAll (s : Store) (r : Reading) (ts : List Text) : Except ExpandError (List Text) :=
  ts.mapM (s.expand r)

end MudClient.Variables.Store

import MudClient.Text.Basic

/-!
# Contexts

* `Setting`: a sigil and how the names after it are resolved
* `Context`: the settings in force, in the order in which they are applied
* `Context.sigils`: the distinct sigils
* `Context.add`: a further setting, whose sigil may not be empty
* `Call`, `Setting.recorded`: settings that keep a record of what they are asked
-/

set_option autoImplicit false

namespace MudClient.Reference

/-- A sigil and the resolver for the names that follow it. A resolver is asked in a world, which it
may change. -/
structure Setting (World : Type) where
  sigil : Text
  resolve : Text → World → Option Text × World

abbrev Context (World : Type) := List (Setting World)

inductive SettingError
  | emptySigil
deriving DecidableEq, Repr

def SettingError.message : SettingError → String
  | emptySigil => "Sigil cannot be empty"

/-- A setting whose resolver looks names up and changes nothing. -/
def Setting.pure {World : Type} (sigil : Text) (lookup : Text → Option Text) : Setting World :=
  ⟨sigil, fun key world => (lookup key, world)⟩

/-- One question to a resolver, with the number of its setting and the answer. -/
structure Call where
  setting : Nat
  key : Text
  value : Option Text
deriving DecidableEq, Repr

/-- A setting that looks names up and records the calls, latest first. -/
def Setting.recorded (number : Nat) (sigil : Text) (lookup : Text → Option Text) :
    Setting (List Call) :=
  ⟨sigil, fun key calls => (lookup key, ⟨number, key, lookup key⟩ :: calls)⟩

namespace Context

variable {World : Type}

/-- The distinct sigils in the order of their first setting. -/
def sigils (ctx : Context World) : List Text :=
  (ctx.map Setting.sigil).eraseDups

def add (ctx : Context World) (setting : Setting World) : Except SettingError (Context World) :=
  if setting.sigil.isEmpty then .error .emptySigil else .ok (ctx ++ [setting])

def mayRefer (ctx : Context World) (t : Text) : Bool :=
  ctx.sigils.any fun sigil => sigil.occursIn t

end Context

end MudClient.Reference

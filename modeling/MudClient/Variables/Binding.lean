import MudClient.Calendar.Format
import MudClient.Settings
import MudClient.Text.Quoted

/-!
# Bindings of variables

* `DynamicKind`: what a computed variable shows
* `Binding`: a literal text, or a kind that is computed on every read
* `Reading`: what computed variables are computed from
* `Binding.evaluate`: the text of a binding
-/

set_option autoImplicit false

namespace MudClient.Variables

open Calendar (Moment Platform)

inductive DynamicKind
  | date
  | datetime
  | time
deriving DecidableEq, Repr

namespace DynamicKind

def name : DynamicKind → Text
  | date => "date".toList
  | datetime => "datetime".toList
  | time => "time".toList

def all : List DynamicKind := [date, datetime, time]

structure Unknown where
  name : Text
deriving DecidableEq, Repr

def Unknown.message (e : Unknown) : String :=
  String.ofList e.name.quoted ++ " is not a valid DynamicKind"

def read (t : Text) : Except Unknown DynamicKind :=
  match all.find? fun kind => kind.name = t with
  | some kind => .ok kind
  | none => .error ⟨t⟩

end DynamicKind

/-- What a variable is bound to. A literal may lack a text; no store holds such a one. -/
inductive Binding
  | literal (text : Option Text)
  | computed (kind : DynamicKind)
deriving DecidableEq, Repr

/-- What computed variables are computed from. -/
structure Reading where
  now : Moment
  settings : Settings
  [platform : Platform]

def Reading.pattern (r : Reading) : DynamicKind → Text
  | .date => r.settings.dateFormat
  | .datetime => r.settings.datetimeFormat
  | .time => r.settings.timeFormat

def Binding.evaluate (r : Reading) : Binding → Option Text
  | literal text => text
  | computed kind => some (Calendar.format r.platform r.now (r.pattern kind))

end MudClient.Variables

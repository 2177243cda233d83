import MudClient.Given
import MudClient.OrderedMap
import MudClient.Text.LowerCase

/-!
# Settings

* `Settings`: what the client can be configured with
* `Settings.read`: the settings from the environment and from given values
-/

set_option autoImplicit false

namespace MudClient

structure Settings where
  /-- Nothing is logged. -/
  quiet : Bool
  dateFormat : Text
  datetimeFormat : Text
  timeFormat : Text
  /-- The key under which changes of variables are posted; an empty one stands for no posts. -/
  changedEvent : Text
deriving DecidableEq, Repr

namespace Settings

/-- The settings where nothing is given. -/
def default : Settings where
  quiet := false
  dateFormat := "%Y-%m-%d".toList
  datetimeFormat := "%Y-%m-%d %I:%M:%S %p".toList
  timeFormat := "%I:%M:%S %p".toList
  changedEvent := "variable:changed".toList

def quietName : Text := "beQuiet".toList
def dateFormatName : Text := "variable_date_format".toList
def datetimeFormatName : Text := "variable_datetime_format".toList
def timeFormatName : Text := "variable_time_format".toList
def changedEventName : Text := "variable_changed_event".toList

def names : List Text :=
  [quietName, dateFormatName, datetimeFormatName, timeFormatName, changedEventName]

def environmentLead : Text := "MUD_".toList

/-- The value of a field in the environment, whose names are in any case; the last one counts. -/
def inEnvironment (environment : List (Text × Text)) (name : Text) : Option Text :=
  let wanted := (environmentLead ++ name).lower
  (environment.filter fun p => p.1.lower = wanted).getLast?.map Prod.snd

/-- A field's value as given, or else as the environment has it. -/
def given? {α : Type} (environment : List (Text × Text)) (values : OrderedMap Text (Given α))
    (name : Text) : Option (Given α) :=
  match values.get? name with
  | some g => some g
  | none => (inEnvironment environment name).map .text

/-- The settings from the environment and from given values, which count more. -/
def read {α : Type} (environment : List (Text × Text)) (values : OrderedMap Text (Given α)) :
    Except FieldErrors Settings :=
  let given := given? environment values
  let text (name fallback : Text) := checkField name Given.asText fallback (given name)
  let quiet := checkField quietName Given.asFlag default.quiet (given quietName)
  let date := text dateFormatName default.dateFormat
  let datetime := text datetimeFormatName default.datetimeFormat
  let time := text timeFormatName default.timeFormat
  let changed := text changedEventName default.changedEvent
  match quiet.2 ++ date.2 ++ datetime.2 ++ time.2 ++ changed.2 with
  | [] => .ok ⟨quiet.1, date.1, datetime.1, time.1, changed.1⟩
  | errors => .error errors

end Settings

end MudClient

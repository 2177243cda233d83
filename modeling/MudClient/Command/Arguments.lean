import MudClient.Command.Binding
import MudClient.Command.Help

/-!
# Arguments of the command line

* `UsageError`: what is wrong with the arguments
* `Options`, `readOptions`: the options among arguments, and the arguments that are none
* `Call`, `readCall`: the command that arguments call
-/

set_option autoImplicit false

namespace MudClient.Command

inductive UsageError
  | noCommand
  | noSuchCommand (name : Text)
  | noSuchOption (name : Text)
  | needsValue (option : Text)
  | takesNoValue (option : Text)
  | missingText
  | extraArguments (arguments : List Text)
  | unreadable (path reason : Text)
  | wrongBinding (error : BindingError)
deriving DecidableEq, Repr

def UsageError.message : UsageError → Text
  | noCommand => "Missing command.".toList
  | noSuchCommand name => "No such command ".toList ++ name.quoted ++ ['.']
  | noSuchOption name => "No such option ".toList ++ name.quoted ++ ['.']
  | needsValue option => "Option ".toList ++ option.quoted ++ " requires an argument.".toList
  | takesNoValue option => "Option ".toList ++ option.quoted ++ " does not take a value.".toList
  | missingText => "Missing argument 'TEXT'.".toList
  | extraArguments arguments =>
    (if arguments.length = 1 then "Got unexpected extra argument (" else
      "Got unexpected extra arguments (").toList ++ Text.join [' '] arguments ++ [')']
  | unreadable path reason =>
    "Invalid value for '[SOURCE]': '".toList ++ path ++ "': ".toList ++ reason
  | wrongBinding e => "Invalid value: ".toList ++ e.message.toList

/-- Whether the usage goes before the message. It does not where an option's value is at fault. -/
def UsageError.showsUsage : UsageError → Bool
  | needsValue _ => false
  | takesNoValue _ => false
  | _ => true

structure Accepts where
  /-- Whether variables can be bound. -/
  bindings : Bool
  /-- Whether options may stand after other arguments. -/
  mixed : Bool
deriving DecidableEq, Repr

/-- The options among arguments, and the arguments that are none. -/
structure Options where
  help : Bool
  bindings : List Text
  rest : List Text
deriving DecidableEq, Repr

def Options.plain (rest : List Text) : Options := ⟨false, [], rest⟩

/-- The options that one argument sets by itself, or that it needs a value for. -/
inductive Setting
  | help
  | binding (value : Text)
  /-- The next argument is the value. -/
  | pending (option : Text)

def bindingOption : Text := "--var".toList

def helpOption : Text := "--help".toList

/-- An option in full, with its value after an equals sign if it has one there. -/
def readLong (accepts : Accepts) (name : Text) (value : Option Text) : Except UsageError Setting :=
  if name = helpOption then
    if value.isSome then .error (.takesNoValue name) else .ok .help
  else if accepts.bindings && name = bindingOption then
    .ok (value.elim (.pending name) .binding)
  else .error (.noSuchOption name)

/-- An option of one letter; what follows the letter is its value. -/
def readShort (accepts : Accepts) (letter : Char) (value : Text) : Except UsageError Setting :=
  if accepts.bindings && letter = 'v' then
    .ok (if value.isEmpty then .pending ['-', letter] else .binding value)
  else .error (.noSuchOption ['-', letter])

/-- What an argument sets if it is an option: a hyphen with something after it. -/
def readSetting (accepts : Accepts) (argument : Text) : Option (Except UsageError Setting) :=
  match argument with
  | '-' :: '-' :: _ =>
    match argument.span (· ≠ '=') with
    | (name, _ :: value) => some (readLong accepts name (some value))
    | (name, []) => some (readLong accepts name none)
  | '-' :: letter :: value => some (readShort accepts letter value)
  | _ => none

/-- Takes the options out of arguments. Two hyphens by themselves end them. -/
def readOptions (accepts : Accepts) : List Text → Except UsageError Options
  | [] => .ok (.plain [])
  | argument :: more =>
    if argument = ['-', '-'] then .ok (.plain more)
    else
      match readSetting accepts argument with
      | none =>
        if accepts.mixed then
          (readOptions accepts more).map fun o => { o with rest := argument :: o.rest }
        else .ok (.plain (argument :: more))
      | some (.error e) => .error e
      | some (.ok .help) => (readOptions accepts more).map fun o => { o with help := true }
      | some (.ok (.binding value)) =>
        (readOptions accepts more).map fun o => { o with bindings := value :: o.bindings }
      | some (.ok (.pending option)) =>
        match more with
        | [] => .error (.needsValue option)
        | value :: more =>
          (readOptions accepts more).map fun o => { o with bindings := value :: o.bindings }

/-! ## Commands -/

inductive Input
  | standard
  | file (path : Text)
deriving DecidableEq, Repr

inductive Call
  | expand (text : Text) (bindings : List Text)
  | lex (input : Input)
  | tokenize (input : Input)
  | vars (bindings : List Text)
deriving DecidableEq, Repr

def Call.name : Call → Name
  | expand _ _ => .expand
  | lex _ => .lex
  | tokenize _ => .tokenize
  | vars _ => .vars

/-- What the arguments after a command ask for. -/
inductive Wish
  | help
  /-- The call, and the arguments that are too many. -/
  | call (call : Call) (extra : List Text)
deriving DecidableEq, Repr

def Name.accepts : Name → Accepts
  | expand => ⟨true, true⟩
  | vars => ⟨true, true⟩
  | lex => ⟨false, true⟩
  | tokenize => ⟨false, true⟩

def inputOf (path : Text) : Input :=
  if path = ['-'] then .standard else .file path

/-- The input that the arguments of a command name, and those that are too many. -/
def sourceOf : List Text → Input × List Text
  | [] => (.standard, [])
  | path :: extra => (inputOf path, extra)

def readWish (name : Name) (arguments : List Text) : Except UsageError Wish := do
  let o ← readOptions name.accepts arguments
  if o.help then return .help
  match name with
  | .expand =>
    match o.rest with
    | [] => throw .missingText
    | text :: extra => return .call (.expand text o.bindings) extra
  | .vars => return .call (.vars o.bindings) o.rest
  | .lex => return .call (.lex (sourceOf o.rest).1) (sourceOf o.rest).2
  | .tokenize => return .call (.tokenize (sourceOf o.rest).1) (sourceOf o.rest).2

inductive Request
  /-- Help on the program; it is no success if nothing was asked for. -/
  | groupHelp (asked : Bool)
  | command (name : Name) (arguments : List Text)
deriving DecidableEq, Repr

/-- What the program itself accepts: options in front of the command. -/
def groupAccepts : Accepts := ⟨false, false⟩

def readRequest (arguments : List Text) : Except UsageError Request := do
  if arguments.isEmpty then return .groupHelp false
  let o ← readOptions groupAccepts arguments
  if o.help then return .groupHelp true
  match o.rest with
  | [] => throw .noCommand
  | called :: more =>
    match Name.all.find? fun n => n.text = called with
    | some name => return .command name more
    | none =>
      let again ← readOptions groupAccepts (called :: more)
      if again.help then return .groupHelp true
      throw (.noSuchCommand called)

end MudClient.Command

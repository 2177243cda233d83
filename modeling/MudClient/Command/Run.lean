import MudClient.Command.Arguments
import MudClient.Command.InputLine
import MudClient.Markup.Line
import MudClient.Script.Lexer
import MudClient.Text.Utf8
import MudClient.Variables.Expansion

/-!
# Running commands

* `Environment`: what a command can read
* `Outcome`: what a command leaves behind
* `run`: the command that arguments call
-/

set_option autoImplicit false

namespace MudClient.Command

open Console (Column LabelTree Table escape)
open Variables (Reading Store)

structure Environment where
  reading : Reading
  /-- The bytes of the standard input. -/
  input : List Nat
  /-- The bytes of a file, or why it cannot be opened. -/
  file : Text → Except Text (List Nat)

/-- What a command leaves behind: its exit code, what it put out, the lines on the console, and the log. -/
structure Outcome where
  exit : Nat
  output : Text
  console : List Text
  log : List Text
deriving DecidableEq, Repr

/-! ## What commands print -/

/-- The lines for an error that a command reports. -/
def reported (message : String) : List Text :=
  Console.printed (styled "bold red" ("Error: " ++ message).toList)

def printing (lines : List Text) : Outcome := ⟨0, [], lines, []⟩

/-- A failure that is reported, and noted in the log under a heading. -/
def reporting (heading : Text) (message : String) : Outcome :=
  ⟨0, [], reported message, [heading ++ ": ".toList ++ message.toList]⟩

def seeded (r : Reading) (bindings : List Text) : Except BindingError Store := do
  let values ← readBindings bindings
  return values.toList.foldl (fun s p => (s.set r p.1 (some p.2)).1)
    (Store.global r.settings.changedEvent)

def expanding (r : Reading) (s : Store) (t : Text) : Outcome :=
  match s.expand r t with
  | .ok expanded => printing (Console.printed (escape expanded))
  | .error e => reporting ("Error expanding '".toList ++ t ++ ['\'']) e.message

def leftColumn (title : String) : Column := ⟨title.toList, false⟩

def variableTable (r : Reading) (s : Store) : Table where
  title := "Variables".toList
  columns := [leftColumn "Name", leftColumn "Value"]
  showHeader := true
  rows := (s.snapshot r).map fun p => [escape p.1, escape p.2]

def instructionTable (source : Text) : Table where
  title := "Script instructions".toList
  columns := [⟨"Line".toList, true⟩, leftColumn "Kind", leftColumn "Field 1", leftColumn "Field 2"]
  showHeader := true
  rows := (Script.readScript source).map fun p =>
    [Text.ofNat p.1, p.2.kind.toList, escape (p.2.first?.getD []), escape (p.2.second?.getD [])]

def lineTree (line : InputLine) : List Text × List Text :=
  let (tags, notices) := Markup.readLine line.text
  let root := styled "bold yellow" ("line ".toList ++ Text.ofNat line.number)
  ((LabelTree.node root (tagTrees tags)).render, notices.map fun n => n.message.toList)

/-- The bytes that are read at a time, less one. -/
def blockSize : Nat := 8191

/-- A script is read as a whole. -/
def lexing (bytes : List Nat) : Outcome :=
  match Utf8.decode bytes with
  | .ok t =>
    printing (instructionTable (Text.streamLines .unified t).flatten).render
  | .error problem => reporting "Error lexing script".toList problem.message

/-- Lines are read block by block. -/
def tokenizing (bytes : List Nat) : Outcome :=
  match Utf8.decodeBlocks [] (Utf8.blocks blockSize bytes) with
  | .ok t =>
    let trees := (numbered .unified t).map lineTree
    ⟨0, [], trees.flatMap Prod.fst, trees.flatMap Prod.snd⟩
  | .error problem => reporting "Error tokenizing input".toList problem.message

/-! ## Commands -/

def Environment.bytes (e : Environment) : Input → Except UsageError (List Nat)
  | .standard => .ok e.input
  | .file path =>
    match e.file path with
    | .ok bytes => .ok bytes
    | .error reason => .error (.unreadable path reason)

def refuseExtra (extra : List Text) : Except UsageError Unit :=
  if extra.isEmpty then .ok () else .error (.extraArguments extra)

/-- Bindings that are wrong are wrong usage. -/
def usable (bound : Except BindingError Store) : Except UsageError Store :=
  match bound with
  | .ok s => .ok s
  | .error e => .error (.wrongBinding e)

/-- What a call does. A file is opened before arguments that are too many are refused. -/
def perform (e : Environment) (call : Call) (extra : List Text) : Except UsageError Outcome := do
  match call with
  | .expand text bindings =>
    refuseExtra extra
    let s ← usable (seeded e.reading bindings)
    return expanding e.reading s text
  | .vars bindings =>
    refuseExtra extra
    let s ← usable (seeded e.reading bindings)
    return printing (variableTable e.reading s).render
  | .lex input =>
    let bytes ← e.bytes input
    refuseExtra extra
    return lexing bytes
  | .tokenize input =>
    let bytes ← e.bytes input
    refuseExtra extra
    return tokenizing bytes

def helping (exit : Nat) (lines : List Text) : Outcome := ⟨exit, ['\n'], lines, []⟩

/-- What is put out after a command name in the line of usage. -/
def Name.pattern : Name → String
  | expand => " [OPTIONS] TEXT"
  | lex => " [OPTIONS] [SOURCE]"
  | tokenize => " [OPTIONS] [SOURCE]"
  | vars => " [OPTIONS]"

def misused (name : Option Name) (e : UsageError) : Outcome :=
  let path := programName ++ (name.map fun n => ' ' :: n.text).getD []
  let pattern := (name.map Name.pattern).getD " [OPTIONS] COMMAND [ARGS]..."
  let usage := if e.showsUsage then
    "Usage: ".toList ++ path ++ pattern.toList ++ "\nTry '".toList ++ path ++
      " --help' for help.\n\n".toList else []
  ⟨2, usage ++ "Error: ".toList ++ e.message ++ ['\n'], [], []⟩

def runAlways (e : Environment) (arguments : List Text) : Outcome :=
  match readRequest arguments with
  | .error wrong => misused none wrong
  | .ok (.groupHelp asked) => helping (if asked then 0 else 2) groupHelp
  | .ok (.command name more) =>
    match readWish name more with
    | .error wrong => misused (some name) wrong
    | .ok .help => helping 0 name.help
    | .ok (.call call extra) =>
      match perform e call extra with
      | .ok outcome => outcome
      | .error wrong => misused (some name) wrong

/-- The command that arguments call; nothing is logged where the settings say so. -/
def run (e : Environment) (arguments : List Text) : Outcome :=
  let outcome := runAlways e arguments
  if e.reading.settings.quiet then { outcome with log := [] } else outcome

end MudClient.Command

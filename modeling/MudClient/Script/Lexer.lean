import MudClient.Script.Instruction
import MudClient.Text.LineBreak
import MudClient.Text.LowerCase

/-!
# Reading scripts

* `Mode`: what the lexer expects next; between lines it always expects a command
* `Keyword`, `keywords`: the words a command may be given by
* `readLine`: the instruction on one line
* `readScript`: the instructions of a script with their line numbers
-/

set_option autoImplicit false

namespace MudClient.Script

inductive Mode
  | command | single | pair | exit
deriving DecidableEq, Repr

def Mode.name : Mode → String
  | .command => "command"
  | .single => "single"
  | .pair => "pair"
  | .exit => "exit"

/-- The modes the lexer rests in, before and after any line. -/
def restingModes : List Mode := [.command]

/-- What a leading word announces. -/
inductive Keyword
  | single (command : Command)
  | pair (command : PairCommand)
  | exit
deriving DecidableEq, Repr

/-- The words that start an instruction, in lower case. -/
def keywords : List (Text × Keyword) :=
  [("debug".toList, .single .debug), ("echo".toList, .single .echo), ("exit".toList, .exit),
    ("goto".toList, .single .goto), ("match".toList, .pair .match),
    ("matchre".toList, .pair .matchre), ("matchwait".toList, .single .matchwait),
    ("pause".toList, .single .pause), ("put".toList, .single .put),
    ("random".toList, .pair .random), ("save".toList, .single .save),
    ("send".toList, .single .send), ("setvariable".toList, .pair .variable),
    ("var".toList, .pair .variable), ("waitfor".toList, .single .waitfor),
    ("waitforre".toList, .single .waitforre)]

/-- Spaces and tabs separate the words of a line. -/
def isSpace (c : Char) : Bool :=
  c = ' ' || c = '\t'

def dropSpaces (t : Text) : Text :=
  t.dropWhile isSpace

def word (t : Text) : Text :=
  t.takeWhile (!isSpace ·)

def afterWord (t : Text) : Text :=
  t.dropWhile (!isSpace ·)

/-- Line feeds and carriage returns at the end of a line do not belong to it. -/
def dropLineEnd (t : Text) : Text :=
  (t.reverse.dropWhile fun c => c = '\n' || c = '\r').reverse

def Keyword.instruction (keyword : Keyword) (rest : Text) : Instruction :=
  match keyword with
  | .single command => .single command (dropSpaces rest)
  | .pair command =>
    let payload := dropSpaces rest
    .pair command (word payload) (dropSpaces (afterWord payload))
  | .exit => .exit

/-- A comment, a label, or a command with its payloads; none for a blank line and an unknown word. -/
def readWords (t : Text) : Option Instruction :=
  match dropSpaces t with
  | [] => none
  | '#' :: content => some (.comment content)
  | c :: rest =>
    let leading := word (c :: rest)
    if leading.getLast? = some ':' then some (.label leading.dropLast)
    else (keywords.lookup leading.lower).map fun keyword => keyword.instruction (afterWord (c :: rest))

def readLine (line : Text) : Option Instruction :=
  readWords (dropLineEnd line)

def readLines (number : Nat) : List Text → List (Nat × Instruction)
  | [] => []
  | line :: lines =>
    match readLine line with
    | some instruction => (number, instruction) :: readLines (number + 1) lines
    | none => readLines (number + 1) lines

/-- The instructions of a script with the numbers of their lines, the first line being 1. -/
def readScript (source : Text) : List (Nat × Instruction) :=
  readLines 1 (Text.scriptLines source)

end MudClient.Script

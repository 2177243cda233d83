import MudClient.Text.Basic

/-!
# Script instructions

* `Command`, `PairCommand`: the commands with one and with two payloads
* `Instruction`: what one line of a script says
* `Instruction.kind`, `Instruction.values`: its name and its payloads
-/

set_option autoImplicit false

namespace MudClient.Script

/-- A command whose payload is the rest of its line. -/
inductive Command
  | debug | echo | goto | matchwait | pause | put | save | send | waitfor | waitforre
deriving DecidableEq, Repr

/-- A command whose payloads are a word and the rest of its line. -/
inductive PairCommand
  | «match» | matchre | random | variable
deriving DecidableEq, Repr

/-- What one line of a script says. -/
inductive Instruction
  | comment (content : Text)
  | label (name : Text)
  | single (command : Command) (payload : Text)
  | pair (command : PairCommand) (first second : Text)
  | exit
deriving DecidableEq, Repr

def Command.name : Command → String
  | .debug => "debug"
  | .echo => "echo"
  | .goto => "goto"
  | .matchwait => "matchwait"
  | .pause => "pause"
  | .put => "put"
  | .save => "save"
  | .send => "send"
  | .waitfor => "waitfor"
  | .waitforre => "waitforre"

def PairCommand.name : PairCommand → String
  | .match => "match"
  | .matchre => "matchre"
  | .random => "random"
  | .variable => "variable"

namespace Instruction

def kind : Instruction → String
  | comment _ => "comment"
  | label _ => "label"
  | single command _ => command.name
  | pair command _ _ => command.name
  | exit => "exit"

def values : Instruction → List Text
  | comment content => [content]
  | label name => [name]
  | single _ payload => [payload]
  | pair _ first second => [first, second]
  | exit => []

def first? (i : Instruction) : Option Text := i.values[0]?

def second? (i : Instruction) : Option Text := i.values[1]?

end Instruction

end MudClient.Script

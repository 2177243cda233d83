import MudClient.Command.TagLabel
import MudClient.OrderedMap

/-!
# Help

* `Name`: the commands
* `helpText`: the help of a command, with markup
* `Name.help`, `groupHelp`: the lines of help on the console
-/

set_option autoImplicit false

namespace MudClient.Command

open Console (Table)

def programName : Text := "mudscript".toList

inductive Name
  | expand | lex | tokenize | vars
deriving DecidableEq, Repr

namespace Name

def all : List Name := [expand, lex, tokenize, vars]

def text : Name → Text
  | expand => "expand".toList
  | lex => "lex".toList
  | tokenize => "tokenize".toList
  | vars => "vars".toList

def summary : Name → Text
  | expand => "Expand variables in text".toList
  | lex => "Lex a script".toList
  | tokenize => "Tokenize protocol lines".toList
  | vars => "List variables".toList

end Name

/-- Help with a description, the usage, and the arguments if there are any. -/
def helpText (description usage : Text) (arguments : OrderedMap Text Text) : Text :=
  let head := styled "bold cyan" description ++ "\n\n".toList ++
    styled "bold yellow" "Usage:".toList ++ "\n    ".toList ++ styled "green" usage ++ "\n\n".toList
  let line (p : Text × Text) : Text :=
    "    ".toList ++ styled "green" p.1 ++ ": ".toList ++ p.2 ++ ['\n']
  if arguments.size = 0 then head
  else
    head ++ styled "bold yellow" "Arguments:".toList ++ '\n' :: arguments.toList.flatMap line

namespace Name

def description : Name → Text
  | expand => "Substitute $variable references in text.".toList
  | lex => "Show the instruction each script line lexes to.".toList
  | tokenize => "Show the tags parsed from each line of game protocol text.".toList
  | vars => "List all variables sorted by name.".toList

def usage : Name → Text
  | expand => "mudscript expand <text> [-v NAME=VALUE ...]".toList
  | lex => "mudscript lex [FILE]".toList
  | tokenize => "mudscript tokenize [FILE]".toList
  | vars => "mudscript vars [-v NAME=VALUE ...]".toList

def arguments : Name → List (String × String)
  | expand =>
    [("<text>", "Text containing $name or $name[index] references."),
      ("-v NAME=VALUE", "A variable binding; repeatable.")]
  | lex => [("[FILE]", "Script to read; stdin when omitted.")]
  | tokenize => [("[FILE]", "Protocol capture to read; stdin when omitted.")]
  | vars => [("-v NAME=VALUE", "A variable binding; repeatable.")]

def help (n : Name) : List Text :=
  Console.panel (helpText n.description n.usage
    (OrderedMap.ofList (n.arguments.map fun p => (p.1.toList, p.2.toList))))

end Name

def commandTable : Table where
  title := "Available Commands".toList
  columns := [⟨[], false⟩, ⟨[], false⟩]
  showHeader := false
  rows := Name.all.map fun n => [styled "cyan" n.text, n.summary]

def groupHelp : List Text :=
  Console.printed (styled "bold yellow" "Usage:".toList ++ ' ' :: styled "cyan" programName ++ ' ' ::
    styled "magenta" "[OPTIONS] COMMAND [ARGS]...".toList ++ ['\n']) ++
  Console.printed (styled "bold cyan"
    "mudscript\n\n    Inspect game protocol lines, automation scripts and variable expansion.".toList ++
    ['\n']) ++
  commandTable.render

end MudClient.Command

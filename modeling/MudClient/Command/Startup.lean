import MudClient.Command.Help

/-!
# Start and interruption

* `Startup`, `startup`: what the program does when it starts
* `farewell`: what it does when it is interrupted
-/

set_option autoImplicit false

namespace MudClient.Command

def version : Text := "0.1.0".toList

inductive Startup
  /-- From now on an interruption leads to the farewell. -/
  | onInterrupt
  /-- The command line is run under a name. -/
  | commands (program : Text)
deriving DecidableEq, Repr

/-- First interruptions are provided for, then the command line is run. -/
def startup : List Startup := [.onInterrupt, .commands programName]

def farewellExit : Nat := 0

def farewell : List Text :=
  Console.printed ('\n' :: styled "bold cyan" "Interrupted. Exiting.".toList)

end MudClient.Command

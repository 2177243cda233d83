import MudClient.Text.Basic

/-!
# Lines

* `Text.isLineBreak`: the characters that end a line of a script
* `Text.scriptLines`: the lines of a script without their breaks
* `Text.LineEnds`: which ends a stream of lines knows, and what it makes of them
* `Text.streamLines`: the lines of a stream with their ends
-/

set_option autoImplicit false

namespace MudClient.Text

/-- Line feed, carriage return, line tabulation, form feed, the three upper information separators,
next line, and the two separators of lines and paragraphs. -/
def isLineBreak (c : Char) : Bool :=
  c = '\n' || c = '\r' || c = '\x0b' || c = '\x0c' || c = '\x1c' || c = '\x1d' || c = '\x1e' ||
    c = '\u0085' || c = '\u2028' || c = '\u2029'

def consLine (c : Char) : List Text → List Text
  | [] => [[c]]
  | line :: lines => (c :: line) :: lines

/-- The lines of a text without their breaks; a carriage return and the line feed right after it
are one break, and a break at the very end opens no further line. -/
def scriptLines : Text → List Text
  | [] => []
  | '\r' :: '\n' :: t => [] :: scriptLines t
  | c :: t => if isLineBreak c then [] :: scriptLines t else consLine c (scriptLines t)

inductive LineEnds
  /-- A line feed, a carriage return or both end a line and are kept. -/
  | kept
  /-- The same ends, each read as a line feed. -/
  | unified
  /-- Only a line feed ends a line. -/
  | lineFeed
deriving DecidableEq, Repr

/-- The lines of a stream with their ends; the last one may have none. -/
def streamLines (ends : LineEnds) : Text → List Text
  | [] => []
  | '\r' :: '\n' :: t =>
    match ends with
    | .kept => ['\r', '\n'] :: streamLines ends t
    | .unified => ['\n'] :: streamLines ends t
    | .lineFeed => consLine '\r' (['\n'] :: streamLines ends t)
  | '\r' :: t =>
    match ends with
    | .kept => ['\r'] :: streamLines ends t
    | .unified => ['\n'] :: streamLines ends t
    | .lineFeed => consLine '\r' (streamLines ends t)
  | '\n' :: t => ['\n'] :: streamLines ends t
  | c :: t => consLine c (streamLines ends t)

/-- Nothing is lost where line ends are kept. -/
theorem flatten_streamLines_kept (t : Text) : (streamLines .kept t).flatten = t := by
  have step (c : Char) (ls : List Text) : (consLine c ls).flatten = c :: ls.flatten := by
    cases ls <;> simp [consLine]
  fun_induction streamLines LineEnds.kept t <;> simp_all

end MudClient.Text

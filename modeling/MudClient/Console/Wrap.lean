import MudClient.Console.CellWidth
import MudClient.Text.Blank

/-!
# Lines that fit

* `Overflow`: what becomes of a word that is wider than a line
* `words`: a line cut before each of its words
* `breaks`: the places where a line is broken
* `wrap`: a text in lines of a width
-/

set_option autoImplicit false

namespace MudClient.Console

/-- What becomes of a word that is wider than a line. -/
inductive Overflow
  /-- It goes on in the next line. -/
  | fold
  /-- It is cut off, and an ellipsis shows that it was. -/
  | ellipsis
deriving DecidableEq, Repr

/-! ## Words -/

/-- A line in pieces, each of them a word and the blanks after it; `gap` says that blanks came last.
Blanks at the front belong to the first word. -/
def wordsFrom (gap : Bool) : Text → List Text
  | [] => []
  | c :: t =>
    let rest := wordsFrom (Text.isBlank c) t
    if gap && !Text.isBlank c then
      match rest with
      | [] => [[], [c]]
      | word :: more => [] :: (c :: word) :: more
    else
      match rest with
      | [] => [[c]]
      | word :: more => (c :: word) :: more

/-- The words of a line, each with the blanks after it. A line of blanks has none. -/
def words (t : Text) : List Text :=
  if Text.allBlank t then []
  else
    let lead := t.takeWhile Text.isBlank
    match wordsFrom false (t.dropWhile Text.isBlank) with
    | [] => []
    | word :: more => (lead ++ word) :: more

def dropBlankEnd (t : Text) : Text :=
  (t.reverse.dropWhile Text.isBlank).reverse

/-- A word in pieces that fit into a line each; `used` cells of the current piece are taken. -/
def chop (width used : Nat) : Text → List Text
  | [] => [[]]
  | c :: t =>
    if width < used + charCells c then
      match chop width (charCells c) t with
      | [] => [[], [c]]
      | piece :: more => [] :: (c :: piece) :: more
    else
      match chop width (used + charCells c) t with
      | [] => [[c]]
      | piece :: more => (c :: piece) :: more

/-! ## Breaks -/

/-- The places at which the pieces of a word start, the first of which stands at `start`. -/
def pieceStarts (start : Nat) : List Text → List Nat
  | [] => []
  | piece :: more => start :: pieceStarts (start + piece.length) more

/-- The places before which a line is broken, given its words from the place `start` on; `used` cells of
the current line are taken. -/
def breaks (overflow : Overflow) (width : Nat) (start used : Nat) : List Text → List Nat
  | [] => []
  | word :: more =>
    let next := start + word.length
    let core := cells (dropBlankEnd word)
    if used + core ≤ width then breaks overflow width next (used + cells word) more
    else if width < core then
      match overflow with
      | .fold =>
        let pieces := chop width 0 word
        (pieceStarts start pieces).filter (· ≠ 0) ++
          breaks overflow width next (cells (pieces.getLastD [])) more
      | .ellipsis =>
        (if start = 0 then [] else [start]) ++ breaks overflow width next (cells word) more
    else if used = 0 || start = 0 then breaks overflow width next used more
    else start :: breaks overflow width next (cells word) more

/-- A text cut at places, the first character of which stands at `start`. -/
def cutAt (start : Nat) (t : Text) : List Nat → List Text
  | [] => [t]
  | place :: more =>
    t.take (place - start) :: cutAt place (t.drop (place - start)) more

/-! ## Lines -/

/-- Tabs become spaces up to the next multiple of eight cells. -/
def expandTabs (position : Nat) : Text → Text
  | [] => []
  | c :: t =>
    if c = '\t' then
      let n := 8 - position % 8
      List.replicate n ' ' ++ expandTabs (position + n) t
    else c :: expandTabs (position + charCells c) t

/-- A line without the blanks at its end that go beyond the width. -/
def dropExcessBlanks (width : Nat) (t : Text) : Text :=
  let blanks := (t.reverse.takeWhile Text.isBlank).length
  t.take (t.length - min blanks (t.length - width))

def cut (overflow : Overflow) (width : Nat) (t : Text) : Text :=
  if cells t ≤ width then t
  else
    match overflow with
    | .fold => takeCells width t
    | .ellipsis => padRight (width - 1) (takeCells (width - 1) t) ++ ['…']

/-- A text in lines that fit into a width. -/
def wrap (overflow : Overflow) (width : Nat) (t : Text) : List Text :=
  (Text.splitOn '\n' t).flatMap fun line =>
    let line := if line.contains '\t' then expandTabs 0 line else line
    (cutAt 0 line (breaks overflow width 0 0 (words line))).map fun l =>
      cut overflow width (dropExcessBlanks width l)

end MudClient.Console

import MudClient.Console.Markup
import MudClient.Console.Wrap
import MudClient.Text.LineBreak

/-!
# Tables, trees and panels on the console

* `Table`, `Table.render`: a table under a title
* `LabelTree`, `LabelTree.render`: labels with branches
* `panel`: a text in a frame
* `printed`: a text by itself

All texts hold markup. Nothing is wider than `consoleWidth`.
-/

set_option autoImplicit false

namespace MudClient.Console

def consoleWidth : Nat := 200

def printed (t : Text) : List Text :=
  wrap .fold consoleWidth (plain t)

/-! ## Tables -/

structure Column where
  title : Text
  right : Bool

/-- A table under a title; it may do without headers. -/
structure Table where
  title : Text
  columns : List Column
  showHeader : Bool
  rows : List (List Text)

/-- The width of a text in a cell, before it is broken into lines. -/
def naturalWidth (t : Text) : Nat :=
  ((Text.scriptLines (plain t)).map cells).foldl max 0

/-- The quotient of two numbers rounded to the nearest one, to the even one from halfway. -/
def roundedQuotient (n d : Nat) : Nat :=
  let q := n / d
  let r := n % d
  if 2 * r < d || (2 * r = d && q % 2 = 0) then q else q + 1

/-- Takes `excess` away from the widths that are marked, in equal shares of at most `most`; `marked`
is their number. -/
def share (excess most marked : Nat) : List (Nat × Bool) → List Nat
  | [] => []
  | (width, true) :: rest =>
    let part := min most (roundedQuotient excess marked)
    (width - part) :: share (excess - part) most (marked - 1) rest
  | (width, false) :: rest => width :: share excess most marked rest

def totalWidth (widths : List Nat) : Nat :=
  widths.foldl (· + ·) 0

/-- One round of narrowing: the widest columns give way, until they are as wide as the next ones. -/
def narrowOnce (limit : Nat) (widths : List Nat) : List Nat :=
  let widest := widths.foldl max 0
  let second := (widths.filter (· ≠ widest)).foldl max 0
  let marked := widths.map fun w => (w, w == widest)
  share (totalWidth widths - limit) (min (totalWidth widths - limit) (widest - second))
    (widths.countP (· == widest)) marked

/-- Narrows columns until they fit, in at most `n` rounds. -/
def narrow (limit : Nat) : Nat → List Nat → List Nat
  | 0, widths => widths
  | n + 1, widths =>
    if totalWidth widths ≤ limit then widths else narrow limit n (narrowOnce limit widths)

namespace Table

def cellsOf (t : Table) (i : Nat) : List Text :=
  (if t.showHeader then ((t.columns.map Column.title)[i]?).toList else []) ++
    t.rows.map fun row => row.getD i []

/-- The widths of the columns, with a space on either side. -/
def widths (t : Table) : List Nat :=
  let limit := consoleWidth - (t.columns.length + 1)
  let natural := (List.range t.columns.length).map fun i =>
    min limit (((t.cellsOf i).map naturalWidth).foldl max 0 + 2)
  narrow limit (t.columns.length + totalWidth natural) natural

/-- A line of a border: the corners, what crosses it, and what it is made of. -/
def border (widths : List Nat) (left fill cross right : Char) : Text :=
  left :: Text.join [cross] (widths.map fun w => List.replicate w fill) ++ [right]

def cellLines (width : Nat) (right : Bool) (t : Text) : List Text :=
  (wrap .ellipsis (width - 2) (plain t)).map fun line =>
    if right then padLeft (width - 2) (dropBlankEnd line) else padRight (width - 2) line

def rowLines (t : Table) (widths : List Nat) (bar : Char) (row : List Text) : List Text :=
  let shown := (t.columns.zip widths).zipIdx.map fun p =>
    (p.1.2, cellLines p.1.2 p.1.1.right (row.getD p.2 []))
  let height := (shown.map fun s => s.2.length).foldl max 1
  (List.range height).map fun i =>
    bar :: (shown.flatMap fun s =>
      ' ' :: (s.2[i]?).getD (List.replicate (s.1 - 2) ' ') ++ [' ', bar])

def titleLine (t : Table) (widths : List Nat) : Text :=
  let title := plain t.title
  let width := totalWidth widths + widths.length + 1
  List.replicate ((width - cells title) / 2) ' ' ++ title

def render (t : Table) : List Text :=
  let widths := t.widths
  let top :=
    if t.showHeader then
      border widths '┏' '━' '┳' '┓' :: t.rowLines widths '┃' (t.columns.map Column.title) ++
        [border widths '┡' '━' '╇' '┩']
    else [border widths '┌' '─' '┬' '┐']
  t.titleLine widths :: top ++ t.rows.flatMap (t.rowLines widths '│') ++
    [border widths '└' '─' '┴' '┘']

end Table

/-! ## Trees -/

inductive LabelTree
  | node (label : Text) (children : List LabelTree)

namespace LabelTree

/-- The lines of a label, the first one after `first` and all others after `later`. -/
def labelLines (first later : Text) (label : Text) : List Text :=
  if consoleWidth ≤ first.length then []
  else
    match wrap .fold (consoleWidth - first.length) (plain label) with
    | [] => []
    | line :: lines => (first ++ line) :: lines.map (later ++ ·)

mutual

/-- The lines of a tree, the first one after `first` and all others after `later`. -/
def renderAfter (first later : Text) : LabelTree → List Text
  | .node label children => labelLines first later label ++ renderBelow later children

/-- The lines of the trees below a label: a branch leads to each, and the last branch ends there. -/
def renderBelow (lead : Text) : List LabelTree → List Text
  | [] => []
  | [tree] => renderAfter (lead ++ "└── ".toList) (lead ++ "    ".toList) tree
  | tree :: next :: more =>
    renderAfter (lead ++ "├── ".toList) (lead ++ "│   ".toList) tree ++
      renderBelow lead (next :: more)

end

def render (t : LabelTree) : List Text :=
  renderAfter [] [] t

end LabelTree

/-! ## Panels -/

/-- A text in a frame that is as wide as its longest line. -/
def panel (t : Text) : List Text :=
  let lines := Text.splitOn '\n' (plain t)
  let width := (lines.map cells).foldl max 0
  let edge := List.replicate (width + 2) '─'
  ('╭' :: edge ++ ['╮']) :: (lines.map fun line => '│' :: ' ' :: padRight width line ++ [' ', '│']) ++
    ['╰' :: edge ++ ['╯']]

end MudClient.Console

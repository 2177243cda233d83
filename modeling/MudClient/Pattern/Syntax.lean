import MudClient.Pattern.Problem
import MudClient.Text.Blank
import MudClient.Text.LowerCase
import MudClient.Text.Word

/-!
# Patterns as syntax

* `Folding`: whether and how letter case is ignored
* `CharTest`: a test on one character
* `Anchor`: a test on a place
* `Node`: a pattern
* `Node.width`: the least and greatest length of what a pattern matches
* `Node.fault?`: what keeps a pattern from being matched
-/

set_option autoImplicit false

namespace MudClient.Pattern

/-! ## Case -/

inductive Folding
  | exact
  /-- ASCII letters without regard to case. -/
  | ascii
  /-- All letters without regard to case. -/
  | all
deriving DecidableEq, Repr

/-- Small letters with the same capital as another small letter: each row belongs together. -/
def sharedCapitals : List (List Nat) :=
  [[0x69, 0x131], [0x73, 0x17F], [0xB5, 0x3BC], [0x345, 0x3B9, 0x1FBE], [0x390, 0x1FD3],
    [0x3B0, 0x1FE3], [0x3B2, 0x3D0], [0x3B5, 0x3F5], [0x3B8, 0x3D1], [0x3BA, 0x3F0],
    [0x3C0, 0x3D6], [0x3C1, 0x3F1], [0x3C2, 0x3C3], [0x3C6, 0x3D5], [0x432, 0x1C80],
    [0x434, 0x1C81], [0x43E, 0x1C82], [0x441, 0x1C83], [0x442, 0x1C84, 0x1C85], [0x44A, 0x1C86],
    [0x463, 0x1C87], [0x1C88, 0xA64B], [0x1E61, 0x1E9B], [0xFB05, 0xFB06]]

/-- The small letters that count as the same as a code point. -/
def smallForms (code : Nat) : List Nat :=
  let small := Text.lowerCode code
  (sharedCapitals.find? (·.contains small)).getD [small]

def capitalsOf (small : Nat) : List Nat :=
  (if small = 0x69 then [0x130] else []) ++
    (if 0x61 ≤ small && small ≤ 0x7A then [small - 32] else []) ++
    Text.lowerRuns.filterMap fun run =>
      let code := ((small : Int) - run.shift).toNat
      if run.holds code && 0x80 ≤ code && Text.lowerCode code == small then some code else none

/-- All code points that count as the same as a code point. -/
def Folding.variants (folding : Folding) (code : Nat) : List Nat :=
  match folding with
  | .exact => [code]
  | .ascii =>
    if 0x41 ≤ code && code ≤ 0x5A then [code, code + 32]
    else if 0x61 ≤ code && code ≤ 0x7A then [code, code - 32]
    else [code]
  | .all => code :: (smallForms code).flatMap fun small => small :: capitalsOf small

/-- The form in which a referenced group is compared. -/
def Folding.fold (folding : Folding) (code : Nat) : Nat :=
  match folding with
  | .exact => code
  | .ascii => if 0x41 ≤ code && code ≤ 0x5A then code + 32 else code
  | .all => Text.lowerCode code

/-! ## Tests -/

inductive Category
  | digit | space | word
deriving DecidableEq, Repr

inductive ClassItem
  | code (n : Nat)
  | range (first last : Nat)
  | category (category : Category) (negated : Bool)
deriving DecidableEq, Repr

/-- A character passes when one of the items holds it, or, if `negated`, when none does. -/
structure CharTest where
  items : List ClassItem
  negated : Bool
  folding : Folding
  asciiClasses : Bool
deriving DecidableEq, Repr

/-- Membership in a named class; with `ascii` only ASCII characters belong to it. -/
def Category.holds (category : Category) (ascii : Bool) (c : Char) : Bool :=
  match category with
  | .digit => if ascii then c.isDigit else Text.isDecimal c
  | .space => if ascii then Text.isBlank c && c.toNat ≤ 0x20 && !(0x1C ≤ c.toNat && c.toNat ≤ 0x1F)
    else Text.isBlank c
  | .word => if ascii then Text.isAsciiWordChar c else Text.isWordChar c

def ClassItem.holds (item : ClassItem) (folding : Folding) (ascii : Bool) (c : Char) : Bool :=
  match item with
  | .code n => if folding = .exact then c.toNat == n else (folding.variants c.toNat).contains n
  | .range first last =>
    if folding = .exact then first ≤ c.toNat && c.toNat ≤ last
    else (folding.variants c.toNat).any fun v => first ≤ v && v ≤ last
  | .category kind negated => kind.holds ascii c != negated

def CharTest.passes (test : CharTest) (c : Char) : Bool :=
  test.items.any (fun item => item.holds test.folding test.asciiClasses c) != test.negated

/-- Tests on the place between two characters. -/
inductive Anchor
  | textStart
  | lineStart
  /-- The end of the text, or the place before a line feed that ends the text. -/
  | textEndOrLastBreak
  | lineEnd
  | textEnd
  | boundary (ascii : Bool)
  | noBoundary (ascii : Bool)
deriving DecidableEq, Repr

/-! ## Patterns -/

inductive Greed
  /-- As often as possible, giving back what the rest needs. -/
  | greedy
  /-- As rarely as possible, taking more when the rest fails. -/
  | lazy
  /-- As often as possible, giving nothing back. -/
  | possessive
deriving DecidableEq, Repr

structure Width where
  least : Nat
  most : Nat
deriving DecidableEq, Repr

inductive Node
  | empty
  | char (test : CharTest)
  | anchor (anchor : Anchor)
  | seq (first second : Node)
  | either (first second : Node)
  | repeated (greed : Greed) (least : Nat) (most : Option Nat) (body : Node)
  /-- A group whose text is kept under a number. -/
  | group (number : Nat) (body : Node)
  /-- The text that a group has; `width` is the width of the group. -/
  | reference (number : Nat) (folding : Folding) (width : Width)
  | ahead (positive : Bool) (body : Node)
  /-- A pattern that ends here and starts `width` characters before. -/
  | behind (positive : Bool) (width : Nat) (body : Node)
  | ifGroup (number : Nat) (yes no : Node)
  | atomic (body : Node)
deriving DecidableEq, Repr

/-- Widths are counted up to this bound. -/
def Width.bound : Nat := 0x10000000000000000

def Width.capped (least most : Nat) : Width :=
  ⟨min least Width.bound, min most Width.bound⟩

def Node.width : Node → Width
  | empty => ⟨0, 0⟩
  | char _ => ⟨1, 1⟩
  | anchor _ => ⟨0, 0⟩
  | seq a b => .capped (a.width.least + b.width.least) (a.width.most + b.width.most)
  | either a b => ⟨min a.width.least b.width.least, max a.width.most b.width.most⟩
  | repeated _ least most body =>
    let w := body.width
    .capped (w.least * least) (match most with
      | some n => w.most * n
      | none => if w.most = 0 then 0 else Width.bound)
  | group _ body => body.width
  | reference _ _ width => width
  | ahead _ _ => ⟨0, 0⟩
  | behind _ _ _ => ⟨0, 0⟩
  | ifGroup _ yes no =>
    ⟨min yes.width.least no.width.least, max yes.width.most no.width.most⟩
  | atomic body => body.width

/-- The name of the operation that repeats. -/
def Greed.operator : Greed → String
  | greedy => "MAX_REPEAT"
  | lazy => "MIN_REPEAT"
  | possessive => "POSSESSIVE_REPEAT"

/-- A look-behind starts at most so many characters before. -/
def farthest : Nat := 0xFFFFFFFF

/-- What is wrong with the first part, from the left and the outside, that something is wrong with. A
look-behind has one width, and under `template` nothing is repeated. -/
def Node.fault? (template : Bool) : Node → Option Cause
  | empty | char _ | anchor _ | reference _ _ _ => none
  | seq a b | either a b | ifGroup _ a b => (a.fault? template).or (b.fault? template)
  | repeated greed _ _ body =>
    if template then some (.templateRepeat greed.operator) else body.fault? template
  | group _ body | ahead _ body | atomic body => body.fault? template
  | behind _ _ body =>
    if farthest < body.width.least then some .farLookBehind
    else if body.width.least ≠ body.width.most then some .variableLookBehind
    else body.fault? template

def Node.all : List Node → Node
  | [] => .empty
  | [n] => n
  | n :: m :: rest => .seq n (Node.all (m :: rest))

/-- The first of the patterns that leads to a match. -/
def Node.first : List Node → Node
  | [] => .empty
  | [n] => n
  | n :: m :: rest => .either n (Node.first (m :: rest))

end MudClient.Pattern

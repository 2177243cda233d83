import MudClient.Pattern.Escape
import MudClient.Pattern.Flags
import MudClient.Text.Integer

/-!
# Reading patterns

* `Groups`: the numbered and named groups met so far
* `Frame`: an open parenthesis, or the whole pattern, with the alternatives and items read in it
* `Reading`: the innermost frame, the frames around it, and the groups, with the characters that have names
* `Reading.step`: the next item, separator or parenthesis
* `Regex`, `Regex.read`: a pattern that can be matched

Reading goes from left to right once, so of several faults the leftmost is reported; faults of the
whole pattern come last.
-/

set_option autoImplicit false

namespace MudClient.Pattern

/-! ## Groups -/

/-- The groups of a pattern as far as it has been read. -/
structure Groups where
  /-- For each group from number 1 on its width, once its parenthesis is closed. -/
  widths : List (Option Width)
  names : List (Text × Nat)
  /-- Inside a look-behind, the lowest number of a group opened in it. -/
  lookBehindFrom : Option Nat
  /-- Groups that a condition names by number, each with the index of its first mention. -/
  conditions : List (Nat × Nat)

namespace Groups

def none : Groups := ⟨[], [], .none, []⟩

def next (g : Groups) : Nat := g.widths.length + 1

def width? (g : Groups) (number : Nat) : Option Width :=
  match number with
  | 0 => .none
  | n + 1 => (g.widths[n]?).join

/-- Inside a look-behind only groups from before it can be referred to. -/
def checkLookBehind (g : Groups) (number index : Nat) : Except Refusal Unit := do
  match g.lookBehindFrom with
  | .none => return ()
  | some bound =>
    if (g.width? number).isNone then refuse .openGroup index
    if bound ≤ number then refuse .groupOfSameLookBehind index

/-- A further group, with its name and the index of the name if it has one. -/
def opened (g : Groups) (name : Option (Text × Nat)) : Except Refusal Groups := do
  let wider := { g with widths := g.widths ++ [.none] }
  match name with
  | .none => return wider
  | some (name, index) =>
    match g.names.lookup name with
    | some earlier => refuse (.groupRedefined name g.next earlier) index
    | .none => return { wider with names := g.names ++ [(name, g.next)] }

def closed (g : Groups) (number : Nat) (width : Width) : Groups :=
  { g with widths := g.widths.set (number - 1) (some width) }

/-- Notes that a condition names a group by number. -/
def mentioned (g : Groups) (number index : Nat) : Groups :=
  if (g.conditions.lookup number).isSome then g
  else { g with conditions := g.conditions ++ [(number, index)] }

end Groups

/-! ## Frames -/

/-- What a parenthesis opens. -/
inductive Opening
  | whole
  | capture (number : Nat)
  | plain
  | atomic
  | ahead (positive : Bool)
  /-- A look-behind; `outermost` if it stands in no other one. -/
  | behind (positive : Bool) (outermost : Bool)
  /-- A choice by whether a group took part; `yes` is the first branch once it is complete. -/
  | condition (number : Nat) (yes : Option Node)

/-- What a quantifier makes of an item. -/
inductive ItemKind
  /-- A place, which cannot be repeated. -/
  | anchor
  /-- A repetition, which cannot be repeated again. -/
  | repetition
  | other
deriving DecidableEq

structure Item where
  node : Node
  kind : ItemKind

/-- An open parenthesis, or the whole pattern. Alternatives and items are held latest first. -/
structure Frame where
  opening : Opening
  position : Nat
  flags : Flags
  branches : List Node
  items : List Item

def Frame.sequence (f : Frame) : Node :=
  Node.all (f.items.reverse.map Item.node)

def Frame.body (f : Frame) : Node :=
  Node.first (f.sequence :: f.branches).reverse

/-- The innermost frame, the frames around it from the inside, and the groups. -/
structure Reading where
  names : CharacterNames
  frame : Frame
  outer : List Frame
  groups : Groups

namespace Reading

def start (names : CharacterNames) (flags : Flags) : Reading :=
  ⟨names, ⟨.whole, 0, flags, [], []⟩, [], .none⟩

def push (r : Reading) (node : Node) (kind : ItemKind) : Reading :=
  { r with frame := { r.frame with items := ⟨node, kind⟩ :: r.frame.items } }

def pushTest (r : Reading) (negated : Bool) (items : List ClassItem) : Reading :=
  r.push (.char ⟨items, negated, r.frame.flags.folding, r.frame.flags.ascii⟩) .other

def pushCode (r : Reading) (code : Nat) : Reading :=
  r.pushTest false [.code code]

def enter (r : Reading) (opening : Opening) (position : Nat) (flags : Flags) : Reading :=
  { r with frame := ⟨opening, position, flags, [], []⟩, outer := r.frame :: r.outer }

def enterGroup (r : Reading) (name : Option (Text × Nat)) (position : Nat) :
    Except Refusal Reading := do
  let groups ← r.groups.opened name
  return { r with groups := groups }.enter (.capture r.groups.next) position r.frame.flags

def leave (f : Frame) (g : Groups) : Node × Groups :=
  match f.opening with
  | .whole | .plain => (f.body, g)
  | .capture number => (.group number f.body, g.closed number f.body.width)
  | .atomic => (.atomic f.body, g)
  | .ahead positive => (.ahead positive f.body, g)
  | .behind positive outermost =>
    (.behind positive f.body.width.least f.body,
      if outermost then { g with lookBehindFrom := none } else g)
  | .condition number none => (.ifGroup number f.sequence .empty, g)
  | .condition number (some yes) => (.ifGroup number yes f.sequence, g)

/-- Starts the next alternative; a condition has two at most. -/
def alternative (r : Reading) (index : Nat) : Except Refusal Reading :=
  match r.frame.opening with
  | .condition number none =>
    return { r with frame := { r.frame with
      opening := .condition number (some r.frame.sequence), items := [] } }
  | .condition _ (some _) => refuse .thirdBranch index
  | _ =>
    return { r with frame := { r.frame with
      branches := r.frame.sequence :: r.frame.branches, items := [] } }

/-! ## Quantifiers -/

structure Quantifier where
  least : Nat
  most : Option Nat

/-- Repetitions are counted below this bound. -/
def repeatBound : Nat := 0xFFFFFFFF

/-- A bound that is written between braces, or left out. -/
def repeatCount? (digits : Text) : Except Refusal (Option Nat) :=
  if digits.isEmpty then return none
  else
    match Text.decimal? digits with
    | .error e => throw (.longRepeat e)
    | .ok n => if repeatBound ≤ n then throw .hugeRepeat else return some n

/-- The bounds between braces, the opening one taken; none if this is no quantifier. -/
def braces (s : Source) : Except Refusal (Option (Quantifier × s.Shorter)) := do
  if s.nextIs '\x7d' then return none
  let (lo, s₁) ← s.takeWhile Char.isDigit
  let (hi, s₂) ← show Except Refusal (Text × s.Within) from do
    match ← s₁.val.accept ',' with
    | none => return (lo, s₁)
    | some c =>
      let (hi, s₂) ← c.val.takeWhile Char.isDigit
      return (hi, s₁.reach (c.reach s₂).within)
  match ← s₂.val.accept '\x7d' with
  | none => return none
  | some e =>
    let least := (← repeatCount? lo).getD 0
    let most ← repeatCount? hi
    if most.any (· < least) then refuse .emptyRepeatRange s.index
    return some (⟨least, most⟩, ⟨e.val, Nat.lt_of_lt_of_le e.property s₂.property⟩)

/-- Repeats the latest item; the quantifier stands at `position`. -/
def quantify (r : Reading) (q : Quantifier) (position : Nat) (s : Source) :
    Except Refusal (Reading × s.Within) := do
  match r.frame.items with
  | [] => refuse .nothingToRepeat position
  | ⟨_, .anchor⟩ :: _ => refuse .nothingToRepeat position
  | ⟨_, .repetition⟩ :: _ => refuse .multipleRepeat position
  | ⟨node, .other⟩ :: earlier =>
    let repeated (greed : Greed) : Reading := { r with frame := { r.frame with
      items := ⟨.repeated greed q.least q.most node, .repetition⟩ :: earlier } }
    match ← s.accept '?' with
    | some s' => return (repeated .lazy, s'.within)
    | none =>
      match ← s.accept '+' with
      | some s' => return (repeated .possessive, s'.within)
      | none => return (repeated .greedy, s.itself)

/-! ## Escapes -/

def anchorEscape? (ascii : Bool) (c : Char) : Option Anchor :=
  match c with
  | 'A' => some .textStart
  | 'Z' => some .textEnd
  | 'b' => some (.boundary ascii)
  | 'B' => some (.noBoundary ascii)
  | _ => none

/-- Adds the text of a group; `start` is where the reference starts and `index` where it ends. -/
def pushReference (r : Reading) (number start index : Nat) : Except Refusal Reading := do
  match r.groups.width? number with
  | none => refuse .openGroup start
  | some width =>
    r.groups.checkLookBehind number index
    return r.push (.reference number r.frame.flags.folding width) .other

/-- A reference by number, or a character by three octal digits; `c` is the first digit and the
backslash is at `start`. -/
def numberEscape (r : Reading) (start : Nat) (c : Char) (s : Source) :
    Except Refusal (Reading × s.Within) := do
  let (more, s₁) ← s.takeUpTo Char.isDigit 1
  let octal := isOctalDigit c && more.length == 1 && more.all isOctalDigit &&
    s₁.val.nextSatisfies isOctalDigit
  if octal then
    let (last, s₂) ← s₁.val.takeUpTo isOctalDigit 1
    let code ← octalEscape start (c :: more ++ last)
    return (r.pushCode code, s₁.reach s₂)
  else
    let number := Text.numeral 10 (c :: more)
    if r.groups.next ≤ number then refuse (.invalidReference number) (start + 1)
    return (← r.pushReference number start s₁.val.index, s₁)

def escape (r : Reading) (start : Nat) (c : Char) (s : Source) :
    Except Refusal (Reading × s.Within) := do
  match anchorEscape? r.frame.flags.ascii c with
  | some anchor => return (r.push (.anchor anchor) .anchor, s.itself)
  | none =>
    match categoryEscape? c with
    | some item => return (r.pushTest false [item], s.itself)
    | none =>
      match controlEscape? c with
      | some code => return (r.pushCode code, s.itself)
      | none =>
        match ← codeEscape r.names start c s with
        | some (code, s') => return (r.pushCode code, s')
        | none =>
          if c = '0' then
            let (digits, s') ← s.takeUpTo isOctalDigit 2
            return (r.pushCode (Text.numeral 8 digits), s')
          else if c.isDigit then r.numberEscape start c s
          else if c.isAlpha then refuse (.badEscape ['\\', c]) start
          else return (r.pushCode c.toNat, s.itself)

/-! ## Parentheses -/

def groupBound : Nat := 0x3FFFFFFF

/-- The name of a group up to `stop`, and the index it starts at. -/
def groupName (stop : Char) (s : Source) : Except Refusal ((Text × Nat) × s.Shorter) := do
  let (name, s') ← s.nameUntil stop "group name" []
  let index := s'.val.index - (name.length + 1)
  if !Text.isIdentifier name then refuse (.badGroupName name) index
  return ((name, index), s')

def conditionGroup (r : Reading) (name : Text) (index : Nat) : Except Refusal (Nat × Groups) := do
  if Text.isIdentifier name then
    match r.groups.names.lookup name with
    | none => refuse (.unknownGroup name) index
    | some number => return (number, r.groups)
  else
    match Text.integer? name with
    | some (.ofNat number) =>
      if number = 0 then refuse .zeroGroup index
      if groupBound ≤ number then refuse (.invalidReference number) index
      return (number, r.groups.mentioned number index)
    | _ => refuse (.badGroupName name) index

/-- What follows `(?P`: a named group or a reference by name. `position` is that of the parenthesis. -/
def namedExtension (r : Reading) (position : Nat) (s : Source) :
    Except Refusal (Reading × s.Within) := do
  match ← s.accept '<' with
  | some s₁ =>
    let (name, s₂) ← groupName '>' s₁.val
    return (← r.enterGroup (some name) position, (s₁.reach s₂.within).within)
  | none =>
    match ← s.accept '=' with
    | some s₁ =>
      let ((name, index), s₂) ← groupName ')' s₁.val
      match r.groups.names.lookup name with
      | none => refuse (.unknownGroup name) index
      | some number =>
        return (← r.pushReference number index s₂.val.index, (s₁.reach s₂.within).within)
    | none =>
      match ← s.pop with
      | none => refuse .unexpectedEnd s.index
      | some (token, _) => refuse (.unknownExtension ('P' :: token.written)) (position + 1)

/-- What follows `(?<`: a look-behind. -/
def lookBehind (r : Reading) (position : Nat) (s : Source) :
    Except Refusal (Reading × s.Within) := do
  match ← s.pop with
  | none => refuse .unexpectedEnd s.index
  | some (token, s') =>
    if token = .plain '=' || token = .plain '!' then
      let outermost := r.groups.lookBehindFrom.isNone
      let groups := if outermost then { r.groups with lookBehindFrom := some r.groups.next }
        else r.groups
      return ({ r with groups := groups }.enter (.behind (token == Token.plain '=') outermost) position
        r.frame.flags, s'.within)
    else refuse (.unknownExtension ('<' :: token.written)) (position + 1)

/-- What follows `(?(`: the group that decides, up to its parenthesis. -/
def conditional (r : Reading) (position : Nat) (s : Source) :
    Except Refusal (Reading × s.Within) := do
  let (name, s') ← s.nameUntil ')' "group name" []
  let (number, groups) ← r.conditionGroup name (s'.val.index - (name.length + 1))
  groups.checkLookBehind number s'.val.index
  return ({ r with groups := groups }.enter (.condition number none) position r.frame.flags,
    s'.within)

/-- Settings inside the pattern: for the whole of it, at its very start only, or for a group. -/
def flagExtension (r : Reading) (position : Nat) (token : Token) (s : Source) :
    Except Refusal (Reading × s.Within) := do
  let (flags, s') ← readInlineFlags token s
  match flags with
  | .overall on =>
    if !(r.outer.isEmpty && r.frame.branches.isEmpty && r.frame.items.isEmpty) then
      refuse .lateGlobalFlags position
    return ({ r with frame := { r.frame with flags := r.frame.flags.turnOn on } }, s'.within)
  | .forGroup on off => return (r.enter .plain position (r.frame.flags.forGroup on off), s'.within)

/-- What follows `(?`. -/
def extension (r : Reading) (position : Nat) (s : Source) :
    Except Refusal (Reading × s.Within) := do
  match ← s.pop with
  | none => refuse .unexpectedEnd s.index
  | some (token, s') =>
    let flags := r.frame.flags
    let after (m : Except Refusal (Reading × s'.val.Within)) :
        Except Refusal (Reading × s.Within) := do
      let (r', s'') ← m
      return (r', (s'.reach s'').within)
    match token with
    | .plain ':' => return (r.enter .plain position flags, s'.within)
    | .plain '>' => return (r.enter .atomic position flags, s'.within)
    | .plain '=' => return (r.enter (.ahead true) position flags, s'.within)
    | .plain '!' => return (r.enter (.ahead false) position flags, s'.within)
    | .plain 'P' => after (r.namedExtension position s'.val)
    | .plain '<' => after (r.lookBehind position s'.val)
    | .plain '(' => after (r.conditional position s'.val)
    | .plain '#' =>
      let (found, s'') ← s'.val.skipPast ')'
      if !found then refuse .unterminatedComment position
      return (r, (s'.reach s'').within)
    | _ =>
      if token.flag?.isSome || token = .plain '-' then after (r.flagExtension position token s'.val)
      else refuse (.unknownExtension token.written) (position + 1)

def parenthesis (r : Reading) (position : Nat) (s : Source) :
    Except Refusal (Reading × s.Within) := do
  match ← s.accept '?' with
  | none => return (← r.enterGroup none position, s.itself)
  | some s' =>
    let (r', s'') ← r.extension position s'.val
    return (r', (s'.reach s'').within)

/-! ## Steps -/

def isLayout (c : Char) : Bool :=
  c = ' ' || c = '\t' || c = '\n' || c = '\r' || c = '\x0b' || c = '\x0c'

/-- A character that has been taken from `position`, with what belongs to it. -/
def character (r : Reading) (position : Nat) (c : Char) (s : Source) :
    Except Refusal (Reading × s.Within) := do
  let flags := r.frame.flags
  let here := s.itself
  if flags.verbose && isLayout c then return (r, here)
  else if flags.verbose && c = '#' then return (r, (← s.skipPast '\n').2)
  else
    match c with
    | '.' => return (r.pushTest true (if flags.dotAll then [] else [.code 10]), here)
    | '^' => return (r.push (.anchor (if flags.multiline then .lineStart else .textStart)) .anchor, here)
    | '$' =>
      return (r.push (.anchor (if flags.multiline then .lineEnd else .textEndOrLastBreak)) .anchor, here)
    | '?' => r.quantify ⟨0, some 1⟩ position s
    | '*' => r.quantify ⟨0, none⟩ position s
    | '+' => r.quantify ⟨1, none⟩ position s
    | '\x7b' =>
      match ← braces s with
      | none => return (r.pushCode c.toNat, here)
      | some (q, s') =>
        let (r', s'') ← r.quantify q position s'.val
        return (r', (s'.reach s'').within)
    | '[' =>
      let (negated, items, s') ← readSet r.names s
      return (r.pushTest negated items, s'.within)
    | '(' => r.parenthesis position s
    | _ => return (r.pushCode c.toNat, here)

/-- One step; none where the pattern ends, or where a parenthesis closes that was not opened. -/
def step (r : Reading) (s : Source) : Except Refusal (Option (Reading × s.Shorter)) := do
  if s.nextIs '|' then
    let r' ← r.alternative s.index
    return (← s.pop).map fun p => (r', p.2)
  else if s.nextIs ')' then
    match r.outer with
    | [] => return none
    | frame :: outer =>
      let (node, groups) := leave r.frame r.groups
      let r' := { r with frame := frame, outer := outer, groups := groups }
      return (← s.pop).map fun p => (r'.push node .other, p.2)
  else
    match ← s.pop with
    | none => return none
    | some (token, s') =>
      let (r', s'') ← match token with
        | .escaped c => r.escape s.index c s'.val
        | .plain c => r.character s.index c s'.val
      return some (r', s'.reach s'')

def run (r : Reading) (s : Source) : Except Refusal (Reading × Source) := do
  match ← r.step s with
  | none => return (r, s)
  | some (r', s') => run r' s'.val
termination_by s.rest.length
decreasing_by exact s'.property

end Reading

/-! ## Patterns -/

/-- A pattern that can be matched: its syntax, and the number and the names of its groups. -/
structure Regex where
  node : Node
  groupCount : Nat
  names : List (Text × Nat)
deriving DecidableEq

def Regex.read (names : CharacterNames) (source : Text) (bits : Int) : Except Refusal Regex := do
  let (r, s) ← (Reading.start names (.ofBits bits)).run (← Source.ofText source)
  if !r.outer.isEmpty then refuse .unterminatedGroup r.frame.position
  if r.frame.flags.locale then throw .localeFlag
  if r.frame.flags.ascii && r.frame.flags.unicode then throw .asciiAndUnicode
  if !s.rest.isEmpty then refuse .unbalancedParenthesis s.index
  match r.groups.conditions.find? fun c => r.groups.next ≤ c.1 with
  | some (number, index) => refuse (.invalidReference number) index
  | none =>
    let node := r.frame.body
    match node.fault? r.frame.flags.template with
    | some cause => throw (.problem ⟨cause, none⟩)
    | none =>
      if !Flags.fit bits then throw .hugeFlags
      return ⟨node, r.groups.widths.length, r.groups.names⟩

end MudClient.Pattern

import MudClient.Text.Numeral

/-!
# Bytes as text

* `Utf8.Fault`, `Utf8.Problem`: what is wrong with bytes, and where
* `Utf8.decodeFrom`: the text that bytes encode, up to the first problem
* `Utf8.decode`: bytes read as a whole
* `Utf8.decodeBlocks`: bytes read block by block, where the end of a block may cut a character
-/

set_option autoImplicit false

namespace MudClient.Utf8

inductive Fault
  /-- No character starts with it. -/
  | start
  /-- The byte after it does not go on with the character. -/
  | continuation
  /-- The character is cut off by the end. -/
  | cutOff
deriving DecidableEq, Repr

def Fault.reason : Fault → String
  | start => "invalid start byte"
  | continuation => "invalid continuation byte"
  | cutOff => "unexpected end of data"

/-- A character that cannot be read: its fault, its place, the number of its bytes that were good, and
the first of them. -/
structure Problem where
  fault : Fault
  position : Nat
  length : Nat
  byte : Nat
deriving DecidableEq, Repr

def hexByte (byte : Nat) : String :=
  String.ofList [Nat.digitChar (byte / 16), Nat.digitChar (byte % 16)]

def Problem.message (p : Problem) : String :=
  let place :=
    if p.length ≤ 1 then "byte 0x" ++ hexByte p.byte ++ " in position " ++ toString p.position
    else "bytes in position " ++ toString p.position ++ "-" ++ toString (p.position + p.length - 1)
  "'utf-8' codec can't decode " ++ place ++ ": " ++ p.fault.reason

/-- A character of which some bytes are still to come. -/
structure Open where
  first : Nat
  value : Nat
  taken : Nat
  owed : Nat
  /-- The least and the greatest byte that may come next. -/
  low : Nat
  high : Nat

def lead? (b : Nat) : Option Open :=
  if 0xC2 ≤ b && b ≤ 0xDF then some ⟨b, b % 32, 1, 1, 0x80, 0xBF⟩
  else if b = 0xE0 then some ⟨b, b % 16, 1, 2, 0xA0, 0xBF⟩
  else if b = 0xED then some ⟨b, b % 16, 1, 2, 0x80, 0x9F⟩
  else if 0xE1 ≤ b && b ≤ 0xEF then some ⟨b, b % 16, 1, 2, 0x80, 0xBF⟩
  else if b = 0xF0 then some ⟨b, b % 8, 1, 3, 0x90, 0xBF⟩
  else if 0xF1 ≤ b && b ≤ 0xF3 then some ⟨b, b % 8, 1, 3, 0x80, 0xBF⟩
  else if b = 0xF4 then some ⟨b, b % 8, 1, 3, 0x80, 0x8F⟩
  else none

/-- The text that bytes encode, the first of which stands at `position`, and the problem that ends it. -/
def decodeFrom (position : Nat) (started : Option Open) : List Nat → Text × Option Problem
  | [] =>
    ([], started.map fun o => ⟨.cutOff, position - o.taken, o.taken, o.first⟩)
  | b :: rest =>
    match started with
    | none =>
      if b < 0x80 then
        let (t, problem) := decodeFrom (position + 1) none rest
        (Char.ofNat b :: t, problem)
      else
        match lead? b with
        | none => ([], some ⟨.start, position, 1, b⟩)
        | some o => decodeFrom (position + 1) (some o) rest
    | some o =>
      if b < o.low || o.high < b then
        ([], some ⟨.continuation, position - o.taken, o.taken, o.first⟩)
      else
        let value := o.value * 64 + b % 64
        if o.owed ≤ 1 then
          let (t, problem) := decodeFrom (position + 1) none rest
          (Char.ofNat value :: t, problem)
        else
          decodeFrom (position + 1) (some ⟨o.first, value, o.taken + 1, o.owed - 1, 0x80, 0xBF⟩) rest

def decode (bytes : List Nat) : Except Problem Text :=
  match decodeFrom 0 none bytes with
  | (t, none) => .ok t
  | (_, some problem) => .error problem

/-- The bytes of a file in blocks of `size + 1`. -/
def blocks (size : Nat) (bytes : List Nat) : List (List Nat) :=
  match bytes with
  | [] => []
  | b :: rest => (b :: rest.take size) :: blocks size (rest.drop size)
termination_by bytes.length
decreasing_by simp only [List.length_drop, List.length_cons]; omega

/-- The text that blocks of bytes encode. What a block cuts off is read with the next one, and places are
counted from where that starts. -/
def decodeBlocks (cut : List Nat) : List (List Nat) → Except Problem Text
  | [] => decode cut
  | block :: more =>
    match decodeFrom 0 none (cut ++ block) with
    | (t, none) => (decodeBlocks [] more).map (t ++ ·)
    | (t, some problem) =>
      if problem.fault = .cutOff then
        (decodeBlocks ((cut ++ block).drop problem.position) more).map (t ++ ·)
      else .error problem

end MudClient.Utf8

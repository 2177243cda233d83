import MudClient.Text.Basic

/-!
# Console markup

* `tag?`: a markup tag at a bracket
* `escape`: a text written so that no part of it is taken for a tag
* `plain`: what is shown of a text with markup

A tag stands in square brackets and starts with a small letter, a slash, a number sign or an at sign.
Tags set colours, which are not shown here.
-/

set_option autoImplicit false

namespace MudClient.Console

/-- The text up to the bracket that closes, and what follows it; no other bracket may open in between. -/
def upToClosing : Text → Option (Text × Text)
  | [] => none
  | c :: t =>
    if c = ']' then some ([], t)
    else if c = '[' then none
    else (upToClosing t).map fun p => (c :: p.1, p.2)

/-- The characters that a tag may start with. -/
def startsTag (c : Char) : Bool :=
  c.isLower || c = '#' || c = '/' || c = '@'

/-- The tag after an opening bracket, and what follows it. -/
def tag? : Text → Option (Text × Text)
  | [] => none
  | c :: t => if startsTag c then (upToClosing t).map fun p => (c :: p.1, p.2) else none

theorem length_upToClosing {t inner rest : Text} (h : upToClosing t = some (inner, rest)) :
    rest.length < t.length := by
  induction t generalizing inner with
  | nil => simp [upToClosing] at h
  | cons c t ih =>
    simp only [upToClosing] at h
    split at h
    · simp only [Option.some.injEq, Prod.mk.injEq] at h
      simp [← h.2]
    · split at h
      · simp at h
      · obtain ⟨⟨i, r⟩, hp, he⟩ := Option.map_eq_some_iff.1 h
        simp only [Prod.mk.injEq] at he
        have := ih (he.2 ▸ hp)
        simp only [List.length_cons]
        omega

theorem length_tag? {t inner rest : Text} (h : tag? t = some (inner, rest)) :
    rest.length < t.length := by
  cases t with
  | nil => simp [tag?] at h
  | cons c t =>
    simp only [tag?] at h
    split at h
    · obtain ⟨⟨i, r⟩, hp, he⟩ := Option.map_eq_some_iff.1 h
      simp only [Prod.mk.injEq] at he
      have := length_upToClosing (he.2 ▸ hp)
      simp only [List.length_cons]
      omega
    · simp at h

def backslashes (n : Nat) : Text := List.replicate n '\\'

/-! ## Writing -/

/-- Escapes a text before which stand so many backslashes: those in front of a tag are doubled, and
one more goes before its bracket. -/
def escapeFrom (before : Nat) : Text → Text
  | [] => backslashes before
  | c :: t =>
    if c = '\\' then escapeFrom (before + 1) t
    else if c = '[' && (tag? t).isSome then backslashes (2 * before + 1) ++ c :: escapeFrom 0 t
    else backslashes before ++ c :: escapeFrom 0 t

def endsInOneBackslash (t : Text) : Bool :=
  match t.reverse with
  | '\\' :: '\\' :: _ => false
  | '\\' :: _ => true
  | _ => false

/-- A text written so that no part of it is taken for a tag, nor a tag right after it for text. -/
def escape (t : Text) : Text :=
  let escaped := escapeFrom 0 t
  if endsInOneBackslash escaped then escaped ++ ['\\'] else escaped

/-! ## Reading -/

/-- What is shown of a text before which stand so many backslashes. Two of them in front of a tag show
one, and a single one makes it text; before any other bracket the last of them is not shown. -/
def plainFrom (before : Nat) (t : Text) : Text :=
  match t with
  | [] => backslashes before
  | c :: t =>
    if c = '\\' then plainFrom (before + 1) t
    else if c = '[' then
      match h : tag? t with
      | some (inner, rest) =>
        have := length_tag? h
        backslashes (before / 2) ++ (if before % 2 = 1 then '[' :: inner ++ [']'] else []) ++
          plainFrom 0 rest
      | none => backslashes (before - 1) ++ c :: plainFrom 0 t
    else backslashes before ++ c :: plainFrom 0 t
termination_by t.length

/-- The controls that are never shown: bell, backspace, line tabulation, form feed, carriage return. -/
def isHidden (c : Char) : Bool :=
  c = '\x07' || c = '\x08' || c = '\x0b' || c = '\x0c' || c = '\r'

def plain (t : Text) : Text :=
  (plainFrom 0 t).filter fun c => !isHidden c

end MudClient.Console

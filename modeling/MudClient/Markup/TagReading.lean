import MudClient.Markup.AttributeValue
import MudClient.Text.Letter
import MudClient.Text.LowerCase

/-!
# One tag

* `TagPart`, `nextPart`: what stands next inside a tag
* `TagReading`: a tag that was read and the text after it, or the refusal of what stands there
* `readAttributes`: the attributes of a tag up to its end
* `readClosing`, `readTag`: the tag at the front of a text
* `suffix_of_readTag`: what is left behind a tag
* `readTagAt`, `readValueAt`, `recoverValueAt`: the same by position in a line
-/

set_option autoImplicit false

namespace MudClient.Markup

def isNameChar (c : Char) : Bool :=
  !(isGap c || c = '/' || c = '>' || c = '<')

def isKeyChar (c : Char) : Bool :=
  !(isGap c || c = '=' || c = '/' || c = '>' || c = '<')

def dropGaps (t : Text) : Text :=
  t.dropWhile isGap

theorem dropGaps_suffix (t : Text) : dropGaps t <:+ t :=
  List.dropWhile_suffix _

/-! ## The parts of a tag -/

/-- What stands next inside a tag. -/
inductive TagPart
  /-- The line ends, or another tag begins. -/
  | cut
  /-- The tag ends. -/
  | ends (selfClosing : Bool) (rest : Text)
  /-- A key, with the empty value if none is given. -/
  | attribute (key : Text) (value : ValueReading)
  /-- A key whose quoted value never ends. -/
  | unclosed (key : Text)
  /-- A slash or an equals sign without a meaning here. -/
  | stray (rest : Text)

/-- The value after a key, if an equals sign announces one. -/
def valueAfterKey (key afterKey : Text) : TagPart :=
  match dropGaps afterKey with
  | '=' :: t =>
    match readValue (dropGaps t) with
    | some value => .attribute key value
    | none => .unclosed key
  | t => .attribute key ⟨[], t, []⟩

/-- The part of a tag that starts at a character that is no gap. -/
def partAt (c : Char) (rest : Text) : TagPart :=
  if c = '<' then .cut
  else if c = '/' ∧ rest.head? = some '>' then .ends true rest.tail
  else if c = '>' then .ends false rest
  else if isKeyChar c then
    valueAfterKey (c :: rest.takeWhile isKeyChar) (rest.dropWhile isKeyChar)
  else .stray rest

/-- The next part of a tag, behind any gaps. -/
def nextPart (t : Text) : TagPart :=
  match dropGaps t with
  | [] => .cut
  | c :: rest => partAt c rest

def TagPart.rest : TagPart → Text
  | .cut => []
  | .ends _ rest => rest
  | .attribute _ value => value.rest
  | .unclosed _ => []
  | .stray rest => rest

theorem valueAfterKey_suffix (key t : Text) : (valueAfterKey key t).rest <:+ t := by
  have h1 := dropGaps_suffix t
  simp only [valueAfterKey]
  split
  · next u hu =>
    have h2 := ((dropGaps_suffix u).trans (List.suffix_cons '=' u)).trans (hu ▸ h1)
    split
    · next v hv => exact (suffix_of_readValue hv).trans h2
    · exact List.nil_suffix
  · exact h1

theorem partAt_suffix (c : Char) (rest : Text) : (partAt c rest).rest <:+ rest := by
  simp only [partAt]
  split
  · exact List.nil_suffix
  split
  · exact List.tail_suffix _
  split
  · exact List.suffix_refl _
  split
  · exact (valueAfterKey_suffix _ _).trans (List.dropWhile_suffix _)
  · exact List.suffix_refl _

theorem nextPart_suffix (t : Text) : (nextPart t).rest <:+ t := by
  have h1 := dropGaps_suffix t
  simp only [nextPart]
  split
  · exact List.nil_suffix
  · next c rest hc => exact ((partAt_suffix c rest).trans (List.suffix_cons _ _)).trans (hc ▸ h1)

theorem suffix_of_nextPart {t : Text} {part : TagPart} (h : nextPart t = part) : part.rest <:+ t :=
  h ▸ nextPart_suffix t

/-- Every part takes at least one character. -/
theorem length_nextPart_lt {t : Text} (h : nextPart t ≠ .cut) :
    (nextPart t).rest.length < t.length := by
  have h1 := (dropGaps_suffix t).length_le
  simp only [nextPart] at h ⊢
  split
  · next e => simp [e] at h
  · next c rest e =>
    rw [e] at h1
    exact Nat.lt_of_le_of_lt (partAt_suffix c rest).length_le h1

/-! ## Reading a tag -/

/-- The outcome of reading at one place; `found` is none when what stands there is kept as text. -/
structure TagReading where
  found : Option (Event × Text)
  notices : List Notice

/-- Reads attributes to the end of the tag. `tag` is the line from the tag on, for the notices; `name`
and `attributes` are what has been read of it. Of a repeated key the first value counts, and a
lone slash or equals sign is passed over. -/
def readAttributes (tag name : Text) (attributes : Attributes) (t : Text) : TagReading :=
  match h : nextPart t with
  | .cut => ⟨none, [.unterminatedTag tag]⟩
  | .unclosed key => ⟨none, [.unterminatedAttribute key tag]⟩
  | .ends true rest => ⟨some (.selfClosing name attributes, rest), []⟩
  | .ends false rest => ⟨some (.opening name attributes, rest), []⟩
  | .stray rest =>
    have : rest.length < t.length := by
      have := length_nextPart_lt (t := t) (by simp [h])
      simpa [h, TagPart.rest] using this
    readAttributes tag name attributes rest
  | .attribute key value =>
    have : value.rest.length < t.length := by
      have := length_nextPart_lt (t := t) (by simp [h])
      simpa [h, TagPart.rest] using this
    let further := readAttributes tag name (attributes.insertNew key value.value) value.rest
    ⟨further.found, value.notices ++ further.notices⟩
termination_by t.length

/-- A closing tag ends at the next `>`; only blanks may stand before it. -/
def readClosing (tag name afterName : Text) : TagReading :=
  match afterName.dropWhile (· ≠ '>') with
  | [] => ⟨none, [.malformedClosing tag]⟩
  | _ :: rest =>
    if Text.allBlank (afterName.takeWhile (· ≠ '>')) then
      ⟨some (.closing (Text.lower name), rest), []⟩
    else ⟨none, [.malformedClosing tag]⟩

/-- A tag from its name on. A name starts with a letter and is put into lower case. -/
def readNamed (tag : Text) (closes : Bool) (fromName : Text) : TagReading :=
  let name := fromName.takeWhile isNameChar
  let afterName := fromName.dropWhile isNameChar
  match name with
  | [] => ⟨none, []⟩
  | first :: _ =>
    if !Text.isLetter first then ⟨none, []⟩
    else if closes then readClosing tag name afterName
    else readAttributes tag (Text.lower name) .empty afterName

/-- The tag at the front of a text, whose first character is taken for the opening bracket. -/
def readTag (t : Text) : TagReading :=
  match t with
  | [] => ⟨none, []⟩
  | _ :: '/' :: fromName => readNamed t true fromName
  | _ :: fromName => readNamed t false fromName

/-! ## What is left is the end of the text -/

variable {t rest name tag : Text} {e : Event}

theorem suffix_of_readAttributes {attributes : Attributes}
    (h : (readAttributes tag name attributes t).found = some (e, rest)) : rest <:+ t := by
  fun_induction readAttributes tag name attributes t with
  | case1 => simp at h
  | case2 => simp at h
  | case3 attributes t rest' hp =>
    have h1 : rest' <:+ t := suffix_of_nextPart hp
    simp only [Option.some.injEq, Prod.mk.injEq] at h
    exact h.2 ▸ h1
  | case4 attributes t rest' hp =>
    have h1 : rest' <:+ t := suffix_of_nextPart hp
    simp only [Option.some.injEq, Prod.mk.injEq] at h
    exact h.2 ▸ h1
  | case5 attributes t rest' hp hlt ih =>
    have h1 : rest' <:+ t := suffix_of_nextPart hp
    exact (ih h).trans h1
  | case6 attributes t key value hp hlt further ih =>
    have h1 : value.rest <:+ t := suffix_of_nextPart hp
    exact (ih h).trans h1

theorem suffix_of_readClosing (h : (readClosing tag name t).found = some (e, rest)) : rest <:+ t := by
  simp only [readClosing] at h
  split at h
  · simp at h
  · next c r hr =>
    split at h
    · simp only [Option.some.injEq, Prod.mk.injEq] at h
      exact h.2 ▸ (List.suffix_cons c r).trans (hr ▸ List.dropWhile_suffix _)
    · simp at h

theorem suffix_of_readNamed {closes : Bool} (h : (readNamed tag closes t).found = some (e, rest)) :
    rest <:+ t := by
  have h1 : t.dropWhile isNameChar <:+ t := List.dropWhile_suffix _
  simp only [readNamed] at h
  split at h
  · simp at h
  · split at h
    · simp at h
    · split at h
      · exact (suffix_of_readClosing h).trans h1
      · exact (suffix_of_readAttributes h).trans h1

/-- A tag takes at least the character it begins with. -/
theorem tail_suffix_of_readTag (h : (readTag t).found = some (e, rest)) : rest <:+ t.tail := by
  simp only [readTag] at h
  split at h
  · simp at h
  · exact (suffix_of_readNamed h).trans (List.suffix_cons _ _)
  · exact suffix_of_readNamed h

theorem suffix_of_readTag (h : (readTag t).found = some (e, rest)) : rest <:+ t :=
  (tail_suffix_of_readTag h).trans (List.tail_suffix t)

theorem length_of_readTag (h : (readTag t).found = some (e, rest)) : rest.length < t.length := by
  cases t with
  | nil => cases h
  | cons c t => exact Nat.lt_succ_of_le (tail_suffix_of_readTag h).length_le

/-! ## By position in a line -/

structure Located (α : Type) where
  item : α
  stop : Nat

/-- The tag at a place in a line; the character there is not looked at. -/
def readTagAt (line : Text) (start : Nat) : Option (Located Event) × List Notice :=
  let reading := readTag (line.drop start)
  (reading.found.map fun p => ⟨p.1, line.length - p.2.length⟩, reading.notices)

def ValueReading.located (reading : ValueReading) (line : Text) (start : Nat) : Located Text :=
  ⟨reading.value, start + ((line.drop start).length - reading.rest.length)⟩

/-- The value at a place in a line, which may be its end or past it. -/
def readValueAt (line : Text) (start : Nat) : Option (Located Text) × List Notice :=
  match readValue (line.drop start) with
  | none => (none, [])
  | some reading => (some (reading.located line start), reading.notices)

/-- The value whose delimiter, of whatever kind, stands at a place in a line, up to the same delimiter
before the end of a tag. Past the end of the line there is no delimiter. -/
def recoverValueAt (line : Text) (start : Nat) : Option (Option (Located Text) × List Notice) :=
  match line.drop start with
  | [] => none
  | quote :: body =>
    match recoverValue quote body with
    | none => some (none, [])
    | some reading => some (some (reading.located line start), reading.notices)

end MudClient.Markup

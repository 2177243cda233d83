import MudClient.Markup.Scan

/-!
# Reading a tag

* `tagEvent`: the event of a tag that is no closing tag
* `readAttributes_eq`: the attributes of a tag, one part at a time
* `nextPart_key`, `readTag_of_name`: keys and names are taken off up to the first character that ends them
* `Event.isText`, `isText_of_readTag`: a tag that was read is no run of text
-/

set_option autoImplicit false

namespace MudClient.Markup

variable {quote : Char} {t rest value key name tag : Text} {e : Event}

/-! ## One part of a tag -/

/-- The event of a tag that is no closing tag. -/
def tagEvent (selfClosing : Bool) (name : Text) (attributes : Attributes) : Event :=
  if selfClosing then .selfClosing name attributes else .opening name attributes

theorem readAttributes_eq (tag name : Text) (attributes : Attributes) (t : Text) :
    readAttributes tag name attributes t =
      match nextPart t with
      | .cut => ⟨none, [.unterminatedTag tag]⟩
      | .unclosed key => ⟨none, [.unterminatedAttribute key tag]⟩
      | .ends selfClosing rest => ⟨some (tagEvent selfClosing name attributes, rest), []⟩
      | .stray rest => readAttributes tag name attributes rest
      | .attribute key value =>
        let further := readAttributes tag name (attributes.insertNew key value.value) value.rest
        ⟨further.found, value.notices ++ further.notices⟩ := by
  rw [readAttributes]
  split <;> next h => simp [h, tagEvent]

theorem dropGaps_of_not {c : Char} (h : isGap c = false) : dropGaps (c :: t) = c :: t := by
  simp [dropGaps, h]

theorem valueAfterKey_announced {u : Text} (h : dropGaps t = '=' :: u) :
    valueAfterKey key t = ((readValue (dropGaps u)).map (.attribute key)).getD (.unclosed key) := by
  rw [valueAfterKey, h]
  simp only
  cases readValue (dropGaps u) <;> rfl

theorem valueAfterKey_bare (h : (dropGaps t).head? ≠ some '=') :
    valueAfterKey key t = .attribute key ⟨[], dropGaps t, []⟩ := by
  rw [valueAfterKey]
  split
  · next u hu => exact absurd (congrArg List.head? hu) h
  · rfl

theorem nextPart_gap {c : Char} (h : isGap c) : nextPart (c :: t) = nextPart t := by
  rw [nextPart, nextPart, dropGaps, List.dropWhile_cons_of_pos h]
  rfl

theorem nextPart_dropGaps (t : Text) : nextPart (dropGaps t) = nextPart t := by
  induction t with
  | nil => rfl
  | cons c t ih =>
    cases hc : isGap c with
    | true => rw [nextPart_gap hc, ← ih, dropGaps, List.dropWhile_cons_of_pos hc, dropGaps]
    | false => rw [dropGaps_of_not hc]

theorem readAttributes_dropGaps (tag name : Text) (attributes : Attributes) (t : Text) :
    readAttributes tag name attributes (dropGaps t) = readAttributes tag name attributes t := by
  rw [readAttributes_eq, nextPart_dropGaps, ← readAttributes_eq]

/-- A key is taken off up to the first character that ends it. -/
theorem nextPart_key (hne : key ≠ []) (hk : ∀ c ∈ key, isKeyChar c = true)
    (hr : ∀ c ∈ rest.head?, isKeyChar c = false) : nextPart (key ++ rest) = valueAfterKey key rest := by
  obtain ⟨k, key, rfl⟩ := List.exists_cons_of_ne_nil hne
  have hk0 : ((isGap k = false ∧ ¬k = '=') ∧ ¬k = '/') ∧ ¬k = '>' ∧ ¬k = '<' := by
    simpa [isKeyChar, and_assoc] using hk k List.mem_cons_self
  have hkey : ∀ c ∈ key, isKeyChar c = true := fun c hc => hk c (List.mem_cons_of_mem k hc)
  obtain ⟨htake, hdrop⟩ := Text.takeWhile_append_run hkey hr
  rw [List.cons_append, nextPart, dropGaps_of_not hk0.1.1.1]
  simp only
  rw [partAt, if_neg hk0.2.2, if_neg (fun h => hk0.1.2 h.1), if_neg hk0.2.1,
    if_pos (hk k List.mem_cons_self), htake, hdrop]

theorem nextPart_keyed {after : Text} {r : ValueReading} (hne : key ≠ []) (hk : key.all isKeyChar)
    (ha : dropGaps after = after) (hr : readValue after = some r) :
    nextPart (' ' :: (key ++ '=' :: after)) = .attribute key r := by
  have hend : ∀ c ∈ ('=' :: after).head?, isKeyChar c = false := by
    rintro c ⟨⟩
    decide
  rw [nextPart_gap (by decide), nextPart_key hne (List.all_eq_true.1 hk) hend,
    valueAfterKey_announced (dropGaps_of_not (by decide)), ha, hr]
  rfl

/-- A name is taken off up to the first character that ends it. -/
theorem readNamed_of_name {closes : Bool} (hl : name.head?.any Text.isLetter)
    (hn : name.all isNameChar) (hr : ∀ c ∈ rest.head?, isNameChar c = false) :
    readNamed tag closes (name ++ rest) =
      if closes then readClosing tag name rest
      else readAttributes tag (Text.lower name) .empty rest := by
  obtain ⟨htake, hdrop⟩ := Text.takeWhile_append_run (List.all_eq_true.1 hn) hr
  simp only [readNamed, htake, hdrop]
  cases name with
  | nil => simp at hl
  | cons first name =>
    have hf : Text.isLetter first = true := by simpa using hl
    simp [hf]

theorem readTag_unslashed {c : Char} (h : t.head? ≠ some '/') : readTag (c :: t) = readNamed (c :: t) false t := by
  rw [readTag]
  rintro u rfl
  exact h rfl

theorem readTag_of_name {c : Char} (hl : name.head?.any Text.isLetter) (hn : name.all isNameChar)
    (hr : ∀ c ∈ rest.head?, isNameChar c = false) :
    readTag (c :: (name ++ rest)) =
      readAttributes (c :: (name ++ rest)) (Text.lower name) .empty rest := by
  have hslash : (name ++ rest).head? ≠ some '/' := by
    intro hhead
    cases name with
    | nil => simp at hl
    | cons first name =>
      have hf : isNameChar first = true := List.all_eq_true.1 hn first List.mem_cons_self
      rw [Option.some.inj hhead] at hf
      exact absurd hf (by decide)
  rw [readTag_unslashed hslash, readNamed_of_name hl hn hr, if_neg (by decide)]

/-! ## A tag is no text -/

def Event.isText : Event → Bool
  | .text _ => true
  | _ => false

theorem Event.isText_iff : e.isText = true ↔ ∃ content, e = .text content := by
  cases e <;> simp [Event.isText]

theorem isText_of_readAttributes {attributes : Attributes}
    (h : (readAttributes tag name attributes t).found = some (e, rest)) : e.isText = false := by
  fun_induction readAttributes tag name attributes t with
  | case1 => simp at h
  | case2 => simp at h
  | case3 =>
    simp only [Option.some.injEq, Prod.mk.injEq] at h
    exact h.1 ▸ rfl
  | case4 =>
    simp only [Option.some.injEq, Prod.mk.injEq] at h
    exact h.1 ▸ rfl
  | case5 attributes t rest' hp hlt ih => exact ih h
  | case6 attributes t key value hp hlt further ih => exact ih h

theorem isText_of_readNamed {closes : Bool} (h : (readNamed tag closes t).found = some (e, rest)) :
    e.isText = false := by
  simp only [readNamed] at h
  split at h
  · simp at h
  · split at h
    · simp at h
    · split at h
      · simp only [readClosing] at h
        split at h
        · simp at h
        · split at h
          · simp only [Option.some.injEq, Prod.mk.injEq] at h
            exact h.1 ▸ rfl
          · simp at h
      · exact isText_of_readAttributes h

theorem isText_of_readTag (h : (readTag t).found = some (e, rest)) : e.isText = false := by
  simp only [readTag] at h
  split at h
  · simp at h
  · exact isText_of_readNamed h
  · exact isText_of_readNamed h

end MudClient.Markup

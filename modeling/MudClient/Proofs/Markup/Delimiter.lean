import MudClient.Markup.AttributeValue

/-!
# Which delimiter closes a value

* `EndsTag`, `AnnouncesAttribute`: what may stand behind a closing delimiter, said of the text itself
* `endsTag_iff`, `startsAttribute_iff`, `closesValue_iff`: the tests of the reader decide just that
* `closeQuoted_escaped`, `closeQuoted_closing`, `closeQuoted_other`: one step of reading a quoted value
-/

set_option autoImplicit false

namespace MudClient.Markup

variable {quote c : Char} {t rest : Text}

/-- Blanks, then the end of a tag. -/
def EndsTag (t : Text) : Prop :=
  ∃ blanks rest, Text.allBlank blanks ∧ (t = blanks ++ '>' :: rest ∨ t = blanks ++ '/' :: '>' :: rest)

/-- At least one blank, a name that a further attribute may have, blanks, and an equals sign. -/
def AnnouncesAttribute (t : Text) : Prop :=
  ∃ blanks key gap rest, blanks ≠ [] ∧ Text.allBlank blanks ∧ key ≠ [] ∧ key.all isFurtherKeyChar ∧
    Text.allBlank gap ∧ t = blanks ++ key ++ gap ++ '=' :: rest

/-! ## Dropping a run -/

theorem exists_blanks (t : Text) : ∃ blanks, Text.allBlank blanks ∧ t = blanks ++ Text.dropBlank t :=
  ⟨t.takeWhile Text.isBlank, List.all_takeWhile, List.takeWhile_append_dropWhile.symm⟩

theorem dropBlank_blanks {blanks : Text} (hb : Text.allBlank blanks) (t : Text) :
    Text.dropBlank (blanks ++ t) = Text.dropBlank t := by
  simp only [Text.allBlank, List.all_eq_true] at hb
  exact List.dropWhile_append_of_pos hb

theorem dropBlank_of_not (hc : Text.isBlank c = false) : Text.dropBlank (c :: t) = c :: t := by
  simp [Text.dropBlank, hc]

theorem isBlank_of_isFurtherKeyChar (h : isFurtherKeyChar c) : Text.isBlank c = false := by
  simp only [isFurtherKeyChar, Bool.not_eq_true', Bool.or_eq_false_iff] at h
  exact h.1.1.1.1.1.1

/-! ## What may follow a closing delimiter -/

theorem endsTag_iff : endsTag t = true ↔ EndsTag t := by
  constructor
  · intro h
    obtain ⟨blanks, hb, ht⟩ := exists_blanks t
    simp only [endsTag] at h
    split at h
    · next rest hr => exact ⟨blanks, rest, hb, .inl (hr ▸ ht)⟩
    · next rest hr => exact ⟨blanks, rest, hb, .inr (hr ▸ ht)⟩
    · simp at h
  · rintro ⟨blanks, rest, hb, rfl | rfl⟩
    · simp [endsTag, dropBlank_blanks hb, dropBlank_of_not (c := '>') (by decide)]
    · simp [endsTag, dropBlank_blanks hb, dropBlank_of_not (c := '/') (by decide)]

theorem announces_of_startsAttribute (h : startsAttribute t = true) : AnnouncesAttribute t := by
  obtain ⟨blanks, hb, ht⟩ := exists_blanks t
  obtain ⟨gap, hg, hk⟩ := exists_blanks ((Text.dropBlank t).dropWhile isFurtherKeyChar)
  cases t with
  | nil => simp [startsAttribute] at h
  | cons c t =>
    simp only [startsAttribute, Bool.and_eq_true, Bool.not_eq_true', List.isEmpty_eq_false_iff,
      beq_iff_eq, List.head?_eq_some_iff] at h
    obtain ⟨⟨hc, hkey⟩, rest, hrest⟩ := h
    have hne : blanks ≠ [] := by
      rintro rfl
      rw [List.nil_append, Text.dropBlank, List.dropWhile_cons_of_pos hc] at ht
      have hle := Text.length_dropBlank_le t
      rw [Text.dropBlank, ← ht, List.length_cons] at hle
      omega
    refine ⟨blanks, (Text.dropBlank (c :: t)).takeWhile isFurtherKeyChar, gap, rest, hne, hb, hkey,
      List.all_takeWhile, hg, ?_⟩
    rw [← hrest, List.append_assoc, ← hk, List.append_assoc, List.takeWhile_append_dropWhile, ← ht]

theorem dropWhile_furtherKey {key gap : Text} (hk : key.all isFurtherKeyChar)
    (hg : Text.allBlank gap) :
    (key ++ (gap ++ '=' :: rest)).dropWhile isFurtherKeyChar = gap ++ '=' :: rest := by
  rw [List.dropWhile_append_of_pos (List.all_eq_true.1 hk)]
  cases gap with
  | nil => rfl
  | cons g gap =>
    have hg0 : Text.isBlank g = true := List.all_eq_true.1 hg g List.mem_cons_self
    simp [isFurtherKeyChar, hg0]

theorem startsAttribute_of_announces (h : AnnouncesAttribute t) : startsAttribute t = true := by
  obtain ⟨blanks, key, gap, rest, hne, hb, hkey, hk, hg, rfl⟩ := h
  obtain ⟨b, blanks, rfl⟩ := List.exists_cons_of_ne_nil hne
  obtain ⟨k, key, rfl⟩ := List.exists_cons_of_ne_nil hkey
  have hb0 : Text.isBlank b = true := List.all_eq_true.1 hb b List.mem_cons_self
  have hk0 : isFurtherKeyChar k = true := List.all_eq_true.1 hk k List.mem_cons_self
  have hdrop : Text.dropBlank (b :: blanks ++ (k :: key) ++ gap ++ '=' :: rest) =
      (k :: key) ++ (gap ++ '=' :: rest) := by
    rw [List.append_assoc, List.append_assoc, dropBlank_blanks hb, List.cons_append,
      dropBlank_of_not (isBlank_of_isFurtherKeyChar hk0)]
  have hrest : Text.dropBlank (gap ++ '=' :: rest) = '=' :: rest := by
    rw [dropBlank_blanks hg, dropBlank_of_not (by decide)]
  have hafter : (k :: key ++ (gap ++ '=' :: rest)).dropWhile isFurtherKeyChar = gap ++ '=' :: rest :=
    dropWhile_furtherKey hk hg
  rw [List.cons_append, List.cons_append, List.cons_append] at hdrop ⊢
  rw [startsAttribute, hdrop, hafter, hrest, hb0]
  simp [hk0]

theorem startsAttribute_iff : startsAttribute t = true ↔ AnnouncesAttribute t :=
  ⟨announces_of_startsAttribute, startsAttribute_of_announces⟩

instance : Decidable (EndsTag t) := decidable_of_iff _ endsTag_iff

instance : Decidable (AnnouncesAttribute t) := decidable_of_iff _ startsAttribute_iff

theorem closesValue_iff : closesValue t = true ↔ EndsTag t ∨ Text.allBlank t ∨ AnnouncesAttribute t := by
  rw [closesValue, Bool.or_eq_true, Bool.or_eq_true, endsTag_iff, startsAttribute_iff, or_assoc]

/-! ## One step of reading a quoted value -/

theorem closeQuoted_escaped :
    closeQuoted quote ('\\' :: quote :: t) =
      (closeQuoted quote t).map fun p => (quote :: p.1, p.2) := by
  rw [closeQuoted, if_pos ⟨rfl, rfl⟩]

theorem closeQuoted_closing (hq : quote ≠ '\\') (h : closesValue t) :
    closeQuoted quote (quote :: t) = some ([], t) := by
  cases t with
  | nil => simp [closeQuoted]
  | cons d t => rw [closeQuoted, if_neg (fun e => hq e.1), if_pos ⟨rfl, h⟩]

theorem closeQuoted_other (hc : ¬(c = '\\' ∧ t.head? = some quote))
    (h : ¬(c = quote ∧ closesValue t)) :
    closeQuoted quote (c :: t) = (closeQuoted quote t).map fun p => (c :: p.1, p.2) := by
  cases t with
  | nil =>
    have hcq : c ≠ quote := fun e => h ⟨e, by simp [closesValue, Text.allBlank]⟩
    simp [closeQuoted, hcq]
  | cons d t => rw [closeQuoted, if_neg (by simpa using hc), if_neg h]

end MudClient.Markup

import MudClient.Proofs.Markup.Segmentation
import MudClient.Proofs.Markup.Writing

/-!
# Gaps at the end of a line

* `endsTag_append_gaps` to `closesValue_append_gaps`: the end of the line and gaps are alike to a delimiter
* `readValue_append_gaps`: a value is the same, and the gaps belong to what follows it
* `TagPart.Extends`: a part of a tag, when gaps follow the text it was read from
* `readTag_append_gaps`: so a tag is the same, and so is a refusal
* `appendText`, `scan_append_gaps`: the events of a line with its line end
-/

set_option autoImplicit false

namespace MudClient.Markup

variable {w t : Text} {c quote : Char} {input : Text} {i : Nat} {e : Event} {events : List Event}

/-! ## Texts without a delimiter -/

theorem not_isGap_of_isQuote (hquote : isQuote quote = true) : isGap quote = false := by
  simp only [isQuote, Bool.or_eq_true, decide_eq_true_eq] at hquote
  obtain rfl | rfl := hquote <;> decide

theorem closeQuoted_of_notMem (h : quote ∉ t) : closeQuoted quote t = none := by
  fun_induction closeQuoted quote t with
  | case1 => rfl
  | case2 => simp at h
  | case3 => rfl
  | case4 c d t hc ih => simp [hc.2] at h
  | case5 c d t hc hq => simp [hq.1] at h
  | case6 c d t hc hq ih => rw [ih fun hmem => h (List.mem_cons_of_mem c hmem), Option.map_none]

theorem recoverQuoted_of_notMem (h : quote ∉ t) : recoverQuoted quote t = none := by
  induction t with
  | nil => rfl
  | cons c t ih =>
    rw [List.mem_cons, not_or] at h
    rw [recoverQuoted, if_neg fun e => h.1 e.1.symm, ih h.2, Option.map_none]

/-! ## Behind a delimiter -/

/-- A run that reaches the end of a text takes in whatever follows of its own kind. -/
theorem dropWhile_append_tail {f : Char → Bool} (hw : ∀ d ∈ w, f d = true) (t : Text) :
    (t ++ w).dropWhile f = if t.dropWhile f = [] then [] else t.dropWhile f ++ w := by
  have hnil : w.dropWhile f = [] := by
    simpa using (Text.takeWhile_append_run (s := []) hw nofun).2
  rw [List.dropWhile_append, hnil]
  simp only [List.isEmpty_iff]

theorem takeWhile_append_stopped {f : Char → Bool} (h : t.dropWhile f ≠ []) (w : Text) :
    (t ++ w).takeWhile f = t.takeWhile f := by
  induction t with
  | nil => exact absurd rfl h
  | cons d t ih =>
    cases hd : f d with
    | false => simp [hd]
    | true =>
      rw [List.dropWhile_cons_of_pos hd] at h
      rw [List.cons_append, List.takeWhile_cons_of_pos hd, List.takeWhile_cons_of_pos hd, ih h]

section

variable (hw : ∀ d ∈ w, isGap d = true)

include hw

theorem dropGaps_append_gaps (t : Text) :
    dropGaps (t ++ w) = if dropGaps t = [] then [] else dropGaps t ++ w :=
  dropWhile_append_tail hw t

theorem dropBlank_append_gaps (t : Text) :
    Text.dropBlank (t ++ w) = if Text.dropBlank t = [] then [] else Text.dropBlank t ++ w :=
  dropWhile_append_tail (fun d hd => isBlank_of_isGap (hw d hd)) t

theorem notMem_of_gaps (hc : isGap c = false) : c ∉ w := by
  intro hmem
  simp [hw c hmem] at hc

theorem head?_ne_of_gaps (hc : isGap c = false) : w.head? ≠ some c :=
  fun h => notMem_of_gaps hw hc (List.mem_of_mem_head? h)

theorem endsTag_append_gaps (t : Text) : endsTag (t ++ w) = endsTag t := by
  rw [endsTag, endsTag, dropBlank_append_gaps hw]
  rcases Text.dropBlank t with _ | ⟨c, _ | ⟨d, u⟩⟩
  · rfl
  · have hend : w.head? ≠ some '>' := head?_ne_of_gaps hw (by decide)
    cases w with
    | nil => rfl
    | cons d w =>
      have hd : d ≠ '>' := by simpa using hend
      by_cases hc : c = '>' <;> simp [hc, hd]
  · by_cases hc : c = '>' <;> by_cases hs : c = '/' <;> by_cases hd : d = '>' <;> simp [hc, hs, hd]

theorem head?_dropBlank_append_gaps (t : Text) :
    (Text.dropBlank (t ++ w)).head? = (Text.dropBlank t).head? := by
  rw [dropBlank_append_gaps hw]
  cases Text.dropBlank t <;> rfl

theorem startsAttribute_append_gaps (t : Text) : startsAttribute (t ++ w) = startsAttribute t := by
  have hend : ∀ d ∈ w.head?, isFurtherKeyChar d = false := by
    intro d hd
    simp [isFurtherKeyChar, isBlank_of_isGap (hw d (List.mem_of_mem_head? hd))]
  have hkey : ∀ key : Text, ((key ++ w).takeWhile isFurtherKeyChar) = key.takeWhile isFurtherKeyChar ∧
      (Text.dropBlank ((key ++ w).dropWhile isFurtherKeyChar)).head? =
        (Text.dropBlank (key.dropWhile isFurtherKeyChar)).head? := by
    intro key
    obtain ⟨htake, hdrop⟩ := Text.takeWhile_append_stop (t := key) hend
    exact ⟨htake, by rw [hdrop, head?_dropBlank_append_gaps hw]⟩
  cases t with
  | nil =>
    have hnone : Text.dropBlank w = [] := dropBlank_append_gaps hw []
    cases w with
    | nil => rfl
    | cons d w => simp [startsAttribute, hnone]
  | cons c t =>
    simp only [List.cons_append, startsAttribute]
    rw [← List.cons_append, dropBlank_append_gaps hw]
    split
    · next hnone => rw [hnone]
    · rw [(hkey _).1, (hkey _).2]

theorem closesValue_append_gaps (t : Text) : closesValue (t ++ w) = closesValue t := by
  have hblank : Text.allBlank w = true := List.all_eq_true.2 fun d hd => isBlank_of_isGap (hw d hd)
  have hall : Text.allBlank (t ++ w) = Text.allBlank t := by
    rw [Text.allBlank, List.all_append, ← Text.allBlank, ← Text.allBlank, hblank, Bool.and_true]
  rw [closesValue, endsTag_append_gaps hw, hall, startsAttribute_append_gaps hw, closesValue]

/-! ## Values -/

theorem closeQuoted_append_gaps (hquote : isQuote quote = true) (t : Text) :
    closeQuoted quote (t ++ w) = (closeQuoted quote t).map fun p => (p.1, p.2 ++ w) := by
  have hback : quote ≠ '\\' := by
    rintro rfl
    exact absurd hquote (by decide)
  have hnone : closeQuoted quote w = none := closeQuoted_of_notMem (notMem_of_gaps hw (not_isGap_of_isQuote hquote))
  have hesc : w.head? ≠ some quote := head?_ne_of_gaps hw (not_isGap_of_isQuote hquote)
  fun_induction closeQuoted quote t with
  | case1 => rw [List.nil_append, hnone, Option.map_none]
  | case2 =>
    -- the delimiter at the very end: it closes there, and before gaps all the same
    have hcloses : closesValue w = true := closesValue_append_gaps hw []
    rw [List.singleton_append, closeQuoted_closing hback hcloses]
    rfl
  | case3 c hc =>
    rw [List.singleton_append, closeQuoted_other (fun h => hesc h.2) (fun h => hc h.1), hnone]
    rfl
  | case4 c d t hc ih =>
    obtain ⟨rfl, rfl⟩ := hc
    rw [List.cons_append, List.cons_append, closeQuoted_escaped, ih, Option.map_map, Option.map_map]
    rfl
  | case5 c d t hc hq =>
    obtain ⟨rfl, hcloses⟩ := hq
    rw [List.cons_append, closeQuoted_closing hback ((closesValue_append_gaps hw (d :: t)).trans hcloses)]
    rfl
  | case6 c d t hc hq ih =>
    have hother : ¬(c = quote ∧ closesValue (d :: t ++ w)) := by rwa [closesValue_append_gaps hw]
    rw [List.cons_append, closeQuoted_other (by simpa using hc) hother, ih, Option.map_map, Option.map_map]
    rfl

theorem recoverQuoted_append_gaps (hquote : isQuote quote = true) (t : Text) :
    recoverQuoted quote (t ++ w) = (recoverQuoted quote t).map fun p => (p.1, p.2 ++ w) := by
  induction t with
  | nil =>
    exact recoverQuoted_of_notMem (notMem_of_gaps hw (not_isGap_of_isQuote hquote))
  | cons c t ih =>
    rw [List.cons_append, recoverQuoted, recoverQuoted, endsTag_append_gaps hw, ih]
    split
    · rfl
    · rw [Option.map_map, Option.map_map]
      rfl

theorem bareValue_append_gaps (t : Text) :
    bareValue (t ++ w) = ((bareValue t).1, (bareValue t).2 ++ w) := by
  induction t with
  | nil =>
    cases w with
    | nil => rfl
    | cons d w => simp [bareValue, hw d List.mem_cons_self]
  | cons c t ih =>
    have hend : (t ++ w).head? = some '>' ↔ t.head? = some '>' := by
      cases t with
      | nil => simpa using head?_ne_of_gaps hw (c := '>') (by decide)
      | cons d t => rfl
    rw [List.cons_append, bareValue, bareValue, ih]
    simp only [beq_eq_decide, hend]
    split <;> rfl

/-- A value is the same before gaps, and so is what was noticed about it. -/
theorem readValue_append_gaps (t : Text) :
    readValue (t ++ w) = (readValue t).map fun r => { r with rest := r.rest ++ w } := by
  cases t with
  | nil =>
    have hbare : bareValue w = ([], w) := bareValue_append_gaps hw []
    cases w with
    | nil => rfl
    | cons d w =>
      have hquote : isQuote d = false := by
        cases hd : isQuote d with
        | false => rfl
        | true => simp [not_isGap_of_isQuote hd] at hw
      simp [readValue, hquote, hbare]
  | cons c t =>
    cases hquote : isQuote c with
    | false =>
      have hbare : bareValue (c :: (t ++ w)) = ((bareValue (c :: t)).1, (bareValue (c :: t)).2 ++ w) :=
        bareValue_append_gaps hw (c :: t)
      simp [readValue, hquote, hbare]
    | true =>
      simp only [List.cons_append, readValue, if_pos hquote, readQuoted, recoverValue,
        closeQuoted_append_gaps hw hquote, recoverQuoted_append_gaps hw hquote]
      cases closeQuoted c t with
      | some found => rfl
      | none =>
        simp only [Option.map_none, Option.map_map]
        rfl

end

/-! ## Tags -/

/-- A part of a tag, and the same part when gaps follow the text it was read from. They are left over as they are,
unless nothing but gaps was left and the search for a value passed over them. -/
inductive TagPart.Extends (w : Text) : TagPart → TagPart → Prop
  | cut : Extends w .cut .cut
  | unclosed (key : Text) : Extends w (.unclosed key) (.unclosed key)
  | ends (selfClosing : Bool) (rest : Text) : Extends w (.ends selfClosing rest) (.ends selfClosing (rest ++ w))
  | stray (rest : Text) : Extends w (.stray rest) (.stray (rest ++ w))
  | valued (key : Text) (value : ValueReading) :
      Extends w (.attribute key value) (.attribute key { value with rest := value.rest ++ w })
  | passed (key : Text) (value : ValueReading) (atEnd : value.rest = []) :
      Extends w (.attribute key value) (.attribute key value)

section

variable (hw : ∀ d ∈ w, isGap d = true)

include hw

theorem head?_append_gaps (hc : isGap c = false) (t : Text) : (t ++ w).head? = some c ↔ t.head? = some c := by
  cases t with
  | nil => simpa using head?_ne_of_gaps hw hc
  | cons d t => rfl

theorem extends_announced (key u : Text) {t t' : Text} (ht : dropGaps t = '=' :: u)
    (ht' : dropGaps t' = '=' :: (u ++ w)) : (valueAfterKey key t).Extends w (valueAfterKey key t') := by
  rw [valueAfterKey_announced ht, valueAfterKey_announced ht', dropGaps_append_gaps hw]
  by_cases hu : dropGaps u = []
  · rw [if_pos hu, hu]
    exact .passed key ⟨[], [], []⟩ rfl
  · rw [if_neg hu, readValue_append_gaps hw]
    cases readValue (dropGaps u) with
    | none => exact .unclosed key
    | some value => exact .valued key value

theorem extends_valueAfterKey (key t : Text) : (valueAfterKey key t).Extends w (valueAfterKey key (t ++ w)) := by
  have happend := dropGaps_append_gaps hw t
  match ht : dropGaps t with
  | [] =>
    rw [ht, if_pos rfl] at happend
    rw [valueAfterKey_bare (by simp [ht]), valueAfterKey_bare (by simp [happend]), ht, happend]
    exact .passed key ⟨[], [], []⟩ rfl
  | c :: u =>
    rw [ht, if_neg (List.cons_ne_nil c u), List.cons_append] at happend
    by_cases hc : c = '='
    · subst hc
      exact extends_announced hw key u ht happend
    · rw [valueAfterKey_bare (by simpa [ht] using hc), valueAfterKey_bare (by simpa [happend] using hc), ht, happend]
      exact .valued key ⟨[], c :: u, []⟩

theorem extends_partAt (c : Char) (t : Text) : (partAt c t).Extends w (partAt c (t ++ w)) := by
  have hend : (t ++ w).head? = some '>' ↔ t.head? = some '>' := head?_append_gaps hw (by decide) t
  have hkey : ∀ d ∈ w.head?, isKeyChar d = false := by
    intro d hd
    simp [isKeyChar, hw d (List.mem_of_mem_head? hd)]
  obtain ⟨htake, hdrop⟩ := Text.takeWhile_append_stop (t := t) hkey
  simp only [partAt, hend, htake, hdrop]
  split
  · exact .cut
  split
  · next hc =>
    have hne : t ≠ [] := by
      rintro rfl
      cases hc.2
    rw [List.tail_append_of_ne_nil hne]
    exact .ends true t.tail
  split
  · exact .ends false t
  split
  · exact extends_valueAfterKey hw _ _
  · exact .stray t

theorem extends_nextPart (t : Text) : (nextPart t).Extends w (nextPart (t ++ w)) := by
  rw [nextPart, nextPart, dropGaps_append_gaps hw]
  cases dropGaps t with
  | nil => exact .cut
  | cons c u => exact extends_partAt hw c u

/-- Attributes are read in the same way before gaps; `tag` and `tag'` are there for the notices only. -/
theorem readAttributes_append_gaps (tag tag' name : Text) (attributes : Attributes) (t : Text) :
    (readAttributes tag' name attributes (t ++ w)).found =
      (readAttributes tag name attributes t).found.map fun p => (p.1, p.2 ++ w) := by
  rw [readAttributes_eq]
  have hextends := extends_nextPart hw t
  generalize nextPart (t ++ w) = part at hextends ⊢
  fun_induction readAttributes tag name attributes t generalizing part with
  | case1 _ _ hp | case2 _ _ _ hp | case3 _ _ _ hp | case4 _ _ _ hp =>
    rw [hp] at hextends
    cases hextends
    rfl
  | case5 attributes t rest hp hlt ih =>
    rw [hp] at hextends
    cases hextends
    simp only
    rw [readAttributes_eq]
    exact ih _ (extends_nextPart hw rest)
  | case6 attributes t key value hp hlt further ih =>
    rw [hp] at hextends
    cases hextends with
    | valued =>
      simp only
      rw [readAttributes_eq]
      exact ih _ (extends_nextPart hw value.rest)
    | passed _ _ atEnd =>
      have hcut : nextPart value.rest = .cut := by rw [atEnd]; rfl
      simp only
      rw [readAttributes_eq]
      exact ih _ (hcut ▸ .cut)

theorem readClosing_append_gaps (tag tag' name t : Text) :
    (readClosing tag' name (t ++ w)).found =
      (readClosing tag name t).found.map fun p => (p.1, p.2 ++ w) := by
  have hother : ∀ d ∈ w, decide (d ≠ '>') = true := by
    intro d hd
    rw [decide_eq_true_eq]
    rintro rfl
    exact notMem_of_gaps hw (by decide) hd
  have hdrop := dropWhile_append_tail hother t
  rw [readClosing, readClosing, hdrop]
  cases ht : t.dropWhile (· ≠ '>') with
  | nil => rfl
  | cons c rest =>
    rw [if_neg (List.cons_ne_nil c rest), takeWhile_append_stopped (ht ▸ List.cons_ne_nil c rest)]
    simp only [List.cons_append]
    split <;> rfl

theorem readNamed_append_gaps (tag tag' : Text) (closes : Bool) (t : Text) :
    (readNamed tag' closes (t ++ w)).found =
      (readNamed tag closes t).found.map fun p => (p.1, p.2 ++ w) := by
  have hend : ∀ d ∈ w.head?, isNameChar d = false := by
    intro d hd
    simp [isNameChar, hw d (List.mem_of_mem_head? hd)]
  obtain ⟨htake, hdrop⟩ := Text.takeWhile_append_stop (t := t) hend
  simp only [readNamed, htake, hdrop]
  split
  · rfl
  split
  · rfl
  split
  · exact readClosing_append_gaps hw tag tag' _ _
  · exact readAttributes_append_gaps hw tag tag' _ _ _

theorem readTag_append_gaps (c : Char) (t : Text) :
    (readTag (c :: (t ++ w))).found = (readTag (c :: t)).found.map fun p => (p.1, p.2 ++ w) := by
  by_cases hslash : t.head? = some '/'
  · obtain ⟨u, rfl⟩ := List.head?_eq_some_iff.1 hslash
    exact readNamed_append_gaps hw _ _ true u
  · have hslash' : (t ++ w).head? ≠ some '/' := (head?_append_gaps hw (by decide) t).not.2 hslash
    rw [readTag_unslashed hslash, readTag_unslashed hslash']
    exact readNamed_append_gaps hw _ _ false t

end

/-! ## The whole line -/

/-- Events with a text behind them: it goes to a run of text at the end, or is a run of its own. -/
def appendText (w : Text) (events : List Event) : List Event :=
  match events.getLast? with
  | some (.text content) => events.dropLast ++ [.text (content ++ w)]
  | _ => if w = [] then events else events ++ [.text w]

theorem appendText_cons (h : e.isText = false ∨ events ≠ []) :
    appendText w (e :: events) = e :: appendText w events := by
  cases events with
  | nil =>
    have hlast : ∀ content, e ≠ .text content := by
      rintro content rfl
      simp [Event.isText] at h
    by_cases hw : w = [] <;> cases e <;> simp_all [appendText]
  | cons a events =>
    simp only [appendText, List.getLast?_cons_cons, List.dropLast_cons_cons]
    split
    · rfl
    · split <;> rfl

theorem appendText_consText (c : Char) (w : Text) (events : List Event) :
    appendText w (consText c events) = consText c (appendText w events) := by
  cases events with
  | nil => by_cases hw : w = [] <;> simp [appendText, consText, hw]
  | cons e events =>
    cases htext : e.isText with
    | true =>
      obtain ⟨content, rfl⟩ := Event.isText_iff.1 htext
      by_cases hlast : events = []
      · subst hlast
        rfl
      · rw [appendText_cons (.inr hlast)]
        exact appendText_cons (.inr hlast)
    | false =>
      have hstart : ∀ es, startsWithText (e :: es) = false := fun _ => htext
      rw [consText_of_not (hstart _), appendText_cons (.inr (List.cons_ne_nil e events)),
        appendText_cons (.inl htext), consText_of_not (hstart _)]

theorem readTagAt_append_gaps (hw : ∀ d ∈ w, isGap d = true) (hi : i < input.length) :
    (readTagAt (input ++ w) i).1 = (readTagAt input i).1 := by
  simp only [readTagAt]
  rw [List.drop_append_of_le_length hi.le, List.drop_eq_getElem_cons hi, List.cons_append,
    readTag_append_gaps hw, Option.map_map]
  refine Option.map_congr fun found _ => ?_
  simp only [Function.comp_apply, List.length_append]
  congr 1
  omega

theorem scan_gaps (hw : ∀ d ∈ w, isGap d = true) : (scan w).events = appendText w [] := by
  induction w with
  | nil =>
    rw [scan_nil]
    rfl
  | cons d w ih =>
    have hd : d ≠ '<' := by
      rintro rfl
      exact absurd (hw '<' List.mem_cons_self) (by decide)
    rw [scan_char hd, ih fun e he => hw e (List.mem_cons_of_mem d he)]
    by_cases hnil : w = [] <;> simp [appendText, consText, hnil]

theorem scan_append_gaps (hw : ∀ d ∈ w, isGap d = true) (input : Text) :
    (scan (input ++ w)).events = appendText w (scan input).events := by
  induction hn : input.length using Nat.strong_induction_on generalizing input with
  | _ n ih =>
    subst hn
    match input with
    | [] => rw [List.nil_append, scan_gaps hw, scan_nil]
    | c :: rest =>
      have hrest := ih rest.length (Nat.lt_succ_self _) rest rfl
      by_cases hc : c = '<'
      · subst hc
        have htag := readTag_append_gaps hw '<' rest
        rw [List.cons_append]
        match hfound : (readTag ('<' :: rest)).found with
        | none =>
          rw [hfound, Option.map_none] at htag
          rw [scan_refused htag, scan_refused hfound, hrest, appendText_consText]
        | some (event, after) =>
          rw [hfound, Option.map_some] at htag
          have hafter := ih after.length (length_of_readTag hfound) after rfl
          rw [scan_tag htag, scan_tag hfound, hafter, appendText_cons (.inl (isText_of_readTag hfound))]
      · rw [List.cons_append, scan_char hc, scan_char hc, hrest, appendText_consText]

/-- The blanks at the end of a line change no tag of it, and all of them go to the text at the end. -/
theorem scan_lineEnd (input : Text) {w : Text} (hw : ∀ c ∈ w, c ∈ [' ', '\t', '\r', '\n']) :
    (∀ i, input[i]? = some '<' → (readTagAt (input ++ w) i).1 = (readTagAt input i).1) ∧
      (scan (input ++ w)).events = appendText w (scan input).events := by
  have hgaps : ∀ c ∈ w, isGap c = true := by
    intro c hc
    simpa [isGap, or_assoc] using hw c hc
  refine ⟨fun i hi => ?_, scan_append_gaps hgaps input⟩
  obtain ⟨hi, -⟩ := List.getElem?_eq_some_iff.1 hi
  exact readTagAt_append_gaps hgaps hi

/-- Behind a closing tag the line end is a run of its own. -/
theorem scan_lineEnd_closing :
    let input : Text := "hi</b>".toList
    let w : Text := "\r\n".toList
    (∀ c ∈ w, c ∈ [' ', '\t', '\r', '\n']) ∧ input[2]? = some '<' ∧
      (readTagAt (input ++ w) 2).1 = some ⟨.closing ['b'], 6⟩ ∧
      (scan (input ++ w)).events = [.text ['h', 'i'], .closing ['b'], .text w] := by
  intro input w
  have hw : ∀ c ∈ w, c ∈ [' ', '\t', '\r', '\n'] := by simp [w]
  have hi : input[2]? = some '<' := by decide
  have hline : (scan input).events = [.text ['h', 'i'], .closing ['b']] := by
    have hfound : (readTag ['<', '/', 'b', '>']).found = some (.closing ['b'], []) := rfl
    change (scan ['h', 'i', '<', '/', 'b', '>']).events = _
    rw [scan_char (by decide), scan_char (by decide), scan_tag hfound, scan_nil]
    rfl
  obtain ⟨htags, hevents⟩ := scan_lineEnd input hw
  exact ⟨hw, hi, htags 2 hi, hevents.trans (congrArg (appendText w) hline)⟩

end MudClient.Markup

import MudClient.Proofs.Markup.Writing

/-!
# Reading what was written

* `closeQuoted_escape`: an escaped value is read up to its last delimiter
* `nextPart_attribute`: an attribute is the next part of the tag it stands in
* `readAttributes_append`, `readTag_writeTag`, `readTag_closing`: the reader takes off just what
  the writer put down, whatever text comes behind it
* `scan_writeLine`: a scan gives back the events that were written
-/

set_option autoImplicit false

namespace MudClient.Markup

variable {quote : Char} {key value name tag rest : Text} {choose : Nat → QuoteMark}
  {selfClosing : Bool}

/-! ## Values -/

theorem escape_cons (quote c : Char) (value : Text) :
    escape quote (c :: value) = (if c = quote then ['\\', quote] else [c]) ++ escape quote value := by
  simp [escape]

theorem head?_escape (hq : quote ≠ '\\') (hne : value ≠ []) :
    (escape quote value ++ rest).head? ≠ some quote := by
  cases value with
  | nil => exact absurd rfl hne
  | cons c value =>
    rw [escape_cons]
    split
    · simpa using hq.symm
    · next hc => simpa using hc

/-- An escaped value is read up to its last delimiter. -/
theorem closeQuoted_escape (hq : quote ≠ '\\') (hv : value.getLast? ≠ some '\\')
    (hr : closesValue rest) :
    closeQuoted quote (escape quote value ++ quote :: rest) = some (value, rest) := by
  -- A backslash of the value itself never stands before a delimiter: every delimiter inside brought
  -- its own one, and the last character is none.
  induction value with
  | nil => exact closeQuoted_closing hq hr
  | cons c value ih =>
    have hv' : value.getLast? ≠ some '\\' := by
      cases value with
      | nil => simp
      | cons d value => simpa [List.getLast?_cons_cons] using hv
    rw [escape_cons]
    by_cases hc : c = quote
    · subst hc
      rw [if_pos rfl, List.append_assoc, List.cons_append, List.cons_append, List.nil_append,
        closeQuoted_escaped, ih hv']
      rfl
    · have hb : ¬(c = '\\' ∧ (escape quote value ++ quote :: rest).head? = some quote) := by
        rintro ⟨rfl, hd⟩
        by_cases he : value = []
        · subst he
          simp at hv
        · exact head?_escape hq he hd
      rw [if_neg hc, List.append_assoc, List.cons_append, List.nil_append,
        closeQuoted_other hb (fun e => hc e.1), ih hv']
      rfl

theorem readValue_escape (q : QuoteMark) (hv : value.getLast? ≠ some '\\') (hr : closesValue rest) :
    readValue (q.char :: (escape q.char value ++ q.char :: rest)) = some ⟨value, rest, []⟩ := by
  rw [readValue, if_pos q.isQuote_char, readQuoted, closeQuoted_escape q.char_ne_backslash hv hr]

/-! ## Attributes -/

theorem closesValue_tagEnd : closesValue (tagEnd selfClosing ++ rest) = true := by
  rw [closesValue_iff]
  cases selfClosing with
  | false => exact .inl ⟨[], rest, rfl, .inl rfl⟩
  | true => exact .inl ⟨[], rest, rfl, .inr rfl⟩

theorem writeAttributes_cons_append {ps : List (Text × Text)} :
    writeAttributes choose ((key, value) :: ps) ++ rest =
      ' ' :: (key ++ '=' :: (choose 0).char :: (escape (choose 0).char value ++
        (choose 0).char :: (writeAttributes (fun n => choose (n + 1)) ps ++ rest))) := by
  simp [writeAttributes]

/-- What follows a value that was written lets its delimiter close it. -/
theorem closesValue_writeAttributes {ps : List (Text × Text)} (choose : Nat → QuoteMark)
    (hp : ∀ p ∈ ps, WritableAttribute p) (hr : closesValue rest) :
    closesValue (writeAttributes choose ps ++ rest) = true := by
  match ps, hp with
  | [], _ => exact hr
  | (key, value) :: ps, hp =>
    obtain ⟨hne, hk, -⟩ := hp (key, value) List.mem_cons_self
    rw [closesValue_iff, writeAttributes_cons_append]
    exact .inr (.inr ⟨[' '], key, [], _, by simp, by decide, hne, hk, rfl, by simp; rfl⟩)

theorem nextPart_attribute {q : QuoteMark} (h : WritableAttribute (key, value)) (hr : closesValue rest) :
    nextPart (' ' :: (key ++ '=' :: q.char :: (escape q.char value ++ q.char :: rest))) =
      .attribute key ⟨value, rest, []⟩ := by
  obtain ⟨hne, hk, hv⟩ := h
  have hkey : key.all isKeyChar = true :=
    List.all_eq_true.2 fun c hc => isKeyChar_of_isFurtherKeyChar (List.all_eq_true.1 hk c hc)
  exact nextPart_keyed hne hkey (dropGaps_of_not q.isGap_char) (readValue_escape q hv hr)

theorem nextPart_tagEnd : nextPart (tagEnd selfClosing ++ rest) = .ends selfClosing rest := by
  cases selfClosing with
  | false =>
    have h : dropGaps ('>' :: rest) = '>' :: rest := dropGaps_of_not (by decide)
    simp [tagEnd, nextPart, h, partAt]
  | true =>
    have h : dropGaps ('/' :: '>' :: rest) = '/' :: '>' :: rest := dropGaps_of_not (by decide)
    simp [tagEnd, nextPart, h, partAt]

/-! ## Tags -/

theorem toList_insertNew {attributes : Attributes} (h : key ∉ attributes.keys) :
    (attributes.insertNew key value).toList = attributes.toList ++ [(key, value)] := by
  rw [OrderedMap.insertNew, OrderedMap.contains, if_neg (by simpa using h),
    OrderedMap.toList_insert_of_notMem h]

theorem eq_of_toList {attributes whole : Attributes} (h : attributes.toList = whole.toList) :
    attributes = whole := by
  cases attributes
  cases whole
  simpa using h

/-- Reading goes on from the attributes that have been read, `attributes`, with the ones that were
written behind them. -/
theorem readAttributes_append (attributes : Attributes) {whole : Attributes} {ps : List (Text × Text)}
    (hw : whole.toList = attributes.toList ++ ps) (hp : ∀ p ∈ ps, WritableAttribute p)
    (hr : closesValue rest) :
    readAttributes tag name attributes (writeAttributes choose ps ++ rest) =
      readAttributes tag name whole rest := by
  induction ps generalizing choose attributes with
  | nil =>
    have he : attributes = whole := eq_of_toList (by rw [hw, List.append_nil])
    rw [writeAttributes, List.nil_append, he]
  | cons p ps ih =>
    obtain ⟨key, value⟩ := p
    have hp' : ∀ p ∈ ps, WritableAttribute p := fun p h => hp p (List.mem_cons_of_mem _ h)
    have hkey : key ∉ attributes.keys := by
      have hd := whole.nodup_keys
      rw [hw, List.map_append, List.map_cons] at hd
      exact fun hk => (List.nodup_append.1 hd).2.2 key hk key List.mem_cons_self rfl
    have hw' : whole.toList = (attributes.insertNew key value).toList ++ ps := by
      rw [toList_insertNew hkey, hw, List.append_assoc]
      rfl
    have hnext := nextPart_attribute (q := choose 0) (hp (key, value) List.mem_cons_self)
      (closesValue_writeAttributes (fun n => choose (n + 1)) hp' hr)
    rw [writeAttributes_cons_append, readAttributes_eq, hnext]
    simp only [ih _ hw' hp', List.nil_append]

theorem readAttributes_tagEnd (attributes : Attributes) :
    readAttributes tag name attributes (tagEnd selfClosing ++ rest) =
      ⟨some (tagEvent selfClosing name attributes, rest), []⟩ := by
  rw [readAttributes_eq, nextPart_tagEnd]

/-- The attributes of a tag end its name, and so does what follows a tag without attributes. -/
theorem isNameChar_of_head?_writeAttributes (choose : Nat → QuoteMark) (ps : List (Text × Text))
    (hr : ∀ c ∈ rest.head?, isNameChar c = false) :
    ∀ c ∈ (writeAttributes choose ps ++ rest).head?, isNameChar c = false := by
  match ps with
  | [] => exact hr
  | (key, value) :: ps =>
    have hspace : isNameChar ' ' = false := by decide
    rw [writeAttributes_cons_append]
    simpa using hspace

theorem readTag_writeTag {attributes : Attributes} (hn : WritableName name)
    (hp : ∀ p ∈ attributes.toList, WritableAttribute p) :
    readTag (writeTag choose selfClosing name attributes ++ rest) =
      ⟨some (tagEvent selfClosing name attributes, rest), []⟩ := by
  obtain ⟨hletter, hall, hlower⟩ := hn
  have hangle : isNameChar '>' = false := by decide
  have hslash : isNameChar '/' = false := by decide
  have hhead : ∀ c ∈ (tagEnd selfClosing ++ rest).head?, isNameChar c = false := by
    cases selfClosing with
    | false => simp [tagEnd, hangle]
    | true => simp [tagEnd, hslash]
  have hafter := isNameChar_of_head?_writeAttributes choose attributes.toList hhead
  rw [writeTag, List.cons_append, List.append_assoc, List.append_assoc,
    readTag_of_name hletter hall hafter, hlower,
    readAttributes_append .empty rfl hp closesValue_tagEnd, readAttributes_tagEnd]

theorem readTag_closing (hn : WritableName name) :
    readTag ('<' :: '/' :: (name ++ '>' :: rest)) = ⟨some (.closing name, rest), []⟩ := by
  obtain ⟨hletter, hall, hlower⟩ := hn
  have hangle : isNameChar '>' = false := by decide
  have hhead : ∀ c ∈ ('>' :: rest).head?, isNameChar c = false := by
    simpa using hangle
  rw [readTag, readNamed_of_name hletter hall hhead, if_pos rfl]
  simp [readClosing, Text.allBlank, hlower]

/-! ## Lines -/

theorem scan_of_readTag {t : Text} {event : Event}
    (h : readTag ('<' :: t) = ⟨some (event, rest), []⟩) :
    scan ('<' :: t) = ⟨event :: (scan rest).events, (scan rest).notices⟩ := by
  have hfound : (readTag ('<' :: t)).found = some (event, rest) := by rw [h]
  rw [scan_tag hfound, h, List.nil_append]

theorem scan_writeTag {attributes : Attributes} (hn : WritableName name)
    (hp : ∀ p ∈ attributes.toList, WritableAttribute p) :
    scan (writeTag choose selfClosing name attributes ++ rest) =
      ⟨tagEvent selfClosing name attributes :: (scan rest).events, (scan rest).notices⟩ :=
  scan_of_readTag (readTag_writeTag hn hp)

theorem scan_text {content : Text} (hne : content ≠ []) (hb : '<' ∉ content)
    (ht : startsWithText (scan rest).events = false) :
    scan (content ++ rest) = ⟨.text content :: (scan rest).events, (scan rest).notices⟩ := by
  have h1 : (scan (content ++ rest)).events = .text content :: (scan rest).events :=
    scan_run hne (refused_of_no_bracket hb) ht
  have h2 : (scan (content ++ rest)).notices = (scan rest).notices := notices_run hb
  rw [← h1, ← h2]

/-- A scan gives back the events that were written, in order and with their attributes in order, and has
nothing to remark. -/
theorem scan_writeLine (choose : Nat → Nat → QuoteMark) (events : List Event)
    (h : WritableLine events) : scan (writeLine choose events) = ⟨events, []⟩ := by
  obtain ⟨hw, hapart⟩ := h
  -- What is still to be written is the text behind the event that is read.
  induction events generalizing choose with
  | nil => exact scan_nil
  | cons event events ih =>
    obtain ⟨hfirst, hapart⟩ := apart_cons.1 hapart
    have hrest := ih (fun n => choose (n + 1)) (fun e he => hw e (List.mem_cons_of_mem _ he)) hapart
    have hevent := hw event List.mem_cons_self
    rw [writeLine]
    cases event with
    | text content =>
      have ht : startsWithText events = false := by simpa [Event.isText] using hfirst
      rw [writeEvent, scan_text hevent.1 hevent.2 (by rw [hrest]; exact ht), hrest]
    | opening name attributes =>
      rw [writeEvent, scan_writeTag hevent.1 hevent.2, hrest]
      rfl
    | selfClosing name attributes =>
      rw [writeEvent, scan_writeTag hevent.1 hevent.2, hrest]
      rfl
    | closing name =>
      have hread : readTag (writeEvent (choose 0) (.closing name) ++
          writeLine (fun n => choose (n + 1)) events) =
          ⟨some (.closing name, writeLine (fun n => choose (n + 1)) events), []⟩ := by
        rw [writeEvent, List.cons_append, List.cons_append, List.append_assoc]
        exact readTag_closing hevent
      rw [writeEvent, List.cons_append] at hread ⊢
      rw [scan_of_readTag hread, hrest]

/-- A link whose value holds both quotes, a backslash before each and the end of a tag, with text
around it and a closing tag that nothing opened. -/
theorem scan_writeLine_link :
    let events : List Event := [.text ['>', ' '],
      .opening ['a'] ⟨[(['h'], ['\\', '"', ' ', 'k', '=', '"', '/', '>', '\n', '\\', '\'']), (['t'], [])],
        by decide⟩,
      .text ['x'], .closing ['b'], .selfClosing ['b', 'r'] .empty]
    let choose : Nat → Nat → QuoteMark := fun n m => if n = 1 ∧ m = 0 then .double else .single
    WritableLine events ∧ scan (writeLine choose events) = ⟨events, []⟩ := by
  intro events choose
  have h : WritableLine events := by decide
  exact ⟨h, scan_writeLine choose events h⟩

end MudClient.Markup

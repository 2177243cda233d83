import MudClient.Markup.Line
import MudClient.Proofs.Markup.Repair
import MudClient.Proofs.Markup.RoundTrip
import MudClient.Stream.GameEvent

/-!
# Titles of rooms with quotes in them

* `BareQuotes`: a title whose quotes are not escaped, with nothing behind one that could end a value
* `roomWindow`: the tag that tells the title of a room
* `closeQuoted_bareQuotes`: no quote of the title ends the value that the title stands in
* `roomTitle_decorated`: the decoration of a title comes off again
* `readLine_roomWindow`: the title gets through reading and classifying
-/

set_option autoImplicit false

namespace MudClient.Stream

open Markup

variable {c : Char} {t u rest run w : Text}

/-- Quotes stand in the text without a backslash, and no part of the text behind one of them ends a tag
or announces an attribute. -/
structure BareQuotes (t : Text) : Prop where
  unescaped : ∀ before after, t ≠ before ++ '\\' :: '"' :: after
  undecided : ∀ before after, t = before ++ '"' :: after → ¬EndsTag after ∧ ¬AnnouncesAttribute after

/-- The tag that tells the title of a room. -/
def roomWindow (t : Text) : Text :=
  "<streamWindow id='room' subtitle=\" - [".toList ++ t ++ "]\"/>".toList

def roomAttributes (t : Text) : Attributes where
  toList := [("id".toList, "room".toList), ("subtitle".toList, " - [".toList ++ t ++ "]".toList)]
  nodup_keys := by simp

/-- What stands in that tag from the title on, and what follows it. -/
def fromSubtitle (t w : Text) : Text :=
  ' ' :: ("subtitle".toList ++ '=' :: '"' :: (" - [".toList ++ t ++ ']' :: '"' :: (tagEnd true ++ w)))

def roomTag (t : Text) : Tag :=
  .named "streamwindow".toList (roomAttributes t) [] [] true

theorem bareQuotes_cons :
    BareQuotes (c :: t) ↔ ¬(c = '\\' ∧ t.head? = some '"') ∧
      (c = '"' → ¬EndsTag t ∧ ¬AnnouncesAttribute t) ∧ BareQuotes t := by
  constructor
  · intro h
    refine ⟨?_, fun hc => h.undecided [] t (by rw [hc]; rfl), fun before after e => ?_,
      fun before after e => ?_⟩
    · rintro ⟨rfl, hd⟩
      obtain ⟨t, rfl⟩ := List.head?_eq_some_iff.1 hd
      exact h.unescaped [] t rfl
    · exact h.unescaped (c :: before) after (by rw [e, List.cons_append])
    · exact h.undecided (c :: before) after (by rw [e, List.cons_append])
  · rintro ⟨hescape, hquote, ht⟩
    refine ⟨fun before after e => ?_, fun before after e => ?_⟩
    · cases before with
      | nil =>
        obtain ⟨rfl, rfl⟩ := List.cons.inj e
        exact hescape ⟨rfl, rfl⟩
      | cons b before => exact ht.unescaped before after (List.cons.inj e).2
    · cases before with
      | nil =>
        obtain ⟨hc, rfl⟩ := List.cons.inj e
        exact hquote hc
      | cons b before => exact ht.undecided before after (List.cons.inj e).2

theorem bareQuotes_append {lead : Text} (hl : lead.all fun c => c ≠ '"' && c ≠ '\\') (h : BareQuotes t) :
    BareQuotes (lead ++ t) := by
  induction lead with
  | nil => exact h
  | cons c lead ih =>
    simp only [List.all_cons, Bool.and_eq_true, decide_eq_true_eq] at hl
    obtain ⟨⟨hquote, hslash⟩, hl⟩ := hl
    have hmore := ih hl
    exact bareQuotes_cons.2 ⟨fun e => hslash e.1, fun e => absurd e hquote, hmore⟩

instance : DecidablePred BareQuotes
  | [] => .isTrue ⟨by simp, by simp⟩
  | c :: t =>
    have := instDecidablePredTextBareQuotes t
    decidable_of_iff _ bareQuotes_cons.symm

/-! ## No quote of a title ends its value -/

/-- What runs up to a character without meeting a quote stands inside the title, because behind it come
a bracket and a quote. -/
theorem inside_of_append (h : t ++ ']' :: '"' :: u = run ++ c :: rest) (hq : '"' ∉ run)
    (hb : c ≠ ']') (hc : c ≠ '"') : ∃ rest', t = run ++ c :: rest' := by
  rcases List.append_eq_append_iff.1 h with ⟨more, rfl, hmore⟩ | ⟨more, rfl, hmore⟩
  · match more, hmore with
    | [], hmore => exact absurd (List.cons.inj hmore).1.symm hb
    | [_], hmore => exact absurd (List.cons.inj (List.cons.inj hmore).2).1.symm hc
    | _ :: d :: more, hmore =>
      have hd : '"' = d := (List.cons.inj (List.cons.inj hmore).2).1
      exact absurd (by simp [← hd]) hq
  · match more, hmore with
    | [], hmore => exact absurd (List.cons.inj hmore).1 hb
    | d :: more, hmore =>
      have hd : c = d := (List.cons.inj hmore).1
      exact ⟨more, by rw [hd]⟩

theorem quote_notMem_of_allBlank {blanks : Text} (h : Text.allBlank blanks) : '"' ∉ blanks := by
  intro hm
  have hb : Text.isBlank '"' = true := List.all_eq_true.1 h _ hm
  exact absurd hb (by decide)

/-- What would let a quote of the title close its value stands in the title itself. -/
theorem of_closesValue_append (h : closesValue (t ++ ']' :: '"' :: u)) :
    EndsTag t ∨ AnnouncesAttribute t := by
  rcases closesValue_iff.1 h with ⟨blanks, rest, hb, he | he⟩ | hblank |
    ⟨blanks, key, gap, rest, hne, hb, hkey, hk, hg, he⟩
  · obtain ⟨rest', rfl⟩ := inside_of_append he (quote_notMem_of_allBlank hb) (by decide) (by decide)
    exact .inl ⟨blanks, rest', hb, .inl rfl⟩
  · have hrun : t ++ ']' :: '"' :: u = (blanks ++ ['/']) ++ '>' :: rest := by
      rw [he, List.append_assoc]
      rfl
    have hq : '"' ∉ blanks ++ ['/'] := by
      simpa using quote_notMem_of_allBlank hb
    obtain ⟨rest', rfl⟩ := inside_of_append hrun hq (by decide) (by decide)
    exact .inl ⟨blanks, rest', hb, .inr (by simp)⟩
  · have hbracket : Text.isBlank ']' = true := List.all_eq_true.1 hblank _ (by simp)
    exact absurd hbracket (by decide)
  · have hquote : '"' ∉ key := by
      intro hm
      have hk0 : isFurtherKeyChar '"' = true := List.all_eq_true.1 hk _ hm
      exact absurd hk0 (by decide)
    have hq : '"' ∉ blanks ++ key ++ gap := by
      simp only [List.mem_append, not_or]
      exact ⟨⟨quote_notMem_of_allBlank hb, hquote⟩, quote_notMem_of_allBlank hg⟩
    obtain ⟨rest', rfl⟩ := inside_of_append he hq (by decide) (by decide)
    exact .inr ⟨blanks, key, gap, rest', hne, hb, hkey, hk, hg, rfl⟩

theorem closeQuoted_bareQuotes (h : BareQuotes t) (hu : closesValue u) :
    closeQuoted '"' (t ++ ']' :: '"' :: u) = some (t ++ [']'], u) := by
  -- At each quote of the title the reader looks ahead in vain; the bracket stops every look-ahead.
  induction t with
  | nil =>
    have hother : closeQuoted '"' (']' :: '"' :: u) =
        (closeQuoted '"' ('"' :: u)).map fun p => (']' :: p.1, p.2) :=
      closeQuoted_other (fun e => absurd e.1 (by decide)) (fun e => absurd e.1 (by decide))
    rw [List.nil_append, hother, closeQuoted_closing (by decide) hu]
    rfl
  | cons c t ih =>
    obtain ⟨hescape, hquote, ht⟩ := bareQuotes_cons.1 h
    have hfirst : ¬(c = '\\' ∧ (t ++ ']' :: '"' :: u).head? = some '"') := by
      cases t with
      | nil => simp
      | cons d t => simpa using hescape
    have hopen : ¬(c = '"' ∧ closesValue (t ++ ']' :: '"' :: u)) := by
      rintro ⟨hc, hcloses⟩
      obtain ⟨hends, hannounces⟩ := hquote hc
      exact (of_closesValue_append hcloses).elim hends hannounces
    rw [List.cons_append, closeQuoted_other hfirst hopen, ih ht]
    rfl

/-! ## Reading the tag -/

theorem roomWindow_append (t w : Text) :
    roomWindow t ++ w = '<' :: ("streamWindow".toList ++
      (writeAttributes (fun _ => .single) [("id".toList, "room".toList)] ++ fromSubtitle t w)) := by
  have hstart : ("<streamWindow id='room' subtitle=\" - [".toList : Text) =
      '<' :: ("streamWindow".toList ++
        (writeAttributes (fun _ => .single) [("id".toList, "room".toList)] ++
          ' ' :: ("subtitle".toList ++ '=' :: '"' :: " - [".toList))) := by decide
  have hstop : ("]\"/>".toList : Text) = ']' :: '"' :: tagEnd true := by decide
  unfold roomWindow fromSubtitle
  simp only [hstart, hstop, List.append_assoc, List.cons_append]

theorem closesValue_fromSubtitle (t w : Text) : closesValue (fromSubtitle t w) = true := by
  rw [closesValue_iff]
  exact .inr (.inr ⟨[' '], "subtitle".toList, [], _, by simp, by decide, by decide, by decide, rfl, rfl⟩)

theorem nextPart_fromSubtitle (h : BareQuotes t) (w : Text) :
    nextPart (fromSubtitle t w) =
      .attribute "subtitle".toList ⟨" - [".toList ++ t ++ "]".toList, tagEnd true ++ w, []⟩ := by
  have hbare : BareQuotes (" - [".toList ++ t) := bareQuotes_append (by decide) h
  have hend : closesValue (tagEnd true ++ w) = true := closesValue_tagEnd
  have hclose := closeQuoted_bareQuotes hbare hend
  refine nextPart_keyed (by decide) (by decide) (dropGaps_of_not (by decide)) ?_
  rw [readValue, if_pos (by decide), readQuoted, hclose]
  rfl

theorem readTag_roomWindow (h : BareQuotes t) (w : Text) :
    readTag (roomWindow t ++ w) =
      ⟨some (.selfClosing "streamwindow".toList (roomAttributes t), w), []⟩ := by
  have hletter : ("streamWindow".toList : Text).head?.any Text.isLetter := by decide
  have hall : ("streamWindow".toList : Text).all isNameChar := by decide
  have hlower : Text.lower "streamWindow".toList = "streamwindow".toList := by decide
  have hspace : isNameChar ' ' = false := by decide
  have hstop : ∀ c ∈ (fromSubtitle t w).head?, isNameChar c = false := by
    simpa [fromSubtitle] using hspace
  have hhead := isNameChar_of_head?_writeAttributes (fun _ => .single)
    [("id".toList, "room".toList)] hstop
  have hpairs : ∀ p ∈ [("id".toList, "room".toList)], WritableAttribute p := by decide
  -- The identifier alone; the title is the next attribute.
  let first : Attributes := ⟨[("id".toList, "room".toList)], by simp⟩
  have hfirst : first.toList =
      (OrderedMap.empty : Attributes).toList ++ [("id".toList, "room".toList)] := rfl
  have hnew : "subtitle".toList ∉ first.keys := by decide
  have hwhole : first.insertNew "subtitle".toList (" - [".toList ++ t ++ "]".toList) =
      roomAttributes t := eq_of_toList (toList_insertNew hnew)
  rw [roomWindow_append, readTag_of_name hletter hall hhead, hlower,
    readAttributes_append .empty hfirst hpairs (closesValue_fromSubtitle t w), readAttributes_eq,
    nextPart_fromSubtitle h]
  simp only [hwhole, readAttributes_tagEnd]
  rfl

/-! ## Telling the title -/

theorem roomTitle_decorated (t : Text) :
    roomTitle (" - [".toList ++ t ++ "]".toList) = Text.trim t := by
  have hafter : Text.after? " - ".toList (" - [".toList ++ t ++ "]".toList) =
      some ('[' :: (t ++ [']'])) := Text.after?_eq_some.2 rfl
  unfold roomTitle
  rw [hafter]
  simp

theorem ofTag_roomTag (t : Text) :
    GameEvent.ofTag (roomTag t) =
      .ok (some ⟨.streamWindow, [roomTag t], [("roomtitle".toList, Text.trim t)]⟩) := by
  have hlower : Text.lower "streamwindow".toList = "streamwindow".toList := by decide
  have hname : (roomTag t).name = "streamwindow".toList := hlower
  have hid : (roomTag t).attribute? "id".toList = some "room".toList := rfl
  have hsubtitle : (roomTag t).attributeOrEmpty "subtitle".toList =
      " - [".toList ++ t ++ "]".toList := rfl
  unfold GameEvent.ofTag
  rw [hname, hid, hsubtitle, roomTitle_decorated, if_neg (by decide), if_neg (by decide),
    if_neg (by decide), if_neg (by decide), if_pos (by decide)]

/-- A title with bare quotes in it, whatever follows its tag: the tag is read up to its end with the title
as it is told, it is the first tag of its line, and it sets the title without its decoration. -/
theorem readLine_roomWindow (w : Text) (h : BareQuotes t) :
    readTagAt (roomWindow t ++ w) 0 =
      (some ⟨.selfClosing "streamwindow".toList (roomAttributes t), (roomWindow t).length⟩, []) ∧
    (readLine (roomWindow t ++ w)).1 = roomTag t :: (Tag.ofEvents (scan w).events).1 ∧
    GameEvent.ofTag (roomTag t) =
      .ok (some ⟨.streamWindow, [roomTag t], [("roomtitle".toList, Text.trim t)]⟩) := by
  have hread := readTag_roomWindow h w
  refine ⟨?_, ?_, ofTag_roomTag t⟩
  · have hlength : (roomWindow t ++ w).length - w.length = (roomWindow t).length := by
      rw [List.length_append]
      omega
    simp only [readTagAt, List.drop_zero, hread, Option.map_some, hlength]
  · have hcons := roomWindow_append t w
    rw [hcons] at hread ⊢
    rw [readLine, if_pos (by simp), scan_of_readTag hread]
    exact ofEvents_selfClosing _ _ _

/-- A title that is quoted in part and ends in a quote, before a tag that is cut off. -/
theorem readLine_roomWindow_quoted :
    let t : Text := "The \"Blue\" Boar's \"Inn\"".toList
    let w : Text := "</a".toList
    BareQuotes t ∧
      readTagAt (roomWindow t ++ w) 0 =
        (some ⟨.selfClosing "streamwindow".toList (roomAttributes t), (roomWindow t).length⟩, []) ∧
      (readLine (roomWindow t ++ w)).1 = roomTag t :: (Tag.ofEvents (scan w).events).1 ∧
      GameEvent.ofTag (roomTag t) =
        .ok (some ⟨.streamWindow, [roomTag t], [("roomtitle".toList, Text.trim t)]⟩) := by
  intro t w
  have h : BareQuotes t := by decide
  exact ⟨h, readLine_roomWindow w h⟩

end MudClient.Stream

import MudClient.Proofs.Markup.Walk

/-!
# The anatomy of a tag

* `WrittenName`, `WrittenKey`: names and keys as they stand in a line
* `Inside`: what stands between the name of a tag and its end, with all attributes that are written there
* `Gathers`: every key once, where it is first, with its first value
* `Tagged`: a tag at the front of a text, its event, and what stands behind it
* `readTag_eq_some_iff`: the tags that are read are exactly these
* `readTagAt_sound`: reading a tag by place ends, stays inside the line, and finds such a tag
-/

set_option autoImplicit false

namespace MudClient.Markup

/-! ## Names and keys -/

def nameEnds : List Char := [' ', '\t', '\r', '\n', '/', '>', '<']

def WrittenName (name : Text) : Prop :=
  (∃ first ∈ name.head?, Text.isLetter first) ∧ ∀ c ∈ name, c ∉ nameEnds

def WrittenKey (key : Text) : Prop :=
  key ≠ [] ∧ ∀ c ∈ key, c ∉ '=' :: nameEnds

variable {c : Char} {name key t after rest tag : Text} {ps : List (Text × Text)} {selfClosing : Bool}
  {event : Event} {value : ValueReading} {attributes : Attributes}

theorem isNameChar_iff : isNameChar c = true ↔ c ∉ nameEnds := by
  simp only [isNameChar, isGap, nameEnds, Bool.not_eq_true', Bool.or_eq_false_iff, decide_eq_false_iff_not,
    List.mem_cons, List.not_mem_nil, or_false, not_or]
  tauto

theorem isKeyChar_iff : isKeyChar c = true ↔ c ∉ '=' :: nameEnds := by
  simp only [isKeyChar, isGap, nameEnds, Bool.not_eq_true', Bool.or_eq_false_iff, decide_eq_false_iff_not,
    List.mem_cons, List.not_mem_nil, or_false, not_or]
  tauto

theorem writtenKey_iff : WrittenKey key ↔ key ≠ [] ∧ ∀ c ∈ key, isKeyChar c = true := by
  simp only [WrittenKey, isKeyChar_iff]

/-! ## Attributes -/

/-- Each key of the pairs once, in the order in which the keys first come, with the first value it has. -/
structure Gathers (ps : List (Text × Text)) (attributes : Attributes) : Prop where
  keys_eq : attributes.keys = (ps.map Prod.fst).eraseDups
  get?_eq : ∀ key, attributes.get? key = ps.lookup key

def gather (attributes : Attributes) (ps : List (Text × Text)) : Attributes :=
  ps.foldl (fun m p => m.insertNew p.1 p.2) attributes

theorem gathers_concat {p : Text × Text} (h : Gathers ps attributes) :
    Gathers (ps ++ [p]) (attributes.insertNew p.1 p.2) := by
  refine ⟨?_, fun key => ?_⟩
  · rw [OrderedMap.keys_insertNew, h.keys_eq, List.map_append, List.eraseDups_append]
    simp only [List.map_cons, List.map_nil, List.mem_eraseDups]
    by_cases hp : p.1 ∈ ps.map Prod.fst <;> simp [List.removeAll, hp, List.eraseDups_cons]
  · obtain ⟨k, value⟩ := p
    rw [OrderedMap.get?_insertNew, h.get?_eq, List.lookup_append]
    by_cases hk : key = k
    · simp [hk]
    · simp [List.lookup_cons, hk, beq_eq_false_iff_ne.2 hk]

theorem gathers_gather (ps : List (Text × Text)) : Gathers ps (gather .empty ps) := by
  induction ps using List.reverseRecOn with
  | nil => exact ⟨rfl, fun _ => rfl⟩
  | append_singleton ps p ih =>
    rw [gather, List.foldl_append]
    exact gathers_concat ih

/-! ## What stands inside a tag -/

/-- A text from behind the name of a tag on, with the attributes as they are written up to the end of the tag,
whether that end has a slash, and the text behind it. -/
inductive Inside : Text → List (Text × Text) → Bool → Text → Prop
  | opening (rest : Text) : Inside ('>' :: rest) [] false rest
  | selfClosing (rest : Text) : Inside ('/' :: '>' :: rest) [] true rest
  | gap {c : Char} {t rest : Text} {ps : List (Text × Text)} {selfClosing : Bool} (hc : isGap c)
      (h : Inside t ps selfClosing rest) : Inside (c :: t) ps selfClosing rest
  /-- A slash or an equals sign that is no part of anything. -/
  | stray {c : Char} {t rest : Text} {ps : List (Text × Text)} {selfClosing : Bool}
      (hc : c = '/' ∧ t.head? ≠ some '>' ∨ c = '=') (h : Inside t ps selfClosing rest) :
      Inside (c :: t) ps selfClosing rest
  | bare {key after rest : Text} {ps : List (Text × Text)} {selfClosing : Bool} (hk : WrittenKey key)
      (hend : ∀ c ∈ after.head?, c ∈ '=' :: nameEnds) (hn : (dropGaps after).head? ≠ some '=')
      (h : Inside after ps selfClosing rest) : Inside (key ++ after) ((key, []) :: ps) selfClosing rest
  | valued {key after t rest : Text} {value : ValueReading} {ps : List (Text × Text)} {selfClosing : Bool}
      (hk : WrittenKey key) (hend : ∀ c ∈ after.head?, c ∈ '=' :: nameEnds) (he : dropGaps after = '=' :: t)
      (hv : readValue (dropGaps t) = some value) (h : Inside value.rest ps selfClosing rest) :
      Inside (key ++ after) ((key, value.value) :: ps) selfClosing rest

theorem inside_of_dropGaps (h : Inside (dropGaps t) ps selfClosing rest) : Inside t ps selfClosing rest := by
  induction t with
  | nil => exact h
  | cons c t ih =>
    cases hc : isGap c with
    | true =>
      rw [dropGaps, List.dropWhile_cons_of_pos hc] at h
      exact .gap hc (ih h)
    | false => exact dropGaps_of_not hc ▸ h

/-- What is left of a tag and what it says of its attributes, when the next part has been read. -/
def TagPart.Leads : TagPart → List (Text × Text) → Bool → Text → Prop
  | .cut, _, _, _ => False
  | .unclosed _, _, _, _ => False
  | .ends s r, ps, selfClosing, rest => ps = [] ∧ selfClosing = s ∧ rest = r
  | .stray t, ps, selfClosing, rest => Inside t ps selfClosing rest
  | .attribute key value, ps, selfClosing, rest =>
    ∃ ps', ps = (key, value.value) :: ps' ∧ Inside value.rest ps' selfClosing rest

theorem inside_of_valueAfterKey (hk : WrittenKey key) (hend : ∀ c ∈ after.head?, c ∈ '=' :: nameEnds)
    (h : (valueAfterKey key after).Leads ps selfClosing rest) : Inside (key ++ after) ps selfClosing rest := by
  by_cases hhead : (dropGaps after).head? = some '='
  · obtain ⟨u, hu⟩ := List.head?_eq_some_iff.1 hhead
    rw [valueAfterKey_announced hu] at h
    cases hvalue : readValue (dropGaps u) with
    | none =>
      rw [hvalue] at h
      exact h.elim
    | some value =>
      rw [hvalue] at h
      obtain ⟨ps', rfl, h⟩ := h
      exact .valued hk hend hu hvalue h
  · rw [valueAfterKey_bare hhead] at h
    obtain ⟨ps', rfl, h⟩ := h
    exact .bare hk hend hhead (inside_of_dropGaps h)

/-- A character that is no gap and begins neither a key nor the end of a tag. -/
theorem stray_of_not (hgap : isGap c = false) (hopens : c ≠ '<') (hends : c ≠ '>') (hkey : isKeyChar c = false) :
    c = '/' ∨ c = '=' := by
  simp only [isKeyChar, hgap, Bool.false_or, Bool.not_eq_false', Bool.or_eq_true, decide_eq_true_eq] at hkey
  tauto

theorem inside_of_partAt (hgap : isGap c = false) (h : (partAt c t).Leads ps selfClosing rest) :
    Inside (c :: t) ps selfClosing rest := by
  rw [partAt] at h
  split at h
  · exact h.elim
  next hopens =>
  split at h
  · next hslash =>
    obtain ⟨rfl, hhead⟩ := hslash
    obtain ⟨u, rfl⟩ := List.head?_eq_some_iff.1 hhead
    obtain ⟨rfl, rfl, rfl⟩ := h
    exact .selfClosing _
  next hslash =>
  split at h
  · next hends =>
    obtain ⟨rfl, rfl, rfl⟩ := h
    exact hends ▸ .opening _
  next hends =>
  split at h
  · next hkey =>
    have hwritten : WrittenKey (c :: t.takeWhile isKeyChar) := by
      refine writtenKey_iff.2 ⟨List.cons_ne_nil _ _, fun d hd => ?_⟩
      rcases List.mem_cons.1 hd with rfl | hd
      · exact hkey
      · exact List.all_eq_true.1 List.all_takeWhile d hd
    have hstop : ∀ d ∈ (t.dropWhile isKeyChar).head?, d ∈ '=' :: nameEnds := by
      intro d hd
      have hfirst := List.head?_dropWhile_not isKeyChar t
      rw [Option.mem_def.1 hd] at hfirst
      rwa [← not_not (a := d ∈ _), ← isKeyChar_iff, Bool.not_eq_true]
    have hinside := inside_of_valueAfterKey hwritten hstop h
    rwa [List.cons_append, List.takeWhile_append_dropWhile] at hinside
  · next hkey =>
    refine .stray ?_ h
    rcases stray_of_not hgap hopens hends (Bool.not_eq_true _ ▸ hkey) with rfl | rfl
    · exact .inl ⟨rfl, fun hhead => hslash ⟨rfl, hhead⟩⟩
    · exact .inr rfl

theorem inside_of_nextPart (h : (nextPart t).Leads ps selfClosing rest) : Inside t ps selfClosing rest := by
  refine inside_of_dropGaps ?_
  rw [nextPart] at h
  split at h
  · exact h.elim
  · next c u hu =>
    have hgap : isGap c = false := by
      have hfirst := List.head?_dropWhile_not isGap t
      rwa [← dropGaps, hu] at hfirst
    exact hu ▸ inside_of_partAt hgap h

theorem inside_of_readAttributes (h : (readAttributes tag name attributes t).found = some (event, rest)) :
    ∃ ps selfClosing, Inside t ps selfClosing rest ∧
      event = tagEvent selfClosing name (gather attributes ps) := by
  fun_induction readAttributes tag name attributes t with
  | case1 => cases h
  | case2 => cases h
  | case3 attributes t rest' hp =>
    obtain ⟨rfl, rfl⟩ := Prod.mk.inj (Option.some.inj h)
    exact ⟨[], true, inside_of_nextPart (hp ▸ ⟨rfl, rfl, rfl⟩), rfl⟩
  | case4 attributes t rest' hp =>
    obtain ⟨rfl, rfl⟩ := Prod.mk.inj (Option.some.inj h)
    exact ⟨[], false, inside_of_nextPart (hp ▸ ⟨rfl, rfl, rfl⟩), rfl⟩
  | case5 attributes t rest' hp hlt ih =>
    obtain ⟨ps, selfClosing, hinside, he⟩ := ih h
    exact ⟨ps, selfClosing, inside_of_nextPart (hp ▸ hinside), he⟩
  | case6 attributes t key value hp hlt further ih =>
    obtain ⟨ps, selfClosing, hinside, he⟩ := ih h
    exact ⟨(key, value.value) :: ps, selfClosing, inside_of_nextPart (hp ▸ ⟨ps, rfl, hinside⟩), he⟩

/-! ## What stands inside a tag is read -/

theorem nextPart_stray (hc : c = '/' ∧ t.head? ≠ some '>' ∨ c = '=') : nextPart (c :: t) = .stray t := by
  obtain ⟨rfl, hhead⟩ | rfl := hc
  · rw [nextPart, dropGaps_of_not (by decide)]
    simp [partAt, hhead, isKeyChar]
  · rw [nextPart, dropGaps_of_not (by decide)]
    simp [partAt, isKeyChar]

theorem not_isKeyChar_of_mem (h : c ∈ '=' :: nameEnds) : isKeyChar c = false := by
  rw [← Bool.not_eq_true, isKeyChar_iff, not_not]
  exact h

theorem nextPart_writtenKey (hk : WrittenKey key) (hend : ∀ c ∈ after.head?, c ∈ '=' :: nameEnds) :
    nextPart (key ++ after) = valueAfterKey key after := by
  obtain ⟨hne, hk⟩ := writtenKey_iff.1 hk
  exact nextPart_key hne hk fun c hc => not_isKeyChar_of_mem (hend c hc)

theorem readAttributes_of_inside (tag name : Text) (attributes : Attributes) (h : Inside t ps selfClosing rest) :
    (readAttributes tag name attributes t).found =
      some (tagEvent selfClosing name (gather attributes ps), rest) := by
  induction h generalizing attributes with
  | opening rest =>
    rw [readAttributes_eq, nextPart, dropGaps_of_not (by decide)]
    rfl
  | selfClosing rest =>
    rw [readAttributes_eq, nextPart, dropGaps_of_not (by decide)]
    rfl
  | gap hc _ ih =>
    rw [readAttributes_eq, nextPart_gap hc, ← readAttributes_eq]
    exact ih attributes
  | stray hc _ ih =>
    rw [readAttributes_eq, nextPart_stray hc]
    exact ih attributes
  | bare hk hend hn _ ih =>
    rw [readAttributes_eq, nextPart_writtenKey hk hend, valueAfterKey_bare hn]
    rw [gather, List.foldl_cons, ← gather, ← ih, ← readAttributes_dropGaps]
  | valued hk hend he hv _ ih =>
    rw [readAttributes_eq, nextPart_writtenKey hk hend, valueAfterKey_announced he, hv]
    exact ih _

/-! ## Tags -/

/-- A tag at the front of a text, whose first character may be any, its event, and the text behind it. -/
inductive Tagged : Text → Event → Text → Prop
  | closing (c : Char) {name blanks : Text} (rest : Text) (hn : WrittenName name)
      (hend : ∀ c ∈ blanks.head?, c ∈ nameEnds) (hb : Text.allBlank blanks) :
      Tagged (c :: '/' :: (name ++ (blanks ++ '>' :: rest))) (.closing (Text.lower name)) rest
  | element (c : Char) {name inside rest : Text} {ps : List (Text × Text)} {selfClosing : Bool}
      {attributes : Attributes} (hn : WrittenName name) (hend : ∀ c ∈ inside.head?, c ∈ nameEnds)
      (h : Inside inside ps selfClosing rest) (hg : Gathers ps attributes) :
      Tagged (c :: (name ++ inside)) (tagEvent selfClosing (Text.lower name) attributes) rest

theorem writtenName_iff : WrittenName name ↔ name.head?.any Text.isLetter ∧ name.all isNameChar := by
  simp only [WrittenName, ← isNameChar_iff, List.all_eq_true]
  cases name <;> simp

theorem not_isNameChar_of_mem (h : c ∈ nameEnds) : isNameChar c = false := by
  rw [← Bool.not_eq_true, isNameChar_iff, not_not]
  exact h

theorem eq_gather (h : Gathers ps attributes) : attributes = gather .empty ps :=
  OrderedMap.eq_of_get? (h.keys_eq.trans (gathers_gather ps).keys_eq.symm)
    fun key => (h.get?_eq key).trans ((gathers_gather ps).get?_eq key).symm

/-- The closing bracket is no blank, so it is the first one behind the name. -/
theorem readClosing_eq_some_iff :
    (readClosing tag name after).found = some (event, rest) ↔
      ∃ blanks, after = blanks ++ '>' :: rest ∧ Text.allBlank blanks ∧ event = .closing (Text.lower name) := by
  rw [readClosing]
  constructor
  · intro h
    have hparts := List.takeWhile_append_dropWhile (p := (· ≠ '>')) (l := after)
    split at h
    · cases h
    · next c u hu =>
      have hfirst := List.head?_dropWhile_not (· ≠ '>') after
      rw [hu] at hfirst hparts
      have hc : c = '>' := by simpa using hfirst
      split at h
      · next hblank =>
        obtain ⟨rfl, rfl⟩ := Prod.mk.inj (Option.some.inj h)
        exact ⟨_, hc ▸ hparts.symm, hblank, rfl⟩
      · cases h
  · rintro ⟨blanks, rfl, hblank, rfl⟩
    have hne : ∀ c ∈ blanks, decide (c ≠ '>') = true := by
      intro c hc
      have hblank := List.all_eq_true.1 hblank c hc
      rw [decide_eq_true_eq]
      rintro rfl
      exact absurd hblank (by decide)
    obtain ⟨htake, hdrop⟩ := Text.takeWhile_append_run (s := '>' :: rest) hne (by simp)
    rw [htake, hdrop]
    simp only [hblank, if_true]

theorem exists_named (closes : Bool) (h : (readNamed tag closes t).found = some (event, rest)) :
    ∃ name after, t = name ++ after ∧ WrittenName name ∧ (∀ c ∈ after.head?, c ∈ nameEnds) ∧
      if closes then (readClosing tag name after).found = some (event, rest)
      else (readAttributes tag (Text.lower name) .empty after).found = some (event, rest) := by
  have hall : (t.takeWhile isNameChar).all isNameChar = true := List.all_takeWhile
  have hend : ∀ c ∈ (t.dropWhile isNameChar).head?, c ∈ nameEnds := by
    intro c hc
    have hfirst := List.head?_dropWhile_not isNameChar t
    rw [Option.mem_def.1 hc] at hfirst
    rwa [← not_not (a := c ∈ _), ← isNameChar_iff, Bool.not_eq_true]
  rw [readNamed] at h
  split at h
  · cases h
  · next first others hname =>
    split at h
    · cases h
    · next hletter =>
      refine ⟨_, _, List.takeWhile_append_dropWhile.symm, writtenName_iff.2 ⟨?_, hall⟩, hend, ?_⟩
      · rw [hname]
        simpa using hletter
      · split at h
        · next hcloses => rwa [if_pos hcloses]
        · next hcloses => rwa [if_neg hcloses]

theorem tagged_of_readTag (h : (readTag t).found = some (event, rest)) : Tagged t event rest := by
  rw [readTag.eq_def] at h
  split at h
  · cases h
  · next c fromName =>
    obtain ⟨name, after, rfl, hn, hend, h⟩ := exists_named true h
    obtain ⟨blanks, rfl, hblank, rfl⟩ := readClosing_eq_some_iff.1 h
    refine .closing c rest hn (fun d hd => hend d ?_) hblank
    rw [Option.mem_def] at hd ⊢
    rw [List.head?_append, hd, Option.some_or]
  · next c fromName _ =>
    obtain ⟨name, after, rfl, hn, hend, h⟩ := exists_named false h
    obtain ⟨ps, selfClosing, hinside, rfl⟩ := inside_of_readAttributes h
    exact .element c hn hend hinside (gathers_gather ps)

theorem readTag_of_tagged (h : Tagged t event rest) : (readTag t).found = some (event, rest) := by
  cases h with
  | closing c rest hn hend hblank =>
    obtain ⟨hletter, hall⟩ := writtenName_iff.1 hn
    rw [readTag, readNamed_of_name hletter hall, if_pos rfl]
    · exact readClosing_eq_some_iff.2 ⟨_, rfl, hblank, rfl⟩
    · intro d hd
      rw [Option.mem_def, List.head?_append, Option.or_eq_some_iff] at hd
      rcases hd with hd | ⟨-, hd⟩
      · exact not_isNameChar_of_mem (hend d hd)
      · obtain rfl : '>' = d := Option.some.inj hd
        decide
  | element c hn hend h hg =>
    obtain ⟨hletter, hall⟩ := writtenName_iff.1 hn
    rw [readTag_of_name hletter hall fun d hd => not_isNameChar_of_mem (hend d hd),
      readAttributes_of_inside _ _ _ h, ← eq_gather hg]

theorem readTag_eq_some_iff : (readTag t).found = some (event, rest) ↔ Tagged t event rest :=
  ⟨tagged_of_readTag, readTag_of_tagged⟩

/-! ## Where a tag ends -/

theorem writtenKey_of_inside (h : Inside t ps selfClosing rest) : ∀ p ∈ ps, WrittenKey p.1 := by
  induction h with
  | opening rest => exact fun p hp => absurd hp List.not_mem_nil
  | selfClosing rest => exact fun p hp => absurd hp List.not_mem_nil
  | gap hc _ ih => exact ih
  | stray hc _ ih => exact ih
  | bare hk hend hn _ ih => exact List.forall_mem_cons.2 ⟨hk, ih⟩
  | valued hk hend he hv _ ih => exact List.forall_mem_cons.2 ⟨hk, ih⟩

theorem suffix_of_inside (h : Inside t ps selfClosing rest) : '>' :: rest <:+ t := by
  induction h with
  | opening rest => exact List.suffix_refl _
  | selfClosing rest => exact List.suffix_cons _ _
  | gap hc _ ih => exact ih.trans (List.suffix_cons _ _)
  | stray hc _ ih => exact ih.trans (List.suffix_cons _ _)
  | bare hk hend hn _ ih => exact ih.trans (List.suffix_append _ _)
  | @valued key after t rest value ps selfClosing hk hend he hv _ ih =>
    have hvalue : value.rest <:+ t := (suffix_of_readValue hv).trans (dropGaps_suffix t)
    have hafter : t <:+ after := (List.suffix_cons '=' t).trans (he ▸ dropGaps_suffix after)
    exact (ih.trans hvalue).trans (hafter.trans (List.suffix_append key after))

/-- A tag has at least one character between its first and its last. -/
theorem exists_around_of_tagged (h : Tagged t event rest) :
    ∃ first inner, t = first :: (inner ++ '>' :: rest) ∧ inner ≠ [] := by
  cases h with
  | @closing c name blanks rest hn hend hblank =>
    exact ⟨c, '/' :: (name ++ blanks), by simp, nofun⟩
  | @element c name inside rest ps selfClosing attributes hn hend h hg =>
    obtain ⟨inner, hinner⟩ := suffix_of_inside h
    obtain ⟨⟨first, hfirst, -⟩, -⟩ := hn
    refine ⟨c, name ++ inner, by rw [← hinner, List.append_assoc], fun hnil => ?_⟩
    rw [(List.append_eq_nil_iff.1 hnil).1] at hfirst
    cases hfirst

variable {input : Text} {start stop : Nat}

theorem bounds_of_tagged (hstop : stop ≤ input.length) (h : Tagged (input.drop start) event (input.drop stop)) :
    start + 3 ≤ stop ∧ input[stop - 1]? = some '>' := by
  obtain ⟨first, inner, hline, hne⟩ := exists_around_of_tagged h
  have hpos := List.length_pos_iff.2 hne
  have hlength := congrArg List.length hline
  simp only [List.length_drop, List.length_cons, List.length_append] at hlength
  have hplace : stop - 1 = start + (inner.length + 1) := by omega
  refine ⟨by omega, ?_⟩
  rw [hplace, ← List.getElem?_drop, hline, List.getElem?_cons_succ, List.getElem?_append_right (Nat.le_refl _),
    Nat.sub_self]
  rfl

theorem keys_of_tagged (h : Tagged t event rest)
    (he : event = .opening name attributes ∨ event = .selfClosing name attributes) :
    ∀ key ∈ attributes.keys, WrittenKey key := by
  cases h with
  | closing c rest hn hend hblank => rcases he with he | he <;> cases he
  | @element c name inside rest ps selfClosing attributes' hn hend h hg =>
    obtain rfl : attributes' = attributes := by
      cases selfClosing <;> rcases he with he | he <;> cases he <;> rfl
    intro key hkey
    rw [hg.keys_eq, List.mem_eraseDups] at hkey
    obtain ⟨p, hp, rfl⟩ := List.mem_map.1 hkey
    exact writtenKey_of_inside h p hp

/-- Reading a tag or a value place by place always ends, without a look past the end of the line, and comes to
what is read there. A tag is read exactly where one is written, with all it says, up to a closing bracket. -/
theorem readTagAt_sound (input : Text) (start : Nat) :
    walkTag input start = .ok (readTagAt input start) ∧
      (∀ place, walkValue input place = .ok (readValueAt input place)) ∧
      ∀ event stop,
        ((readTagAt input start).1 = some ⟨event, stop⟩ ↔
          stop ≤ input.length ∧ Tagged (input.drop start) event (input.drop stop)) ∧
        ((readTagAt input start).1 = some ⟨event, stop⟩ →
          start + 3 ≤ stop ∧ input[stop - 1]? = some '>' ∧
            ∀ name attributes, event = .opening name attributes ∨ event = .selfClosing name attributes →
              attributes.keys.Nodup ∧ ∀ key ∈ attributes.keys, WrittenKey key) := by
  refine ⟨walkTag_eq input start, walkValue_eq input, fun event stop => ?_⟩
  rw [readTagAt_eq_some, readTag_eq_some_iff]
  refine ⟨Iff.rfl, fun ⟨hstop, h⟩ => ?_⟩
  obtain ⟨hstart, hlast⟩ := bounds_of_tagged hstop h
  exact ⟨hstart, hlast, fun name attributes he => ⟨attributes.nodup_keys, keys_of_tagged h he⟩⟩

end MudClient.Markup

import MudClient.Proofs.Markup.Delimiter
import MudClient.Proofs.Markup.Segmentation

/-!
# Reading place by place

* `Fault`, `Walk`: a reading that looks at single places of a line, and what can go wrong with it
* `look`, `loop`: one look, and rounds of which each has to come further
* `walkValue`, `walkTag`: values and tags read in this way
* `walkValue_eq`, `walkTag_eq`: nothing goes wrong, and the same is read as from the text that begins at a place
-/

set_option autoImplicit false

namespace MudClient.Markup

/-! ## Walks along a line -/

inductive Fault
  /-- A look where the line has no character. -/
  | pastEnd (place : Nat)
  /-- A round that came no further, or past the end of the line. -/
  | stuck (place : Nat)
deriving DecidableEq

abbrev Walk := Except Fault

def look (input : Text) (place : Nat) : Walk Char :=
  match input[place]? with
  | some c => .ok c
  | none => .error (.pastEnd place)

/-- What one round of a loop comes to. -/
inductive Round (σ ρ : Type)
  | again (s : σ)
  | done (result : ρ)

variable {σ ρ : Type}

/-- Rounds up to the last one. Each round that is not the last has to come further along the line. -/
def loop (input : Text) (place : σ → Nat) (round : σ → Walk (Round σ ρ)) (s : σ) : Walk ρ :=
  match round s with
  | .error fault => .error fault
  | .ok (.done result) => .ok result
  | .ok (.again s') =>
    if place s < place s' ∧ place s' ≤ input.length then loop input place round s'
    else .error (.stuck (place s))
termination_by input.length - place s

/-- Goes on while the character and its place pass a test. -/
def passOver (input : Text) (test : Char → Nat → Bool) (start : Nat) : Walk Nat :=
  loop input id (fun i => do
    if i < input.length then
      let c ← look input i
      return if test c i then .again (i + 1) else .done i
    else return .done i) start

/-- Whether a character stands at a place, which may be past the end of the line. -/
def meets (input : Text) (c : Char) (i : Nat) : Walk Bool := do
  if i < input.length then return (← look input i) == c else return false

def tagEndsAt (input : Text) (i : Nat) : Bool :=
  Text.leads ['/', '>'] (input.drop i)

/-! ## Values -/

/-- The value up to its closing delimiter, if there is one; the state is what has been read of it. -/
def quotedRound (input : Text) (quote : Char) (s : Located Text) :
    Walk (Round (Located Text) (Option (Located Text))) := do
  if s.stop < input.length then
    let c ← look input s.stop
    let escaped ← if c = '\\' then meets input quote (s.stop + 1) else pure false
    return if escaped then .again ⟨s.item ++ [quote], s.stop + 2⟩
      else if c = quote ∧ closesValue (input.drop (s.stop + 1)) then .done (some ⟨s.item, s.stop + 1⟩)
      else .again ⟨s.item ++ [c], s.stop + 1⟩
  else return .done none

def walkQuoted (input : Text) (quote : Char) (start : Nat) : Walk (Option (Located Text)) :=
  loop input Located.stop (quotedRound input quote) ⟨[], start⟩

def walkBare (input : Text) (start : Nat) : Walk (Located Text) := do
  let stop ← passOver input (fun c i => !(isGap c || c = '>' || tagEndsAt input i)) start
  return ⟨(Span.mk start stop).cut input, stop⟩

def walkValue (input : Text) (start : Nat) : Walk (Option (Located Text) × List Notice) := do
  if start < input.length then
    let quote ← look input start
    if isQuote quote then
      match ← walkQuoted input quote (start + 1) with
      | some value => return (some value, [])
      | none =>
        match recoverValueAt input start with
        | some recovered => return recovered
        | none => throw (.pastEnd start)
    else return (some (← walkBare input start), [])
  else return (some (← walkBare input start), [])

/-! ## Tags -/

/-- What has been read of a tag, and how far. -/
structure Progress where
  attributes : Attributes
  notices : List Notice
  place : Nat

/-- What follows a key, and the value if an equals sign announces one. -/
def valueRound (input tag key : Text) (s : Progress) (start : Nat) :
    Walk (Round Progress (Option (Located Event) × List Notice)) := do
  let i ← passOver input (fun c _ => isGap c) start
  if ← meets input '=' i then
    let valueStart ← passOver input (fun c _ => isGap c) (i + 1)
    match ← walkValue input valueStart with
    | (some value, notices) =>
      return .again ⟨s.attributes.insertNew key value.item, s.notices ++ notices, value.stop⟩
    | (none, notices) => return .done (none, s.notices ++ notices ++ [.unterminatedAttribute key tag])
  else return .again ⟨s.attributes.insertNew key [], s.notices, i⟩

/-- The next part of a tag behind its name. -/
def partRound (input tag name : Text) (s : Progress) :
    Walk (Round Progress (Option (Located Event) × List Notice)) := do
  let i ← passOver input (fun c _ => isGap c) s.place
  if i < input.length then
    let c ← look input i
    if c = '<' then return .done (none, s.notices ++ [.unterminatedTag tag])
    else if tagEndsAt input i then return .done (some ⟨.selfClosing name s.attributes, i + 2⟩, s.notices)
    else if c = '>' then return .done (some ⟨.opening name s.attributes, i + 1⟩, s.notices)
    else
      let j ← passOver input (fun c _ => isKeyChar c) i
      let key := (Span.mk i j).cut input
      if key.isEmpty then return .again { s with place := i + 1 } else valueRound input tag key s j
  else return .done (none, s.notices ++ [.unterminatedTag tag])

def walkParts (input tag name : Text) (start : Nat) : Walk (Option (Located Event) × List Notice) :=
  loop input Progress.place (partRound input tag name) ⟨.empty, [], start⟩

def TagReading.located (reading : TagReading) (input : Text) : Option (Located Event) × List Notice :=
  (reading.found.map fun p => ⟨p.1, input.length - p.2.length⟩, reading.notices)

/-- A tag from its name on; the tag itself begins at `start`. -/
def walkNamed (input : Text) (start : Nat) (closes : Bool) (nameStart : Nat) :
    Walk (Option (Located Event) × List Notice) := do
  let nameStop ← passOver input (fun c _ => isNameChar c) nameStart
  let name := (Span.mk nameStart nameStop).cut input
  match name with
  | [] => return (none, [])
  | first :: _ =>
    if !Text.isLetter first then return (none, [])
    else if closes then
      return (readClosing (input.drop start) name (input.drop nameStop)).located input
    else walkParts input (input.drop start) (Text.lower name) nameStop

def walkTag (input : Text) (start : Nat) : Walk (Option (Located Event) × List Notice) := do
  let closes ← meets input '/' (start + 1)
  walkNamed input start closes (if closes then start + 2 else start + 1)

/-! ## Looks and rounds -/

variable {input rest : Text} {c : Char} {i start : Nat} {s s' : σ} {place : σ → Nat}
  {round : σ → Walk (Round σ ρ)}

theorem look_of_drop (h : input.drop i = c :: rest) : look input i = .ok c := by
  have hget : input[i]? = some c := by
    rw [← List.head?_drop, h]
    rfl
  rw [look, hget]

theorem lt_of_drop (h : input.drop i = c :: rest) : i < input.length := by
  have hlength := congrArg List.length h
  rw [List.length_drop, List.length_cons] at hlength
  omega

theorem drop_succ_of_drop (h : input.drop i = c :: rest) : input.drop (i + 1) = rest := by
  rw [← List.drop_drop, h]
  rfl

theorem loop_done {result : ρ} (h : round s = .ok (.done result)) : loop input place round s = .ok result := by
  rw [loop, h]

theorem loop_again (h : round s = .ok (.again s')) (hlt : place s < place s')
    (hle : place s' ≤ input.length) : loop input place round s = loop input place round s' := by
  rw [loop, h]
  exact if_pos ⟨hlt, hle⟩

theorem meets_of_nil (h : input.drop i = []) : meets input c i = .ok false := by
  rw [meets, if_neg (Nat.not_lt.2 (List.drop_eq_nil_iff.1 h))]
  rfl

theorem meets_of_drop {d : Char} (h : input.drop i = d :: rest) : meets input c i = .ok (d == c) := by
  rw [meets, if_pos (lt_of_drop h), look_of_drop h]
  rfl

theorem meets_eq (input : Text) (c : Char) (i : Nat) :
    meets input c i = .ok ((input.drop i).head? == some c) := by
  cases h : input.drop i with
  | nil => exact meets_of_nil h
  | cons d rest => exact meets_of_drop h

theorem tagEndsAt_of_drop (h : input.drop i = c :: rest) :
    tagEndsAt input i = (c = '/' && rest.head? == some '>') := by
  rw [tagEndsAt, h, Bool.eq_iff_iff, Text.leads_iff]
  cases rest with
  | nil => simp [List.cons_prefix_cons]
  | cons d rest => simp [List.cons_prefix_cons, eq_comm (b := d), eq_comm (b := c)]

/-! ## Passing over characters -/

variable {test : Char → Nat → Bool}

theorem passOver_nil (h : input.drop i = []) : passOver input test i = .ok i :=
  loop_done (by rw [if_neg (Nat.not_lt.2 (List.drop_eq_nil_iff.1 h))]; rfl)

theorem passOver_stop (h : input.drop i = c :: rest) (ht : test c i = false) :
    passOver input test i = .ok i :=
  loop_done (by rw [if_pos (lt_of_drop h), look_of_drop h]; simp [ht, bind, Except.bind, pure, Except.pure])

theorem passOver_cons (h : input.drop i = c :: rest) (ht : test c i = true) :
    passOver input test i = passOver input test (i + 1) :=
  loop_again (by rw [if_pos (lt_of_drop h), look_of_drop h]; simp [ht, bind, Except.bind, pure, Except.pure])
    (Nat.lt_succ_self i) (lt_of_drop h)

theorem passOver_eq (input : Text) (p : Char → Bool) (i : Nat) :
    passOver input (fun c _ => p c) i = .ok (i + ((input.drop i).takeWhile p).length) := by
  induction h : input.drop i generalizing i with
  | nil => rw [passOver_nil h]; rfl
  | cons c rest ih =>
    cases hp : p c with
    | false =>
      rw [passOver_stop h hp, List.takeWhile_cons_of_neg (by simp [hp])]
      rfl
    | true =>
      rw [passOver_cons h hp, ih (i + 1) (drop_succ_of_drop h), List.takeWhile_cons_of_pos hp,
        List.length_cons]
      congr 1
      omega

theorem drop_takeWhile (input : Text) (p : Char → Bool) (i : Nat) :
    input.drop (i + ((input.drop i).takeWhile p).length) = (input.drop i).dropWhile p := by
  rw [← List.drop_drop]
  conv => lhs; arg 2; rw [← List.takeWhile_append_dropWhile (p := p) (l := input.drop i)]
  exact List.drop_left

theorem cut_takeWhile (input : Text) (p : Char → Bool) (i : Nat) :
    (Span.mk i (i + ((input.drop i).takeWhile p).length)).cut input = (input.drop i).takeWhile p := by
  rw [Span.cut, Nat.add_sub_cancel_left]
  exact List.prefix_iff_eq_take.1 (List.takeWhile_prefix p) |>.symm

/-! ## Values by places -/

variable {quote : Char} {value : Text}

theorem bareValue_append (t : Text) : (bareValue t).1 ++ (bareValue t).2 = t := by
  induction t with
  | nil => rfl
  | cons c t ih =>
    rw [bareValue]
    split
    · rfl
    · rw [List.cons_append, ih]

theorem passBare_eq (input : Text) (i : Nat) :
    passOver input (fun c i => !(isGap c || c = '>' || tagEndsAt input i)) i =
      .ok (i + (bareValue (input.drop i)).1.length) := by
  induction h : input.drop i generalizing i with
  | nil => rw [passOver_nil h]; rfl
  | cons c rest ih =>
    have hends := tagEndsAt_of_drop h
    rw [bareValue]
    split
    · next hc => exact passOver_stop h (by simp only [hends, hc, Bool.not_true])
    · next hc =>
      rw [Bool.not_eq_true] at hc
      rw [passOver_cons h (by simp only [hends, hc, Bool.not_false]), ih (i + 1) (drop_succ_of_drop h),
        List.length_cons]
      congr 1
      omega

theorem walkBare_eq (input : Text) (start : Nat) :
    walkBare input start =
      .ok ⟨(bareValue (input.drop start)).1, start + (bareValue (input.drop start)).1.length⟩ := by
  have hcut : (bareValue (input.drop start)).1 =
      (input.drop start).take (bareValue (input.drop start)).1.length :=
    List.prefix_iff_eq_take.1 ⟨_, bareValue_append _⟩
  rw [walkBare, passBare_eq]
  simp only [bind, Except.bind, pure, Except.pure, Span.cut, Nat.add_sub_cancel_left]
  rw [← hcut]

theorem quotedRound_nil (h : input.drop i = []) :
    quotedRound input quote ⟨value, i⟩ = .ok (.done none) := by
  rw [quotedRound, if_neg (Nat.not_lt.2 (List.drop_eq_nil_iff.1 h))]
  rfl

theorem quotedRound_cons (quote : Char) (value : Text) (h : input.drop i = c :: rest) :
    quotedRound input quote ⟨value, i⟩ =
      .ok (if c = '\\' ∧ rest.head? = some quote then .again ⟨value ++ [quote], i + 2⟩
        else if c = quote ∧ closesValue rest then .done (some ⟨value, i + 1⟩)
        else .again ⟨value ++ [c], i + 1⟩) := by
  rw [quotedRound, if_pos (lt_of_drop h), look_of_drop h, meets_eq, drop_succ_of_drop h]
  by_cases hc : c = '\\' <;> simp [hc, bind, Except.bind, pure, Except.pure]

theorem loop_quotedRound (hq : quote ≠ '\\') (value : Text) (hi : i ≤ input.length) :
    loop input Located.stop (quotedRound input quote) ⟨value, i⟩ =
      .ok ((closeQuoted quote (input.drop i)).map fun p => ⟨value ++ p.1, input.length - p.2.length⟩) := by
  -- A round takes one character or two, so the induction is on the number of places that are left.
  induction h : input.length - i using Nat.strong_induction_on generalizing i value with
  | _ n ih =>
    cases hdrop : input.drop i with
    | nil => exact loop_done (quotedRound_nil hdrop)
    | cons c rest =>
      have hlt := lt_of_drop hdrop
      have hrest := drop_succ_of_drop hdrop
      have hround := quotedRound_cons quote value hdrop
      by_cases hescaped : c = '\\' ∧ rest.head? = some quote
      · obtain ⟨rfl, hhead⟩ := hescaped
        obtain ⟨rest', rfl⟩ := List.head?_eq_some_iff.1 hhead
        have hlt' := lt_of_drop hrest
        rw [if_pos ⟨rfl, hhead⟩] at hround
        rw [loop_again hround (Nat.lt_add_of_pos_right (Nat.succ_pos 1)) hlt',
          ih (input.length - (i + 2)) (by omega) _ hlt' rfl, drop_succ_of_drop hrest, closeQuoted_escaped,
          Option.map_map]
        congr 1
        simp [Function.comp_def]
      rw [if_neg hescaped] at hround
      by_cases hcloses : c = quote ∧ closesValue rest
      · obtain ⟨rfl, hcloses⟩ := hcloses
        rw [if_pos ⟨rfl, hcloses⟩] at hround
        rw [loop_done hround, closeQuoted_closing hq hcloses, ← hrest]
        simp
        omega
      · rw [if_neg hcloses] at hround
        rw [loop_again hround (Nat.lt_succ_self i) hlt,
          ih (input.length - (i + 1)) (by omega) _ hlt rfl, hrest, closeQuoted_other hescaped hcloses,
          Option.map_map]
        congr 1
        simp [Function.comp_def]

theorem walkQuoted_eq (h : input.drop start = quote :: rest) (hquote : isQuote quote) :
    walkQuoted input quote (start + 1) =
      .ok ((closeQuoted quote rest).map fun p => ⟨p.1, input.length - p.2.length⟩) := by
  have hq : quote ≠ '\\' := by
    rintro rfl
    exact absurd hquote (by decide)
  rw [walkQuoted, loop_quotedRound hq [] (lt_of_drop h), drop_succ_of_drop h]
  rfl

theorem stop_located (reading : ValueReading) (hstart : start ≤ input.length)
    (hr : reading.rest.length ≤ (input.drop start).length) :
    reading.located input start = ⟨reading.value, input.length - reading.rest.length⟩ := by
  rw [ValueReading.located]
  congr 1
  rw [List.length_drop] at hr ⊢
  omega

theorem bare_located (input : Text) (start : Nat) :
    (ValueReading.mk (bareValue (input.drop start)).1 (bareValue (input.drop start)).2 []).located input start =
      ⟨(bareValue (input.drop start)).1, start + (bareValue (input.drop start)).1.length⟩ := by
  have hlength := congrArg List.length (bareValue_append (input.drop start))
  rw [List.length_append] at hlength
  simp only [ValueReading.located]
  congr 1
  omega

theorem recoverValueAt_of_drop (h : input.drop start = quote :: rest) :
    recoverValueAt input start =
      some (((recoverValue quote rest).map fun r => (some (r.located input start), r.notices)).getD (none, [])) := by
  simp only [recoverValueAt, h]
  cases recoverValue quote rest <;> rfl

theorem walkValue_eq (input : Text) (start : Nat) : walkValue input start = .ok (readValueAt input start) := by
  cases h : input.drop start with
  | nil =>
    rw [walkValue, if_neg (Nat.not_lt.2 (List.drop_eq_nil_iff.1 h)), walkBare_eq, ← bare_located, readValueAt, h]
    rfl
  | cons quote rest =>
    rw [walkValue, if_pos (lt_of_drop h), look_of_drop h, readValueAt, h, readValue]
    simp only [bind, Except.bind]
    by_cases hquote : isQuote quote
    · rw [if_pos hquote, if_pos hquote, walkQuoted_eq h hquote, recoverValueAt_of_drop h, readQuoted]
      cases hclosed : closeQuoted quote rest with
      | some p =>
        have hlength : p.2.length ≤ (input.drop start).length := by
          rw [h, List.length_cons]
          exact Nat.le_succ_of_le (suffix_of_closeQuoted hclosed).length_le
        have hlocated := stop_located ⟨p.1, p.2, []⟩ (Nat.le_of_lt (lt_of_drop h)) hlength
        simp only [hlocated, Option.map_some]
        rfl
      | none => cases recoverValue quote rest <;> rfl
    · rw [if_neg hquote, if_neg hquote, walkBare_eq, ← bare_located, h]
      rfl

/-! ## Tags by places -/

variable {tag name : Text} {p : Progress}

def roundOf (input tag name : Text) (s : Progress) :
    TagPart → Round Progress (Option (Located Event) × List Notice)
  | .cut => .done (none, s.notices ++ [.unterminatedTag tag])
  | .unclosed key => .done (none, s.notices ++ [.unterminatedAttribute key tag])
  | .ends selfClosing rest =>
    .done (some ⟨tagEvent selfClosing name s.attributes, input.length - rest.length⟩, s.notices)
  | .stray rest => .again { s with place := input.length - rest.length }
  | .attribute key value =>
    .again ⟨s.attributes.insertNew key value.value, s.notices ++ value.notices, input.length - value.rest.length⟩

theorem eq_length_sub (h : input.drop i = rest) (hi : i ≤ input.length) : i = input.length - rest.length := by
  rw [← h, List.length_drop]
  omega

theorem walkGaps_eq (input : Text) (start : Nat) :
    ∃ i, passOver input (fun c _ => isGap c) start = .ok i ∧ input.drop i = dropGaps (input.drop start) ∧
      (start ≤ input.length → i ≤ input.length) := by
  refine ⟨_, passOver_eq input isGap start, drop_takeWhile input isGap start, fun hstart => ?_⟩
  have hlength := (List.takeWhile_sublist isGap (l := input.drop start)).length_le
  rw [List.length_drop] at hlength
  omega

theorem valueRound_eq (input tag name key : Text) (s : Progress) (hstart : start ≤ input.length) :
    valueRound input tag key s start = .ok (roundOf input tag name s (valueAfterKey key (input.drop start))) := by
  obtain ⟨i, hpass, hdrop, hi⟩ := walkGaps_eq input start
  rw [valueRound, hpass]
  simp only [bind, Except.bind, meets_eq, hdrop]
  by_cases hhead : (dropGaps (input.drop start)).head? = some '='
  · obtain ⟨t, ht⟩ := List.head?_eq_some_iff.1 hhead
    obtain ⟨j, hpass', hdrop', hj⟩ := walkGaps_eq input (i + 1)
    rw [ht] at hdrop
    rw [drop_succ_of_drop hdrop] at hdrop'
    rw [valueAfterKey_announced ht, ← hdrop']
    simp only [hhead, beq_self_eq_true, if_true, hpass', walkValue_eq, readValueAt]
    cases hvalue : readValue (input.drop j) with
    | none => simp [roundOf, pure, Except.pure]
    | some value =>
      simp only [stop_located _ (hj (lt_of_drop hdrop)) (suffix_of_readValue hvalue).length_le]
      rfl
  · rw [valueAfterKey_bare hhead, if_neg (by simpa using hhead), eq_length_sub hdrop (hi hstart)]
    simp [roundOf, pure, Except.pure]

theorem partRound_eq (input tag name : Text) (s : Progress) :
    partRound input tag name s = .ok (roundOf input tag name s (nextPart (input.drop s.place))) := by
  obtain ⟨i, hpass, hgaps, -⟩ := walkGaps_eq input s.place
  rw [partRound, hpass, nextPart, ← hgaps]
  cases hdrop : input.drop i with
  | nil =>
    simp only [bind, Except.bind, if_neg (Nat.not_lt.2 (List.drop_eq_nil_iff.1 hdrop))]
    rfl
  | cons c rest =>
    have hlt := lt_of_drop hdrop
    have hplace := eq_length_sub (drop_succ_of_drop hdrop) hlt
    have hcut := cut_takeWhile input isKeyChar i
    have hafter := drop_takeWhile input isKeyChar i
    simp only [bind, Except.bind, if_pos hlt, look_of_drop hdrop, tagEndsAt_of_drop hdrop, passOver_eq, hcut]
    rw [partAt]
    by_cases hopens : c = '<'
    · rw [if_pos hopens, if_pos hopens]
      rfl
    rw [if_neg hopens, if_neg hopens]
    by_cases hslash : c = '/' ∧ rest.head? = some '>'
    · obtain ⟨t, rfl⟩ := List.head?_eq_some_iff.1 hslash.2
      have hstop := eq_length_sub (drop_succ_of_drop (drop_succ_of_drop hdrop)) (lt_of_drop (drop_succ_of_drop hdrop))
      rw [if_pos (by simpa using hslash), if_pos hslash, hstop]
      rfl
    rw [if_neg (by simpa using hslash), if_neg hslash]
    by_cases hends : c = '>'
    · rw [if_pos hends, if_pos hends, hplace]
      rfl
    rw [if_neg hends, if_neg hends]
    by_cases hkey : isKeyChar c
    · have hle : i + ((input.drop i).takeWhile isKeyChar).length ≤ input.length := by
        have hlength := (List.takeWhile_sublist isKeyChar (l := input.drop i)).length_le
        rw [List.length_drop] at hlength
        omega
      rw [if_pos hkey, valueRound_eq input tag name _ s hle, hafter, hdrop, List.takeWhile_cons_of_pos hkey,
        List.dropWhile_cons_of_pos hkey]
      rfl
    · rw [if_neg hkey, hdrop, List.takeWhile_cons_of_neg hkey, hplace]
      rfl

/-- A part that leaves a text leaves it at a place further on. -/
theorem place_of_nextPart {part : TagPart} (h : nextPart (input.drop i) = part) (hcut : part ≠ .cut) :
    i < input.length - part.rest.length ∧ input.drop (input.length - part.rest.length) = part.rest := by
  subst h
  have hlength := length_nextPart_lt hcut
  rw [List.length_drop] at hlength
  have hsuffix : (nextPart (input.drop i)).rest <:+ input := (nextPart_suffix _).trans (List.drop_suffix _ _)
  exact ⟨by omega, (List.suffix_iff_eq_drop.1 hsuffix).symm⟩

theorem loop_partRound (input tag name : Text) (s : Progress) :
    loop input Progress.place (partRound input tag name) s =
      let reading := readAttributes tag name s.attributes (input.drop s.place)
      .ok (TagReading.located ⟨reading.found, s.notices ++ reading.notices⟩ input) := by
  induction h : input.length - s.place using Nat.strong_induction_on generalizing s with
  | _ n ih =>
    have hround := partRound_eq input tag name s
    rw [readAttributes_eq]
    match hpart : nextPart (input.drop s.place) with
    | .cut | .unclosed key =>
      rw [hpart] at hround
      exact loop_done hround
    | .ends selfClosing rest =>
      rw [hpart] at hround
      rw [loop_done hround]
      simp only [List.append_nil]
      rfl
    | .stray rest =>
      obtain ⟨hlt, hdrop⟩ := place_of_nextPart hpart nofun
      rw [hpart] at hround
      simp only [TagPart.rest] at hlt hdrop
      rw [loop_again hround hlt (Nat.sub_le _ _), ih _ (by simp only; omega) _ rfl]
      simp only [hdrop]
    | .attribute key value =>
      obtain ⟨hlt, hdrop⟩ := place_of_nextPart hpart nofun
      rw [hpart] at hround
      simp only [TagPart.rest] at hlt hdrop
      rw [loop_again hround hlt (Nat.sub_le _ _), ih _ (by simp only; omega) _ rfl]
      simp only [hdrop, List.append_assoc]

theorem walkParts_eq (input tag name : Text) (start : Nat) :
    walkParts input tag name start =
      .ok ((readAttributes tag name .empty (input.drop start)).located input) :=
  loop_partRound input tag name ⟨.empty, [], start⟩

theorem walkNamed_eq (input : Text) (start : Nat) (closes : Bool) (nameStart : Nat) :
    walkNamed input start closes nameStart =
      .ok ((readNamed (input.drop start) closes (input.drop nameStart)).located input) := by
  have hcut := cut_takeWhile input isNameChar nameStart
  have hafter := drop_takeWhile input isNameChar nameStart
  simp only [walkNamed, bind, Except.bind, passOver_eq, hcut, hafter, walkParts_eq, readNamed]
  cases (input.drop nameStart).takeWhile isNameChar with
  | nil => rfl
  | cons first name =>
    simp only
    split
    · rfl
    split <;> rfl

theorem walkTag_eq (input : Text) (start : Nat) : walkTag input start = .ok (readTagAt input start) := by
  have hreading : readTagAt input start = (readTag (input.drop start)).located input := rfl
  have hnameStart (closes : Bool) : input.drop (if closes then start + 2 else start + 1) =
      (input.drop start).drop (if closes then 2 else 1) := by
    cases closes <;> exact (List.drop_drop).symm
  rw [walkTag, meets_eq, hreading, ← List.drop_drop]
  simp only [bind, Except.bind, walkNamed_eq, hnameStart]
  match input.drop start with
  | [] => rfl
  | [c] => rfl
  | c :: d :: fromName =>
    by_cases hd : d = '/'
    · subst hd
      rfl
    · have hcloses : (((c :: d :: fromName).drop 1).head? == some '/') = false := by simpa using hd
      rw [hcloses]
      simp [readTag, hd]

end MudClient.Markup

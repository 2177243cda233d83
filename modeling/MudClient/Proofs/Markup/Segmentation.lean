import Mathlib.Data.List.Forall2
import MudClient.Proofs.Markup.TextRun

/-!
# A scan divides its line

* `Span`, `Tiles`: pieces of a line, and pieces that cover it without gaps and overlaps
* `Holds`: the event that a piece of a line is
* `Segmentation`: a division of a line, from some place on, into the pieces of events
* `exists_segmentation`: a scan gives the events of a division
* `eq_scan_of_segmentation`: it gives the only events that any division has
-/

set_option autoImplicit false

namespace MudClient.Markup

/-- The places of a line from `start` up to `stop`. -/
structure Span where
  start : Nat
  stop : Nat

def Span.cut (s : Span) (input : Text) : Text :=
  (input.drop s.start).take (s.stop - s.start)

/-- The spans cover the places from `lo` up to `hi`, each at least one, each once and in order. -/
def Tiles : Nat → List Span → Nat → Prop
  | lo, [], hi => lo = hi
  | lo, s :: spans, hi => s.start = lo ∧ s.start < s.stop ∧ Tiles s.stop spans hi

/-- What a span has to be for an event: a run of text in which no tag can be read, or a tag from its
opening bracket to its end. -/
def Holds (input : Text) (s : Span) : Event → Prop
  | .text content => content = s.cut input ∧
      ∀ j, s.start ≤ j → j < s.stop → input[j]? = some '<' → (readTagAt input j).1 = none
  | event => input[s.start]? = some '<' ∧ (readTagAt input s.start).1 = some ⟨event, s.stop⟩

/-- The events are those of a division of the line from `lo` on. -/
structure Segmentation (input : Text) (lo : Nat) (events : List Event) (spans : List Span) : Prop where
  tiles : Tiles lo spans input.length
  holds : List.Forall₂ (Holds input) spans events
  apart : Apart events

variable {input content : Text} {lo hi stop : Nat} {event : Event} {events : List Event} {s : Span}
  {spans : List Span}

/-! ## Spans -/

theorem cut_append_drop (h : s.start ≤ s.stop) :
    s.cut input ++ input.drop s.stop = input.drop s.start := by
  have e : input.drop s.stop = (input.drop s.start).drop (s.stop - s.start) := by
    rw [List.drop_drop]
    congr 1
    omega
  rw [Span.cut, e, List.take_append_drop]

/-- Nothing of the line is lost, doubled or moved. -/
theorem flatten_cut_of_tiles (h : Tiles lo spans input.length) :
    (spans.map fun s => s.cut input).flatten = input.drop lo := by
  induction spans generalizing lo with
  | nil =>
    have hlo : lo = input.length := h
    rw [hlo, List.drop_length]
    rfl
  | cons s spans ih =>
    obtain ⟨rfl, hlt, hrest⟩ := h
    rw [List.map_cons, List.flatten_cons, ih hrest, cut_append_drop (Nat.le_of_lt hlt)]

theorem le_of_tiles (h : Tiles lo spans hi) : lo ≤ hi := by
  induction spans generalizing lo with
  | nil => exact Nat.le_of_eq h
  | cons s spans ih =>
    obtain ⟨rfl, hlt, hrest⟩ := h
    have := ih hrest
    omega

/-! ## Tags by place -/

theorem holds_tag (h : event.isText = false) :
    Holds input s event ↔
      input[s.start]? = some '<' ∧ (readTagAt input s.start).1 = some ⟨event, s.stop⟩ := by
  cases event with
  | text content => simp [Event.isText] at h
  | opening name attributes => exact Iff.rfl
  | selfClosing name attributes => exact Iff.rfl
  | closing name => exact Iff.rfl

/-- A tag that is read at a place stops where the text that it leaves begins. -/
theorem readTagAt_eq_some :
    (readTagAt input lo).1 = some ⟨event, stop⟩ ↔
      stop ≤ input.length ∧ (readTag (input.drop lo)).found = some (event, input.drop stop) := by
  simp only [readTagAt, Option.map_eq_some_iff, Located.mk.injEq, Prod.exists]
  constructor
  · rintro ⟨e, after, hfound, rfl, rfl⟩
    have hsuffix : after <:+ input := (suffix_of_readTag hfound).trans (List.drop_suffix _ _)
    exact ⟨Nat.sub_le _ _, by rw [hfound, ← List.suffix_iff_eq_drop.1 hsuffix]⟩
  · rintro ⟨hle, hfound⟩
    refine ⟨event, input.drop stop, hfound, rfl, ?_⟩
    rw [List.length_drop]
    omega

theorem lt_of_readTagAt (h : (readTagAt input lo).1 = some ⟨event, stop⟩) : lo < stop := by
  obtain ⟨hle, hfound⟩ := readTagAt_eq_some.1 h
  have := length_of_readTag hfound
  rw [List.length_drop, List.length_drop] at this
  omega

theorem readTagAt_eq_none :
    (readTagAt input lo).1 = none ↔ (readTag (input.drop lo)).found = none := by
  simp [readTagAt]

theorem isText_of_readTagAt (h : (readTagAt input lo).1 = some ⟨event, stop⟩) : event.isText = false :=
  isText_of_readTag (readTagAt_eq_some.1 h).2

theorem drop_of_get (h : input[lo]? = some '<') : input.drop lo = '<' :: input.drop (lo + 1) := by
  obtain ⟨hlt, hget⟩ := List.getElem?_eq_some_iff.1 h
  rw [List.drop_eq_getElem_cons hlt, hget]

/-! ## A scan divides its line -/

theorem segmentation_tag (hb : input[lo]? = some '<')
    (ht : (readTagAt input lo).1 = some ⟨event, stop⟩) (h : Segmentation input stop events spans) :
    Segmentation input lo (event :: events) (⟨lo, stop⟩ :: spans) where
  tiles := ⟨rfl, lt_of_readTagAt ht, h.tiles⟩
  holds := .cons ((holds_tag (isText_of_readTagAt ht)).2 ⟨hb, ht⟩) h.holds
  apart := by
    rw [apart_cons]
    exact ⟨by simp [isText_of_readTagAt ht], h.apart⟩

theorem segmentation_newRun (hlo : lo < input.length)
    (hr : input[lo]? = some '<' → (readTagAt input lo).1 = none)
    (ht : startsWithText events = false) (h : Segmentation input (lo + 1) events spans) :
    Segmentation input lo (.text [input[lo]] :: events) (⟨lo, lo + 1⟩ :: spans) where
  tiles := ⟨rfl, Nat.lt_succ_self lo, h.tiles⟩
  holds := by
    refine .cons ⟨?_, fun j hj hj' => ?_⟩ h.holds
    · rw [Span.cut, List.drop_eq_getElem_cons hlo, Nat.add_sub_cancel_left]
      rfl
    · have : j = lo := by
        simp only at hj hj'
        omega
      exact this ▸ hr
  apart := by
    rw [apart_cons]
    exact ⟨by simp [ht], h.apart⟩

theorem segmentation_longerRun (hlo : lo < input.length)
    (hr : input[lo]? = some '<' → (readTagAt input lo).1 = none)
    (h : Segmentation input (lo + 1) (.text content :: events) (s :: spans)) :
    Segmentation input lo (.text (input[lo] :: content) :: events) (⟨lo, s.stop⟩ :: spans) := by
  obtain ⟨⟨hstart, hlt, htiles⟩, hholds, hapart⟩ := h
  obtain ⟨⟨hcut, href⟩, hrest⟩ := List.forall₂_cons.1 hholds
  refine ⟨⟨rfl, by simp only; omega, htiles⟩, .cons ⟨?_, fun j hj hj' => ?_⟩ hrest, ?_⟩
  · have e : s.stop - lo = s.stop - s.start + 1 := by omega
    rw [hcut, Span.cut, Span.cut, List.drop_eq_getElem_cons hlo, e, List.take_succ_cons, hstart]
  · simp only at hj hj'
    by_cases hjl : j = lo
    · exact hjl ▸ hr
    · exact href j (by omega) hj'
  · have hparts := apart_cons.1 hapart
    exact apart_cons.2 hparts

/-- A character that no tag starts with joins the run of text behind it, or is a run of its own. -/
theorem segmentation_char (hlo : lo < input.length)
    (hr : input[lo]? = some '<' → (readTagAt input lo).1 = none)
    (h : Segmentation input (lo + 1) events spans) :
    ∃ spans', Segmentation input lo (consText input[lo] events) spans' := by
  cases hs : startsWithText events with
  | false =>
    rw [consText_of_not hs]
    exact ⟨_, segmentation_newRun hlo hr hs h⟩
  | true =>
    obtain ⟨content, es, rfl⟩ := startsWithText_iff.1 hs
    obtain ⟨s, ss, -, -, rfl⟩ := List.forall₂_cons_right_iff.1 h.holds
    exact ⟨_, segmentation_longerRun hlo hr h⟩

theorem exists_segmentation (hlo : lo ≤ input.length) :
    ∃ spans, Segmentation input lo (scan (input.drop lo)).events spans := by
  -- A tag may reach far ahead, so the induction is on the number of places that are left.
  induction h : input.length - lo using Nat.strong_induction_on generalizing lo with
  | _ n ih =>
    by_cases hend : lo = input.length
    · rw [hend, List.drop_length, scan_nil]
      exact ⟨[], rfl, .nil, .nil⟩
    have hlt : lo < input.length := by omega
    have hdrop : input.drop lo = input[lo] :: input.drop (lo + 1) := List.drop_eq_getElem_cons hlt
    by_cases ht : ∃ event stop, input[lo]? = some '<' ∧ (readTagAt input lo).1 = some ⟨event, stop⟩
    · obtain ⟨event, stop, hb, ht⟩ := ht
      have hlt' := lt_of_readTagAt ht
      obtain ⟨hle, hfound⟩ := readTagAt_eq_some.1 ht
      obtain ⟨spans, hnext⟩ := ih (input.length - stop) (by omega) hle rfl
      rw [drop_of_get hb] at hfound ⊢
      rw [scan_tag hfound]
      exact ⟨_, segmentation_tag hb ht hnext⟩
    · have hr : input[lo]? = some '<' → (readTagAt input lo).1 = none := by
        intro hb
        cases hf : (readTagAt input lo).1 with
        | none => rfl
        | some found => exact absurd ⟨found.item, found.stop, hb, hf⟩ ht
      obtain ⟨spans, hnext⟩ := ih (input.length - (lo + 1)) (by omega) hlt rfl
      have hchar : input[lo] = '<' → (readTag ('<' :: input.drop (lo + 1))).found = none := by
        intro hc
        have hf := readTagAt_eq_none.1 (hr (by rw [List.getElem?_eq_getElem hlt, hc]))
        rwa [hdrop, hc] at hf
      rw [hdrop, scan_textChar hchar]
      exact segmentation_char hlt hr hnext

/-! ## No other events divide it -/

/-- No tag can be read inside the run of text that a span is. -/
theorem refused_of_holds (h : Holds input s (.text content)) (hs : s.start < s.stop) :
    Refused content (input.drop s.stop) := by
  obtain ⟨hcut, href⟩ := h
  have hline : content ++ input.drop s.stop = input.drop s.start := by
    rw [hcut, cut_append_drop (Nat.le_of_lt hs)]
  intro before after he
  have hdrop : input.drop (s.start + before.length) = '<' :: after ++ input.drop s.stop := by
    rw [← List.drop_drop, ← hline, he, List.append_assoc, List.drop_left]
  have hlen : before.length < s.stop - s.start := by
    have hl := congrArg List.length (he.symm.trans hcut)
    simp only [Span.cut, List.length_append, List.length_cons, List.length_take] at hl
    omega
  have hb : input[s.start + before.length]? = some '<' := by
    rw [← List.head?_drop, hdrop]
    rfl
  have hnone := href (s.start + before.length) (by omega) (by omega) hb
  rwa [readTagAt_eq_none, hdrop] at hnone

theorem cut_ne_nil (hs : s.start < s.stop) (hle : s.stop ≤ input.length) : s.cut input ≠ [] := by
  intro h
  have hl := congrArg List.length h
  simp only [Span.cut, List.length_take, List.length_drop, List.length_nil] at hl
  omega

theorem eq_scan_of_segmentation (h : Segmentation input lo events spans) :
    events = (scan (input.drop lo)).events := by
  induction spans generalizing lo events with
  | nil =>
    have hlo : lo = input.length := h.tiles
    rw [List.forall₂_nil_left_iff.1 h.holds, hlo, List.drop_length, scan_nil]
  | cons s spans ih =>
    obtain ⟨htiles, hholds, hapart⟩ := h
    obtain ⟨rfl, hlt, htiles⟩ := htiles
    obtain ⟨event, es, hfirst, hrest, rfl⟩ := List.forall₂_cons_left_iff.1 hholds
    obtain ⟨hnew, hapart⟩ := apart_cons.1 hapart
    have hes := ih ⟨htiles, hrest, hapart⟩
    cases hevent : event.isText with
    | true =>
      obtain ⟨content, rfl⟩ := Event.isText_iff.1 hevent
      have hne : content ≠ [] := by
        rw [hfirst.1]
        exact cut_ne_nil hlt (le_of_tiles htiles)
      have ht : startsWithText (scan (input.drop s.stop)).events = false := by
        rw [← hes]
        simpa [hevent] using hnew
      rw [← cut_append_drop (Nat.le_of_lt hlt), ← hfirst.1,
        scan_run hne (refused_of_holds hfirst hlt) ht, hes]
    | false =>
      obtain ⟨hb, ht⟩ := (holds_tag hevent).1 hfirst
      obtain ⟨-, hfound⟩ := readTagAt_eq_some.1 ht
      rw [drop_of_get hb] at hfound ⊢
      rw [scan_tag hfound, hes]

/-- A scan divides its line into the pieces of its events, losing nothing, and gives the only events
that the line can be divided into. -/
theorem scan_segmentation (input : Text) :
    (∃ spans, Segmentation input 0 (scan input).events spans ∧
      (spans.map fun s => s.cut input).flatten = input) ∧
    ∀ events spans, Segmentation input 0 events spans → events = (scan input).events := by
  refine ⟨?_, fun events spans h => eq_scan_of_segmentation h⟩
  obtain ⟨spans, h⟩ := exists_segmentation (Nat.zero_le input.length)
  exact ⟨spans, h, flatten_cut_of_tiles h.tiles⟩

end MudClient.Markup

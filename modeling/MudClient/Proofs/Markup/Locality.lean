import MudClient.Proofs.Markup.Walk

/-!
# Reading knows nothing of what came before

* `Located.moved`, `moved`: an answer about a line, for the same line behind another text
* `readTagAt_moved`, `readValueAt_moved`, `recoverValueAt_moved`: a text in front moves what is read, and nothing else
* `segmentation_drop`: behind each of its pieces, a division of a line divides what is left of it
* `scan_local`: so a scan goes on behind a tag as if the line began there
-/

set_option autoImplicit false

namespace MudClient.Markup

def Located.moved {α : Type} (distance : Nat) (found : Located α) : Located α :=
  ⟨found.item, distance + found.stop⟩

def moved {α : Type} (distance : Nat) (answer : Option (Located α) × List Notice) :
    Option (Located α) × List Notice :=
  (answer.1.map (Located.moved distance), answer.2)

variable {p input t : Text} {start lo i : Nat} {event : Event} {events : List Event} {s : Span}
  {spans : List Span}

/-! ## By position -/

theorem drop_moved (p input : Text) (start : Nat) : (p ++ input).drop (p.length + start) = input.drop start := by
  rw [← List.drop_drop, List.drop_left]

theorem readTagAt_moved (p input : Text) (start : Nat) :
    readTagAt (p ++ input) (p.length + start) = moved p.length (readTagAt input start) := by
  simp only [readTagAt, drop_moved, moved, Option.map_map, List.length_append]
  congr 1
  refine Option.map_congr fun found hfound => ?_
  have hle := (suffix_of_readTag hfound).length_le
  rw [List.length_drop] at hle
  simp only [Function.comp_apply, Located.moved]
  congr 1
  omega

theorem located_moved (reading : ValueReading) (p input : Text) (start : Nat) :
    reading.located (p ++ input) (p.length + start) = (reading.located input start).moved p.length := by
  simp only [ValueReading.located, drop_moved, Located.moved, Nat.add_assoc]

theorem readValueAt_moved (p input : Text) (start : Nat) :
    readValueAt (p ++ input) (p.length + start) = moved p.length (readValueAt input start) := by
  rw [readValueAt, readValueAt, drop_moved]
  cases readValue (input.drop start) with
  | none => rfl
  | some reading => exact congrArg (fun value => (some value, reading.notices)) (located_moved reading p input start)

theorem recoverValueAt_moved (p input : Text) (start : Nat) :
    recoverValueAt (p ++ input) (p.length + start) = (recoverValueAt input start).map (moved p.length) := by
  cases h : input.drop start with
  | nil => simp only [recoverValueAt, drop_moved, h, Option.map_none]
  | cons quote body =>
    rw [recoverValueAt_of_drop ((drop_moved p input start).trans h), recoverValueAt_of_drop h, Option.map_some]
    cases recoverValue quote body with
    | none => rfl
    | some reading =>
      exact congrArg (fun value => some (some value, reading.notices)) (located_moved reading p input start)

/-! ## Behind a piece of a line -/

theorem segmentation_tail (h : Segmentation input lo (event :: events) (s :: spans)) :
    Segmentation input s.stop events spans where
  tiles := h.tiles.2.2
  holds := (List.forall₂_cons.1 h.holds).2
  apart := (apart_cons.1 h.apart).2

theorem segmentation_drop (h : Segmentation input lo events spans) (hs : spans[i]? = some s) :
    Segmentation input s.stop (events.drop (i + 1)) (spans.drop (i + 1)) := by
  induction spans generalizing lo events i with
  | nil => cases hs
  | cons first spans ih =>
    obtain ⟨event, events, -, -, rfl⟩ := List.forall₂_cons_left_iff.1 h.holds
    cases i with
    | zero =>
      obtain rfl : first = s := Option.some.inj hs
      exact segmentation_tail h
    | succ i => exact ih (segmentation_tail h) hs

/-- A scan divides its line, and behind each tag of the division it has the events that the rest of the line has
alone. Whatever is read at a place of a line, also place by place, is read the same behind any other text. -/
theorem scan_local (input : Text) :
    (∃ spans, Segmentation input 0 (scan input).events spans) ∧
      (∀ (spans : List Span) (i : Nat) (event : Event) (s : Span),
        Segmentation input 0 (scan input).events spans → (scan input).events[i]? = some event →
          spans[i]? = some s → event.isText = false →
            (scan input).events.drop (i + 1) = (scan (input.drop s.stop)).events) ∧
      ∀ (p : Text) (start : Nat),
        readTagAt (p ++ input) (p.length + start) = moved p.length (readTagAt input start) ∧
          readValueAt (p ++ input) (p.length + start) = moved p.length (readValueAt input start) ∧
          recoverValueAt (p ++ input) (p.length + start) = (recoverValueAt input start).map (moved p.length) ∧
          walkTag (p ++ input) (p.length + start) = (walkTag input start).map (moved p.length) ∧
          walkValue (p ++ input) (p.length + start) = (walkValue input start).map (moved p.length) := by
  refine ⟨exists_segmentation (Nat.zero_le input.length), fun spans i event s h _ hs _ => ?_, fun p start => ?_⟩
  · exact eq_scan_of_segmentation (segmentation_drop h hs)
  · have htag := readTagAt_moved p input start
    have hvalue := readValueAt_moved p input start
    refine ⟨htag, hvalue, recoverValueAt_moved p input start, ?_, ?_⟩
    · rw [walkTag_eq, walkTag_eq, htag]
      rfl
    · rw [walkValue_eq, walkValue_eq, hvalue]
      rfl

end MudClient.Markup

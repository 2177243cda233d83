import Mathlib.Data.List.Chain
import MudClient.Proofs.Markup.Reading

/-!
# Runs of text

* `startsWithText`: whether events begin with a run of text
* `Apart`: no two runs of text touch
* `Refused`: no tag can be read at any bracket of a text, given what stands behind it
* `scan_run`: a text that is refused all along, with a tag or nothing behind it, is one event
-/

set_option autoImplicit false

namespace MudClient.Markup

variable {c : Char} {content rest : Text} {events : List Event}

def startsWithText : List Event → Bool
  | [] => false
  | event :: _ => event.isText

def Apart (events : List Event) : Prop :=
  events.IsChain fun a b => ¬(a.isText = true ∧ b.isText = true)

instance (events : List Event) : Decidable (Apart events) :=
  inferInstanceAs (Decidable (events.IsChain _))

/-- No tag can be read at any opening bracket of `content` when `rest` follows it. -/
def Refused (content rest : Text) : Prop :=
  ∀ before after, content = before ++ '<' :: after →
    (readTag ('<' :: after ++ rest)).found = none

theorem apart_cons {event : Event} :
    Apart (event :: events) ↔ ¬(event.isText ∧ startsWithText events) ∧ Apart events := by
  cases events with
  | nil => simp [Apart, startsWithText]
  | cons a events => simp [Apart, startsWithText]

/-! ## A character in front of events -/

theorem startsWithText_iff : startsWithText events = true ↔ ∃ u es, events = .text u :: es := by
  cases events with
  | nil => simp [startsWithText]
  | cons event events => simp [startsWithText, Event.isText_iff]

theorem consText_of_not (h : startsWithText events = false) :
    consText c events = .text [c] :: events := by
  match events, h with
  | [], _ => rfl
  | .opening _ _ :: _, _ => rfl
  | .selfClosing _ _ :: _, _ => rfl
  | .closing _ :: _, _ => rfl

/-! ## One character of a scan -/

theorem scan_textChar (h : c = '<' → (readTag ('<' :: rest)).found = none) :
    (scan (c :: rest)).events = consText c (scan rest).events := by
  by_cases hc : c = '<'
  · subst hc
    rw [scan_refused (h rfl)]
  · rw [scan_char hc]

theorem refused_tail (h : Refused (c :: content) rest) : Refused content rest :=
  fun before after e => h (c :: before) after (by rw [e, List.cons_append])

theorem refused_of_no_bracket (h : '<' ∉ content) : Refused content rest := by
  rintro before after rfl
  simp at h

/-! ## A whole run -/

theorem scan_run (hne : content ≠ []) (hr : Refused content rest)
    (ht : startsWithText (scan rest).events = false) :
    (scan (content ++ rest)).events = .text content :: (scan rest).events := by
  induction content with
  | nil => exact absurd rfl hne
  | cons c content ih =>
    have hc : c = '<' → (readTag ('<' :: (content ++ rest))).found = none := by
      rintro rfl
      exact hr [] content rfl
    rw [List.cons_append, scan_textChar hc]
    by_cases he : content = []
    · subst he
      exact consText_of_not ht
    · rw [ih he (refused_tail hr)]
      rfl

theorem notices_run (h : '<' ∉ content) : (scan (content ++ rest)).notices = (scan rest).notices := by
  induction content with
  | nil => rfl
  | cons c content ih =>
    simp only [List.mem_cons, not_or] at h
    rw [List.cons_append, scan_char (fun e => h.1 e.symm)]
    exact ih h.2

end MudClient.Markup

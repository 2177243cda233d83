/-!
# Text

* `Text`: a sequence of code points, read from the front
* `Text.leads`, `Text.after?`: a text standing at the front of another one
* `Text.occursIn`: a text standing anywhere in another one
* `Text.splitOn`, `Text.join`: fields between separators
-/

set_option autoImplicit false

namespace MudClient

/-- A text is the list of its code points. -/
abbrev Text := List Char

namespace Text

instance : LawfulBEq Text := inferInstance

/-- What follows `lead` at the front of a text, if `lead` stands there. -/
def after? : Text → Text → Option Text
  | [], t => some t
  | _ :: _, [] => none
  | a :: lead, c :: t => if a = c then after? lead t else none

def leads (lead t : Text) : Bool :=
  (after? lead t).isSome

def occursIn (part : Text) : Text → Bool
  | [] => leads part []
  | c :: t => leads part (c :: t) || occursIn part t

/-- The fields between separators: one more than there are separators. -/
def splitOn (sep : Char) : Text → List Text
  | [] => [[]]
  | c :: t =>
    if c = sep then [] :: splitOn sep t
    else
      match splitOn sep t with
      | [] => [[c]]
      | field :: fields => (c :: field) :: fields

/-- The parts with a separator between each two. -/
def join (sep : Text) : List Text → Text
  | [] => []
  | [t] => t
  | t :: u :: rest => t ++ sep ++ join sep (u :: rest)

theorem after?_eq_some {lead t rest : Text} : after? lead t = some rest ↔ t = lead ++ rest := by
  induction lead generalizing t with
  | nil => simp [after?, eq_comm]
  | cons a lead ih =>
    cases t with
    | nil => simp [after?]
    | cons c t =>
      by_cases h : a = c
      · subst h; simp [after?, ih]
      · simp only [after?, if_neg h, List.cons_append, List.cons.injEq]
        exact ⟨nofun, fun e => absurd e.1.symm h⟩

theorem leads_iff {lead t : Text} : leads lead t ↔ lead <+: t := by
  rw [leads, Option.isSome_iff_exists]
  constructor
  · rintro ⟨rest, h⟩
    exact ⟨rest, (after?_eq_some.1 h).symm⟩
  · rintro ⟨rest, rfl⟩
    exact ⟨rest, after?_eq_some.2 rfl⟩

theorem occursIn_iff {part t : Text} : occursIn part t ↔ part <:+: t := by
  induction t with
  | nil => rw [occursIn, leads_iff, List.prefix_nil, List.infix_nil]
  | cons c t ih => rw [occursIn, Bool.or_eq_true, leads_iff, ih, List.infix_cons_iff]

/-- A run of characters goes no further for a text that begins with a character it stops at. -/
theorem takeWhile_append_stop {f : Char → Bool} {s t : Text} (hs : ∀ d ∈ s.head?, f d = false) :
    (t ++ s).takeWhile f = t.takeWhile f ∧ (t ++ s).dropWhile f = t.dropWhile f ++ s := by
  induction t with
  | nil =>
    cases s with
    | nil => exact ⟨rfl, rfl⟩
    | cons d s =>
      have hd : f d = false := hs d rfl
      simp [hd]
  | cons d t ih => cases hd : f d <;> simp [hd, ih.1, ih.2]

theorem takeWhile_append_run {f : Char → Bool} {s t : Text} (ht : ∀ d ∈ t, f d = true)
    (hs : ∀ d ∈ s.head?, f d = false) : (t ++ s).takeWhile f = t ∧ (t ++ s).dropWhile f = s := by
  have hstop : s.takeWhile f = [] ∧ s.dropWhile f = s := takeWhile_append_stop (t := []) hs
  rw [List.takeWhile_append_of_pos ht, List.dropWhile_append_of_pos ht, hstop.1, hstop.2, List.append_nil]
  exact ⟨rfl, rfl⟩

theorem splitOn_ne_nil (sep : Char) (t : Text) : splitOn sep t ≠ [] := by
  cases t with
  | nil => simp [splitOn]
  | cons c t =>
    simp only [splitOn]
    split
    · simp
    · split <;> simp

theorem sublist_of_mem_splitOn {sep : Char} {t field : Text} (h : field ∈ splitOn sep t) : field.Sublist t := by
  induction t generalizing field with
  | nil => simp_all [splitOn]
  | cons d t ih =>
    rw [splitOn] at h
    split at h
    · rcases List.mem_cons.1 h with rfl | h
      · exact List.nil_sublist _
      · exact (ih h).cons d
    · split at h
      · next hnil => exact absurd hnil (splitOn_ne_nil sep t)
      · next first fields hfields =>
        rcases List.mem_cons.1 h with rfl | h
        · exact (ih (hfields ▸ List.mem_cons_self)).cons_cons d
        · exact (ih (hfields ▸ List.mem_cons_of_mem first h)).cons d

end Text

end MudClient

import Mathlib.Data.List.Infix
import Mathlib.Data.List.TakeWhile
import MudClient.Text.CharacterReference

/-!
# Texts whose references cannot be read

* `CharacterReference.Overlong`: a text with a decimal reference of more digits than are read
* `CharacterReference.read_fails_iff`: which reference cannot be read
* `CharacterReference.no_ampersand_of_read`: a reference does not take the ampersand of another one
* `CharacterReference.decode_fails_iff`: replacing references fails for overlong texts and for no others
-/

set_option autoImplicit false

namespace MudClient.CharacterReference

open Text (TooManyDigits digitLimit)

/-- More digits than a decimal number may have. -/
def Beyond (digits : Text) : Prop :=
  (∀ c ∈ digits, c.isDigit) ∧ digitLimit < digits.length

/-- A decimal reference somewhere in the text has too many digits. -/
def Overlong (t : Text) : Prop :=
  ∃ digits, Beyond digits ∧ '&' :: '#' :: digits <:+: t

variable {t value : Text} {n taken : Nat}

/-! ## One reference -/

theorem decimal?_fails_iff {digits : Text} :
    (∃ e, Text.decimal? digits = .error e) ↔ digitLimit < digits.length := by
  rw [Text.decimal?]
  split <;> simp_all

theorem not_beyond_nil : ¬Beyond [] := by
  intro h
  exact absurd h.2 (Nat.not_lt_zero _)

/-- Digits too many are at the beginning of a text if its leading digits are too many. -/
theorem exists_beyond_iff :
    (∃ digits, Beyond digits ∧ digits <+: t) ↔ digitLimit < (t.takeWhile Char.isDigit).length := by
  constructor
  · rintro ⟨digits, ⟨hdigits, hmany⟩, rest, rfl⟩
    rw [List.takeWhile_append_of_pos hdigits, List.length_append]
    omega
  · intro hmany
    exact ⟨t.takeWhile Char.isDigit, ⟨fun c hc => List.mem_takeWhile_imp hc, hmany⟩, List.takeWhile_prefix _⟩

theorem read_fails_iff : (∃ e, read t = .error e) ↔ ∃ digits, Beyond digits ∧ '#' :: digits <+: t := by
  have hhash (rest : Text) :
      (∃ digits, Beyond digits ∧ '#' :: digits <+: '#' :: rest) ↔
        ∃ digits, Beyond digits ∧ digits <+: rest := by
    simp only [List.prefix_cons_inj]
  fun_cases read t with
  | case1 c rest hx digits hnone | case2 c rest hx digits hsome =>
    have hc : c.isDigit = false := by
      rcases Bool.or_eq_true_iff.1 hx with h | h <;> rw [of_decide_eq_true h] <;> rfl
    rw [hhash, exists_beyond_iff, List.takeWhile_cons_of_neg (by simp [hc])]
    simp
  | case3 c rest hx digits hnone =>
    rw [hhash, exists_beyond_iff]
    simp [digits, List.isEmpty_iff.1 hnone]
  | case4 c rest hx digits hsome =>
    rw [hhash, exists_beyond_iff, ← decimal?_fails_iff]
    cases Text.decimal? digits <;> simp [bind, Except.bind, pure, Except.pure]
  | case5 t hform =>
    simp only [reduceCtorEq, exists_false, false_iff]
    rintro ⟨digits, hbeyond, rest, rfl⟩
    cases digits with
    | nil => exact not_beyond_nil hbeyond
    | cons c digits => exact hform c (digits ++ rest) rfl

theorem le_of_longestNamed (h : longestNamed t n = some (value, taken)) : taken ≤ n := by
  induction n using longestNamed.induct t with
  | case1 => simp [longestNamed] at h
  | case2 => simp [longestNamed] at h
  | case3 n found hbare =>
    simp only [longestNamed, hbare, Option.some.injEq, Prod.mk.injEq] at h
    omega
  | case4 n hbare ih =>
    simp only [longestNamed, hbare] at h
    have := ih h
    omega

theorem no_ampersand_closed (h : '&' ∉ t.take n) (hclosed : closedAt t n = true) : '&' ∉ t.take (n + 1) := by
  rw [closedAt, List.head?_drop, decide_eq_true_eq] at hclosed
  rw [List.take_add_one, hclosed]
  simpa using h

theorem no_ampersand_numeric {code : Nat} (h : '&' ∉ t.take n) : '&' ∉ t.take (numeric t n code).2 := by
  rw [numeric]
  split
  · next hclosed => exact no_ampersand_closed h hclosed
  · exact h

theorem no_ampersand_takeWhile {u : Text} {p : Char → Bool} (hu : u <+: t) (hp : p '&' = false) :
    '&' ∉ t.take (u.takeWhile p).length := by
  rw [← List.prefix_iff_eq_take.1 ((List.takeWhile_prefix p).trans hu)]
  intro hmem
  exact absurd (List.mem_takeWhile_imp hmem) (by simp [hp])

theorem no_ampersand_readNamed (h : readNamed t = some (value, taken)) : '&' ∉ t.take taken := by
  have hname : '&' ∉ t.take ((t.take nameLimit).takeWhile isNameChar).length :=
    no_ampersand_takeWhile (List.take_prefix _ _) (by decide)
  rw [readNamed] at h
  split at h
  · next found hwhole =>
    obtain rfl := Option.some.inj h
    split at hwhole
    · next hclosed =>
      obtain ⟨v, -, hpair⟩ := Option.map_eq_some_iff.1 hwhole
      obtain rfl : taken = _ := (congrArg Prod.snd hpair).symm
      exact no_ampersand_closed hname hclosed
    · cases hwhole
  · intro hmem
    exact hname ((List.take_prefix_take_left (le_of_longestNamed h)).subset hmem)

/-- What a reference takes has no ampersand in it, so that no other one begins there. -/
theorem no_ampersand_of_read (h : read t = .ok (some (value, taken))) : '&' ∉ t.take taken := by
  fun_cases read t with
  | case1 c rest hx digits hnone => simp [read, hx, digits, hnone] at h
  | case2 c rest hx digits hsome =>
    simp only [read, if_pos hx, if_neg hsome, digits, Except.ok.injEq, Option.some.injEq] at h
    obtain rfl : (numeric _ _ _).2 = taken := congrArg Prod.snd h
    have hc : '&' ≠ c := by
      rintro rfl
      simp at hx
    have hdigits : '&' ∉ rest.take digits.length := no_ampersand_takeWhile List.prefix_rfl (by decide)
    exact no_ampersand_numeric (by simpa [hc] using hdigits)
  | case3 c rest hx digits hnone => simp [read, hx, digits, hnone] at h
  | case4 c rest hx digits hsome =>
    simp only [read, if_neg hx, if_neg hsome, digits] at h
    cases hcode : Text.decimal? ((c :: rest).takeWhile Char.isDigit) with
    | error e => simp [hcode, bind, Except.bind] at h
    | ok code =>
      simp only [hcode, bind, Except.bind, pure, Except.pure, Except.ok.injEq, Option.some.injEq] at h
      obtain rfl : (numeric _ _ _).2 = taken := congrArg Prod.snd h
      have hdigits : '&' ∉ (c :: rest).take digits.length := no_ampersand_takeWhile List.prefix_rfl (by decide)
      exact no_ampersand_numeric (by simpa using hdigits)
  | case5 t hform =>
    rw [read.eq_2 t hform, Except.ok.injEq] at h
    exact no_ampersand_readNamed h

/-! ## All references of a text -/

theorem not_overlong_nil : ¬Overlong [] := by
  rintro ⟨digits, -, hinfix⟩
  simp at hinfix

theorem overlong_cons_of_ne {c : Char} (hc : c ≠ '&') : Overlong (c :: t) ↔ Overlong t := by
  have hfirst (digits : Text) : ¬('&' :: '#' :: digits) <+: c :: t := by
    rintro ⟨rest, heq⟩
    exact hc (List.cons.inj heq).1.symm
  simp only [Overlong, List.infix_cons_iff, hfirst, false_or]

theorem overlong_ampersand :
    Overlong ('&' :: t) ↔ (∃ digits, Beyond digits ∧ '#' :: digits <+: t) ∨ Overlong t := by
  simp only [Overlong, List.infix_cons_iff, List.prefix_cons_inj, and_or_left, exists_or]

/-- What is skipped does not count if it has no ampersand. -/
theorem overlong_drop (h : '&' ∉ t.take n) : Overlong (t.drop n) ↔ Overlong t := by
  induction n generalizing t with
  | zero => rfl
  | succ n ih =>
    cases t with
    | nil => rfl
    | cons c t =>
      rw [List.take_succ_cons, List.mem_cons, not_or] at h
      rw [List.drop_succ_cons, ih h.2, overlong_cons_of_ne (Ne.symm h.1)]

theorem map_fails_iff {ε α β : Type} {x : Except ε α} {f : α → β} :
    (∃ e, x.map f = .error e) ↔ ∃ e, x = .error e := by
  cases x <;> simp [Except.map]

theorem decode_cons_of_ne {c : Char} (hc : c ≠ '&') : decode (c :: t) = (decode t).map (c :: ·) := by
  rw [decode, if_neg hc]
  rfl

theorem decode_ampersand_none (h : read t = .ok none) : decode ('&' :: t) = (decode t).map ('&' :: ·) := by
  rw [decode, if_pos rfl, h]
  rfl

theorem decode_ampersand_some (h : read t = .ok (some (value, taken))) :
    decode ('&' :: t) = (decode (t.drop taken)).map (value ++ ·) := by
  rw [decode, if_pos rfl, h]
  rfl

theorem decode_ampersand_error {e : TooManyDigits} (h : read t = .error e) : decode ('&' :: t) = .error e := by
  rw [decode, if_pos rfl, h]
  rfl

theorem decode_fails_iff (t : Text) : (∃ e, decode t = .error e) ↔ Overlong t := by
  induction t using decode.induct with
  | case1 => simp [decode, not_overlong_nil]
  | case2 t ih ihdrop =>
    rw [overlong_ampersand, ← read_fails_iff]
    cases hread : read t with
    | error e => simp [decode_ampersand_error hread]
    | ok found =>
      simp only [reduceCtorEq, exists_false, false_or]
      cases found with
      | none => rw [decode_ampersand_none hread, map_fails_iff, ih]
      | some found =>
        -- the search goes on behind the reference, where all other ampersands are
        obtain ⟨value, taken⟩ := found
        rw [decode_ampersand_some hread, map_fails_iff, ihdrop, overlong_drop (no_ampersand_of_read hread)]
  | case3 c t hc ih ihdrop => rw [decode_cons_of_ne hc, map_fails_iff, ih, overlong_cons_of_ne hc]

end MudClient.CharacterReference

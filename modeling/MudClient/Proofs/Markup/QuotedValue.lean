import Mathlib.Order.Bounds.Basic
import MudClient.Proofs.Markup.Delimiter
import MudClient.Proofs.Markup.Segmentation

/-!
# Where a quoted value ends

* `Unescapes`: a text with a backslash before delimiters, and the text without
* `ClosingAt`: a delimiter that no backslash stands before, and what may follow a value after it
* `TagEndAt`: any delimiter with the end of a tag after it
* `closeQuoted_first`, `recoverQuoted_first`: both readers stop at the first place of their kind
* `readValueAt_quoted`: a quoted value ends at the first closing delimiter; if there is none, before the
  first end of a tag
-/

set_option autoImplicit false

namespace MudClient.Markup

variable {quote p c : Char} {t u input written value : Text} {start n d : Nat}

/-! ## Backslashes before delimiters -/

/-- Each backslash before a delimiter is taken out; `parts` is what stands between these pairs. -/
def Unescapes (quote : Char) (written value : Text) : Prop :=
  ∃ parts : List Text, (∀ part ∈ parts, ¬['\\', quote] <:+: part) ∧
    written = Text.join ['\\', quote] parts ∧ value = Text.join [quote] parts

theorem unescape_pair : unescape quote ('\\' :: quote :: t) = quote :: unescape quote t := by
  rw [unescape, if_pos ⟨rfl, rfl⟩]

theorem unescape_cons (h : ¬(c = '\\' ∧ t.head? = some quote)) :
    unescape quote (c :: t) = c :: unescape quote t := by
  cases t with
  | nil => rfl
  | cons d t => rw [unescape, if_neg fun e => h ⟨e.1, congrArg some e.2⟩]

theorem unescape_append (hfree : ¬['\\', quote] <:+: t) (hu : u.head? ≠ some quote) :
    unescape quote (t ++ u) = t ++ unescape quote u := by
  induction t with
  | nil => rfl
  | cons c t ih =>
    rw [List.infix_cons_iff, not_or] at hfree
    have hpair : ¬(c = '\\' ∧ (t ++ u).head? = some quote) := by
      rintro ⟨rfl, hhead⟩
      cases t with
      | nil => exact hu hhead
      | cons d t =>
        obtain rfl : d = quote := Option.some.inj hhead
        exact hfree.1 ⟨t, rfl⟩
    rw [List.cons_append, unescape_cons hpair, ih hfree.2, List.cons_append]

theorem unescape_of_unescapes (hq : quote ≠ '\\') (h : Unescapes quote written value) :
    unescape quote written = value := by
  obtain ⟨parts, hfree, rfl, rfl⟩ := h
  induction parts with
  | nil => rfl
  | cons part parts ih =>
    have hpart := hfree part List.mem_cons_self
    cases parts with
    | nil =>
      have hwhole := unescape_append (u := []) hpart nofun
      rwa [List.append_nil, unescape, List.append_nil] at hwhole
    | cons next parts =>
      have hmore := ih fun other hother => hfree other (List.mem_cons_of_mem part hother)
      have hhead : ('\\' :: quote :: Text.join ['\\', quote] (next :: parts)).head? ≠ some quote :=
        fun e => hq (Option.some.inj e).symm
      rw [Text.join, List.append_assoc, List.cons_append, List.singleton_append,
        unescape_append hpart hhead, unescape_pair, hmore, Text.join, List.append_assoc, List.singleton_append]

theorem exists_parts (hq : quote ≠ '\\') (written : Text) :
    ∃ part parts, (∀ other ∈ part :: parts, ¬['\\', quote] <:+: other) ∧
      written = Text.join ['\\', quote] (part :: parts) := by
  have hnil : ¬['\\', quote] <:+: [] := by simp
  fun_induction unescape quote written with
  | case1 => exact ⟨[], [], by simp, rfl⟩
  | case2 c => exact ⟨[c], [], by simp [List.infix_cons_iff], rfl⟩
  | case3 c d t h ih =>
    obtain ⟨rfl, rfl⟩ := h
    obtain ⟨part, parts, hfree, rfl⟩ := ih
    exact ⟨[], part :: parts, List.forall_mem_cons.2 ⟨hnil, hfree⟩, rfl⟩
  | case4 c d t h ih =>
    obtain ⟨part, parts, hfree, ht⟩ := ih
    rw [List.forall_mem_cons] at hfree
    have hjoin : Text.join ['\\', quote] ((c :: part) :: parts) = c :: d :: t := by
      rw [ht]
      cases parts <;> rfl
    refine ⟨c :: part, parts, List.forall_mem_cons.2 ⟨?_, hfree.2⟩, hjoin.symm⟩
    rw [List.infix_cons_iff]
    rintro (⟨more, hmore⟩ | hinfix)
    · obtain ⟨rfl, hpart⟩ := List.cons.inj hmore
      -- The part starts with the text behind it, hence with the second character of the pair.
      have hhead : d = quote := by
        rw [← hpart] at ht
        cases parts with
        | nil => exact (List.cons.inj ht).1
        | cons next parts => exact (List.cons.inj ht).1
      exact h ⟨rfl, hhead⟩
    · exact hfree.1 hinfix

theorem unescapes_iff (hq : quote ≠ '\\') : Unescapes quote written value ↔ unescape quote written = value := by
  refine ⟨unescape_of_unescapes hq, ?_⟩
  rintro rfl
  obtain ⟨part, parts, hfree, hwritten⟩ := exists_parts hq written
  have h : Unescapes quote written (Text.join [quote] (part :: parts)) := ⟨part :: parts, hfree, hwritten, rfl⟩
  rwa [unescape_of_unescapes hq h]

theorem getLast?_unescape (hq : quote ≠ '\\') (h : t.getLast? = some '\\') :
    (unescape quote t).getLast? = some '\\' := by
  fun_induction unescape quote t with
  | case1 => cases h
  | case2 c => exact h
  | case3 c d t _ ih =>
    cases t with
    | nil => exact absurd (Option.some.inj h) (by simp_all)
    | cons e t => rw [List.getLast?_cons, ih (by simpa using h), Option.getD_some]
  | case4 c d t _ ih => rw [List.getLast?_cons, ih (by simpa using h), Option.getD_some]

/-! ## Places of delimiters -/

/-- What may stand behind the delimiter that closes a value. -/
def MayFollow (t : Text) : Prop :=
  EndsTag t ∨ Text.allBlank t ∨ AnnouncesAttribute t

/-- A delimiter behind the start that closes the value: it is not the second half of an escape. -/
def ClosingAt (input : Text) (start : Nat) (quote : Char) (j : Nat) : Prop :=
  start < j ∧ input[j]? = some quote ∧ input[j - 1]? ≠ some '\\' ∧ MayFollow (input.drop (j + 1))

/-- A delimiter behind the start, escaped or not, that the end of a tag follows. -/
def TagEndAt (input : Text) (start : Nat) (quote : Char) (j : Nat) : Prop :=
  start < j ∧ input[j]? = some quote ∧ EndsTag (input.drop (j + 1))

/-- What is found belongs to the first place of its kind; without such a place nothing is found. -/
def First {α : Type} (place : Nat → Prop) (result : Nat → α) (found : Option α) : Prop :=
  (∃ j, IsLeast {j | place j} j ∧ found = some (result j)) ∨ ((∀ j, ¬place j) ∧ found = none)

theorem First.shift {α β : Type} {place place' : Nat → Prop} {result : Nat → α} {result' : Nat → β}
    {found : Option α} (h : First place result found) (f : α → β)
    (hplace : ∀ j, place' j ↔ ∃ k, j = k + d ∧ place k) (hf : ∀ k, place k → f (result k) = result' (k + d)) :
    First place' result' (found.map f) := by
  obtain ⟨k, hk, rfl⟩ | ⟨hno, rfl⟩ := h
  · refine .inl ⟨k + d, ⟨(hplace _).2 ⟨k, rfl, hk.1⟩, ?_⟩, congrArg some (hf k hk.1)⟩
    intro j hj
    obtain ⟨m, rfl, hm⟩ := (hplace j).1 hj
    exact Nat.add_le_add_right (hk.2 hm) d
  · refine .inr ⟨?_, rfl⟩
    intro j hj
    obtain ⟨m, -, hm⟩ := (hplace j).1 hj
    exact hno m hm

theorem closingAt_cons {j : Nat} : ClosingAt (p :: c :: t) 0 quote j ↔
    (j = 1 ∧ c = quote ∧ p ≠ '\\' ∧ MayFollow t) ∨ ∃ k, j = k + 1 ∧ ClosingAt (c :: t) 0 quote k := by
  obtain _ | _ | j := j <;> simp [ClosingAt]

theorem getElem?_singleton_ne {j : Nat} (hpos : 0 < j) : [p][j]? ≠ some quote := by
  obtain ⟨j, rfl⟩ := Nat.exists_eq_add_one.2 hpos
  exact nofun

/-- Behind an escaped delimiter the places are those behind the delimiter. -/
theorem closingAt_pair (hq : quote ≠ '\\') (j : Nat) : ClosingAt (p :: '\\' :: quote :: t) 0 quote j ↔
    ∃ k, j = k + 2 ∧ ClosingAt (quote :: t) 0 quote k := by
  rw [closingAt_cons]
  constructor
  · rintro (⟨-, hback, -⟩ | ⟨k, rfl, hk⟩)
    · exact absurd hback.symm hq
    · obtain ⟨-, -, hback, -⟩ | ⟨m, rfl, hm⟩ := closingAt_cons.1 hk
      · exact absurd rfl hback
      · exact ⟨m, rfl, hm⟩
  · rintro ⟨k, rfl, hk⟩
    exact .inr ⟨k + 1, rfl, closingAt_cons.2 (.inr ⟨k, rfl, hk⟩)⟩

theorem closingAt_other (h : ¬(c = quote ∧ closesValue t)) (j : Nat) :
    ClosingAt (p :: c :: t) 0 quote j ↔ ∃ k, j = k + 1 ∧ ClosingAt (c :: t) 0 quote k := by
  rw [closingAt_cons, or_iff_right]
  rintro ⟨-, hc, -, hafter⟩
  exact h ⟨hc, closesValue_iff.2 hafter⟩

theorem tagEndAt_cons {j : Nat} : TagEndAt (p :: c :: t) 0 quote j ↔
    (j = 1 ∧ c = quote ∧ EndsTag t) ∨ ∃ k, j = k + 1 ∧ TagEndAt (c :: t) 0 quote k := by
  obtain _ | _ | j := j <;> simp [TagEndAt]

theorem tagEndAt_other (h : ¬(c = quote ∧ endsTag t)) (j : Nat) :
    TagEndAt (p :: c :: t) 0 quote j ↔ ∃ k, j = k + 1 ∧ TagEndAt (c :: t) 0 quote k := by
  rw [tagEndAt_cons, or_iff_right]
  rintro ⟨-, hc, hafter⟩
  exact h ⟨hc, endsTag_iff.2 hafter⟩

/-- The places in a line are those in what is left of it at the start. -/
theorem place_drop (holds : Option Char → Option Char → Text → Prop) (input : Text) (start j : Nat) :
    start < j ∧ holds input[j]? input[j - 1]? (input.drop (j + 1)) ↔
      ∃ k, j = k + start ∧ 0 < k ∧ holds (input.drop start)[k]? (input.drop start)[k - 1]?
        ((input.drop start).drop (k + 1)) := by
  simp only [List.getElem?_drop, List.drop_drop]
  constructor
  · rintro ⟨hlt, hplace⟩
    obtain ⟨k, rfl⟩ := Nat.exists_eq_add_of_lt hlt
    exact ⟨k + 1, by omega, Nat.succ_pos k, hplace⟩
  · rintro ⟨k, rfl, hpos, hplace⟩
    obtain ⟨k, rfl⟩ := Nat.exists_eq_add_one.2 hpos
    rw [Nat.add_comm]
    exact ⟨by omega, hplace⟩

theorem closingAt_drop (quote : Char) (input : Text) (start j : Nat) : ClosingAt input start quote j ↔
    ∃ k, j = k + start ∧ ClosingAt (input.drop start) 0 quote k :=
  place_drop (fun here before after => here = some quote ∧ before ≠ some '\\' ∧ MayFollow after) input start j

theorem tagEndAt_drop (quote : Char) (input : Text) (start j : Nat) : TagEndAt input start quote j ↔
    ∃ k, j = k + start ∧ TagEndAt (input.drop start) 0 quote k :=
  place_drop (fun here _ after => here = some quote ∧ EndsTag after) input start j

/-! ## The first place -/

theorem take_pred {k : Nat} (hk : 0 < k) : (c :: t).take k = c :: t.take (k - 1) := by
  obtain ⟨k, rfl⟩ := Nat.exists_eq_add_one.2 hk
  rfl

theorem unescape_take_pair {k : Nat} (hk : 0 < k) :
    unescape quote (('\\' :: quote :: t).take (k + 1)) = quote :: unescape quote (t.take (k - 1)) := by
  rw [List.take_succ_cons, take_pred hk, unescape_pair]

theorem unescape_take_other {k : Nat} (hk : 0 < k) (h : ¬(c = '\\' ∧ t.head? = some quote)) :
    unescape quote ((c :: t).take k) = c :: unescape quote (t.take (k - 1)) := by
  have hother : ¬(c = '\\' ∧ (t.take (k - 1)).head? = some quote) := by
    rintro ⟨hback, hhead⟩
    obtain ⟨more, hmore⟩ := List.head?_eq_some_iff.1 hhead
    have hprefix : quote :: more <+: t := hmore ▸ List.take_prefix _ _
    obtain ⟨rest, rfl⟩ := hprefix
    exact h ⟨hback, rfl⟩
  rw [take_pred hk, unescape_cons hother]

theorem closeQuoted_first (hq : quote ≠ '\\') (hp : ¬(p = '\\' ∧ t.head? = some quote)) :
    First (ClosingAt (p :: t) 0 quote) (fun j => (unescape quote (t.take (j - 1)), t.drop j))
      (closeQuoted quote t) := by
  -- The character before the text that is left is the invariant: it escapes nothing.
  induction hlen : t.length using Nat.strong_induction_on generalizing p t with
  | _ length ih =>
    subst hlen
    cases t with
    | nil => exact .inr ⟨fun j hj => getElem?_singleton_ne hj.1 hj.2.1, rfl⟩
    | cons c t =>
      by_cases hpair : c = '\\' ∧ t.head? = some quote
      · obtain ⟨rfl, hhead⟩ := hpair
        obtain ⟨u, rfl⟩ := List.head?_eq_some_iff.1 hhead
        have hrest := ih u.length (by simp only [List.length_cons]; omega) (p := quote) (fun e => hq e.1) rfl
        rw [closeQuoted_escaped]
        refine hrest.shift _ (closingAt_pair hq) ?_
        intro k hk
        exact Prod.ext (unescape_take_pair hk.1).symm rfl
      · by_cases hclosing : c = quote ∧ closesValue t
        · obtain ⟨rfl, hafter⟩ := hclosing
          have hplace : ClosingAt (p :: c :: t) 0 c 1 :=
            closingAt_cons.2 (.inl ⟨rfl, rfl, fun e => hp ⟨e, rfl⟩, closesValue_iff.1 hafter⟩)
          exact .inl ⟨1, ⟨hplace, fun j hj => hj.1⟩, closeQuoted_closing hq hafter⟩
        · have hrest := ih t.length (by simp) (p := c) hpair rfl
          rw [closeQuoted_other hpair hclosing]
          refine hrest.shift _ (closingAt_other hclosing) ?_
          intro k hk
          exact Prod.ext (unescape_take_other hk.1 hpair).symm rfl

theorem recoverQuoted_first (p : Char) (t : Text) :
    First (TagEndAt (p :: t) 0 quote) (fun j => (t.take (j - 1), t.drop j)) (recoverQuoted quote t) := by
  induction t generalizing p with
  | nil => exact .inr ⟨fun j hj => getElem?_singleton_ne hj.1 hj.2.1, rfl⟩
  | cons c t ih =>
    rw [recoverQuoted]
    by_cases hend : c = quote ∧ endsTag t
    · obtain ⟨rfl, hafter⟩ := hend
      have hplace : TagEndAt (p :: c :: t) 0 c 1 := tagEndAt_cons.2 (.inl ⟨rfl, rfl, endsTag_iff.1 hafter⟩)
      rw [if_pos ⟨rfl, hafter⟩]
      exact .inl ⟨1, ⟨hplace, fun j hj => hj.1⟩, rfl⟩
    · rw [if_neg hend]
      refine (ih c).shift _ (tagEndAt_other hend) ?_
      intro k hk
      exact Prod.ext (take_pred hk.1).symm rfl

/-! ## By position -/

/-- What a reading says of a line, when it starts at some place in it. -/
def ValueReading.answer (reading : ValueReading) (input : Text) (start : Nat) :
    Option (Located Text) × List Notice :=
  (some (reading.located input start), reading.notices)

theorem readValueAt_eq (hline : input.drop start = quote :: t) (hquote : isQuote quote) :
    readValueAt input start =
      (((closeQuoted quote t).map fun p => (ValueReading.mk p.1 p.2 []).answer input start).or
        ((recoverValue quote t).map fun reading => reading.answer input start)).getD (none, []) := by
  rw [readValueAt, hline, readValue, if_pos hquote, readQuoted]
  cases closeQuoted quote t with
  | some p => rfl
  | none => cases recoverValue quote t <;> rfl

theorem located_eq {k : Nat} (hline : input.drop start = quote :: t) (hk : (quote :: t)[k]? = some quote)
    (notices : List Notice) :
    (ValueReading.mk value (t.drop k) notices).located input start = ⟨value, k + start + 1⟩ := by
  have hle : k ≤ t.length := Nat.le_of_lt_succ (List.getElem?_eq_some_iff.1 hk).1
  rw [ValueReading.located, hline, List.length_drop, List.length_cons]
  congr 1
  omega

theorem cut_body {k : Nat} (hline : input.drop start = quote :: t) :
    (Span.mk (start + 1) (k + start)).cut input = t.take (k - 1) := by
  have hbody : input.drop (start + 1) = t := by rw [← List.drop_drop, hline, List.drop_one, List.tail_cons]
  have hlength : k + start - (start + 1) = k - 1 := by omega
  rw [Span.cut, hbody, hlength]

theorem cut_whole {k : Nat} (hline : input.drop start = quote :: t) (hpos : 0 < k)
    (hk : (quote :: t)[k]? = some quote) :
    (Span.mk start (k + start + 1)).cut input = quote :: t.take (k - 1) ++ [quote] := by
  obtain ⟨k, rfl⟩ := Nat.exists_eq_add_one.2 hpos
  have hlength : k + 1 + start + 1 - start = k + 1 + 1 := by omega
  rw [List.getElem?_cons_succ] at hk
  rw [Span.cut, hline, hlength, List.take_succ_cons, List.take_add_one, hk]
  rfl

theorem closed_first (hline : input.drop start = quote :: t) (hq : quote ≠ '\\') :
    First (ClosingAt input start quote)
      (fun j => (some ⟨unescape quote ((Span.mk (start + 1) j).cut input), j + 1⟩, []))
      ((closeQuoted quote t).map fun p => (ValueReading.mk p.1 p.2 []).answer input start) := by
  have hplaces := closingAt_drop quote input start
  rw [hline] at hplaces
  refine (closeQuoted_first hq fun e => hq e.1).shift _ hplaces ?_
  intro k hk
  rw [ValueReading.answer, located_eq hline hk.2.1, cut_body hline]

theorem recovered_first (hline : input.drop start = quote :: t) :
    First (TagEndAt input start quote)
      (fun j => (some ⟨unescape quote ((Span.mk (start + 1) j).cut input), j + 1⟩,
        [.unbalancedQuotes ((Span.mk start (j + 1)).cut input)]))
      ((recoverValue quote t).map fun reading => reading.answer input start) := by
  have hplaces := tagEndAt_drop quote input start
  rw [hline] at hplaces
  rw [recoverValue, Option.map_map]
  refine (recoverQuoted_first quote t).shift _ hplaces ?_
  intro k hk
  rw [Function.comp_apply, ValueReading.answer, located_eq hline hk.2.1, cut_body hline,
    cut_whole hline hk.1 hk.2.1]

/-- A quoted value ends at the first closing delimiter. If there is none, it ends at the first delimiter with
the end of a tag behind it, which is reported; that one is escaped, so the value ends in its backslash. If
there is none of these either, there is no value. -/
theorem readValueAt_quoted (hstart : input[start]? = some quote) (hquote : isQuote quote) :
    (∃ j value, IsLeast {j | ClosingAt input start quote j} j ∧
      Unescapes quote ((Span.mk (start + 1) j).cut input) value ∧
      readValueAt input start = (some ⟨value, j + 1⟩, [])) ∨
    ((∀ j, ¬ClosingAt input start quote j) ∧
      ∃ j value, IsLeast {j | TagEndAt input start quote j} j ∧ input[j - 1]? = some '\\' ∧
        value.getLast? = some '\\' ∧ Unescapes quote ((Span.mk (start + 1) j).cut input) value ∧
        readValueAt input start = (some ⟨value, j + 1⟩, [.unbalancedQuotes ((Span.mk start (j + 1)).cut input)])) ∨
    ((∀ j, ¬ClosingAt input start quote j) ∧ (∀ j, ¬TagEndAt input start quote j) ∧
      readValueAt input start = (none, [])) := by
  obtain ⟨t, hline⟩ : ∃ t, input.drop start = quote :: t := by
    obtain ⟨hlt, hget⟩ := List.getElem?_eq_some_iff.1 hstart
    exact ⟨input.drop (start + 1), by rw [List.drop_eq_getElem_cons hlt, hget]⟩
  have hq : quote ≠ '\\' := by
    rintro rfl
    exact absurd hquote (by decide)
  have hread := readValueAt_eq hline hquote
  obtain ⟨j, hj, hfound⟩ | ⟨hnone, hfound⟩ := closed_first hline hq
  · rw [hfound] at hread
    exact .inl ⟨j, _, hj, (unescapes_iff hq).2 rfl, hread⟩
  rw [hfound, Option.none_or] at hread
  obtain ⟨j, hj, hfound⟩ | ⟨hnone', hfound⟩ := recovered_first hline
  · rw [hfound] at hread
    obtain ⟨hlt, hplace, hend⟩ := hj.1
    -- It would close the value if no backslash stood before it.
    have hback : input[j - 1]? = some '\\' := by
      by_contra hlive
      exact hnone j ⟨hlt, hplace, hlive, .inl hend⟩
    have hlast : ((Span.mk (start + 1) j).cut input).getLast? = some '\\' := by
      have hne : j - (start + 1) ≠ 0 := by
        intro hzero
        obtain rfl : j = start + 1 := by omega
        rw [Nat.add_sub_cancel, hstart] at hback
        exact hq (Option.some.inj hback)
      have hplace' : start + 1 + (j - (start + 1) - 1) = j - 1 := by omega
      rw [Span.cut, List.getLast?_take, if_neg hne, List.getElem?_drop, hplace', hback, Option.some_or]
    exact .inr (.inl ⟨hnone, j, _, hj, hback, getLast?_unescape hq hlast, (unescapes_iff hq).2 rfl, hread⟩)
  · rw [hfound] at hread
    exact .inr (.inr ⟨hnone, hnone', hread⟩)

/-- A title that holds the other quote, and whose last delimiter is escaped. -/
theorem readValueAt_quoted_title :
    let input : Text := "<a t='[\"x\"]\\'/>".toList
    input[5]? = some '\'' ∧ isQuote '\'' ∧
      ∃ j value, IsLeast {j | TagEndAt input 5 '\'' j} j ∧ value.getLast? = some '\\' ∧
        readValueAt input 5 = (some ⟨value, j + 1⟩, [.unbalancedQuotes ((Span.mk 5 (j + 1)).cut input)]) := by
  intro input
  have hstart : input[5]? = some '\'' := by decide
  have hnotices : (readValueAt input 5).2 ≠ [] := by decide
  refine ⟨hstart, by decide, ?_⟩
  obtain ⟨j, value, -, -, hread⟩ | ⟨-, j, value, hj, -, hlast, -, hread⟩ | ⟨-, -, hread⟩ :=
    readValueAt_quoted hstart (by decide)
  · exact absurd (congrArg Prod.snd hread) hnotices
  · exact ⟨j, value, hj, hlast, hread⟩
  · exact absurd (congrArg Prod.snd hread) hnotices

end MudClient.Markup

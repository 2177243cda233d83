import MudClient.Proofs.Reference.Mention

/-!
# Indexed forms within indexed forms

* `Balanced`: text in which every bracket that is opened is closed
* `segments_form`: a mention with a balanced index in brackets is one form
* `Nested`: digits, or a mention with such an expression as its index
* `Nested.eval?`: the element that an expression picks
* `expand_nested`: expressions are expanded to what they pick, however deep they are nested
-/

set_option autoImplicit false

namespace MudClient.Reference

open Pattern

variable {World : Type} {sigils : List Text} {V : Vocabulary} {m : Mention} {bracket : Bracket}
  {t u index : Text}

/-! ## Balanced text -/

/-- A text that the search for a closing bracket passes over. -/
def Balanced (t : Text) : Prop :=
  ∀ bracket depth rest, closing bracket depth (t ++ rest) =
    (closing bracket depth rest).map fun (index, after) => (t ++ index, after)

theorem balanced_of_noBracket (h : ∀ c ∈ t, c ∉ ['[', ']', '(', ')']) : Balanced t := by
  intro bracket depth rest
  induction t with
  | nil => simp
  | cons c t ih =>
    have hc := h c List.mem_cons_self
    have hopening : c ≠ bracket.opening := by
      rintro rfl
      exact hc (by cases bracket <;> decide)
    have hclosing : c ≠ bracket.closing := by
      rintro rfl
      exact hc (by cases bracket <;> decide)
    rw [List.cons_append, closing_other bracket depth c _ hopening hclosing,
      ih fun d hd => h d (List.mem_cons_of_mem c hd), Option.map_map]
    rfl

theorem balanced_append (ht : Balanced t) (hu : Balanced u) : Balanced (t ++ u) := by
  intro bracket depth rest
  rw [List.append_assoc, ht, hu, Option.map_map]
  simp [Function.comp_def]

theorem balanced_brackets (bracket : Bracket) (h : Balanced t) :
    Balanced (bracket.opening :: (t ++ [bracket.closing])) := by
  intro kind depth rest
  rw [List.cons_append, List.append_assoc, List.singleton_append]
  by_cases hk : bracket = kind
  · subst hk
    rw [closing_opening, h, closing_inner]
    simp [Function.comp_def]
  · have hopening : bracket.opening ≠ kind.opening ∧ bracket.opening ≠ kind.closing := by
      revert hk
      cases bracket <;> cases kind <;> decide
    have hclosing : bracket.closing ≠ kind.opening ∧ bracket.closing ≠ kind.closing := by
      revert hk
      cases bracket <;> cases kind <;> decide
    rw [closing_other kind depth _ _ hopening.1 hopening.2, h,
      closing_other kind depth _ _ hclosing.1 hclosing.2]
    simp [Function.comp_def]

theorem closing_balanced (h : Balanced t) : closing bracket 0 (t ++ [bracket.closing]) = some (t, []) := by
  rw [h, closing_outer]
  simp

/-! ## Forms of mentions -/

/-- A mention with an index in brackets. -/
def Mention.indexed (m : Mention) (bracket : Bracket) (index : Text) : Text :=
  m.written ++ bracket.opening :: (index ++ [bracket.closing])

theorem Mention.char_mem_indexed (m : Mention) (bracket : Bracket) (index : Text) :
    m.sign.char ∈ m.indexed bracket index := List.mem_cons_self

theorem segments_form (hm : Marks sigils) (hs : [m.sign.char] ∈ sigils) (h : Balanced index) :
    segments sigils (m.indexed bracket index) = [.indexed m.written bracket index] := by
  have hb : bracket? bracket.opening = some bracket := by cases bracket <;> rfl
  have hname : nameLength? sigils (m.name.reverse ++ [m.sign.char]) = some (m.name.length + 1) :=
    nameLength?_name hm hs m.nonempty m.isName
  have hreverse : m.written.reverse ++ [] = m.name.reverse ++ [m.sign.char] := by simp [Mention.written]
  have hlength : m.name.length + 1 = m.written.reverse.length := by simp [Mention.written]
  have hform : formAt sigils [] (m.written.reverse ++ []) bracket (index ++ [bracket.closing]) =
      some (m.written.reverse.length, index, []) := by
    rw [formAt, List.append_nil, hreverse, hname, ← hreverse, List.append_nil, hlength, closing_balanced h]
    simp
  rw [segments, Mention.indexed, segmentsFrom_noBracket m.noOpening, segmentsFrom_form hb hform, segmentsFrom,
    List.append_nil, List.drop_length, List.take_length, List.reverse_reverse]
  rfl

theorem gives_settle_mention (hm : m.sign ∈ V.signs) (n : Nat) :
    Gives (settle (lookups V.signs : Context World) (n + 1) m.written) (.ok m.value) := by
  have hrefers : (lookups V.signs : Context World).mayRefer m.written := mayRefer_lookups hm List.mem_cons_self
  rw [settle, hrefers]
  refine gives_bind (gives_cascade V.signs m.written) ?_
  rw [cascade_mention hm]
  split
  · exact gives_pure m.value
  · next hne =>
    rcases value_cases hm with hvalue | hfree
    · exact absurd hvalue hne
    · exact gives_settle_of_free hfree n

theorem gives_expandPart_mention (hm : m.sign ∈ V.signs) :
    Gives (expandPart (lookups V.signs : Context World) m.written) (.ok m.value) := by
  rw [expandPart, expandIndexed_of_noBracket m.noOpening]
  exact gives_bind (gives_pure _) (gives_settle_mention hm (roundLimit - 1))

/-- The name of a form becomes its value, and the index is expanded before an element is picked. -/
theorem gives_form {index' : Text} (hm : m.sign ∈ V.signs) (h : Balanced index)
    (hindex : Gives (expandPart (lookups V.signs : Context World) index) (.ok index')) :
    Gives (expandIndexed (lookups V.signs : Context World) (m.indexed bracket index))
      (indexedForm m.written m.value bracket index') := by
  have hsegments : segments (lookups V.signs : Context World).sigils (m.indexed bracket index) =
      [.indexed m.written bracket index] :=
    segments_form (sigilsOf_lookups V.signs).marks ((sigilsOf_lookups V.signs _).2 ⟨m.sign, hm, rfl⟩) h
  have hsingle (f : Segment → Expansion World Text) (s : Segment) :
      List.flatten <$> [s].mapM f = f s := by simp
  rw [expandIndexed_eq, hsegments, hsingle]
  exact gives_bind (gives_expandPart_mention hm) (gives_bind hindex (gives_liftExcept _))

/-! ## Nested expressions -/

/-- Digits, or the form of a mention with such an expression as its index. -/
inductive Nested (signs : List Sign)
  | digits (t : Text) (h : isIndex t)
  | form (m : Mention) (h : m.sign ∈ signs) (bracket : Bracket) (index : Nested signs)

namespace Nested

variable {signs : List Sign}

def written : Nested signs → Text
  | digits t _ => t
  | form m _ bracket index => m.indexed bracket index.written

/-- Digits stand for themselves. A form picks an element of the values of its name: the one at its index,
if that is a number that can be read and there are so many elements. -/
def eval? : Nested signs → Option Text
  | digits t _ => some t
  | form m _ _ index => do
    let values ← m.sign.lookup m.name
    let i ← index.eval?
    if isIndex i ∧ i.length ≤ Text.digitLimit then (Text.splitOn '|' values)[Text.numeral 10 i]? else none

end Nested

theorem noBracket_of_isIndex (h : isIndex t) : ∀ c ∈ t, c ∉ ['[', ']', '(', ')'] := by
  intro c hc hbracket
  simp only [isIndex, Bool.and_eq_true, List.all_eq_true] at h
  have hdigit := h.2 c hc
  simp only [List.mem_cons, List.not_mem_nil, or_false] at hbracket
  rcases hbracket with rfl | rfl | rfl | rfl <;> exact absurd hdigit (by decide)

theorem notMem_of_isIndex (h : isIndex t) (sign : Sign) : sign.char ∉ t := by
  intro hc
  simp only [isIndex, Bool.and_eq_true, List.all_eq_true] at h
  have hname : isNameChar sign.char = true := by simp [isNameChar, Char.isAlphanum, h.2 _ hc]
  rw [sign.isMark.not_name] at hname
  cases hname

theorem balanced_written (e : Nested V.signs) : Balanced e.written := by
  induction e with
  | digits t h => exact balanced_of_noBracket (noBracket_of_isIndex h)
  | form m h bracket index ih =>
    exact balanced_append (balanced_of_noBracket m.noBracket) (balanced_brackets bracket ih)

theorem eval?_form {hm : m.sign ∈ V.signs} {e : Nested V.signs}
    (h : (Nested.form m hm bracket e).eval? = some t) :
    ∃ values i, m.sign.lookup m.name = some values ∧ e.eval? = some i ∧ isIndex i ∧
      i.length ≤ Text.digitLimit ∧ (Text.splitOn '|' values)[Text.numeral 10 i]? = some t := by
  simp only [Nested.eval?, Option.bind_eq_bind, Option.bind_eq_some_iff] at h
  obtain ⟨values, hvalues, i, hi, h⟩ := h
  split at h
  · next hread => exact ⟨values, i, hvalues, hi, hread.1, hread.2, h⟩
  · cases h

theorem notMem_of_eval? {e : Nested V.signs} (h : e.eval? = some t) :
    ∀ sign ∈ V.signs, sign.char ∉ t := by
  intro sign hsign
  cases e with
  | digits d hd =>
    obtain rfl : d = t := by simpa [Nested.eval?] using h
    exact notMem_of_isIndex hd sign
  | form m hm bracket e =>
    obtain ⟨values, i, hvalues, -, -, -, ht⟩ := eval?_form h
    intro hc
    exact V.closed _ hm _ values hvalues sign hsign ((Text.sublist_of_mem_splitOn (List.mem_of_getElem? ht)).subset hc)

theorem value_of_lookup {v : Text} (h : m.sign.lookup m.name = some v) : m.value = v := by
  have hresolved : m.resolved? m.name = some v := by simp [Mention.resolved?, m.nonempty, h]
  rw [Mention.value, List.findSome?_cons, hresolved]
  rfl

theorem indexedForm_of_pick {written name i : Text} (hne : name ≠ written) (hi : isIndex i)
    (hlong : i.length ≤ Text.digitLimit) (ht : (Text.splitOn '|' name)[Text.numeral 10 i]? = some t) :
    indexedForm written name bracket i = .ok t := by
  have hpicked : element? name i = .ok (some t) := by
    simp [element?, hi, Text.decimal?, Nat.not_lt.2 hlong, ht]
  rw [indexedForm, if_neg hne, hpicked]
  rfl

/-- The index of a form is what it picks before the form itself picks an element. -/
theorem gives_nested (e : Nested V.signs) (h : e.eval? = some t) :
    Gives (expandIndexed (lookups V.signs : Context World) e.written) (.ok t) := by
  induction e generalizing t with
  | digits d hd =>
    obtain rfl : d = t := by simpa [Nested.eval?] using h
    have hopening : '[' ∉ d ∧ '(' ∉ d :=
      ⟨fun hc => noBracket_of_isIndex hd _ hc (by decide),
        fun hc => noBracket_of_isIndex hd _ hc (by decide)⟩
    rw [Nested.written, expandIndexed_of_noBracket hopening]
    exact gives_pure d
  | form m hm bracket e ih =>
    obtain ⟨values, i, hvalues, he, hi, hlong, ht⟩ := eval?_form h
    have hvalue : m.value = values := value_of_lookup hvalues
    -- A name that stayed the same would pick nothing, but the sign is gone from it.
    have hne : values ≠ m.written := by
      rintro rfl
      exact V.closed _ hm _ _ hvalues m.sign hm List.mem_cons_self
    have hindex : Gives (expandPart (lookups V.signs : Context World) e.written) (.ok i) :=
      gives_bind (ih he) (gives_settle_of_free (notMem_of_eval? he) roundLimit)
    have hform : Gives (expandIndexed (lookups V.signs : Context World) (m.indexed bracket e.written))
        (indexedForm m.written m.value bracket i) := gives_form hm (balanced_written e) hindex
    rwa [hvalue, indexedForm_of_pick hne hi hlong ht] at hform

theorem gives_expand_nested (e : Nested V.signs) (h : e.eval? = some t) :
    Gives (expand (lookups V.signs : Context World) e.written) (.ok t) := by
  have hfree := notMem_of_eval? h
  rw [expand]
  split
  · -- The picked element holds no sign, so the first round is the last one.
    refine gives_bind (gives_nested e h) (gives_bind (gives_cascade V.signs t) ?_)
    rw [cascade_of_free hfree, mayRefer_lookups_of_free hfree, if_pos (by simp)]
    exact gives_pure t
  · next hnone =>
    cases e with
    | digits d hd =>
      obtain rfl : d = t := by simpa [Nested.eval?] using h
      exact gives_pure d
    | form m hsign bracket e =>
      exact absurd (mayRefer_lookups hsign (m.char_mem_indexed bracket e.written)) hnone

/-- A nested expression is expanded to the element that it picks, whatever its depth and its brackets. -/
theorem expand_nested (V : Vocabulary) (e : Nested V.signs) (t : Text) (h : e.eval? = some t)
    (ledger : Ledger World) (hcache : ledger.cache.Faithful) :
    ((expand (lookups V.signs) e.written).run.run ledger).1 = .ok t := by
  obtain ⟨cache, -, hrun⟩ := gives_expand_nested e h ledger hcache
  rw [hrun]

/-- A mention of the ways, with the second step as its index. -/
def secondStep : Nested compass.signs :=
  .form ways List.mem_cons_self .square
    (.form places (List.mem_cons_of_mem _ List.mem_cons_self) .round (.digits ['0', '1'] (by decide)))

theorem expand_nested_secondStep :
    secondStep.written = "$way[@a.b(01)]".toList ∧ secondStep.eval? = some "n".toList ∧
      ((expand (lookups compass.signs) secondStep.written).run.run (⟨.empty, ()⟩ : Ledger Unit)).1 =
        .ok "n".toList :=
  ⟨by decide, by decide,
    expand_nested compass secondStep "n".toList (by decide) ⟨.empty, ()⟩ Cache.faithful_empty⟩

end MudClient.Reference

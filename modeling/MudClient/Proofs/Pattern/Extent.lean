import MudClient.Proofs.Pattern.Matching

/-!
# Where matches lie

* `Span.Fits`, `State.Fits`, `Match.Fits`: pieces that lie in a text
* `motion_fits`: every matcher leads from states that fit a text to states that fit it
* `fits_of_search`: a search that succeeds
* `Span.Before`, `order_allFrom`: all matches fit the text, and each lies before the next ones
-/

set_option autoImplicit false

namespace MudClient.Pattern

variable {t : Text} {count : Nat} {c d : Cursor} {s : State}

/-! ## Places -/

namespace Cursor

theorem text_of_next? {x : Char} (h : c.next? = some (x, d)) : d.text = c.text := by
  simp only [next?] at h
  split at h
  · simp at h
  · next y rest e =>
    obtain ⟨-, rfl⟩ := Prod.mk.inj (Option.some.inj h)
    simp [text, e]

theorem text_of_back? {n : Nat} (h : c.back? n = some d) : d.text = c.text := by
  induction n generalizing c with
  | zero => exact congrArg text (Option.some.inj h).symm
  | succ n ih =>
    simp only [back?] at h
    split at h
    · simp at h
    · next x rest e =>
      rw [ih h]
      simp [text, e]

theorem index_add_left (c : Cursor) : c.index + c.left = c.text.length := by
  rw [c.index_eq, c.left_eq, text, List.length_append, List.length_reverse]

theorem index_le (c : Cursor) : c.index ≤ c.text.length :=
  Nat.le.intro c.index_add_left

theorem index_le_index (htext : d.text = c.text) (hleft : d.left ≤ c.left) : c.index ≤ d.index := by
  have hc := c.index_add_left
  have hd := d.index_add_left
  rw [htext] at hd
  omega

theorem after_eq_drop (c : Cursor) : c.after = c.text.drop c.index := by
  rw [text, c.index_eq, ← List.length_reverse, List.drop_left]

end Cursor

/-! ## States -/

def Span.Fits (t : Text) (span : Span) : Prop :=
  span.start ≤ span.stop ∧ span.stop ≤ t.length

/-- The state is one of a match of this text by a pattern with so many groups. -/
structure State.Fits (t : Text) (count : Nat) (s : State) : Prop where
  text_eq : s.cursor.text = t
  length_groups : s.groups.length = count
  span_fits : ∀ span, some span ∈ s.groups → span.Fits t

theorem State.Fits.move (h : s.Fits t count) (hc : c.text = s.cursor.text) : { s with cursor := c }.Fits t count :=
  ⟨hc.trans h.text_eq, h.length_groups, h.span_fits⟩

theorem State.Fits.capture (h : s.Fits t count) {start : Nat} (hstart : start ≤ s.cursor.index) (number : Nat) :
    (s.capture number start).Fits t count := by
  refine ⟨h.text_eq, List.length_set.trans h.length_groups, fun span hspan => ?_⟩
  rcases List.mem_or_eq_of_mem_set hspan with hspan | hspan
  · exact h.span_fits span hspan
  · obtain rfl := Option.some.inj hspan
    exact ⟨hstart, h.text_eq ▸ s.cursor.index_le⟩

/-- From a state that fits a text a matcher comes to states that fit it, none of them at an earlier place. -/
theorem motion_fits (t : Text) (count : Nat) : State.Motion fun s s' =>
    s.Fits t count → s'.Fits t count ∧ s'.cursor.left ≤ s.cursor.left where
  refl _ h := ⟨h, Nat.le_refl _⟩
  trans _ _ _ h h' hs := ⟨(h' (h hs).1).1, Nat.le_trans (h' (h hs).1).2 (h hs).2⟩
  next s x c hc h := ⟨h.move (Cursor.text_of_next? hc), motion_left.next s x c hc⟩
  capture s s' number h hs := by
    obtain ⟨hfits, hleft⟩ := h hs
    have htext : s'.cursor.text = s.cursor.text := hfits.text_eq.trans hs.text_eq.symm
    exact ⟨hfits.capture (Cursor.index_le_index htext hleft) number, hleft⟩
  ahead _ _ h hs := ⟨⟨hs.text_eq, (h hs).1.length_groups, (h hs).1.span_fits⟩, Nat.le_refl _⟩
  behind s width c found hc h hs := by
    obtain ⟨hfits, -⟩ := h (hs.move (Cursor.text_of_back? hc))
    exact ⟨⟨hs.text_eq, hfits.length_groups, hfits.span_fits⟩, Nat.le_refl _⟩

/-! ## Matches -/

/-- The whole of a match and all groups that took part lie in the text. -/
structure Match.Fits (t : Text) (count : Nat) (m : Match) : Prop where
  whole : m.whole.Fits t
  length_groups : m.groups.length = count
  groups : ∀ span, some span ∈ m.groups → span.Fits t

theorem Match.Fits.span? {m : Match} (h : m.Fits t count) {number : Nat} {span : Span}
    (hspan : m.span? number = some span) : span.Fits t := by
  cases number with
  | zero => exact Option.some.inj hspan ▸ h.whole
  | succ n =>
    rw [Match.span?, Option.join_eq_some_iff] at hspan
    exact h.groups span (List.mem_of_getElem? hspan)

namespace Regex

variable {re : Regex} {advance : Bool}

theorem fits_initial (re : Regex) (c : Cursor) : (re.initial c).Fits c.text re.groupCount :=
  ⟨rfl, List.length_replicate, fun _ h => nomatch List.eq_of_mem_replicate h⟩

theorem fits_of_matchAt (h : re.matchAt advance c = some s) : s.Fits c.text re.groupCount := by
  obtain ⟨s', h1, h2⟩ := re.node.run_through (motion_fits c.text re.groupCount) _ _ _ h
  split at h1
  · cases h1
  · exact Option.some.inj h1 ▸ (h2 (re.fits_initial c)).1

theorem fits_of_search (h : re.search advance c = some (d, s)) :
    d.text = c.text ∧ s.Fits c.text re.groupCount := by
  fun_induction search re advance c with
  | case1 advance c s' hm =>
    obtain ⟨rfl, rfl⟩ := Prod.mk.inj (Option.some.inj h)
    exact ⟨rfl, fits_of_matchAt hm⟩
  | case2 => cases h
  | case3 advance c hm x d' hn hlt ih =>
    have htext := Cursor.text_of_next? hn
    exact htext ▸ ih h

/-- What a search finds fits the text and starts no earlier than the search; if it has to advance, the match ends
later than the place where the search starts. -/
theorem fits_matchOf (h : re.search advance c = some (d, s)) :
    (matchOf d s).Fits c.text re.groupCount ∧ c.index ≤ d.index ∧ (advance → c.index < s.cursor.index) := by
  obtain ⟨htext, hfits⟩ := fits_of_search h
  obtain ⟨hstop, hstart, hadvance⟩ := left_of_search h
  have hs : s.cursor.text = d.text := hfits.text_eq.trans htext.symm
  refine ⟨⟨⟨Cursor.index_le_index hs hstop, ?_⟩, hfits.length_groups, hfits.span_fits⟩,
    Cursor.index_le_index htext hstart, fun ha => ?_⟩
  · exact hfits.text_eq ▸ s.cursor.index_le
  · have hlt := hadvance ha
    have hc := c.index_add_left
    have hend := s.cursor.index_add_left
    rw [hfits.text_eq] at hend
    omega

end Regex

/-! ## The order of matches -/

/-- A piece ends where the other one starts or earlier, and they do not start and end at the same place. -/
def Span.Before (a b : Span) : Prop :=
  a.stop ≤ b.start ∧ a.start < b.stop

theorem Span.Before.ne {a b : Span} (h : a.Before b) : a ≠ b := by
  rintro rfl
  exact absurd h.2 (Nat.not_lt.2 h.1)

namespace Regex

/-- The matches from a place on: all of them fit the text, start there or later, and stand in order. If the first of
them has to advance, all of them end later than the place. -/
theorem order_allFrom (re : Regex) (advance : Bool) (c : Cursor) :
    (∀ m ∈ re.allFrom advance c, m.Fits c.text re.groupCount ∧ c.index ≤ m.whole.start ∧
      (advance → c.index < m.whole.stop)) ∧
    (re.allFrom advance c).Pairwise fun m m' => m.whole.Before m'.whole := by
  fun_induction allFrom re advance c with
  | case1 => exact ⟨nofun, .nil⟩
  | case2 advance c d s hsearch hlt ih =>
    obtain ⟨hfits, hstart, hadvance⟩ := fits_matchOf hsearch
    obtain ⟨hmore, hpairs⟩ := ih
    have htext : s.cursor.text = c.text := (fits_of_search hsearch).2.text_eq
    rw [htext] at hmore
    have hlater : ∀ m ∈ re.allFrom (s.cursor.left == d.left) s.cursor, s.cursor.index ≤ m.whole.stop :=
      fun m hm => Nat.le_trans (hmore m hm).2.1 (hmore m hm).1.whole.1
    have hstop : d.index ≤ s.cursor.index := hfits.whole.1
    refine ⟨List.forall_mem_cons.2 ⟨⟨hfits, hstart, hadvance⟩, fun m hm => ?_⟩,
      List.pairwise_cons.2 ⟨fun m hm => ⟨(hmore m hm).2.1, ?_⟩, hpairs⟩⟩
    · exact ⟨(hmore m hm).1, Nat.le_trans (Nat.le_trans hstart hstop) (hmore m hm).2.1,
        fun ha => Nat.lt_of_lt_of_le (hadvance ha) (hlater m hm)⟩
    · -- After an empty match the next one has to advance; any other match is left behind by its own length.
      by_cases hempty : s.cursor.left = d.left
      · exact Nat.lt_of_le_of_lt hstop ((hmore m hm).2.2 (beq_iff_eq.2 hempty))
      · have hd := d.index_add_left
        have hs := s.cursor.index_add_left
        rw [(fits_of_search hsearch).1] at hd
        rw [htext] at hs
        have hlt : d.index < s.cursor.index := by omega
        exact Nat.lt_of_lt_of_le hlt (hlater m hm)

end Regex

end MudClient.Pattern

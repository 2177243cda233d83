import MudClient.Pattern.Template
import MudClient.Proofs.Pattern.Extent
import MudClient.Proofs.Pattern.Reading

/-!
# What a pattern says of a text

* `gaps`: what matches leave of a text
* `rebuilt`: a text with something else in the place of each match
* `substitute_eq`: to replace all matches is to rebuild the text around them
* `replace_literal`, `replace_whole`: templates without backslashes, and the template for the whole match
* `views_agree`: the first match, all matches, whether there are any, and replacements tell the same
-/

set_option autoImplicit false

namespace MudClient.Pattern

variable {t u template : Text} {lo hi : Nat} {re : Regex}

/-! ## Gaps -/

/-- The text from a place on without the matches: what stands before each of them, and behind the last. -/
def gaps (t : Text) : Nat → List Match → List Text
  | lo, [] => [t.drop lo]
  | lo, m :: more => (t.drop lo).take (m.whole.start - lo) :: gaps t m.whole.stop more

/-- The text from a place on with a text in the place of each match. -/
def rebuilt (t : Text) (f : Match → Text) : Nat → List Match → Text
  | lo, [] => t.drop lo
  | lo, m :: more => (t.drop lo).take (m.whole.start - lo) ++ (f m ++ rebuilt t f m.whole.stop more)

theorem gaps_ne_nil (t : Text) (lo : Nat) (found : List Match) : gaps t lo found ≠ [] := by
  cases found <;> exact List.cons_ne_nil _ _

theorem join_cons {sep : Text} {parts : List Text} (h : parts ≠ []) (part : Text) :
    Text.join sep (part :: parts) = part ++ (sep ++ Text.join sep parts) := by
  obtain ⟨next, rest, rfl⟩ := List.exists_cons_of_ne_nil h
  rw [Text.join, List.append_assoc]

theorem rebuilt_const (t u : Text) (lo : Nat) (found : List Match) :
    rebuilt t (fun _ => u) lo found = Text.join u (gaps t lo found) := by
  induction found generalizing lo with
  | nil => rfl
  | cons m more ih => rw [rebuilt, gaps, join_cons (gaps_ne_nil t _ more), ih]

theorem take_append_drop_of_le (h : lo ≤ hi) (t : Text) : (t.drop lo).take (hi - lo) ++ t.drop hi = t.drop lo := by
  have hdrop : t.drop hi = (t.drop lo).drop (hi - lo) := by rw [List.drop_drop, Nat.add_sub_cancel' h]
  rw [hdrop, List.take_append_drop]

theorem rebuilt_whole {found : List Match}
    (hfits : ∀ m ∈ found, lo ≤ m.whole.start ∧ m.whole.start ≤ m.whole.stop)
    (horder : found.Pairwise fun m m' => m.whole.Before m'.whole) :
    rebuilt t (fun m => (m.text? t 0).getD []) lo found = t.drop lo := by
  induction found generalizing lo with
  | nil => rfl
  | cons m more ih =>
    obtain ⟨hfirst, hrest⟩ := List.pairwise_cons.1 horder
    obtain ⟨hstart, hstop⟩ := hfits m List.mem_cons_self
    have hmore := ih (fun m' hm' => ⟨(hfirst m' hm').1, (hfits m' (List.mem_cons_of_mem m hm')).2⟩) hrest
    rw [rebuilt, hmore]
    exact (congrArg _ (take_append_drop_of_le hstop t)).trans (take_append_drop_of_le hstart t)

/-! ## Replacing -/

namespace Regex

theorem substituteFrom_eq (re : Regex) (f : Match → Text) (advance : Bool) (c : Cursor) :
    re.substituteFrom f advance c = rebuilt c.text f c.index (re.allFrom advance c) := by
  fun_induction allFrom re advance c with
  | case1 advance c hnone =>
    rw [substituteFrom]
    split
    · exact c.after_eq_drop
    · next hsome => exact absurd (hnone.symm.trans hsome) (by simp)
  | case2 advance c d s hsearch hlt ih =>
    obtain ⟨htext, hfits⟩ := fits_of_search hsearch
    have hd := d.index_add_left
    have hc := c.index_add_left
    rw [htext] at hd
    have htake : c.left - d.left = d.index - c.index := by omega
    rw [substituteFrom]
    split
    · next hnone => exact absurd (hnone.symm.trans hsearch) (by simp)
    · next d' s' hsome =>
      obtain ⟨rfl, rfl⟩ := Prod.mk.inj (Option.some.inj (hsome.symm.trans hsearch))
      rw [ih, hfits.text_eq, c.after_eq_drop, htake]
      rfl

theorem substitute_eq (re : Regex) (f : Match → Text) (t : Text) : re.substitute f t = rebuilt t f 0 (re.all t) :=
  re.substituteFrom_eq f false (.start t)

theorem fits_all (re : Regex) (t : Text) : ∀ m ∈ re.all t, m.Fits t re.groupCount :=
  fun m hm => ((re.order_allFrom false (.start t)).1 m hm).1

theorem order_all (re : Regex) (t : Text) : (re.all t).Pairwise fun m m' => m.whole.Before m'.whole :=
  (re.order_allFrom false (.start t)).2

theorem substitute_whole (re : Regex) (t : Text) : re.substitute (fun m => (m.text? t 0).getD []) t = t := by
  rw [substitute_eq]
  exact rebuilt_whole (fun m hm => ⟨Nat.zero_le _, (re.fits_all t m hm).whole.1⟩) (re.order_all t)

end Regex

/-! ## Templates -/

theorem asTemplate_ok {α : Type} (a : α) : asTemplate (.ok a) = .ok a := rfl

theorem templateParts_literal (h : '\\' ∉ template) (index : Nat) :
    templateParts re ⟨index, template⟩ = .ok (template.map fun c => .literal [c]) := by
  induction template generalizing index with
  | nil =>
    rw [templateParts]
    rfl
  | cons c rest ih =>
    rw [List.mem_cons, not_or] at h
    have hrest : rest ≠ ['\\'] := by
      rintro rfl
      exact h.2 List.mem_cons_self
    obtain ⟨hlt, hpop⟩ := pop_plain (i := index) (Ne.symm h.1) hrest
    rw [templateParts, hpop]
    simp [asTemplate_ok, bind, Except.bind, pure, Except.pure, Source.itself, Source.Shorter.reach, ih h.2]

theorem readTemplate_literal (h : '\\' ∉ template) :
    readTemplate re template = .ok (template.map fun c => .literal [c]) := by
  have hne : template ≠ ['\\'] := by
    rintro rfl
    exact h List.mem_cons_self
  rw [readTemplate, Source.ofText, if_neg hne]
  exact templateParts_literal h 0

theorem namedPart_whole (re : Regex) (index : Nat) :
    ∃ h, namedPart re ⟨index, ['<', '0', '>']⟩ = .ok (.group 0, ⟨⟨index + 3, []⟩, h⟩) := by
  obtain ⟨hlt, hopen⟩ := pop_plain (i := index) (c := '<') (by decide) (show ['0', '>'] ≠ ['\\'] by decide)
  obtain ⟨hlt', hzero⟩ := pop_plain (i := index + 1) (c := '0') (by decide) (show ['>'] ≠ ['\\'] by decide)
  obtain ⟨_, hclose⟩ := pop_plain (i := index + 2) (c := '>') (by decide) (show ([] : Text) ≠ ['\\'] by decide)
  have hidentifier : Text.isIdentifier ['0'] = false := by decide +kernel
  have hinteger : Text.integer? ['0'] = some (.ofNat 0) := by decide +kernel
  have haccept : Source.accept ⟨index, ['<', '0', '>']⟩ '<' =
      .ok (some ⟨⟨index + 1, ['0', '>']⟩, hlt⟩) := by
    rw [Source.accept, nextIs_plain (by decide), hopen]
    rfl
  have hname : Source.nameUntil '>' "group name" ⟨index + 1, ['0', '>']⟩ [] =
      .ok (['0'], ⟨⟨index + 3, []⟩, Nat.zero_lt_succ 1⟩) := by
    rw [Source.nameUntil, hzero]
    simp only [bind, Except.bind]
    rw [Source.nameUntil, hclose]
    simp [bind, Except.bind, pure, Except.pure, Token.written, Source.Shorter.reach, Source.Shorter.within]
  refine ⟨Nat.zero_le _, ?_⟩
  simp [namedPart, asTemplate_ok, haccept, hname, hidentifier, hinteger, bind, Except.bind, pure, Except.pure,
    groupPart, Reading.groupBound, Source.Shorter.reach, Source.Shorter.within]

theorem readTemplate_whole (re : Regex) : readTemplate re "\\g<0>".toList = .ok [.group 0] := by
  obtain ⟨hlt, hpop⟩ := pop_escaped (i := 0) (c := 'g') (show ['<', '0', '>'] ≠ ['\\'] by decide)
  obtain ⟨hle, hname⟩ := namedPart_whole re 2
  have hsource : Source.ofText "\\g<0>".toList = .ok ⟨0, ['\\', 'g', '<', '0', '>']⟩ := rfl
  have hend : templateParts re ⟨5, []⟩ = .ok [] := by
    rw [templateParts]
    rfl
  rw [readTemplate, hsource]
  simp only [asTemplate_ok, bind, Except.bind]
  rw [templateParts, hpop]
  simp [asTemplate_ok, bind, Except.bind, pure, Except.pure, templateEscape, hname, Source.Shorter.reach, hend]

namespace Regex

theorem replace_literal (h : '\\' ∉ template) (t : Text) :
    re.replace template t = .ok (re.substitute (fun _ => template) t) := by
  have hexpand (m : Match) :
      (template.map fun c => TemplatePart.literal [c]).flatMap (TemplatePart.expand t m) = template := by
    rw [List.flatMap_map]
    exact List.flatMap_singleton' template
  rw [replace, readTemplate_literal h]
  simp only [bind, Except.bind, hexpand]
  rfl

theorem replace_whole (re : Regex) (t : Text) : re.replace "\\g<0>".toList t = .ok t := by
  have hexpand (m : Match) : [TemplatePart.group 0].flatMap (TemplatePart.expand t m) = (m.text? t 0).getD [] :=
    List.append_nil _
  rw [replace, readTemplate_whole]
  simp only [bind, Except.bind, hexpand, re.substitute_whole t]
  rfl

/-! ## All views -/

theorem first?_eq_head? (re : Regex) (t : Text) : re.first? t = (re.all t).head? := by
  rw [first?, all, allFrom_eq]
  cases re.search false (.start t) <;> rfl

theorem has_iff (re : Regex) (t : Text) : re.has t ↔ re.all t ≠ [] := by
  rw [has, all, allFrom_eq]
  cases re.search false (.start t) <;> simp

end Regex

theorem filterMap_span? (m : Match) : (List.range m.count).filterMap m.span? = m.spans.filterMap id := by
  have hspans : m.spans = (List.range m.count).map m.span? := by
    refine List.ext_getElem (by simp [Match.spans, Match.count]) fun i hi _ => ?_
    rw [List.getElem_map, List.getElem_range]
    cases i with
    | zero => rfl
    | succ n => exact (congrArg Option.join (List.getElem?_eq_getElem (Nat.lt_of_succ_lt_succ hi))).symm
  rw [hspans, List.filterMap_map]
  rfl

theorem text?_of_fits {m : Match} {number : Nat} {span : Span} (h : span.Fits t) (hspan : m.span? number = some span) :
    ∃ value, m.text? t number = some value ∧ value.length = span.stop - span.start ∧
      t = t.take span.start ++ (value ++ t.drop span.stop) := by
  refine ⟨(t.drop span.start).take (span.stop - span.start), by rw [Match.text?, hspan, Option.map_some], ?_, ?_⟩
  · have hle := h.2
    rw [List.length_take, List.length_drop]
    omega
  · rw [take_append_drop_of_le h.1, List.take_append_drop]

/-- Whatever the pattern and the text: all matches lie in the text and in order, no two of them in the same piece, and
the texts of their groups are what stands there. There is a match if there is one among all, the first match is the
first of all, and its pieces are those of its groups in order. To replace each match by itself changes nothing, and to
replace each by a text puts this text between the gaps. -/
theorem views_agree (re : Regex) (t : Text) :
    (∀ m ∈ re.all t, m.whole.start ≤ m.whole.stop ∧ m.whole.stop ≤ t.length) ∧
    ((re.all t).Pairwise fun m m' => m.whole.stop ≤ m'.whole.start) ∧
    ((re.all t).map Match.whole).Nodup ∧
    (∀ m ∈ re.all t, ∀ number span, m.span? number = some span →
      span.start ≤ span.stop ∧ span.stop ≤ t.length ∧
        ∃ value, m.text? t number = some value ∧ value.length = span.stop - span.start ∧
          t = t.take span.start ++ (value ++ t.drop span.stop)) ∧
    (re.has t ↔ re.all t ≠ []) ∧
    re.first? t = (re.all t).head? ∧
    (re.firstSpans t = match (re.all t).head? with
      | none => []
      | some m => (List.range m.count).filterMap m.span?) ∧
    re.replace "\\g<0>".toList t = .ok t ∧
    ∀ template, '\\' ∉ template → re.replace template t = .ok (Text.join template (gaps t 0 (re.all t))) := by
  have hfits := re.fits_all t
  have horder := re.order_all t
  refine ⟨fun m hm => (hfits m hm).whole, horder.imp fun h => h.1, ?_, ?_, re.has_iff t, re.first?_eq_head? t, ?_,
    re.replace_whole t, ?_⟩
  · exact List.pairwise_map.2 (horder.imp fun h => h.ne)
  · intro m hm number span hspan
    have hspanFits := (hfits m hm).span? hspan
    exact ⟨hspanFits.1, hspanFits.2, text?_of_fits hspanFits hspan⟩
  · rw [Regex.firstSpans, re.first?_eq_head?]
    cases (re.all t).head? with
    | none => rfl
    | some m => exact (filterMap_span? m).symm
  · intro template htemplate
    rw [Regex.replace_literal htemplate, Regex.substitute_eq, rebuilt_const]

/-- A pattern for one letter or nothing: a match that is not empty between two that are. -/
theorem views_agree_letterOrNothing :
    ∃ re, (∀ names, Regex.read names "b|".toList 0 = .ok re) ∧
      re.all "ab".toList = [⟨⟨0, 0⟩, []⟩, ⟨⟨1, 2⟩, []⟩, ⟨⟨2, 2⟩, []⟩] ∧
      '\\' ∉ "-".toList ∧ re.replace "-".toList "ab".toList = .ok "-a--".toList := by
  let re : Regex := ⟨.either (.char (only 'b')) .empty, 0, []⟩
  have hread (names : CharacterNames) : Regex.read names "b|".toList 0 = .ok re := by with_unfolding_all rfl
  have hall : re.all "ab".toList = [⟨⟨0, 0⟩, []⟩, ⟨⟨1, 2⟩, []⟩, ⟨⟨2, 2⟩, []⟩] := by
    have hfirst : re.search false (.between [] ['a', 'b']) =
        some (.between [] ['a', 'b'], ⟨.between [] ['a', 'b'], []⟩) := by
      rw [Regex.search_eq]
      rfl
    have hletter : re.search true (.between [] ['a', 'b']) =
        some (.between ['a'] ['b'], ⟨.between ['b', 'a'] [], []⟩) := by
      rw [Regex.search_eq]
      exact (Regex.search_eq re false (.between ['a'] ['b'])).trans rfl
    have hlast : re.search false (.between ['b', 'a'] []) =
        some (.between ['b', 'a'] [], ⟨.between ['b', 'a'] [], []⟩) := by
      rw [Regex.search_eq]
      rfl
    have hnone : re.search true (.between ['b', 'a'] []) = none := by
      rw [Regex.search_eq]
      rfl
    have hend : re.allFrom true (.between ['b', 'a'] []) = [] := by rw [Regex.allFrom_eq, hnone]
    have hrest : re.allFrom false (.between ['b', 'a'] []) = [⟨⟨2, 2⟩, []⟩] := by
      rw [Regex.allFrom_eq, hlast]
      exact congrArg _ hend
    have hmore : re.allFrom true (.between [] ['a', 'b']) = [⟨⟨1, 2⟩, []⟩, ⟨⟨2, 2⟩, []⟩] := by
      rw [Regex.allFrom_eq, hletter]
      exact congrArg _ hrest
    have hstart :
        re.allFrom false (.between [] ['a', 'b']) = [⟨⟨0, 0⟩, []⟩, ⟨⟨1, 2⟩, []⟩, ⟨⟨2, 2⟩, []⟩] := by
      rw [Regex.allFrom_eq, hfirst]
      exact congrArg _ hmore
    exact hstart
  have htemplate : '\\' ∉ "-".toList := by decide
  obtain ⟨-, -, -, -, -, -, -, -, hreplace⟩ := views_agree re "ab".toList
  refine ⟨re, hread, hall, htemplate, ?_⟩
  rw [hreplace "-".toList htemplate, hall]
  rfl

end MudClient.Pattern

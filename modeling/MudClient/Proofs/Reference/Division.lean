import Mathlib.Data.List.Chain
import Mathlib.Data.List.Induction
import MudClient.Proofs.Reference.Form

/-!
# The segments of a text

* `NameBefore`: a name that ends where a text ends
* `Matched`: text between a bracket and the one that closes it
* `NoForm`, `NoForms`, `Fits`: brackets that begin no index, and what a segment is in its place
* `Division`: a text divided into segments
* `nameLength?_of_nameBefore`, `closing_of_matched`: the name before a bracket and the one that closes it are found
* `segments_division`: the segments of a text divide it
-/

set_option autoImplicit false

namespace MudClient.Reference

variable {sigils : List Text} {bracket : Bracket} {c : Char} {depth n : Nat}
  {before backwards earlier plain t u v index rest sigil run : Text} {s : Segment} {l : List Segment}

/-! ## Names -/

/-- A name that ends where the text before it ends: a run of name characters, as long as can be, and the longest of
the sigils that end right before the run. -/
structure NameBefore (sigils : List Text) (before sigil run : Text) : Prop where
  mem : sigil ∈ sigils
  ends : sigil ++ run <:+ before
  longest : ∀ other ∈ sigils, other ++ run <:+ before → other.length ≤ sigil.length
  run_ne_nil : run ≠ []
  isName : ∀ c ∈ run, isNameChar c
  maximal : ∀ u, u <:+ before → (∀ c ∈ u, isNameChar c) → u.length ≤ run.length

theorem longestSigil_concat (sigils : List Text) (sigil backwards : Text) :
    longestSigil (sigils ++ [sigil]) backwards =
      if Text.leads sigil.reverse backwards && (longestSigil sigils backwards).all (·.length < sigil.length) then
        some sigil
      else longestSigil sigils backwards := by
  rw [longestSigil, List.foldl_append]
  rfl

theorem leads_of_longestSigil (h : longestSigil sigils backwards = some sigil) :
    sigil ∈ sigils ∧ sigil.reverse <+: backwards := by
  induction sigils using List.reverseRecOn with
  | nil => cases h
  | append_singleton sigils last ih =>
    rw [longestSigil_concat] at h
    split at h
    · next hlast =>
      obtain rfl : last = sigil := Option.some.inj h
      exact ⟨List.mem_concat_self, Text.leads_iff.1 (Bool.and_eq_true_iff.1 hlast).1⟩
    · exact ⟨List.mem_append_left _ (ih h).1, (ih h).2⟩

/-- No sigil at this place is longer than the one that is found. -/
theorem exists_longestSigil (hmem : sigil ∈ sigils) (hleads : sigil.reverse <+: backwards) :
    ∃ found, longestSigil sigils backwards = some found ∧ sigil.length ≤ found.length := by
  induction sigils using List.reverseRecOn with
  | nil => cases hmem
  | append_singleton sigils last ih =>
    rw [longestSigil_concat]
    rcases List.mem_append.1 hmem with hmem | hmem
    · obtain ⟨found, hfound, hle⟩ := ih hmem
      rw [hfound]
      split
      · next hlast =>
        have hlt : found.length < last.length := by simpa using (Bool.and_eq_true_iff.1 hlast).2
        exact ⟨last, rfl, by omega⟩
      · exact ⟨found, rfl, hle⟩
    · obtain rfl : sigil = last := List.mem_singleton.1 hmem
      rw [Text.leads_iff.2 hleads, Bool.true_and]
      cases longestSigil sigils backwards with
      | none => exact ⟨sigil, rfl, Nat.le_refl _⟩
      | some found =>
        rw [Option.all_some]
        split
        · exact ⟨sigil, rfl, Nat.le_refl _⟩
        · next hlt => exact ⟨found, rfl, by simpa using hlt⟩

theorem prefix_takeWhile {p : Char → Bool} (h : u <+: t) (hu : ∀ c ∈ u, p c) : u <+: t.takeWhile p := by
  obtain ⟨rest, rfl⟩ := h
  rw [List.takeWhile_append_of_pos hu]
  exact List.prefix_append u _

theorem nameBefore_of_nameLength? (h : nameLength? sigils backwards = some n) :
    ∃ sigil run, NameBefore sigils backwards.reverse sigil run ∧ (sigil ++ run).length = n := by
  have hboth : backwards.takeWhile isNameChar ++ backwards.dropWhile isNameChar = backwards :=
    List.takeWhile_append_dropWhile
  have hdrop : backwards.drop (backwards.takeWhile isNameChar).length = backwards.dropWhile isNameChar :=
    (congrArg (List.drop _) hboth).symm.trans List.drop_left
  have hends (other : Text) : other ++ (backwards.takeWhile isNameChar).reverse <:+ backwards.reverse ↔
      other.reverse <+: backwards.dropWhile isNameChar := by
    have hreverse : backwards.reverse =
        (backwards.dropWhile isNameChar).reverse ++ (backwards.takeWhile isNameChar).reverse := by
      rw [← List.reverse_append, hboth]
    rw [hreverse, List.suffix_append_self_iff, ← List.reverse_prefix, List.reverse_reverse]
  simp only [nameLength?, hdrop, List.isEmpty_iff] at h
  split at h
  · cases h
  · next hne =>
    obtain ⟨sigil, hsigil, rfl⟩ := Option.map_eq_some_iff.1 h
    obtain ⟨hmem, hleads⟩ := leads_of_longestSigil hsigil
    refine ⟨sigil, (backwards.takeWhile isNameChar).reverse, ⟨hmem, (hends sigil).2 hleads, ?_, ?_, ?_, ?_⟩, ?_⟩
    · intro other hother hsuffix
      obtain ⟨found, hfound, hle⟩ := exists_longestSigil hother ((hends other).1 hsuffix)
      rwa [Option.some.inj (hsigil.symm.trans hfound)]
    · simpa using hne
    · intro c hc
      exact List.all_eq_true.1 List.all_takeWhile c (List.mem_reverse.1 hc)
    · intro u hu hname
      have hleading : u.reverse <+: backwards.takeWhile isNameChar :=
        prefix_takeWhile (by rwa [← List.reverse_suffix, List.reverse_reverse])
          fun c hc => hname c (List.mem_reverse.1 hc)
      simpa using hleading.length_le
    · simp

theorem nameLength?_of_nameBefore (h : NameBefore sigils before sigil run) :
    nameLength? sigils before.reverse = some (sigil ++ run).length := by
  obtain ⟨lead, rfl⟩ := h.ends
  have hreverse : (lead ++ (sigil ++ run)).reverse = run.reverse ++ (sigil.reverse ++ lead.reverse) := by simp
  have hname : ∀ c ∈ run.reverse, isNameChar c := fun c hc => h.isName c (List.mem_reverse.1 hc)
  have htake : (lead ++ (sigil ++ run)).reverse.takeWhile isNameChar = run.reverse := by
    have hmore := h.maximal ((lead ++ (sigil ++ run)).reverse.takeWhile isNameChar).reverse
      (by rw [← List.reverse_prefix, List.reverse_reverse]; exact List.takeWhile_prefix _)
      (fun c hc => List.all_eq_true.1 List.all_takeWhile c (List.mem_reverse.1 hc))
    rw [hreverse, List.takeWhile_append_of_pos hname] at hmore ⊢
    have hnil : (sigil.reverse ++ lead.reverse).takeWhile isNameChar = [] := by
      refine List.eq_nil_of_length_eq_zero ?_
      simp only [List.length_reverse, List.length_append] at hmore
      omega
    rw [hnil, List.append_nil]
  have hends (other : Text) : other ++ run <:+ lead ++ (sigil ++ run) ↔
      other.reverse <+: sigil.reverse ++ lead.reverse := by
    rw [← List.append_assoc, List.suffix_append_self_iff, ← List.reverse_append, List.reverse_prefix]
  have hdrop : (lead ++ (sigil ++ run)).reverse.drop run.reverse.length = sigil.reverse ++ lead.reverse := by
    rw [hreverse, List.drop_left]
  have hsigil : longestSigil sigils (sigil.reverse ++ lead.reverse) = some sigil := by
    obtain ⟨found, hfound, hle⟩ := exists_longestSigil h.mem (List.prefix_append sigil.reverse lead.reverse)
    obtain ⟨hmem, hleads⟩ := leads_of_longestSigil hfound
    have hle' := h.longest found hmem ((hends found).2 hleads)
    have hleading : found.reverse <+: sigil.reverse :=
      List.prefix_of_prefix_length_le hleads (List.prefix_append _ _) (by simpa using hle')
    rw [hfound, List.reverse_inj.1 (hleading.eq_of_length (by simp; omega))]
  simp only [nameLength?, htake, hdrop, hsigil, List.isEmpty_reverse]
  simp [h.run_ne_nil]

/-! ## Brackets -/

/-- Text up to the bracket that closes an open one, while `depth` more of the kind are open: no beginning of it closes
brackets that are not open, and the whole closes all but the first. -/
structure Matched (bracket : Bracket) (depth : Nat) (index : Text) : Prop where
  beginnings : ∀ p, p <+: index → p.count bracket.closing ≤ p.count bracket.opening + depth
  whole : index.count bracket.closing = index.count bracket.opening + depth

theorem matched_cons {depth' : Nat}
    (h : depth' + (if c == bracket.closing then 1 else 0) = depth + if c == bracket.opening then 1 else 0) :
    Matched bracket depth (c :: index) ↔ Matched bracket depth' index := by
  constructor
  · rintro ⟨hbeginnings, hwhole⟩
    refine ⟨fun p hp => ?_, ?_⟩
    · have hle := hbeginnings (c :: p) (List.cons_prefix_cons.2 ⟨rfl, hp⟩)
      rw [List.count_cons, List.count_cons] at hle
      omega
    · rw [List.count_cons, List.count_cons] at hwhole
      omega
  · rintro ⟨hbeginnings, hwhole⟩
    refine ⟨fun p hp => ?_, ?_⟩
    · rcases List.prefix_cons_iff.1 hp with rfl | ⟨q, rfl, hq⟩
      · simp
      · have hle := hbeginnings q hq
        rw [List.count_cons, List.count_cons]
        omega
    · rw [List.count_cons, List.count_cons]
      omega

theorem matched_opening : Matched bracket depth (bracket.opening :: index) ↔ Matched bracket (depth + 1) index :=
  matched_cons (by cases bracket <;> rfl)

theorem matched_closing : Matched bracket (depth + 1) (bracket.closing :: index) ↔ Matched bracket depth index :=
  matched_cons (by cases bracket <;> rfl)

theorem matched_other (hopening : c ≠ bracket.opening) (hclosing : c ≠ bracket.closing) :
    Matched bracket depth (c :: index) ↔ Matched bracket depth index :=
  matched_cons (by simp [hopening, hclosing])

theorem matched_nil : Matched bracket 0 [] := ⟨by simp, rfl⟩

theorem not_matched_closing : ¬Matched bracket 0 (bracket.closing :: index) := by
  intro h
  have hle := h.beginnings [bracket.closing] (List.prefix_append [bracket.closing] index)
  revert hle
  cases bracket <;> decide

theorem matched_of_closing (h : closing bracket depth t = some (index, rest)) : Matched bracket depth index := by
  induction t generalizing depth index with
  | nil => cases h
  | cons c t ih =>
    have step {depth' : Nat} (hcons : ∀ inner, Matched bracket depth (c :: inner) ↔ Matched bracket depth' inner)
        (h : (closing bracket depth' t).map (fun p => (c :: p.1, p.2)) = some (index, rest)) :
        Matched bracket depth index := by
      obtain ⟨⟨inner, after⟩, hinner, he⟩ := Option.map_eq_some_iff.1 h
      obtain ⟨rfl, rfl⟩ : c :: inner = index ∧ after = rest := by simpa using he
      exact (hcons inner).2 (ih hinner)
    by_cases hopening : c = bracket.opening
    · subst hopening
      rw [closing_opening] at h
      exact step (fun _ => matched_opening) h
    by_cases hclosing : c = bracket.closing
    · subst hclosing
      cases depth with
      | zero =>
        rw [closing_outer] at h
        obtain ⟨rfl, -⟩ : [] = index ∧ t = rest := by simpa using h
        exact matched_nil
      | succ depth =>
        rw [closing_inner] at h
        exact step (fun _ => matched_closing) h
    · rw [closing_other bracket depth c t hopening hclosing] at h
      exact step (fun _ => matched_other hopening hclosing) h

theorem closing_of_matched (h : Matched bracket depth index) (rest : Text) :
    closing bracket depth (index ++ bracket.closing :: rest) = some (index, rest) := by
  induction index generalizing depth with
  | nil =>
    obtain rfl : depth = 0 := by simpa using h.whole.symm
    exact closing_outer bracket rest
  | cons c index ih =>
    rw [List.cons_append]
    by_cases hopening : c = bracket.opening
    · subst hopening
      rw [closing_opening, ih (matched_opening.1 h)]
      rfl
    by_cases hclosing : c = bracket.closing
    · subst hclosing
      cases depth with
      | zero => exact absurd h not_matched_closing
      | succ depth =>
        rw [closing_inner, ih (matched_closing.1 h)]
        rfl
    · rw [closing_other bracket depth c _ hopening hclosing, ih ((matched_other hopening hclosing).1 h)]
      rfl

/-! ## Segments -/

/-- A bracket behind a run of plain text that begins no index: if a name ends there, then it begins before the run, or
the bracket is never closed. -/
def NoForm (sigils : List Text) (before plain : Text) (bracket : Bracket) (rest : Text) : Prop :=
  ∀ sigil run, NameBefore sigils (before ++ plain) sigil run →
    plain.length < (sigil ++ run).length ∨
      ∀ index after, rest = index ++ bracket.closing :: after → ¬Matched bracket 0 index

/-- No bracket in a run of plain text begins an index. -/
def NoForms (sigils : List Text) (before content after : Text) : Prop :=
  ∀ u bracket v, content = u ++ bracket.opening :: v → NoForm sigils before u bracket (v ++ after)

/-- What a segment is between the text before and the text behind it. -/
def Fits (sigils : List Text) (before after : Text) : Segment → Prop
  | .plain content => content ≠ [] ∧ NoForms sigils before content after
  | .indexed name bracket index =>
      (∃ sigil run, name = sigil ++ run ∧ NameBefore sigils (before ++ name) sigil run) ∧
        Matched bracket 0 index

/-- A text divided into segments, of which no two next to each other are plain. -/
structure Division (sigils : List Text) (t : Text) (l : List Segment) : Prop where
  source : l.flatMap Segment.source = t
  apart : l.IsChain fun s s' => s.isIndexed ∨ s'.isIndexed
  fits : ∀ front s back, l = front ++ s :: back →
    Fits sigils (front.flatMap Segment.source) (back.flatMap Segment.source) s

theorem noForm_of_formAt (h : formAt sigils earlier plain bracket rest = none) :
    NoForm sigils earlier.reverse plain.reverse bracket rest := by
  intro sigil run hname
  have hlength := nameLength?_of_nameBefore hname
  rw [← List.reverse_append, List.reverse_reverse] at hlength
  simp only [formAt, hlength] at h
  rw [List.length_reverse]
  split at h
  · refine .inr fun index after hrest hmatched => ?_
    rw [hrest, closing_of_matched hmatched] at h
    cases h
  · exact .inl (by omega)

theorem fits_of_formAt {after : Text} (h : formAt sigils earlier plain bracket rest = some (n, index, after)) :
    Fits sigils (earlier.reverse ++ (plain.drop n).reverse) after
      (.indexed (plain.take n).reverse bracket index) := by
  simp only [formAt] at h
  split at h
  · cases h
  · next m hm =>
    split at h
    · next hle =>
      obtain ⟨⟨index', after'⟩, hclosing, he⟩ := Option.map_eq_some_iff.1 h
      obtain ⟨rfl, rfl, rfl⟩ : m = n ∧ index' = index ∧ after' = after := by simpa using he
      obtain ⟨sigil, run, hname, hlength⟩ := nameBefore_of_nameLength? hm
      have hboth : earlier.reverse ++ (plain.drop m).reverse ++ (plain.take m).reverse =
          (plain ++ earlier).reverse := by
        rw [List.append_assoc, ← List.reverse_append, List.take_append_drop, List.reverse_append]
      have htaken : (plain.take m).reverse = sigil ++ run := by
        have hsuffix : (plain.take m).reverse <:+ (plain ++ earlier).reverse := hboth ▸ List.suffix_append _ _
        refine (List.suffix_of_suffix_length_le hsuffix hname.ends ?_).eq_of_length ?_
        · simp only [List.length_reverse, List.length_take]
          omega
        · simp only [List.length_reverse, List.length_take]
          omega
      exact ⟨⟨sigil, run, htaken, hboth ▸ hname⟩, matched_of_closing hclosing⟩
    · cases h

/-- Each of the segments behind a text fits in its place. -/
def FitAll (sigils : List Text) (before : Text) (l : List Segment) : Prop :=
  ∀ front s back, l = front ++ s :: back →
    Fits sigils (before ++ front.flatMap Segment.source) (back.flatMap Segment.source) s

theorem fitAll_cons (hs : Fits sigils before (l.flatMap Segment.source) s)
    (hl : FitAll sigils (before ++ s.source) l) : FitAll sigils before (s :: l) := by
  intro front s' back h
  rcases List.cons_eq_append_iff.1 h with ⟨rfl, hcons⟩ | ⟨front', rfl, hl'⟩
  · obtain ⟨rfl, rfl⟩ := List.cons.inj hcons
    simpa using hs
  · have hfits := hl front' s' back hl'
    rwa [List.append_assoc] at hfits

theorem fitAll_plainRun (hplain : NoForms sigils before plain.reverse (l.flatMap Segment.source))
    (hl : FitAll sigils (before ++ plain.reverse) l) : FitAll sigils before (plainRun plain ++ l) := by
  rw [plainRun]
  split
  · next h =>
    rw [List.isEmpty_iff.1 h] at hl
    simpa using hl
  · next h => exact fitAll_cons ⟨by simpa using h, hplain⟩ hl

/-- One more character of plain text, which begins no index if it is a bracket. -/
theorem noForms_cons (hplain : NoForms sigils before plain.reverse (c :: rest))
    (hc : ∀ bracket, bracket? c = some bracket → NoForm sigils before plain.reverse bracket rest) :
    NoForms sigils before (c :: plain).reverse rest := by
  intro u bracket v h
  rw [List.reverse_cons] at h
  rcases List.eq_nil_or_concat' v with rfl | ⟨v, d, rfl⟩
  · obtain ⟨rfl, he⟩ := List.append_inj' h rfl
    obtain rfl : c = bracket.opening := by simpa using he
    exact hc bracket (by cases bracket <;> rfl)
  · rw [← List.cons_append, ← List.append_assoc] at h
    obtain ⟨hrun, he⟩ := List.append_inj' h rfl
    obtain rfl : c = d := by simpa using he
    rw [List.append_assoc]
    exact hplain u bracket v hrun

theorem noForms_nil (sigils : List Text) (before after : Text) : NoForms sigils before [] after := by
  intro u bracket v h
  simp at h

theorem fitAll_segmentsFrom (hplain : NoForms sigils earlier.reverse plain.reverse t) :
    FitAll sigils earlier.reverse (segmentsFrom sigils earlier plain t) := by
  -- Plain text is judged with all that follows it, so what is known of it stays true as the scan goes on.
  fun_induction segmentsFrom sigils earlier plain t with
  | case1 earlier plain =>
    have hnone : FitAll sigils (earlier.reverse ++ plain.reverse) [] := by
      intro front s back h
      simp at h
    have hrun := fitAll_plainRun hplain hnone
    rwa [List.append_nil] at hrun
  | case2 earlier plain c rest hb ih => exact ih (noForms_cons hplain (by simp [hb]))
  | case3 earlier plain c rest bracket hb hf ih =>
    refine ih (noForms_cons hplain fun bracket' hb' => ?_)
    obtain rfl : bracket = bracket' := Option.some.inj (hb.symm.trans hb')
    exact noForm_of_formAt hf
  | case4 earlier plain c rest bracket hb n index after hf hlt ih =>
    have hrest := (length_of_formAt hf).2
    have hboth : plain.reverse = (plain.drop n).reverse ++ (plain.take n).reverse := by
      rw [← List.reverse_append, List.take_append_drop]
    have hafter : (segmentsFrom sigils (bracket.closing :: index.reverse ++ c :: plain ++ earlier) [] after).flatMap
        Segment.source = after := segmentsFrom_source _ _ _ _
    refine fitAll_plainRun (fun u bracket' v hrun => ?_) (fitAll_cons ?_ ?_)
    · -- The name goes over from the plain text to the form, and the text behind a bracket is the same as before.
      have hno := hplain u bracket' (v ++ (plain.take n).reverse) (by rw [hboth, hrun]; simp)
      rw [List.flatMap_cons, hafter, Segment.source, opening_of_bracket? hb]
      rw [hrest] at hno
      simpa using hno
    · rw [hafter]
      exact fits_of_formAt hf
    · have hnext := ih (noForms_nil _ _ _)
      have hbefore : (bracket.closing :: index.reverse ++ c :: plain ++ earlier).reverse =
          earlier.reverse ++ (plain.drop n).reverse ++
            (Segment.indexed (plain.take n).reverse bracket index).source := by
        rw [Segment.source, opening_of_bracket? hb]
        simp [hboth]
      rwa [hbefore] at hnext

theorem apart_segmentsFrom (sigils : List Text) (earlier plain t : Text) :
    (segmentsFrom sigils earlier plain t).IsChain fun s s' => s.isIndexed ∨ s'.isIndexed := by
  have hrun (plain : Text) : (plainRun plain).IsChain fun s s' => s.isIndexed ∨ s'.isIndexed := by
    rw [plainRun]
    split
    · exact .nil
    · exact .singleton _
  fun_induction segmentsFrom sigils earlier plain t with
  | case1 earlier plain => exact hrun plain
  | case2 earlier plain c rest hb ih => exact ih
  | case3 earlier plain c rest bracket hb hf ih => exact ih
  | case4 earlier plain c rest bracket hb n index after hf hlt ih =>
    refine List.isChain_append.2 ⟨hrun _, List.isChain_cons.2 ⟨fun _ _ => .inl rfl, ih⟩, ?_⟩
    intro s _ s' hs'
    cases hs'
    exact .inr rfl

theorem fitAll_segments (sigils : List Text) (t : Text) : FitAll sigils [] (segments sigils t) := by
  show FitAll sigils ([] : Text).reverse (segmentsFrom sigils [] [] t)
  exact fitAll_segmentsFrom (noForms_nil sigils [] t)

/-- A text with a form holds a sigil. -/
theorem exists_occursIn_of_isIndexed (h : s ∈ segments sigils t) (hs : s.isIndexed) :
    ∃ sigil ∈ sigils, sigil.occursIn t := by
  obtain ⟨front, back, hl⟩ := List.append_of_mem h
  have hfits := fitAll_segments sigils t front s back hl
  cases s with
  | plain content => cases hs
  | indexed name bracket index =>
    obtain ⟨⟨sigil, run, rfl, hname⟩, -⟩ := hfits
    refine ⟨sigil, hname.mem, Text.occursIn_iff.2 ⟨front.flatMap Segment.source,
      run ++ bracket.opening :: index ++ [bracket.closing] ++ back.flatMap Segment.source, ?_⟩⟩
    rw [← segments_source sigils t, hl]
    simp [Segment.source]

/-- The segments of a text divide it: nothing is lost, each name is the longest sigil before a whole run of name
characters, each index reaches to the bracket that closes, and every bracket in plain text begins no index. -/
theorem segments_division (sigils : List Text) (t : Text) : Division sigils t (segments sigils t) where
  source := segments_source sigils t
  apart := apart_segmentsFrom sigils [] [] t
  fits := fitAll_segments sigils t

end MudClient.Reference

import MudClient.Proofs.Reference.Mention

/-!
# Mentions side by side

* `Gaps`: texts that stand behind mentions and keep them apart
* `Line`: a text with mentions that are kept apart, none of which has an index
* `cascade_joined`: the cascade works on each mention by itself
* `segmentsFrom_joined`: no forms come up between the mentions or their values
* `expand_line`: every mention is replaced by its value at once, whatever the order of the settings
-/

set_option autoImplicit false

namespace MudClient.Reference

open Pattern

variable {World α : Type} {V : Vocabulary} {signs order : List Sign} {sign : Sign} {sigils : List Text}
  {k : NameClass} {parts : List (α × Text)} {f : α → Text} {earlier plain p t : Text}

/-- Texts behind mentions: without signs and opening brackets, none of them goes on with a name, and only the
last one may be empty. -/
structure Gaps (signs : List Sign) (gaps : List Text) : Prop where
  free : ∀ g ∈ gaps, ∀ sign ∈ signs, sign.char ∉ g
  noOpening : ∀ g ∈ gaps, '[' ∉ g ∧ '(' ∉ g
  noName : ∀ g ∈ gaps, ∀ c ∈ g.head?, isNameChar c = false
  apart : gaps.Pairwise fun g _ => g ≠ []

theorem Gaps.tail {g : Text} {gaps : List Text} (h : Gaps signs (g :: gaps)) : Gaps signs gaps where
  free g' hg := h.free g' (List.mem_cons_of_mem g hg)
  noOpening g' hg := h.noOpening g' (List.mem_cons_of_mem g hg)
  noName g' hg := h.noName g' (List.mem_cons_of_mem g hg)
  apart := (List.pairwise_cons.1 h.apart).2

/-- Texts with the gaps behind them. -/
def joined (f : α → Text) (parts : List (α × Text)) : Text :=
  parts.flatMap fun part => f part.1 ++ part.2

theorem joined_cons (f : α → Text) (a : α) (g : Text) (parts : List (α × Text)) :
    joined f ((a, g) :: parts) = f a ++ (g ++ joined f parts) := by
  simp [joined]

/-! ## The cascade -/

theorem noName_joined {a : α} {g : Text} (h : Gaps signs (((a, g) :: parts).map Prod.snd)) :
    ∀ c ∈ (g ++ joined f parts).head?, isNameChar c = false := by
  intro c hc
  cases g with
  | cons d g => exact h.noName (d :: g) List.mem_cons_self c hc
  | nil =>
    cases parts with
    | nil => cases hc
    | cons part parts => exact absurd rfl ((List.pairwise_cons.1 h.apart).1 part.2 List.mem_cons_self)

theorem passed_joined (hs : sign ∈ signs) (h : Gaps signs (parts.map Prod.snd)) (f : α → Text)
    (k : NameClass) :
    sign.passed (joined f parts) k = joined (fun a => sign.passed (f a) k) parts := by
  induction parts with
  | nil => exact Sign.passed_of_notMem List.not_mem_nil
  | cons part parts ih =>
    obtain ⟨a, g⟩ := part
    have hg : sign.char ∉ g := h.free g List.mem_cons_self sign hs
    rw [joined_cons, joined_cons, Sign.passed_append (noName_joined h), Sign.passed_lead hg, ih h.tail]

theorem foldl_passed_joined (hs : sign ∈ signs) (h : Gaps signs (parts.map Prod.snd)) (f : α → Text)
    (classes : List NameClass) :
    classes.foldl sign.passed (joined f parts) = joined (fun a => classes.foldl sign.passed (f a)) parts := by
  induction classes generalizing f with
  | nil => rfl
  | cons k classes ih => rw [List.foldl_cons, passed_joined hs h, ih]; rfl

theorem foldl_passed_lead (hp : sign.char ∉ p) (classes : List NameClass) :
    classes.foldl sign.passed (p ++ t) = p ++ classes.foldl sign.passed t := by
  induction classes generalizing t with
  | nil => rfl
  | cons k classes ih => rw [List.foldl_cons, List.foldl_cons, Sign.passed_lead hp, ih]

/-- The cascade works on each mention by itself. -/
theorem cascade_joined (h : Gaps signs (parts.map Prod.snd)) (hp : ∀ sign ∈ signs, sign.char ∉ p)
    (f : α → Text) :
    cascade signs (p ++ joined f parts) = p ++ joined (fun a => cascade signs (f a)) parts := by
  suffices hsub : ∀ l, (∀ sign ∈ l, sign ∈ signs) →
      cascade l (p ++ joined f parts) = p ++ joined (fun a => cascade l (f a)) parts from
    hsub signs fun _ hs => hs
  intro l hl
  induction l generalizing f with
  | nil => rfl
  | cons sign l ih =>
    have hs := hl sign List.mem_cons_self
    rw [cascade, List.foldl_cons, Sign.cascade, foldl_passed_lead (hp sign hs), foldl_passed_joined hs h]
    exact ih _ fun s hs => hl s (List.mem_cons_of_mem _ hs)

/-! ## Forms -/

/-- No form begins in text that holds no sigil or is a mention, if gaps stand behind. -/
theorem segmentsFrom_joined (hs : SigilsOf signs sigils) (h : Gaps signs (parts.map Prod.snd))
    (hf : ∀ part ∈ parts,
      (∃ m : Mention, f part.1 = m.written) ∨ ∀ sign ∈ signs, sign.char ∉ f part.1)
    (hclear : Clear sigils (plain ++ earlier)) :
    segmentsFrom sigils earlier plain (joined f parts) = plainRun ((joined f parts).reverse ++ plain) := by
  induction parts generalizing plain with
  | nil => rw [joined, List.flatMap_nil, segmentsFrom, List.reverse_nil, List.nil_append]
  | cons part parts ih =>
    obtain ⟨a, g⟩ := part
    have hg : Free sigils g := hs.free_iff.2 (h.free g List.mem_cons_self)
    have hrest (before : Text) (hbefore : parts ≠ [] → Clear sigils (before ++ earlier)) :
        segmentsFrom sigils earlier before (joined f parts) =
          plainRun ((joined f parts).reverse ++ before) := by
      by_cases hnil : parts = []
      · rw [hnil, joined, List.flatMap_nil, segmentsFrom, List.reverse_nil, List.nil_append]
      · exact ih h.tail (fun part hpart => hf part (List.mem_cons_of_mem _ hpart)) (hbefore hnil)
    have hreverse : (joined f ((a, g) :: parts)).reverse ++ plain =
        (joined f parts).reverse ++ (g.reverse ++ ((f a).reverse ++ plain)) := by
      simp [joined_cons]
    rw [hreverse, joined_cons]
    rcases hf (a, g) List.mem_cons_self with ⟨m, hmention⟩ | hfree
    · -- A bracket behind the name would make it a form, but behind the name is a gap or the end.
      simp only [hmention]
      rw [segmentsFrom_noBracket m.noOpening, segmentsFrom_noBracket (h.noOpening g List.mem_cons_self)]
      refine hrest _ fun hnil => ?_
      obtain ⟨part, hpart⟩ := List.exists_mem_of_ne_nil parts hnil
      have hne : g ≠ [] := (List.pairwise_cons.1 h.apart).1 part.2 (List.mem_map_of_mem hpart)
      rw [List.append_assoc]
      exact clear_behind hg hne (h.noName g List.mem_cons_self)
    · have hclear' : Clear sigils ((f a).reverse ++ plain ++ earlier) := by
        rw [List.append_assoc]
        exact clear_append (hs.free_iff.2 hfree) hclear
      rw [segmentsFrom_free hs.marks (hs.free_iff.2 hfree) hclear, segmentsFrom_free hs.marks hg hclear']
      refine hrest _ fun _ => ?_
      rw [List.append_assoc]
      exact clear_append hg hclear'

theorem segments_joined (hs : SigilsOf signs sigils) (h : Gaps signs (parts.map Prod.snd))
    (hp : ∀ sign ∈ signs, sign.char ∉ p)
    (hf : ∀ part ∈ parts,
      (∃ m : Mention, f part.1 = m.written) ∨ ∀ sign ∈ signs, sign.char ∉ f part.1) :
    segments sigils (p ++ joined f parts) = plainRun (p ++ joined f parts).reverse := by
  have hnone : Clear sigils ([] ++ []) := by simp [Clear]
  have hclear : Clear sigils (p.reverse ++ [] ++ []) := by
    rw [List.append_assoc]
    exact clear_append (hs.free_iff.2 hp) hnone
  rw [segments, segmentsFrom_free hs.marks (hs.free_iff.2 hp) hnone, segmentsFrom_joined hs h hf hclear]
  simp

/-! ## Lines -/

/-- A text with mentions of names behind signs. -/
structure Line (signs : List Sign) where
  /-- The text before the first mention. -/
  lead : Text
  /-- The mentions, each with the text behind it. -/
  parts : List (Mention × Text)
  registered : ∀ part ∈ parts, part.1.sign ∈ signs
  lead_free : ∀ sign ∈ signs, sign.char ∉ lead
  gaps : Gaps signs (parts.map Prod.snd)

namespace Line

def written (line : Line signs) : Text := line.lead ++ joined Mention.written line.parts

/-- The line with the value of each mention in its place. -/
def value (line : Line signs) : Text := line.lead ++ joined Mention.value line.parts

/-- The same line over the same signs in another order. -/
def reorder (line : Line signs) (h : order.Perm signs) : Line order where
  lead := line.lead
  parts := line.parts
  registered part hpart := h.mem_iff.2 (line.registered part hpart)
  lead_free sign hsign := line.lead_free sign (h.mem_iff.1 hsign)
  gaps := { line.gaps with free := fun g hg sign hsign => line.gaps.free g hg sign (h.mem_iff.1 hsign) }

end Line

theorem joined_congr {f g : α → Text} (h : ∀ part ∈ parts, f part.1 = g part.1) :
    joined f parts = joined g parts := by
  induction parts with
  | nil => rfl
  | cons part parts ih =>
    obtain ⟨a, gap⟩ := part
    have ha : f a = g a := h (a, gap) List.mem_cons_self
    rw [joined_cons, joined_cons, ha, ih fun p hp => h p (List.mem_cons_of_mem _ hp)]

theorem cascade_line (line : Line V.signs) :
    cascade V.signs line.written = line.value ∧ cascade V.signs line.value = line.value := by
  constructor
  · rw [Line.written, cascade_joined line.gaps line.lead_free, Line.value]
    exact congrArg _ (joined_congr fun part hpart => cascade_mention (line.registered part hpart))
  · rw [Line.value, cascade_joined line.gaps line.lead_free]
    exact congrArg _ (joined_congr fun part hpart => cascade_value (line.registered part hpart))

theorem expandIndexed_line (line : Line V.signs) :
    expandIndexed (lookups V.signs : Context World) line.written = pure line.written ∧
      expandIndexed (lookups V.signs : Context World) line.value = pure line.value := by
  have hs : SigilsOf V.signs (lookups V.signs : Context World).sigils := sigilsOf_lookups V.signs
  have hwritten := segments_joined hs line.gaps line.lead_free fun part _ => .inl ⟨part.1, rfl⟩
  have hvalue := segments_joined hs line.gaps line.lead_free fun part hpart =>
    (value_cases (line.registered part hpart)).imp_left fun h => ⟨part.1, h⟩
  exact ⟨expandIndexed_of_segments hwritten, expandIndexed_of_segments hvalue⟩

theorem gives_expand_line (line : Line V.signs) :
    Gives (expand (lookups V.signs : Context World) line.written) (.ok line.value) := by
  obtain ⟨hwritten, hvalue⟩ := cascade_line line
  obtain ⟨hforms, hforms'⟩ :
      expandIndexed (lookups V.signs : Context World) line.written = pure line.written ∧
        expandIndexed (lookups V.signs : Context World) line.value = pure line.value :=
    expandIndexed_line line
  have hsecond (n : Nat) :
      Gives (rounds (lookups V.signs : Context World) (n + 1) line.value) (.ok line.value) := by
    rw [rounds, hforms', pure_bind]
    refine gives_bind (gives_cascade V.signs line.value) ?_
    rw [hvalue, if_pos (by simp)]
    exact gives_pure line.value
  rw [expand]
  split
  · -- The first round replaces every mention, and the second one changes nothing.
    have hlimit : roundLimit = roundLimit - 2 + 2 := rfl
    rw [hlimit, rounds, hforms, pure_bind]
    refine gives_bind (gives_cascade V.signs line.written) ?_
    rw [hwritten]
    split
    · exact gives_pure line.value
    · exact hsecond (roundLimit - 2)
  · next hnone =>
    have hfree : ∀ sign ∈ V.signs, sign.char ∉ line.written :=
      fun sign hsign hc => hnone (mayRefer_lookups hsign hc)
    rw [← hwritten, cascade_of_free hfree]
    exact gives_pure line.written

/-- Every mention is replaced by its value at once, whatever the order of the settings. -/
theorem expand_line (V : Vocabulary) (line : Line V.signs) (order : List Sign) (h : order.Perm V.signs)
    (ledger : Ledger World) (hcache : ledger.cache.Faithful) :
    ((expand (lookups order) line.written).run.run ledger).1 = .ok line.value := by
  have hgives : Gives (expand (lookups (V.reorder order h).signs : Context World) (line.reorder h).written)
      (.ok (line.reorder h).value) := gives_expand_line (line.reorder h)
  obtain ⟨cache, -, hrun⟩ := hgives ledger hcache
  exact congrArg Prod.fst hrun

/-- A name of which a beginning has a value, one without any, and a full one. -/
def journey : Line compass.signs where
  lead := ['(', 'g', 'o', ' ']
  parts :=
    [(⟨directions, ['w', 'a', 'y', '.', 'x'], by decide, List.all_eq_true.1 rfl⟩, [')', ' ']),
      (⟨directions, ['w'], by decide, List.all_eq_true.1 rfl⟩, [',']),
      (places, [])]
  registered := by simp [compass, places]
  lead_free := by decide
  gaps := ⟨by decide, by decide, by simp [isNameChar], by decide⟩

theorem expand_line_journey :
    [steps, directions].Perm compass.signs ∧ journey.written = "(go $way.x) $w,@a.b".toList ∧
      ((expand (lookups [steps, directions]) journey.written).run.run (⟨.empty, ()⟩ : Ledger Unit)).1 =
        .ok "(go n|s|e.x) $w,2|0".toList :=
  ⟨.swap _ _ _, by decide,
    expand_line compass journey [steps, directions] (.swap _ _ _) ⟨.empty, ()⟩ Cache.faithful_empty⟩

end MudClient.Reference

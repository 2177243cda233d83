import MudClient.Proofs.Reference.Ending
import MudClient.Proofs.Reference.Mark

/-!
# Text around references

* `Around`: text before and behind that references cannot reach into
* `forms_around`: the forms of a text stay the same when such text is put around it
* `Mirrors`: a computation that does what another one does, and changes its value
* `mirrors_expand`: so does an expansion, with the same questions and the same error
-/

set_option autoImplicit false

namespace MudClient.Reference

open Pattern

variable {World α β : Type} {sigils : List Text} {ctx : Context World} {setting : Setting World} {k : NameClass}
  {bracket : Bracket} {c : Char} {before earlier plain p q s t rest : Text} {n : Nat}

/-- Text before and behind another one that holds no sigil. The text behind neither continues a name nor
holds a bracket. -/
structure Around (sigils : List Text) (p s : Text) : Prop where
  lead : Free sigils p
  trail : Free sigils s
  noBracket : ∀ c ∈ s, c ∉ ['[', ']', '(', ')']
  noName : ∀ c ∈ s.head?, isNameChar c = false

/-! ## Forms -/

theorem formAt_append (hm : Marks sigils) (hp : Free sigils p) :
    formAt sigils (earlier ++ p) plain bracket rest = formAt sigils earlier plain bracket rest := by
  rw [formAt, ← List.append_assoc, nameLength?_append hm hp, ← formAt]

/-- What lies before the earlier text does not matter, if it holds no sigil. -/
theorem segmentsFrom_append (hm : Marks sigils) (hp : Free sigils p) :
    segmentsFrom sigils (earlier ++ p) plain t = segmentsFrom sigils earlier plain t := by
  fun_induction segmentsFrom sigils earlier plain t with
  | case1 => rw [segmentsFrom]
  | case2 earlier plain c rest hb ih =>
    rw [segmentsFrom_skip (by simp [hb]), ih]
  | case3 earlier plain c rest bracket hb hf ih =>
    refine (segmentsFrom_skip fun b hb' => ?_).trans ih
    obtain rfl : bracket = b := Option.some.inj (hb.symm.trans hb')
    rw [formAt_append hm hp, hf]
  | case4 earlier plain c rest bracket hb n index after hf hlt ih =>
    rw [segmentsFrom_form hb ((formAt_append hm hp).trans hf), ← List.append_assoc, ih]

theorem formAt_lead (hm : Marks sigils) (hp : Free sigils p) :
    formAt sigils [] (plain ++ p) bracket rest = formAt sigils [] plain bracket rest := by
  rw [formAt, formAt, List.append_nil, List.append_nil, nameLength?_append hm hp]
  cases h : nameLength? sigils plain with
  | none => rfl
  | some n =>
    have hle := nameLength?_le hm h
    simp only [List.length_append, if_pos hle, if_pos (Nat.le_add_right_of_le hle)]

/-- Text without a sigil before a text stays in front of its forms. -/
theorem pieces_lead (hm : Marks sigils) (hp : Free sigils p) :
    (segmentsFrom sigils [] (plain ++ p) t).flatMap Segment.pieces =
      Piece.chars p.reverse ++ (segmentsFrom sigils [] plain t).flatMap Segment.pieces := by
  induction t generalizing plain with
  | nil => simp [segmentsFrom, pieces_plainRun]
  | cons c t ih =>
    by_cases hform : ∃ bracket n index after, bracket? c = some bracket ∧
        formAt sigils [] plain bracket t = some (n, index, after)
    · obtain ⟨bracket, n, index, after, hb, hf⟩ := hform
      have hn := (length_of_formAt hf).1
      have hlater : bracket.closing :: index.reverse ++ c :: (plain ++ p) ++ [] =
          (bracket.closing :: index.reverse ++ c :: plain ++ []) ++ p := by simp
      rw [segmentsFrom_form hb hf, segmentsFrom_form hb ((formAt_lead hm hp).trans hf), hlater,
        segmentsFrom_append hm hp, List.drop_append_of_le_length hn, List.take_append_of_le_length hn]
      simp [pieces_plainRun]
    · have hskip (bracket : Bracket) (hb : bracket? c = some bracket) :
          formAt sigils [] plain bracket t = none := by
        cases hf : formAt sigils [] plain bracket t with
        | none => rfl
        | some found => exact absurd ⟨bracket, found.1, found.2.1, found.2.2, hb, hf⟩ hform
      rw [segmentsFrom_skip hskip, segmentsFrom_skip fun b hb => (formAt_lead hm hp).trans (hskip b hb)]
      exact @ih (c :: plain)

theorem closing_append (hs : ∀ c ∈ s, c ∉ ['[', ']', '(', ')']) (depth : Nat) :
    closing bracket depth (t ++ s) =
      (closing bracket depth t).map fun (index, after) => (index, after ++ s) := by
  induction t generalizing depth with
  | nil =>
    cases h : closing bracket depth s with
    | none => simp [closing, h]
    | some found =>
      have hmem : bracket.closing ∈ s := by
        rw [closing_eq h]
        exact List.mem_append_right _ List.mem_cons_self
      exact absurd (by cases bracket <;> simp [Bracket.closing]) (hs _ hmem)
  | cons c t ih =>
    rw [List.cons_append]
    simp only [closing]
    split
    · rw [ih, Option.map_map, Option.map_map]
      rfl
    · split
      · cases depth with
        | zero => rfl
        | succ depth =>
          simp only [ih, Option.map_map]
          rfl
      · rw [ih, Option.map_map, Option.map_map]
        rfl

/-- Text without a bracket behind a text stays behind its forms. -/
theorem pieces_trail (hs : ∀ c ∈ s, c ∉ ['[', ']', '(', ')']) :
    (segmentsFrom sigils earlier plain (t ++ s)).flatMap Segment.pieces =
      (segmentsFrom sigils earlier plain t).flatMap Segment.pieces ++ Piece.chars s := by
  have hform (earlier plain rest : Text) (bracket : Bracket) :
      formAt sigils earlier plain bracket (rest ++ s) =
        (formAt sigils earlier plain bracket rest).map fun (n, index, after) => (n, index, after ++ s) := by
    simp only [formAt]
    split
    · rfl
    · split
      · rw [closing_append hs]
        cases closing bracket 0 rest <;> rfl
      · rfl
  fun_induction segmentsFrom sigils earlier plain t with
  | case1 earlier plain =>
    have hopening : '[' ∉ s ∧ '(' ∉ s := ⟨fun h => hs _ h (by decide), fun h => hs _ h (by decide)⟩
    have hpass : segmentsFrom sigils earlier plain (s ++ []) =
        segmentsFrom sigils earlier (s.reverse ++ plain) [] := segmentsFrom_noBracket hopening
    rw [List.append_nil, segmentsFrom] at hpass
    rw [List.nil_append, hpass]
    simp [pieces_plainRun]
  | case2 earlier plain c rest hb ih =>
    rw [List.cons_append, segmentsFrom_skip (by simp [hb]), ih]
  | case3 earlier plain c rest bracket hb hf ih =>
    refine (congrArg _ (segmentsFrom_skip fun b hb' => ?_)).trans ih
    obtain rfl : bracket = b := Option.some.inj (hb.symm.trans hb')
    exact (hform earlier plain rest bracket).trans (by rw [hf]; rfl)
  | case4 earlier plain c rest bracket hb n index after hf hlt ih =>
    have hf' := hform earlier plain rest bracket
    rw [hf] at hf'
    rw [List.cons_append, segmentsFrom_form hb hf', List.flatMap_append, List.flatMap_append, List.flatMap_cons,
      List.flatMap_cons, ih]
    simp only [List.append_assoc]

/-- Text around a text stays around its forms. -/
theorem forms_around (hm : Marks sigils) (ha : Around sigils p s) :
    forms sigils (p ++ q ++ s) = Piece.chars p ++ forms sigils q ++ Piece.chars s := by
  have hnone : Clear sigils ([] ++ []) := by simp [Clear]
  have hlead : (segmentsFrom sigils [] ([] ++ p.reverse) q).flatMap Segment.pieces =
      Piece.chars p.reverse.reverse ++ (segmentsFrom sigils [] [] q).flatMap Segment.pieces :=
    pieces_lead hm fun c hc => ha.lead c (List.mem_reverse.1 hc)
  rw [List.reverse_reverse, List.nil_append] at hlead
  rw [forms, segments, pieces_trail ha.noBracket, segmentsFrom_free hm ha.lead hnone, List.append_nil, hlead]
  rfl

theorem expandPieces_trail (ctx : Context World) (pieces : List (Piece Segment)) (s : Text) :
    expandPieces ctx (pieces ++ Piece.chars s) = (· ++ s) <$> expandPieces ctx pieces := by
  induction pieces with
  | nil =>
    have h := expandPieces_chars ctx s []
    simpa [expandPieces] using h
  | cons piece pieces ih => cases piece <;> simp [expandPieces, ih]

/-- Text around a text stays as it is while the forms of the text are expanded. -/
theorem expandIndexed_around (hm : Marks ctx.sigils) (ha : Around ctx.sigils p s) :
    expandIndexed ctx (p ++ q ++ s) = (p ++ · ++ s) <$> expandIndexed ctx q := by
  rw [expandIndexed_forms, expandIndexed_forms, forms_around hm ha, List.append_assoc, expandPieces_chars,
    expandPieces_trail, Functor.map_map]
  simp

/-! ## Computations that mirror others -/

/-- From a faithful cache the second computation does what the first one does, and its value is made from
that of the first one. -/
def Mirrors (g : α → β) (m : Expansion World α) (m' : Expansion World β) : Prop :=
  ∀ ledger, ledger.cache.Faithful → (m.run.run ledger).2.cache.Faithful ∧
    m'.run.run ledger = ((m.run.run ledger).1.map g, (m.run.run ledger).2)

theorem keptByPatterns_faithful : KeptByPatterns Cache.Faithful := fun _ _ _ h => h.read _ _

theorem mirrors_pure (g : α → β) (a : α) : Mirrors g (pure a : Expansion World α) (pure (g a)) :=
  fun _ h => ⟨h, rfl⟩

theorem mirrors_map {P : ExpandError → Prop} {Q : α → Prop} {m : Expansion World α} (g : α → β)
    (h : Ends Cache.Faithful P Q m) : Mirrors g m (g <$> m) :=
  fun ledger hcache => ⟨(h ledger hcache).1, run_map g m ledger⟩

theorem mirrors_bind {γ δ : Type} {g : α → β} {g' : γ → δ} {m : Expansion World α} {m' : Expansion World β}
    {f : α → Expansion World γ} {f' : β → Expansion World δ} (hm : Mirrors g m m')
    (hf : ∀ a, Mirrors g' (f a) (f' (g a))) : Mirrors g' (m >>= f) (m' >>= f') := by
  intro ledger hcache
  obtain ⟨hcache', hrun⟩ := hm ledger hcache
  rw [run_bind, run_bind, hrun]
  cases hr : m.run.run ledger with
  | mk result ledger' =>
    rw [hr] at hcache'
    cases result with
    | ok a => exact hf a ledger' hcache'
    | error e => exact ⟨hcache', rfl⟩

/-! ## The cascade -/

theorem rewrite_chars (setting : Setting World) (t : Text) (pieces : List (Piece Text)) :
    rewrite setting (Piece.chars t ++ pieces) = (t ++ ·) <$> rewrite setting pieces := by
  induction t with
  | nil => simp
  | cons c t ih => simp [rewrite, ih]

theorem rewrite_trail (setting : Setting World) (pieces : List (Piece Text)) (s : Text) :
    rewrite setting (pieces ++ Piece.chars s) = (· ++ s) <$> rewrite setting pieces := by
  induction pieces with
  | nil =>
    have h := rewrite_chars setting s []
    simpa [rewrite] using h
  | cons piece pieces ih => cases piece <;> simp [rewrite, ih]

theorem mirrors_pass (hs : setting.sigil = [c]) (hp : c ∉ p) (hc : c ∉ s)
    (hn : ∀ d ∈ s.head?, isNameChar d = false) (k : NameClass) (t : Text) :
    Mirrors (p ++ · ++ s) (pass setting t k.source) (pass setting (p ++ t ++ s) k.source) := by
  intro ledger hcache
  have hends : Ends Cache.Faithful (fun _ => True) (Within fun _ => True) (pass setting t k.source) :=
    ends_pass keptByPatterns_faithful (fun _ _ v _ => within_true v) k (within_true t)
  refine ⟨(hends ledger hcache).1, ?_⟩
  have hrewrite : rewrite setting (references setting.sigil k (p ++ t ++ s)) =
      (p ++ · ++ s) <$> rewrite setting (references setting.sigil k t) := by
    rw [hs, List.append_assoc, references_lead hp, references_append hn, references_of_notMem hc, rewrite_chars,
      rewrite_trail, Functor.map_map]
    simp
  rw [run_pass _ _ _ hcache, run_pass _ _ _ hcache, hrewrite, run_map]

theorem mirrors_simplify (hs : setting.sigil = [c]) (hp : c ∉ p) (hc : c ∉ s)
    (hn : ∀ d ∈ s.head?, isNameChar d = false) (t : Text) :
    Mirrors (p ++ · ++ s) (simplify setting t) (simplify setting (p ++ t ++ s)) := by
  have hoccurs : setting.sigil.occursIn (p ++ t ++ s) = setting.sigil.occursIn t := by
    rw [hs, occursIn_singleton, occursIn_singleton]
    simp [hp, hc]
  rw [simplify_passes, simplify_passes, hoccurs]
  split
  · refine mirrors_bind (mirrors_pass hs hp hc hn _ t) fun t₁ => ?_
    exact mirrors_bind (mirrors_pass hs hp hc hn _ t₁) fun t₂ => mirrors_pass hs hp hc hn _ t₂
  · exact mirrors_pure _ t

theorem mirrors_simplifyAll (hm : Marks ctx.sigils) (ha : Around ctx.sigils p s) (t : Text) :
    Mirrors (p ++ · ++ s) (simplifyAll ctx t) (simplifyAll ctx (p ++ t ++ s)) := by
  have hall : ∀ setting ∈ ctx, setting.sigil ∈ ctx.sigils :=
    fun setting h => mem_sigils.2 ⟨setting, h, rfl⟩
  rw [simplifyAll, simplifyAll]
  generalize ctx.sigils = sigils at hm ha hall
  induction ctx generalizing t with
  | nil => exact mirrors_pure _ t
  | cons setting ctx ih =>
    have hsigil := hall setting List.mem_cons_self
    obtain ⟨c, -, hs⟩ := hm setting.sigil hsigil
    have hmem (u : Text) (hu : Free sigils u) : c ∉ u := fun hc => hu c hc (hs ▸ hsigil)
    rw [List.foldlM_cons, List.foldlM_cons]
    refine mirrors_bind (mirrors_simplify hs (hmem p ha.lead) (hmem s ha.trail) ha.noName t) fun t' => ?_
    exact ih t' fun s hs => hall s (List.mem_cons_of_mem _ hs)

/-! ## Expansions -/

theorem mayRefer_around (hm : Marks ctx.sigils) (ha : Around ctx.sigils p s) (t : Text) :
    ctx.mayRefer (p ++ t ++ s) = ctx.mayRefer t := by
  rw [Bool.eq_iff_iff, mayRefer_iff hm, mayRefer_iff hm]
  constructor
  · rintro ⟨c, hc, hs⟩
    rcases List.mem_append.1 hc with hc | hc
    · rcases List.mem_append.1 hc with hc | hc
      · exact absurd hs (ha.lead c hc)
      · exact ⟨c, hc, hs⟩
    · exact absurd hs (ha.trail c hc)
  · rintro ⟨c, hc, hs⟩
    exact ⟨c, by simp [hc], hs⟩

theorem mirrors_expandIndexed (hm : Marks ctx.sigils) (ha : Around ctx.sigils p s) (t : Text) :
    Mirrors (p ++ · ++ s) (expandIndexed ctx t) (expandIndexed ctx (p ++ t ++ s)) := by
  rw [expandIndexed_around hm ha]
  exact mirrors_map _ (ends_expandIndexed keptByPatterns_faithful ctx t)

theorem mirrors_rounds (hm : Marks ctx.sigils) (ha : Around ctx.sigils p s) (n : Nat) (t : Text) :
    Mirrors (p ++ · ++ s) (rounds ctx n t) (rounds ctx n (p ++ t ++ s)) := by
  induction n generalizing t with
  | zero => exact mirrors_pure _ t
  | succ n ih =>
    rw [rounds, rounds]
    refine mirrors_bind (mirrors_expandIndexed hm ha t) fun t₁ => ?_
    refine mirrors_bind (mirrors_simplifyAll hm ha t₁) fun t₂ => ?_
    have hsame : (p ++ t₂ ++ s = p ++ t ++ s) = (t₂ = t) := by simp
    simp only [hsame, mayRefer_around hm ha]
    split
    · exact mirrors_pure _ t₂
    · exact ih t₂

theorem mirrors_expand (hm : Marks ctx.sigils) (ha : Around ctx.sigils p s) (t : Text) :
    Mirrors (p ++ · ++ s) (expand ctx t) (expand ctx (p ++ t ++ s)) := by
  rw [expand, expand, mayRefer_around hm ha]
  split
  · exact mirrors_rounds hm ha _ t
  · exact mirrors_pure _ t

/-- A context of signs that records every question to one of them. -/
def recorded (signs : List Sign) : Context (List Call) :=
  signs.mapIdx fun i sign => .recorded i [sign.char] sign.lookup

theorem sigilsOf_recorded (signs : List Sign) : SigilsOf signs (recorded signs).sigils := by
  intro sigil
  rw [mem_sigils]
  constructor
  · rintro ⟨setting, hs, rfl⟩
    obtain ⟨i, hi, rfl⟩ := List.mem_mapIdx.1 hs
    exact ⟨signs[i], List.getElem_mem hi, rfl⟩
  · rintro ⟨sign, hs, rfl⟩
    obtain ⟨i, hi, rfl⟩ := List.mem_iff_getElem.1 hs
    exact ⟨_, List.mem_mapIdx.2 ⟨i, hi, rfl⟩, rfl⟩

/-- An expansion touches nothing outside the references: text before them without a sigil, and text behind them
that neither holds a sigil or a bracket nor continues a name, stays as it is. The same questions are
asked, and the same error is met. -/
theorem expand_frame (signs : List Sign) (p q s : Text) (ledger : Ledger (List Call))
    (hcache : ledger.cache.Faithful) (hp : ∀ sign ∈ signs, sign.char ∉ p)
    (hs : ∀ sign ∈ signs, sign.char ∉ s) (hbracket : ∀ c ∈ s, c ∉ ['[', ']', '(', ')'])
    (hname : ∀ c ∈ s.head?, isNameChar c = false) :
    (expand (recorded signs) (p ++ q ++ s)).run.run ledger =
      ((expand (recorded signs) q).run.run ledger).map (Except.map (p ++ · ++ s)) id := by
  have hsigils := sigilsOf_recorded signs
  have haround : Around (recorded signs).sigils p s :=
    ⟨hsigils.free_iff.2 hp, hsigils.free_iff.2 hs, hbracket, hname⟩
  exact (mirrors_expand hsigils.marks haround q ledger hcache).2

/-- A sign whose values refer to others. -/
def chainedSign : Sign where
  char := '$'
  lookup name := if name = "list".toList then some "a$pick|b".toList else none
  isMark := isMark_dollar

/-- A form whose value refers on, between a bracket that belongs to no form and further text. -/
theorem expand_frame_coin :
    (expand (recorded [chainedSign]) ("coin(0) ".toList ++ "$list[$pick]".toList ++ [',', ' ', 'n'])).run.run
        ⟨.empty, []⟩ =
      ((expand (recorded [chainedSign]) "$list[$pick]".toList).run.run ⟨.empty, []⟩).map
        (Except.map ("coin(0) ".toList ++ · ++ [',', ' ', 'n'])) id :=
  expand_frame [chainedSign] "coin(0) ".toList "$list[$pick]".toList [',', ' ', 'n'] ⟨.empty, []⟩
    Cache.faithful_empty (by decide) (by decide) (by simp) (by simp [isNameChar])

end MudClient.Reference

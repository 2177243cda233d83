import MudClient.Proofs.Reference.Ending
import MudClient.Proofs.Reference.Mark
import MudClient.Proofs.Reference.Shortcut

/-!
# Expansions that come to rest

* `sigilCount`: how many sigils a text holds
* `Dwindles`: a text that stays the same or loses sigils
* `ends_pass_dwindles`: so does every text in a pass, if no value holds a sigil
* `exists_rounds_fixed`: after as many rounds as there are sigils a further one changes nothing
* `expand_fixpoint`: an expanded text with few sigils is not changed by another round or expansion
-/

set_option autoImplicit false

namespace MudClient.Reference

open Pattern

variable {World α : Type} {I : Cache → Prop} {P : ExpandError → Prop} {Q : α → Prop} {sigils : List Text}
  {setting : Setting World} {gs : List Glossary} {ctx : Context World} {t u v t' u' : Text} {c : Char}

/-! ## Counting sigils -/

/-- How many of the characters of a text are sigils. -/
def sigilCount (sigils : List Text) (t : Text) : Nat := t.countP fun c => [c] ∈ sigils

theorem sigilCount_append (sigils : List Text) (t u : Text) :
    sigilCount sigils (t ++ u) = sigilCount sigils t + sigilCount sigils u := List.countP_append

theorem sigilCount_eq_zero : sigilCount sigils t = 0 ↔ Free sigils t := by
  simp [sigilCount, List.countP_eq_zero, Free]

theorem sigilCount_singleton (h : [c] ∈ sigils) : sigilCount sigils [c] = 1 := by simp [sigilCount, h]

/-- The text stays the same or loses sigils. -/
def Dwindles (sigils : List Text) (t u : Text) : Prop :=
  u = t ∨ sigilCount sigils u < sigilCount sigils t

theorem le_of_dwindles (h : Dwindles sigils t u) : sigilCount sigils u ≤ sigilCount sigils t := by
  rcases h with rfl | h
  · exact Nat.le_refl _
  · exact Nat.le_of_lt h

theorem congruence_dwindles (sigils : List Text) : Congruence (Dwindles sigils) where
  refl _ := .inl rfl
  trans := by
    rintro t u v (rfl | h) (rfl | h')
    · exact .inl rfl
    · exact .inr h'
    · exact .inr h
    · exact .inr (h'.trans h)
  append := by
    rintro t u t' u' h h'
    have hle := le_of_dwindles h
    have hle' := le_of_dwindles h'
    rcases h with rfl | h
    · rcases h' with rfl | h'
      · exact .inl rfl
      · exact .inr (by simp only [sigilCount_append]; omega)
    · exact .inr (by simp only [sigilCount_append]; omega)

/-! ## What passes and forms do -/

theorem ends_rewrite_dwindles (hs : setting.sigil = [c]) (hc : [c] ∈ sigils)
    (hv : setting.ValuesWithin fun d => [d] ∉ sigils) (pieces : List (Piece Text)) :
    Ends I P (Dwindles sigils (written setting.sigil pieces)) (rewrite setting pieces) := by
  induction pieces with
  | nil => exact ends_pure (.inl rfl)
  | cons piece pieces ih =>
    cases piece with
    | char d =>
      refine ends_bind ih fun rest hrest => ends_pure ?_
      exact (congruence_dwindles sigils).append ((congruence_dwindles sigils).refl [d]) hrest
    | item name =>
      have hwritten : written setting.sigil (.item name :: pieces) =
          setting.sigil ++ name ++ written setting.sigil pieces := rfl
      rw [hwritten]
      refine ends_bind ih fun rest hrest => ends_bind (ends_ask hv name) fun value hvalue => ends_pure ?_
      cases value with
      | none => exact (congruence_dwindles sigils).append (.inl rfl) hrest
      | some value =>
        -- The sigil is gone, and the value brings none.
        have hle := le_of_dwindles hrest
        have hzero : sigilCount sigils value = 0 := sigilCount_eq_zero.2 (hvalue value rfl)
        have hone : sigilCount sigils setting.sigil = 1 := by rw [hs, sigilCount_singleton hc]
        refine .inr ?_
        rw [Option.getD_some, sigilCount_append, sigilCount_append, sigilCount_append]
        omega

theorem ends_pass_dwindles (hs : setting.sigil = [c]) (hc : [c] ∈ sigils)
    (hv : setting.ValuesWithin fun d => [d] ∉ sigils) (t : Text) (k : NameClass) :
    Ends Cache.Faithful P (Dwindles sigils t) (pass setting t k.source) := by
  intro ledger hcache
  have hends : Ends Cache.Faithful P (Dwindles sigils (written setting.sigil (references setting.sigil k t)))
      (rewrite setting (references setting.sigil k t)) := ends_rewrite_dwindles hs hc hv _
  rw [written_references] at hends
  rw [run_pass _ _ _ hcache]
  exact hends _ (hcache.read _ _)

theorem indexedForm_cases {written name index : Text} {bracket : Bracket}
    (h : indexedForm written name bracket index = .ok u) :
    u = (Segment.indexed name bracket index).source ∨ name ≠ written ∧ u ∈ Text.splitOn '|' name := by
  rw [indexedForm] at h
  split at h
  · cases h
    exact .inl rfl
  · next hne =>
    cases hpicked : element? name index with
    | error e =>
      rw [hpicked] at h
      cases h
    | ok picked =>
      rw [hpicked] at h
      cases picked with
      | none =>
        cases h
        exact .inl rfl
      | some element =>
        cases h
        refine .inr ⟨hne, ?_⟩
        simp only [element?] at hpicked
        split at hpicked
        · cases hpicked
        · split at hpicked
          · cases hpicked
          · exact List.mem_of_getElem? (Except.ok.inj hpicked)

theorem ends_indexedForm_dwindles {name name' index index' : Text} (bracket : Bracket)
    (hname : Dwindles sigils name name') (hindex : Dwindles sigils index index') :
    Ends I (fun _ => True) (Dwindles sigils (Segment.indexed name bracket index).source)
      (expandIndexed.liftExcept (indexedForm name name' bracket index') : Expansion World Text) := by
  have hS := congruence_dwindles sigils
  intro ledger hI
  rw [run_liftExcept]
  refine ⟨hI, ?_⟩
  cases hform : indexedForm name name' bracket index' with
  | error e => trivial
  | ok u =>
    rcases indexedForm_cases hform with rfl | ⟨hne, hu⟩
    · exact hS.append (hS.append hname (hS.append (hS.refl [bracket.opening]) hindex)) (hS.refl [bracket.closing])
    · -- Something is picked only if the name has changed, so it has lost a sigil.
      have hlt : sigilCount sigils name' < sigilCount sigils name := hname.resolve_left hne
      have hle : sigilCount sigils u ≤ sigilCount sigils name' := (Text.sublist_of_mem_splitOn hu).countP_le
      refine .inr ?_
      rw [Segment.source, sigilCount_append, sigilCount_append]
      omega

/-! ## Rounds -/

/-- Sigils of one character, and values without any. -/
structure Flat (gs : List Glossary) : Prop where
  single : ∀ g ∈ gs, ∃ c, g.sigil = [c]
  free : ∀ g ∈ gs, ∀ name, ∀ value ∈ g.lookup name, Free (gs.map Glossary.sigil) value

theorem ends_goOver_dwindles (h : Flat gs) (t : Text) :
    Ends Cache.Faithful (fun _ => True) (Dwindles (gs.map Glossary.sigil) t)
      (goOver (glossed gs : Context World) t) := by
  refine (congruence_dwindles _).ends_goOver (fun setting hs u k => ?_)
    (fun name name' bracket index index' => ends_indexedForm_dwindles bracket) t
  obtain ⟨g, hg, rfl⟩ := List.mem_map.1 hs
  obtain ⟨c, hc⟩ := h.single g hg
  refine ends_pass_dwindles hc (hc ▸ List.mem_map_of_mem hg) ?_ u k
  exact fun name world value hvalue => h.free g hg name value hvalue

theorem not_occursIn_of_free (h : Flat gs) (ht : Free (gs.map Glossary.sigil) t) :
    ∀ g ∈ gs, ¬g.sigil.occursIn t := by
  intro g hg hoccurs
  obtain ⟨c, hc⟩ := h.single g hg
  rw [hc, occursIn_singleton, decide_eq_true_eq] at hoccurs
  exact ht c hoccurs (hc ▸ List.mem_map_of_mem hg)

theorem gives_goOver_of_noBracket (h : '[' ∉ t ∧ '(' ∉ t) (hu : cascadeAll gs t = u) :
    Gives (goOver (glossed gs : Context World) t) (.ok u) := by
  rw [goOver, expandIndexed_of_noBracket h, pure_bind, ← hu]
  exact gives_simplifyAll gs t

theorem gives_expandPart_of_noBracket (h : '[' ∉ t ∧ '(' ∉ t) (hu : (cascadeAll gs)^[15] t = u) :
    Gives (expandPart (glossed gs : Context World) t) (.ok u) := by
  rw [expandPart, expandIndexed_of_noBracket h, pure_bind, ← hu]
  exact gives_settle gs roundLimit t

theorem of_gives {m : Expansion World α} {a : α} (hends : Ends Cache.Faithful P Q m) (h : Gives m (.ok a))
    (ledger : Ledger World) (hcache : ledger.cache.Faithful) : Q a := by
  obtain ⟨cache, -, hrun⟩ := h ledger hcache
  have hend := (hends ledger hcache).2
  rwa [hrun] at hend

theorem gives_rounds_of_fixed (h : Gives (goOver ctx t) (.ok t)) (n : Nat) :
    Gives (rounds ctx n t) (.ok t) := by
  cases n with
  | zero => exact gives_pure t
  | succ n =>
    rw [rounds_succ]
    refine gives_bind h ?_
    rw [if_pos (by simp)]
    exact gives_pure t

theorem gives_expand_of_fixed (h : Gives (goOver ctx t) (.ok t)) : Gives (expand ctx t) (.ok t) := by
  rw [expand]
  split
  · exact gives_rounds_of_fixed h roundLimit
  · exact gives_pure t

/-- A round that changes the text takes a sigil away, so after as many rounds as there are sigils a text has come to
rest. -/
theorem exists_rounds_fixed (h : Flat gs) (n : Nat) (hn : sigilCount (gs.map Glossary.sigil) t ≤ n)
    (ledger : Ledger World) (hcache : ledger.cache.Faithful) :
    ∃ result, Gives (rounds (glossed gs : Context World) n t) result ∧
      ∀ u, result = .ok u → Gives (goOver (glossed gs : Context World) u) (.ok u) := by
  induction n generalizing t with
  | zero =>
    have hfree := sigilCount_eq_zero.1 (Nat.le_zero.1 hn)
    refine ⟨.ok t, gives_pure t, fun u hu => ?_⟩
    cases hu
    exact gives_goOver_of_not_occursIn (not_occursIn_of_free h hfree)
  | succ n ih =>
    obtain ⟨result, hround, -⟩ :
        Agree (goOver (glossed gs : Context World) t) (fullPass (glossed gs) t) := agree_goOver gs t
    cases result with
    | error e =>
      rw [rounds_succ]
      exact ⟨.error e, gives_bind_error hround, nofun⟩
    | ok t' =>
      rcases rounds_cases hround n with ⟨hstop, hrounds⟩ | ⟨hne, hrounds⟩
      · refine ⟨.ok t', hrounds, fun u hu => ?_⟩
        cases hu
        rcases hstop with rfl | hnone
        · exact hround
        · exact gives_goOver_of_not_occursIn hnone
      · have hlt := (of_gives (ends_goOver_dwindles h t) hround ledger hcache).resolve_left hne
        have hn' : sigilCount (gs.map Glossary.sigil) t' ≤ n := by omega
        obtain ⟨result, hrest, hfixed⟩ := ih hn'
        exact ⟨result, hrounds result hrest, hfixed⟩

/-- If sigils are single characters, values hold none of them and the text no more than fifteen, then an expanded
text has come to rest: neither another round nor another expansion changes it. -/
theorem expand_fixpoint (gs : List Glossary) (h : Flat gs) (t u : Text)
    (hfew : sigilCount (gs.map Glossary.sigil) t ≤ 15) (ledger ledger' : Ledger World)
    (hcache : ledger.cache.Faithful) (hcache' : ledger'.cache.Faithful)
    (hu : ((expand (glossed gs) t).run.run ledger).1 = .ok u) :
    ((goOver (glossed gs) u).run.run ledger').1 = .ok u ∧
      ((expand (glossed gs) u).run.run ledger').1 = .ok u := by
  have hfixed : Gives (goOver (glossed gs : Context World) u) (.ok u) := by
    rw [expand] at hu
    split at hu
    · obtain ⟨result, hrounds, hfixed⟩ := exists_rounds_fixed h 15 hfew ledger hcache
      obtain ⟨cache, -, hrun⟩ := hrounds ledger hcache
      exact hfixed u ((congrArg Prod.fst hrun).symm.trans hu)
    · next hnone =>
      obtain rfl : t = u := Except.ok.inj hu
      exact gives_goOver_of_not_occursIn (not_occursIn_of_not_mayRefer hnone)
  obtain ⟨cache, -, hround⟩ := hfixed ledger' hcache'
  obtain ⟨cache', -, hexpand⟩ := gives_expand_of_fixed hfixed ledger' hcache'
  exact ⟨congrArg Prod.fst hround, congrArg Prod.fst hexpand⟩

/-- Two sigils, of which the second may stand in the names of the first. -/
def flatWords : List Glossary :=
  [⟨['$'], fun name =>
      if name = "x".toList then some "sing".toList else if name = "missing".toList then some "a|b".toList else none⟩,
    ⟨['q'], fun name => if name = "1".toList then some "x".toList else none⟩]

theorem flat_flatWords : Flat flatWords where
  single := by
    intro g hg
    simp only [flatWords, List.mem_cons, List.not_mem_nil, or_false] at hg
    rcases hg with rfl | rfl <;> exact ⟨_, rfl⟩
  free := by
    intro g hg name value hvalue
    simp only [flatWords, List.mem_cons, List.not_mem_nil, or_false] at hg
    have hvalues : value = "sing".toList ∨ value = "a|b".toList ∨ value = "x".toList := by
      rcases hg with rfl | rfl
      · simp only [Option.mem_def] at hvalue
        split at hvalue
        · exact .inl (Option.some.inj hvalue).symm
        · split at hvalue
          · exact .inr (.inl (Option.some.inj hvalue).symm)
          · cases hvalue
      · simp only [Option.mem_def] at hvalue
        split at hvalue
        · exact .inr (.inr (Option.some.inj hvalue).symm)
        · cases hvalue
    rcases hvalues with rfl | rfl | rfl <;> exact sigilCount_eq_zero.1 (by decide +kernel)

/-- In the first round a form picks an element, and the value behind the second sigil makes a name of the first. -/
theorem gives_goOver_flatWords :
    Gives (goOver (glossed flatWords : Context World) "$mis$q1 $missing[0] $no.".toList)
      (.ok "$mis$x a $no.".toList) := by
  have hsegments : segments (glossed flatWords : Context World).sigils "$mis$q1 $missing[0] $no.".toList =
      [.plain "$mis$q1 ".toList, .indexed "$missing".toList .square "0".toList, .plain " $no.".toList] := by
    show segments [['$'], ['q']] _ = _
    decide +kernel
  have hname : Gives (expandPart (glossed flatWords : Context World) "$missing".toList) (.ok "a|b".toList) :=
    gives_expandPart_of_noBracket (by decide) (by decide +kernel)
  have hindex : Gives (expandPart (glossed flatWords : Context World) "0".toList) (.ok "0".toList) :=
    gives_expandPart_of_noBracket (by decide) (by decide +kernel)
  have hform : Gives (expandSegment (glossed flatWords : Context World)
      (.indexed "$missing".toList .square "0".toList)) (.ok "a".toList) :=
    gives_bind hname (gives_bind hindex (gives_liftExcept _))
  have hparts : Gives ((segments (glossed flatWords : Context World).sigils
      "$mis$q1 $missing[0] $no.".toList).mapM (expandSegment (glossed flatWords : Context World)))
      (.ok ["$mis$q1 ".toList, "a".toList, " $no.".toList]) := by
    rw [hsegments]
    exact gives_mapM (.cons (gives_pure _) (.cons hform (.cons (gives_pure _) .nil)))
  have hcascade : cascadeAll flatWords "$mis$q1 a $no.".toList = "$mis$x a $no.".toList := by decide +kernel
  rw [goOver, expandIndexed_eq, ← bind_pure_comp, ← hcascade]
  exact gives_bind (gives_bind hparts (gives_pure _)) (gives_simplifyAll flatWords _)

/-- In the second round that name and the name that its value makes are replaced, and the third changes nothing. -/
theorem gives_expand_flatWords :
    Gives (expand (glossed flatWords : Context World) "$mis$q1 $missing[0] $no.".toList)
      (.ok "a|b a $no.".toList) := by
  have hsecond : Gives (goOver (glossed flatWords : Context World) "$mis$x a $no.".toList)
      (.ok "a|b a $no.".toList) := gives_goOver_of_noBracket (by decide) (by decide +kernel)
  have hthird : Gives (goOver (glossed flatWords : Context World) "a|b a $no.".toList)
      (.ok "a|b a $no.".toList) := gives_goOver_of_noBracket (by decide) (by decide +kernel)
  have hrest : Gives (rounds (glossed flatWords : Context World) 14 "$mis$x a $no.".toList)
      (.ok "a|b a $no.".toList) :=
    ((rounds_cases hsecond 13).resolve_left fun h => absurd h.1 (by decide)).2 _ (gives_rounds_of_fixed hthird 13)
  have hmay : (glossed flatWords : Context World).mayRefer "$mis$q1 $missing[0] $no.".toList :=
    mayRefer_glossed.2 ⟨_, List.mem_cons_self, by decide⟩
  rw [expand, if_pos hmay]
  exact ((rounds_cases gives_goOver_flatWords 14).resolve_left fun h => absurd h.1 (by decide)).2 _ hrest

theorem expand_fixpoint_flatWords :
    Flat flatWords ∧ sigilCount (flatWords.map Glossary.sigil) "$mis$q1 $missing[0] $no.".toList ≤ 15 ∧
      Cache.Faithful .empty ∧
      ((expand (glossed flatWords) "$mis$q1 $missing[0] $no.".toList).run.run (⟨.empty, ()⟩ : Ledger Unit)).1 =
        .ok "a|b a $no.".toList ∧
      ((goOver (glossed flatWords) "a|b a $no.".toList).run.run (⟨.empty, ()⟩ : Ledger Unit)).1 =
        .ok "a|b a $no.".toList ∧
      ((expand (glossed flatWords) "a|b a $no.".toList).run.run (⟨.empty, ()⟩ : Ledger Unit)).1 =
        .ok "a|b a $no.".toList := by
  have hfew : sigilCount (flatWords.map Glossary.sigil) "$mis$q1 $missing[0] $no.".toList ≤ 15 := by decide
  obtain ⟨cache, -, hrun⟩ := gives_expand_flatWords (⟨.empty, ()⟩ : Ledger Unit) Cache.faithful_empty
  have hu := congrArg Prod.fst hrun
  exact ⟨flat_flatWords, hfew, Cache.faithful_empty, hu,
    expand_fixpoint flatWords flat_flatWords _ _ hfew _ ⟨.empty, ()⟩ Cache.faithful_empty Cache.faithful_empty hu⟩

end MudClient.Reference

import MudClient.Proofs.Reference.Form

/-!
# Sigils of one character

* `IsMark`, `Marks`: characters that may be sigils, and sigils that are such characters
* `Free`: a text that holds no sigil
* `Sign`, `SigilsOf`: a mark with the values of the names behind it, and such marks as sigils
* `references_lead`, `references_append`: references do not reach into the text around them
* `nameLength?_marks`: the name before a place, and the sigil before the name
-/

set_option autoImplicit false

namespace MudClient.Reference

open Pattern

/-- A character that stands in no name and is no bracket. -/
structure IsMark (c : Char) : Prop where
  not_name : isNameChar c = false
  not_bracket : c ∉ ['[', ']', '(', ')']

theorem isMark_dollar : IsMark '$' := ⟨by decide, by decide⟩

/-- Every sigil is a single mark. -/
def Marks (sigils : List Text) : Prop := ∀ sigil ∈ sigils, ∃ c, IsMark c ∧ sigil = [c]

/-- None of the characters of a text is a sigil. -/
def Free (sigils : List Text) (t : Text) : Prop := ∀ c ∈ t, [c] ∉ sigils

/-- A mark, and the values of the names behind it. -/
structure Sign where
  char : Char
  lookup : Text → Option Text
  isMark : IsMark char

/-- The sigils are the characters of these signs. -/
def SigilsOf (signs : List Sign) (sigils : List Text) : Prop :=
  ∀ sigil, sigil ∈ sigils ↔ ∃ sign ∈ signs, [sign.char] = sigil

variable {World : Type} {sigils : List Text} {ctx : Context World} {setting : Setting World} {k : NameClass}
  {c d : Char} {before name p s t u : Text}

theorem SigilsOf.marks {signs : List Sign} (h : SigilsOf signs sigils) : Marks sigils := by
  intro sigil hsigil
  obtain ⟨sign, -, rfl⟩ := (h sigil).1 hsigil
  exact ⟨sign.char, sign.isMark, rfl⟩

theorem SigilsOf.free_iff {signs : List Sign} (h : SigilsOf signs sigils) :
    Free sigils t ↔ ∀ sign ∈ signs, sign.char ∉ t := by
  constructor
  · intro hfree sign hsign hc
    exact hfree sign.char hc ((h _).2 ⟨sign, hsign, rfl⟩)
  · intro hfree c hc hsigil
    obtain ⟨sign, hsign, he⟩ := (h _).1 hsigil
    obtain rfl : sign.char = c := by simpa using he
    exact hfree sign hsign hc

/-! ## Where sigils occur -/

theorem occursIn_singleton : Text.occursIn [c] t = decide (c ∈ t) := by
  induction t with
  | nil => rfl
  | cons d t ih =>
    have hleads : Text.leads [c] (d :: t) = decide (c = d) := by
      by_cases h : c = d <;> simp [Text.leads, Text.after?, h]
    rw [Text.occursIn, hleads, ih]
    by_cases h : c = d <;> simp [h]

theorem mem_sigils : p ∈ ctx.sigils ↔ ∃ setting ∈ ctx, setting.sigil = p := by
  simp [Context.sigils]

theorem mayRefer_iff (hm : Marks ctx.sigils) : ctx.mayRefer t ↔ ∃ c ∈ t, [c] ∈ ctx.sigils := by
  simp only [Context.mayRefer, List.any_eq_true]
  constructor
  · rintro ⟨sigil, hs, ho⟩
    obtain ⟨c, -, rfl⟩ := hm sigil hs
    rw [occursIn_singleton, decide_eq_true_eq] at ho
    exact ⟨c, ho, hs⟩
  · rintro ⟨c, hc, hs⟩
    exact ⟨[c], hs, by rw [occursIn_singleton, decide_eq_true_eq]; exact hc⟩

theorem mayRefer_of_free (hm : Marks ctx.sigils) (h : Free ctx.sigils t) : ctx.mayRefer t = false := by
  rw [Bool.eq_false_iff]
  intro hr
  obtain ⟨c, hc, hs⟩ := (mayRefer_iff hm).1 hr
  exact h c hc hs

/-! ## References -/

theorem isNameChar_eq (c : Char) : isNameChar c = NameClass.dotted.holds c := by
  simp [isNameChar, NameClass.holds, NameClass.marks, Bool.or_assoc]

theorem isNameChar_of_holds (h : k.holds c) : isNameChar c = true := by
  rw [isNameChar_eq]
  simp only [NameClass.holds, Bool.or_eq_true] at h ⊢
  refine h.imp_right fun hm => ?_
  cases k <;> simp_all [NameClass.marks]
  exact hm.elim .inl fun h => .inr (.inl h)

theorem holds_eq_false (h : isNameChar c = false) : k.holds c = false := by
  rw [Bool.eq_false_iff]
  intro hk
  rw [isNameChar_of_holds hk] at h
  cases h

theorem nameAt?_of_ne (h : c ≠ d) : nameAt? [c] k (d :: t) = none := by
  simp [nameAt?, Text.after?, h]

/-- Text without a sigil stands in front of the references unchanged. -/
theorem references_lead (h : c ∉ p) : references [c] k (p ++ t) = Piece.chars p ++ references [c] k t := by
  induction p with
  | nil => rfl
  | cons d p ih =>
    obtain ⟨hd, hp⟩ : c ≠ d ∧ c ∉ p := by simpa using h
    rw [List.cons_append, references_char (nameAt?_of_ne hd), ih hp]
    rfl

theorem references_of_notMem (h : c ∉ t) : references [c] k t = Piece.chars t := by
  have hlead := references_lead (k := k) (t := []) h
  rw [List.append_nil] at hlead
  rw [hlead, references, List.append_nil]

theorem nameAt?_append (hs : ∀ d ∈ s.head?, isNameChar d = false) (h : t ≠ []) :
    nameAt? [c] k (t ++ s) = (nameAt? [c] k t).map fun (name, rest) => (name, rest ++ s) := by
  obtain ⟨d, t, rfl⟩ := List.exists_cons_of_ne_nil h
  obtain ⟨htake, hdrop⟩ :=
    Text.takeWhile_append_stop (t := t) (f := k.holds) fun d hd => holds_eq_false (hs d hd)
  by_cases hd : c = d
  · by_cases hname : t.takeWhile k.holds = [] <;> simp [nameAt?, Text.after?, hd, htake, hdrop, hname]
  · rw [nameAt?_of_ne hd, List.cons_append, nameAt?_of_ne hd]
    rfl

/-- The references of a text end where something follows that does not continue a name. -/
theorem references_append (hs : ∀ d ∈ s.head?, isNameChar d = false) :
    references [c] k (t ++ s) = references [c] k t ++ references [c] k s := by
  fun_induction references [c] k t with
  | case1 => rfl
  | case2 d t name rest h hlt ih =>
    have happend := nameAt?_append (c := c) (k := k) hs (List.cons_ne_nil d t)
    rw [h] at happend
    rw [List.cons_append, references_item (t := t ++ s) happend, ih]
    rfl
  | case3 d t h ih =>
    have happend := nameAt?_append (c := c) (k := k) hs (List.cons_ne_nil d t)
    rw [h] at happend
    rw [List.cons_append, references_char (t := t ++ s) happend, ih]
    rfl

/-! ## Names before a place -/

/-- Of sigils of one length the first that stands before a place is the longest one. -/
theorem longestSigil_marks (hm : Marks sigils) (before : Text) :
    longestSigil sigils before = before.head?.bind fun c => if [c] ∈ sigils then some [c] else none := by
  -- No further sigil is longer than one character, so the first one found stays.
  have hkept (c : Char) (sigils : List Text) (hm : Marks sigils) :
      sigils.foldl (fun best sigil =>
        if Text.leads sigil.reverse before && best.all (·.length < sigil.length) then some sigil else best)
        (some [c]) = some [c] := by
    induction sigils with
    | nil => rfl
    | cons sigil sigils ih =>
      obtain ⟨d, -, rfl⟩ := hm sigil List.mem_cons_self
      simpa using ih fun s hs => hm s (List.mem_cons_of_mem _ hs)
  induction sigils with
  | nil => cases before <;> rfl
  | cons sigil sigils ih =>
    obtain ⟨d, -, rfl⟩ := hm sigil List.mem_cons_self
    have hm' : Marks sigils := fun s hs => hm s (List.mem_cons_of_mem _ hs)
    have ih := ih hm'
    simp only [longestSigil, List.foldl_cons] at ih ⊢
    cases before with
    | nil => simpa [Text.leads, Text.after?] using ih
    | cons c before =>
      by_cases hd : d = c
      · subst hd
        simpa [Text.leads, Text.after?] using hkept d sigils hm'
      · simpa [Text.leads, Text.after?, hd, Ne.symm hd] using ih

/-- The name before a place is a run of its characters and the sigil before the run. -/
theorem nameLength?_marks (hm : Marks sigils) (before : Text) :
    nameLength? sigils before =
      if before.takeWhile isNameChar = [] then none
      else (before.dropWhile isNameChar).head?.bind fun c =>
        if [c] ∈ sigils then some ((before.takeWhile isNameChar).length + 1) else none := by
  have hboth : before.takeWhile isNameChar ++ before.dropWhile isNameChar = before :=
    List.takeWhile_append_dropWhile
  have hdrop : before.drop (before.takeWhile isNameChar).length = before.dropWhile isNameChar :=
    (congrArg (List.drop _) hboth).symm.trans List.drop_left
  simp only [nameLength?, hdrop, longestSigil_marks hm, List.isEmpty_iff]
  split
  · rfl
  · cases (before.dropWhile isNameChar).head? with
    | none => rfl
    | some c => by_cases hc : [c] ∈ sigils <;> simp [hc, Nat.add_comm]

theorem nameLength?_le {n : Nat} (hm : Marks sigils) (h : nameLength? sigils before = some n) :
    n ≤ before.length := by
  have hboth : before.takeWhile isNameChar ++ before.dropWhile isNameChar = before :=
    List.takeWhile_append_dropWhile
  rw [nameLength?_marks hm] at h
  split at h
  · cases h
  · obtain ⟨c, hc, h⟩ := Option.bind_eq_some_iff.1 h
    split at h
    · have hlt : 0 < (before.dropWhile isNameChar).length := by
        cases hd : before.dropWhile isNameChar with
        | nil => simp [hd] at hc
        | cons d rest => exact Nat.succ_pos _
      have hlength := congrArg List.length hboth
      simp only [List.length_append, Option.some.injEq] at hlength h
      omega
    · cases h

/-- Before the name that ends at a place, if any, there is no sigil. -/
def Clear (sigils : List Text) (before : Text) : Prop :=
  ∀ c ∈ (before.dropWhile isNameChar).head?, [c] ∉ sigils

theorem clear_of_free (h : Free sigils before) : Clear sigils before := by
  intro c hc
  exact h c (List.dropWhile_subset _ (List.mem_of_mem_head? hc))

theorem clear_cons (hc : [c] ∉ sigils) (h : Clear sigils before) : Clear sigils (c :: before) := by
  intro d hd
  by_cases hn : isNameChar c
  · rw [List.dropWhile_cons_of_pos hn] at hd
    exact h d hd
  · rw [List.dropWhile_cons_of_neg hn] at hd
    exact Option.some.inj hd ▸ hc

theorem clear_append (hp : Free sigils p) (h : Clear sigils before) : Clear sigils (p.reverse ++ before) := by
  induction p generalizing before with
  | nil => exact h
  | cons c p ih =>
    rw [List.reverse_cons, List.append_assoc]
    exact ih (fun d hd => hp d (List.mem_cons_of_mem c hd)) (clear_cons (hp c List.mem_cons_self) h)

/-- Behind text without a sigil that starts no name there is no sigil before the name, whatever came before. -/
theorem clear_behind (hs : Free sigils s) (hne : s ≠ []) (hn : ∀ d ∈ s.head?, isNameChar d = false) :
    Clear sigils (s.reverse ++ before) := by
  obtain ⟨d, s, rfl⟩ := List.exists_cons_of_ne_nil hne
  have hd : Clear sigils (d :: before) := by
    intro c hc
    rw [List.dropWhile_cons_of_neg (by simp [hn d rfl])] at hc
    exact Option.some.inj hc ▸ hs d List.mem_cons_self
  rw [List.reverse_cons, List.append_assoc]
  exact clear_append (fun c hc => hs c (List.mem_cons_of_mem d hc)) hd

theorem nameLength?_of_clear (hm : Marks sigils) (h : Clear sigils before) :
    nameLength? sigils before = none := by
  rw [nameLength?_marks hm]
  split
  · rfl
  · rw [Option.bind_eq_none_iff]
    exact fun c hc => if_neg (h c hc)

/-- Text without a sigil before a name does not change which name it is. -/
theorem nameLength?_append (hm : Marks sigils) (hp : Free sigils p) :
    nameLength? sigils (before ++ p) = nameLength? sigils before := by
  have hdrop := @List.dropWhile_append Char isNameChar before p
  cases hd : before.dropWhile isNameChar with
  | nil =>
    rw [hd] at hdrop
    have hclear : Clear sigils before := by simp [Clear, hd]
    have hclear' : Clear sigils (before ++ p) := by
      rw [Clear, hdrop]
      exact clear_of_free hp
    rw [nameLength?_of_clear hm hclear, nameLength?_of_clear hm hclear']
  | cons c rest =>
    rw [hd] at hdrop
    have hboth := congrArg List.length (List.takeWhile_append_dropWhile (p := isNameChar) (l := before))
    rw [hd, List.length_append, List.length_cons] at hboth
    have htake : (before ++ p).takeWhile isNameChar = before.takeWhile isNameChar := by
      rw [List.takeWhile_append, if_neg (by omega)]
    rw [nameLength?_marks hm, nameLength?_marks hm, htake, hdrop, hd]
    rfl

/-- A name behind a sigil reaches back to the sigil. -/
theorem nameLength?_name (hm : Marks sigils) (hc : [c] ∈ sigils) (hne : name ≠ [])
    (hn : ∀ d ∈ name, isNameChar d) :
    nameLength? sigils (name.reverse ++ c :: before) = some (name.length + 1) := by
  obtain ⟨d, hd, he⟩ := hm [c] hc
  obtain rfl : c = d := by simpa using he
  have hn' : ∀ d ∈ name.reverse, isNameChar d := fun d hd => hn d (List.mem_reverse.1 hd)
  have hmark : ¬isNameChar c := by simp [hd.not_name]
  have htake : (name.reverse ++ c :: before).takeWhile isNameChar = name.reverse := by
    rw [List.takeWhile_append_of_pos hn', List.takeWhile_cons_of_neg hmark, List.append_nil]
  have hdrop : (name.reverse ++ c :: before).dropWhile isNameChar = c :: before := by
    rw [List.dropWhile_append_of_pos hn', List.dropWhile_cons_of_neg hmark]
  rw [nameLength?_marks hm, htake, hdrop, if_neg (by simpa using hne)]
  simp [hc]

/-- At a place without a name before it no form begins, whatever the character. -/
theorem segmentsFrom_clear (hm : Marks sigils) {earlier plain : Text} (h : Clear sigils (plain ++ earlier)) :
    segmentsFrom sigils earlier plain (c :: t) = segmentsFrom sigils earlier (c :: plain) t := by
  refine segmentsFrom_skip fun bracket _ => ?_
  rw [formAt, nameLength?_of_clear hm h]

/-- Text without a sigil is passed over. -/
theorem segmentsFrom_free (hm : Marks sigils) {earlier plain : Text} (hp : Free sigils p)
    (h : Clear sigils (plain ++ earlier)) :
    segmentsFrom sigils earlier plain (p ++ t) = segmentsFrom sigils earlier (p.reverse ++ plain) t := by
  induction p generalizing plain with
  | nil => rfl
  | cons c p ih =>
    have hc : [c] ∉ sigils := hp c List.mem_cons_self
    rw [List.cons_append, segmentsFrom_clear hm h, ih (fun d hd => hp d (List.mem_cons_of_mem c hd))
      (clear_cons hc h)]
    simp

end MudClient.Reference

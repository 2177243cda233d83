import MudClient.Proofs.Reference.Lookup

/-!
# Names behind signs

* `Mention`: a sign and the name behind it
* `Mention.value`: what the first beginning of the name makes of it that has a value
* `foldl_passed_mention`: the passes of its own sign find these beginnings one after another
* `cascade_mention`: the passes of all signs make its value of a mention, in any order
-/

set_option autoImplicit false

namespace MudClient.Reference

open Pattern

/-- A sign and a name behind it. -/
structure Mention where
  sign : Sign
  name : Text
  nonempty : name ≠ []
  isName : ∀ c ∈ name, isNameChar c

namespace Mention

def written (m : Mention) : Text := m.sign.char :: m.name

/-- What a beginning of the name makes of the mention, if it is not empty and has a value. -/
def resolved? (m : Mention) (beginning : Text) : Option Text :=
  if beginning = [] then none
  else (m.sign.lookup beginning).map fun value => value ++ m.name.drop beginning.length

/-- The name is looked up, then its longest beginning without a full stop, then the longest one of letters and
digits. The first that has a value counts, and the rest of the name stays. -/
def value (m : Mention) : Text :=
  ([m.name, m.name.takeWhile NameClass.hyphened.holds, m.name.takeWhile NameClass.alphanumeric.holds].findSome?
    m.resolved?).getD m.written

end Mention

variable {World : Type} {V : Vocabulary} {m : Mention} {k : NameClass} {beginning t : Text}

theorem Mention.notMem_name (m : Mention) (sign : Sign) : sign.char ∉ m.name := by
  intro hc
  have hname := m.isName _ hc
  rw [sign.isMark.not_name] at hname
  cases hname

theorem Mention.notMem_written {other : Sign} (h : other.char ≠ m.sign.char) : other.char ∉ m.written :=
  List.not_mem_cons_of_ne_of_not_mem h (m.notMem_name other)

theorem Mention.noBracket (m : Mention) : ∀ c ∈ m.written, c ∉ ['[', ']', '(', ')'] := by
  intro c hc
  rcases List.mem_cons.1 hc with rfl | hc
  · exact m.sign.isMark.not_bracket
  · have hname := m.isName c hc
    intro hbracket
    simp only [List.mem_cons, List.not_mem_nil, or_false] at hbracket
    rcases hbracket with rfl | rfl | rfl | rfl <;> exact absurd hname (by decide)

theorem Mention.noOpening (m : Mention) : '[' ∉ m.written ∧ '(' ∉ m.written :=
  ⟨fun h => m.noBracket _ h (by decide), fun h => m.noBracket _ h (by decide)⟩

theorem takeWhile_dotted (m : Mention) : m.name.takeWhile NameClass.dotted.holds = m.name := by
  have h : (m.name ++ []).takeWhile NameClass.dotted.holds = m.name ++ [].takeWhile NameClass.dotted.holds :=
    List.takeWhile_append_of_pos fun c hc => (isNameChar_eq c).symm.trans (m.isName c hc)
  rwa [List.takeWhile_nil, List.append_nil] at h

/-! ## The passes of its own sign -/

theorem passed_mention (m : Mention) (k : NameClass) :
    m.sign.passed m.written k = (m.resolved? (m.name.takeWhile k.holds)).getD m.written := by
  have hafter : Text.after? [m.sign.char] m.written = some m.name := Text.after?_eq_some.2 rfl
  by_cases hempty : m.name.takeWhile k.holds = []
  · have hname : nameAt? [m.sign.char] k m.written = none := by simp [nameAt?, hafter, hempty]
    rw [Sign.passed, Mention.written, references_char hname, references_of_notMem (m.notMem_name _),
      Mention.resolved?, if_pos hempty]
    exact congrArg (m.sign.char :: ·) (filled_chars m.sign m.name)
  · have hname : nameAt? [m.sign.char] k m.written =
        some (m.name.takeWhile k.holds, m.name.dropWhile k.holds) := by
      simp [nameAt?, hafter, hempty]
    have hboth : m.name.takeWhile k.holds ++ m.name.dropWhile k.holds = m.name :=
      List.takeWhile_append_dropWhile
    have hdrop : m.name.drop (m.name.takeWhile k.holds).length = m.name.dropWhile k.holds :=
      (congrArg (List.drop _) hboth).symm.trans List.drop_left
    have hrest : m.sign.char ∉ m.name.dropWhile k.holds :=
      fun h => m.notMem_name m.sign (List.dropWhile_subset _ h)
    rw [Sign.passed, Mention.written, references_item hname, references_of_notMem hrest, List.flatMap_cons,
      filled_chars, Mention.resolved?, if_neg hempty, hdrop, Sign.filled]
    cases m.sign.lookup (m.name.takeWhile k.holds) with
    | none => exact congrArg (m.sign.char :: ·) hboth
    | some v => rfl

theorem eq_of_resolved? (h : m.resolved? beginning = some t) :
    ∃ v, m.sign.lookup beginning = some v ∧ t = v ++ m.name.drop beginning.length := by
  rw [Mention.resolved?] at h
  split at h
  · cases h
  · obtain ⟨v, hv, ht⟩ := Option.map_eq_some_iff.1 h
    exact ⟨v, hv, ht.symm⟩

theorem notMem_of_resolved? (hm : m.sign ∈ V.signs) (h : m.resolved? beginning = some t) {other : Sign}
    (hother : other ∈ V.signs) : other.char ∉ t := by
  obtain ⟨v, hv, rfl⟩ := eq_of_resolved? h
  rw [List.mem_append, not_or]
  exact ⟨V.closed _ hm _ v hv other hother, fun hc => m.notMem_name other (List.mem_of_mem_drop hc)⟩

theorem foldl_passed_mention (hm : m.sign ∈ V.signs) (classes : List NameClass) :
    classes.foldl m.sign.passed m.written =
      ((classes.map fun k => m.name.takeWhile k.holds).findSome? m.resolved?).getD m.written := by
  induction classes with
  | nil => rfl
  | cons k classes ih =>
    rw [List.foldl_cons, passed_mention, List.map_cons, List.findSome?_cons]
    cases h : m.resolved? (m.name.takeWhile k.holds) with
    | none => exact ih
    | some t =>
      -- Neither the value nor the rest of the name holds the sign, so the later passes find nothing.
      exact Sign.foldl_passed_of_notMem (notMem_of_resolved? hm h hm) classes

/-! ## The passes of all signs -/

/-- A mention that no value is found for stays as it is; otherwise no sign is left. -/
theorem value_cases (hm : m.sign ∈ V.signs) :
    m.value = m.written ∨ ∀ other ∈ V.signs, other.char ∉ m.value := by
  rw [Mention.value]
  cases h : [m.name, m.name.takeWhile NameClass.hyphened.holds,
      m.name.takeWhile NameClass.alphanumeric.holds].findSome? m.resolved? with
  | none => exact .inl rfl
  | some t =>
    obtain ⟨beginning, -, ht⟩ := List.exists_of_findSome?_eq_some h
    exact .inr fun other hother => notMem_of_resolved? hm ht hother

theorem cascade_mention (hm : m.sign ∈ V.signs) : cascade V.signs m.written = m.value := by
  have hown : m.sign.cascade m.written = m.value := by
    rw [Sign.cascade, foldl_passed_mention hm]
    simp only [List.map_cons, List.map_nil, takeWhile_dotted]
    rfl
  -- The signs before and behind its own do not stand in the mention, nor in what its own makes of it.
  have hdistinct := V.distinct
  obtain ⟨before, after, hsigns⟩ := List.append_of_mem hm
  rw [hsigns, List.map_append, List.map_cons, List.perm_middle.nodup_iff, List.nodup_cons,
    ← List.map_append] at hdistinct
  have hne {other : Sign} (h : other ∈ before ∨ other ∈ after) : other.char ≠ m.sign.char :=
    fun he => hdistinct.1 (he ▸ List.mem_map_of_mem (List.mem_append.2 h))
  have hbefore : cascade before m.written = m.written :=
    cascade_of_free fun other h => Mention.notMem_written (hne (.inl h))
  have hafter : cascade after m.value = m.value := by
    refine cascade_of_free fun other h => ?_
    rcases value_cases hm with hvalue | hfree
    · rw [hvalue]
      exact Mention.notMem_written (hne (.inr h))
    · exact hfree other (by simp [hsigns, h])
  calc
    cascade V.signs m.written = cascade after (m.sign.cascade (cascade before m.written)) := by
      rw [hsigns, cascade, List.foldl_append, List.foldl_cons]
      rfl
    _ = m.value := by rw [hbefore, hown, hafter]

theorem cascade_value (hm : m.sign ∈ V.signs) : cascade V.signs m.value = m.value := by
  rcases value_cases hm with hvalue | hfree
  · rw [hvalue, cascade_mention hm, hvalue]
  · exact cascade_of_free hfree

/-- The list of directions and the places in it, mentioned. -/
def ways : Mention := ⟨directions, ['w', 'a', 'y'], by decide, List.all_eq_true.1 rfl⟩

def places : Mention := ⟨steps, ['a', '.', 'b'], by decide, List.all_eq_true.1 rfl⟩

end MudClient.Reference

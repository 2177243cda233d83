import MudClient.Proofs.Pattern.Matching
import MudClient.Proofs.Pattern.Reading
import MudClient.Reference.Cascade
import MudClient.Reference.Segment

/-!
# The patterns for references

* `NameClass`: the three classes of names, with their members
* `referenceRegex`: a sigil, then one or more characters of a class
* `read_referencePattern`: every pattern for references can be read, whatever the sigil
-/

set_option autoImplicit false

namespace MudClient.Reference

open Pattern

/-! ## Classes of names -/

/-- The classes of names, from the most to the least permissive one. -/
inductive NameClass
  | dotted
  | hyphened
  | alphanumeric
deriving DecidableEq

namespace NameClass

/-- What stands between the brackets of a class. -/
def inside : NameClass → Text
  | dotted => ['a', '-', 'z', 'A', '-', 'Z', '0', '-', '9', '_', '\\', '-', '.']
  | hyphened => ['a', '-', 'z', 'A', '-', 'Z', '0', '-', '9', '_', '\\', '-']
  | alphanumeric => ['a', '-', 'z', 'A', '-', 'Z', '0', '-', '9']

def source (k : NameClass) : Text :=
  '[' :: (k.inside ++ [']', '+'])

/-- The characters of a class besides ASCII letters and digits. -/
def marks : NameClass → List Char
  | dotted => ['_', '-', '.']
  | hyphened => ['_', '-']
  | alphanumeric => []

def members (k : NameClass) : List ClassItem :=
  [.range 'a'.toNat 'z'.toNat, .range 'A'.toNat 'Z'.toNat, .range '0'.toNat '9'.toNat] ++
    k.marks.map fun c => .code c.toNat

def test (k : NameClass) : CharTest :=
  ⟨k.members, false, .exact, false⟩

def holds (k : NameClass) (c : Char) : Bool :=
  c.isAlphanum || k.marks.contains c

end NameClass

open NameClass in
theorem nameClasses_eq : nameClasses = [dotted, hyphened, alphanumeric].map source := rfl

variable {names : CharacterNames} {k : NameClass} {sigil rest : Text} {i opening : Nat} {c : Char}

theorem readsSet_lettersAndDigits {more : Text} {all : List ClassItem} {s : Source} (hmore : more ≠ ['\\'])
    (h : ReadsSet names opening (NameClass.members .alphanumeric) ⟨i + 9, more⟩ all s) :
    ReadsSet names opening [] ⟨i, 'a' :: '-' :: 'z' :: 'A' :: '-' :: 'Z' :: '0' :: '-' :: '9' :: more⟩ all s := by
  refine readsSet_range (by decide) (by decide) (by decide) (by decide) (by decide) (by simp) ?_
  refine readsSet_range (by decide) (by decide) (by decide) (by decide) (by decide) (by simp) ?_
  exact readsSet_range (by decide) (by decide) (by decide) (by decide) (by decide) hmore h

theorem readsSet_inside (hrest : rest ≠ ['\\']) :
    ∃ j, ReadsSet names opening [] ⟨i, k.inside ++ ']' :: rest⟩ k.members ⟨j, rest⟩ := by
  cases k with
  | alphanumeric =>
    exact ⟨_, readsSet_lettersAndDigits (by simp) (readsSet_end (by simp [NameClass.members]) hrest)⟩
  | hyphened =>
    refine ⟨i + 13, readsSet_lettersAndDigits (by simp) ?_⟩
    refine readsSet_char (by decide) (by decide) (by simp) nextIs_escaped ?_
    refine readsSet_escaped (by decide) (by simp) (nextIs_plain (by decide)) ?_
    exact readsSet_end (by simp) hrest
  | dotted =>
    refine ⟨i + 14, readsSet_lettersAndDigits (by simp) ?_⟩
    refine readsSet_char (by decide) (by decide) (by simp) nextIs_escaped ?_
    refine readsSet_escaped (by decide) (by simp) (nextIs_plain (by decide)) ?_
    refine readsSet_char (by decide) (by decide) (by simp) (nextIs_plain (by decide)) ?_
    exact readsSet_end (by simp) hrest

theorem passes_test : k.test.passes c = k.holds c := by
  have hrange (a b : Char) : (decide (a.toNat ≤ c.toNat) && decide (c.toNat ≤ b.toNat)) =
      decide (a ≤ c ∧ c ≤ b) := by
    rw [Bool.eq_iff_iff]
    simp [Char.le_def, UInt32.le_iff_toNat_le]
  have hletters : c.isAlphanum = (decide ('a' ≤ c ∧ c ≤ 'z') || (decide ('A' ≤ c ∧ c ≤ 'Z') ||
      decide ('0' ≤ c ∧ c ≤ '9'))) := by
    have hranges : c.isAlphanum =
        (decide ('A' ≤ c ∧ c ≤ 'Z') || decide ('a' ≤ c) && decide (c ≤ 'z') ||
          decide ('0' ≤ c) && decide (c ≤ '9')) := rfl
    rw [hranges, ← Bool.decide_and, ← Bool.decide_and, ← Bool.or_assoc,
      Bool.or_comm (decide ('A' ≤ c ∧ _))]
  have hmark (d : Char) : (c.toNat == d.toNat) = (c == d) := by
    rw [Bool.eq_iff_iff, beq_iff_eq, beq_iff_eq]
    exact Char.toNat_inj
  simp only [CharTest.passes, NameClass.test, NameClass.members, NameClass.holds, List.any_append,
    List.any_map, Function.comp_def, ClassItem.holds, List.any_cons, List.any_nil, if_true, hrange, hmark,
    hletters, List.contains_eq_any_beq, Bool.or_false, Bool.bne_false]

/-! ## The patterns -/

/-- A sigil and a name of a class: the whole is the first group, the name the second one. -/
def referenceRegex (sigil : Text) (k : NameClass) : Regex where
  node := .group 1 (Node.all (sigil.map (fun c => .char (only c)) ++
    [.group 2 (.repeated .greedy 1 none (.char k.test))]))
  groupCount := 2
  names := []

theorem nextIs_escaped_ne {t : Text} (hspecial : Text.specialChars.contains c)
    (hrest : Source.nextIs ⟨i, rest⟩ c = false) :
    Source.nextIs ⟨i, Text.escaped t ++ rest⟩ c = false := by
  cases t with
  | nil => exact hrest
  | cons d t =>
    simp only [Text.escaped, List.flatMap_cons]
    split
    · exact nextIs_escaped
    · next hd =>
      have hne : d ≠ '\\' := by rintro rfl; exact hd (by decide)
      refine (nextIs_plain hne).trans (decide_eq_false ?_)
      rintro rfl
      exact hd hspecial

theorem fault?_all {template : Bool} {nodes : List Node} :
    (Node.all nodes).fault? template = nodes.findSome? (Node.fault? template) := by
  fun_induction Node.all nodes with
  | case1 => rfl
  | case2 n => simp
  | case3 n m rest ih =>
    rw [Node.fault?, ih]
    cases h : n.fault? template <;> simp [List.findSome?_cons, h]

/-- The reading in which a sigil and a name of a class have been read. -/
theorem run_referencePattern (names : CharacterNames) (sigil : Text) (k : NameClass) :
    ∃ r j, (Reading.start names (.ofBits 0)).run ⟨0, referencePattern sigil k.source⟩ = .ok (r, ⟨j, []⟩) ∧
      r.outer = [] ∧ r.frame.flags = .ofBits 0 ∧ r.frame.body = (referenceRegex sigil k).node ∧
      r.groups.widths.length = 2 ∧ r.groups.names = [] ∧ r.groups.conditions = [] := by
  have hsource : referencePattern sigil k.source =
      '(' :: (Text.escaped sigil ++ '(' :: '[' :: (k.inside ++ ']' :: '+' :: [')', ')'])) := by
    simp [referencePattern, NameClass.source]
  have hclass : k.inside ++ ']' :: '+' :: [')', ')'] ≠ ['\\'] := by
    cases k <;> simp [NameClass.inside]
  have hcaret (i : Nat) : Source.nextIs ⟨i, k.inside ++ ']' :: '+' :: [')', ')']⟩ '^' = false := by
    cases k <;> exact nextIs_plain (by decide)
  obtain ⟨j₁, hsigil⟩ :=
    Reading.run_escaped (r := (Reading.start names (.ofBits 0)).afterOpen 0) (i := 1) (t := sigil) rfl
      (by simp : '(' :: '[' :: (k.inside ++ ']' :: '+' :: [')', ')']) ≠ ['\\'])
  obtain ⟨j₂, hset⟩ : ∃ j, ReadsSet names (j₁ + 1) [] ⟨j₁ + 1 + 1, k.inside ++ ']' :: '+' :: [')', ')']⟩
      k.members ⟨j, '+' :: [')', ')']⟩ := readsSet_inside (by simp)
  -- A parenthesis, the sigil, a parenthesis, the class with its quantifier, and both parentheses again.
  rw [hsource, Reading.run_of_steps (Reading.steps_open rfl (Reading.ne_backslash_escaped (by simp))
    (nextIs_escaped_ne (by decide) (nextIs_plain (by decide)))), hsigil,
    Reading.run_of_steps (Reading.steps_open rfl (by simp) (nextIs_plain (by decide))),
    Reading.run_of_steps (Reading.steps_set rfl hclass (hcaret _) hset),
    Reading.run_of_steps (Reading.steps_more rfl rfl (by simp) (nextIs_plain (by decide))
      (nextIs_plain (by decide))),
    Reading.run_of_steps (Reading.steps_close rfl (by simp)),
    Reading.run_of_steps (Reading.steps_close rfl (by simp)), Reading.run_end]
  refine ⟨_, _, rfl, rfl, rfl, ?_, rfl, rfl, rfl⟩
  simp only [Reading.afterClose, Reading.afterOpen, Reading.pushText, Reading.pushTest, Reading.push,
    Reading.enter, Reading.start, Reading.leave, Frame.body, Frame.sequence, List.reverse_cons,
    List.reverse_nil, List.nil_append, List.map_append, List.map_cons, List.map_nil, List.append_nil,
    Node.first]
  rw [← List.map_reverse, List.reverse_reverse, List.map_map]
  rfl

/-- Every pattern for references can be read, whatever the sigil. -/
theorem read_referencePattern (names : CharacterNames) (sigil : Text) (k : NameClass) :
    Regex.read names (referencePattern sigil k.source) 0 = .ok (referenceRegex sigil k) := by
  have hstart : Source.ofText (referencePattern sigil k.source) =
      .ok ⟨0, referencePattern sigil k.source⟩ := by
    simp [Source.ofText, referencePattern]
  obtain ⟨r, j, hrun, houter, hflags, hbody, hwidths, hnames, hconditions⟩ :=
    run_referencePattern names sigil k
  have hfault : (referenceRegex sigil k).node.fault? false = none := by
    refine fault?_all.trans (List.findSome?_eq_none_iff.2 fun node hnode => ?_)
    simp only [List.mem_append, List.mem_map, List.mem_singleton] at hnode
    rcases hnode with ⟨c, -, rfl⟩ | rfl <;> rfl
  have hlocale : (Flags.ofBits 0).locale = false := rfl
  have hascii : (Flags.ofBits 0).ascii = false := rfl
  have htemplate : (Flags.ofBits 0).template = false := rfl
  have hfit : Flags.fit 0 = true := rfl
  simp [Regex.read, hstart, bind, Except.bind, hrun, houter, hflags, hlocale, hascii, hconditions, hbody,
    htemplate, hfault, hfit, hwidths, hnames, pure, Except.pure]
  rfl

end MudClient.Reference

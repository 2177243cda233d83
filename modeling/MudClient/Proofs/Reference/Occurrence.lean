import Mathlib.Order.Bounds.Basic
import MudClient.Proofs.Reference.Pass

/-!
# Occurrences in a text

* `RefersAt`: a sigil with a character of a class behind it stands at a place
* `LeftToRight`: the occurrences that are found one after the other, each as early and as long as can be
* `replaced`: a text in which occurrences have given way to their values
* `leftToRight_references`, `replaced_references`: the pieces of a text say the same
* `run_pass_recorded`: a pass finds these occurrences, asks for them from the last to the first, and
  replaces them
-/

set_option autoImplicit false

namespace MudClient.Reference

open Pattern

variable {sigil t u name rest : Text} {k : NameClass} {c : Char} {lookup : Text → Option Text} {i lo : Nat}

/-! ## Occurrences by position -/

/-- A name behind a sigil, and where the sigil starts. -/
@[ext] structure Occurrence where
  start : Nat
  name : Text

namespace Occurrence

def stop (sigil : Text) (o : Occurrence) : Nat :=
  o.start + sigil.length + o.name.length

/-- The match for an occurrence: the whole, the whole as a group, and the name. -/
def found (sigil : Text) (o : Occurrence) : Match :=
  ⟨⟨o.start, o.stop sigil⟩, [some ⟨o.start, o.stop sigil⟩, some ⟨o.start + sigil.length, o.stop sigil⟩]⟩

end Occurrence

/-- The sigil stands at this place, and a character of the class right behind it. -/
def RefersAt (sigil : Text) (k : NameClass) (t : Text) (i : Nat) : Prop :=
  sigil <+: t.drop i ∧ ∃ c, t[i + sigil.length]? = some c ∧ k.holds c

/-- From `lo` on each occurrence is at the first place, has the whole run of characters of the class as its
name, and the next ones stand behind it. -/
def LeftToRight (sigil : Text) (k : NameClass) (t : Text) : Nat → List Occurrence → Prop
  | lo, [] => ∀ i, lo ≤ i → ¬RefersAt sigil k t i
  | lo, o :: more =>
    IsLeast {i | lo ≤ i ∧ RefersAt sigil k t i} o.start ∧
      o.name = (t.drop (o.start + sigil.length)).takeWhile k.holds ∧
      LeftToRight sigil k t (o.stop sigil) more

/-- The text from `lo` on. An occurrence whose name has a value gives way to it, all else stays. -/
def replaced (sigil : Text) (lookup : Text → Option Text) (t : Text) : Nat → List Occurrence → Text
  | lo, [] => t.drop lo
  | lo, o :: more =>
    (t.drop lo).take (o.start - lo) ++
      ((lookup o.name).getD ((t.drop o.start).take (o.stop sigil - o.start)) ++
        replaced sigil lookup t (o.stop sigil) more)

theorem leftToRight_unique {occurrences others : List Occurrence} (h : LeftToRight sigil k t lo occurrences)
    (h' : LeftToRight sigil k t lo others) : others = occurrences := by
  induction occurrences generalizing lo others with
  | nil =>
    cases others with
    | nil => rfl
    | cons o others => exact absurd h'.1.1.2 (h o.start h'.1.1.1)
  | cons o occurrences ih =>
    cases others with
    | nil => exact absurd h.1.1.2 (h' o.start h.1.1.1)
    | cons o' others =>
      have hstart : o'.start = o.start := h'.1.unique h.1
      have hname : o'.name = o.name := by rw [h'.2.1, h.2.1, hstart]
      obtain rfl : o' = o := Occurrence.ext hstart hname
      rw [ih h.2.2 h'.2.2]

theorem text?_of_leftToRight {occurrences : List Occurrence} (h : LeftToRight sigil k t lo occurrences) :
    ∀ o ∈ occurrences, (o.found sigil).text? t 2 = some o.name := by
  induction occurrences generalizing lo with
  | nil => exact nofun
  | cons o more ih =>
    obtain ⟨-, hname, hmore⟩ := h
    refine List.forall_mem_cons.2 ⟨?_, ih hmore⟩
    have hprefix : o.name <+: t.drop (o.start + sigil.length) := hname ▸ List.takeWhile_prefix _
    have hlength : o.stop sigil - (o.start + sigil.length) = o.name.length := Nat.add_sub_cancel_left _ _
    show some ((t.drop (o.start + sigil.length)).take (o.stop sigil - (o.start + sigil.length))) = _
    rw [hlength, ← List.prefix_iff_eq_take.1 hprefix]

/-! ## Occurrences and pieces -/

/-- The names among pieces that start at `i`, with their places. -/
def occurrencesFrom (sigil : Text) : Nat → List (Piece Text) → List Occurrence
  | _, [] => []
  | i, .char _ :: pieces => occurrencesFrom sigil (i + 1) pieces
  | i, .item name :: pieces => ⟨i, name⟩ :: occurrencesFrom sigil (i + sigil.length + name.length) pieces

theorem drop_succ_eq (h : t.drop i = c :: u) : t.drop (i + 1) = u := by
  rw [← List.drop_drop, h, List.drop_one, List.tail_cons]

theorem matchesFrom_eq_map (sigil : Text) (i : Nat) (pieces : List (Piece Text)) :
    matchesFrom sigil i pieces = (occurrencesFrom sigil i pieces).map (Occurrence.found sigil) := by
  induction pieces generalizing i with
  | nil => rfl
  | cons piece pieces ih =>
    cases piece with
    | char c => exact ih (i + 1)
    | item name => exact congrArg (_ :: ·) (ih (i + sigil.length + name.length))

theorem refersAt_iff (h : t.drop i = u) : RefersAt sigil k t i ↔ (nameAt? sigil k u).isSome := by
  have hget : t[i + sigil.length]? = u[sigil.length]? := by rw [← h, List.getElem?_drop]
  rw [RefersAt, h, hget, Option.isSome_iff_exists]
  constructor
  · rintro ⟨⟨rest, rfl⟩, c, hc, hholds⟩
    rw [List.getElem?_append_right (Nat.le_refl _), Nat.sub_self] at hc
    have hne : rest.takeWhile k.holds ≠ [] := by
      cases rest with
      | nil => cases hc
      | cons d rest =>
        cases hc
        rw [List.takeWhile_cons_of_pos hholds]
        exact List.cons_ne_nil _ _
    refine ⟨(rest.takeWhile k.holds, rest.dropWhile k.holds), nameAt?_eq_some.2 ⟨?_, hne, ?_⟩⟩
    · rw [List.takeWhile_append_dropWhile]
    · rw [List.takeWhile_append_dropWhile]
  · rintro ⟨⟨name, rest⟩, hname⟩
    obtain ⟨rfl, hne, hrun⟩ := nameAt?_eq_some.1 hname
    obtain ⟨d, more, rfl⟩ := List.exists_cons_of_ne_nil hne
    have hall : (d :: more).all k.holds := hrun ▸ List.all_takeWhile
    have hholds : k.holds d := List.all_eq_true.1 hall d List.mem_cons_self
    refine ⟨List.prefix_append _ _, d, ?_, hholds⟩
    rw [List.getElem?_append_right (Nat.le_refl _), Nat.sub_self]
    rfl

/-- A place where nothing refers can be passed over. -/
theorem leftToRight_of_succ {occurrences : List Occurrence} (hi : ¬RefersAt sigil k t i)
    (h : LeftToRight sigil k t (i + 1) occurrences) : LeftToRight sigil k t i occurrences := by
  have hnext : ∀ j, i ≤ j ∧ RefersAt sigil k t j ↔ i + 1 ≤ j ∧ RefersAt sigil k t j := by
    intro j
    refine and_congr_left fun hj => ⟨fun hle => Nat.lt_of_le_of_ne hle ?_, Nat.le_of_succ_le⟩
    rintro rfl
    exact hi hj
  cases occurrences with
  | nil => exact fun j hle hj => h j ((hnext j).1 ⟨hle, hj⟩).1 hj
  | cons o more =>
    obtain ⟨hleast, hmore⟩ := h
    simp only [← hnext] at hleast
    exact ⟨hleast, hmore⟩

theorem leftToRight_references (h : t.drop i = u) :
    LeftToRight sigil k t i (occurrencesFrom sigil i (references sigil k u)) := by
  fun_induction references sigil k u generalizing i with
  | case1 =>
    intro j hle hj
    have hnil : t.drop j = [] := List.drop_eq_nil_of_le (Nat.le_trans (List.drop_eq_nil_iff.1 h) hle)
    rw [refersAt_iff hnil, nameAt?_nil] at hj
    cases hj
  | case2 c u name rest hname hlt ih =>
    obtain ⟨hu, hne, hrun⟩ := nameAt?_eq_some.1 hname
    have hbehind : t.drop (i + sigil.length) = name ++ rest := by
      rw [← List.drop_drop, h, hu, List.drop_left]
    have hrest : t.drop (i + sigil.length + name.length) = rest := by
      rw [← List.drop_drop, hbehind, List.drop_left]
    have hrefers : RefersAt sigil k t i := (refersAt_iff h).2 (by rw [hname]; rfl)
    refine ⟨⟨⟨Nat.le_refl i, hrefers⟩, fun j hj => hj.1⟩, ?_, ih hrest⟩
    rw [hbehind, hrun]
  | case3 c u hname ih =>
    have hnot : ¬RefersAt sigil k t i := by
      rw [refersAt_iff h, hname]
      exact Bool.false_ne_true
    exact leftToRight_of_succ hnot (ih (drop_succ_eq h))

/-! ## The text with its values -/

/-- What a piece becomes. -/
def filled (sigil : Text) (lookup : Text → Option Text) : Piece Text → Text
  | .char c => [c]
  | .item name => (lookup name).getD (sigil ++ name)

theorem le_start_occurrencesFrom (sigil : Text) (i : Nat) (pieces : List (Piece Text)) :
    ∀ o ∈ (occurrencesFrom sigil i pieces).head?, i ≤ o.start := by
  induction pieces generalizing i with
  | nil => exact nofun
  | cons piece pieces ih =>
    cases piece with
    | char c => exact fun o ho => Nat.le_of_succ_le (ih (i + 1) o ho)
    | item name =>
      intro o ho
      cases ho
      exact Nat.le_refl i

theorem replaced_cons {occurrences : List Occurrence} (h : t.drop lo = c :: u)
    (hstart : ∀ o ∈ occurrences.head?, lo < o.start) :
    replaced sigil lookup t lo occurrences = c :: replaced sigil lookup t (lo + 1) occurrences := by
  have hnext : t.drop (lo + 1) = u := drop_succ_eq h
  cases occurrences with
  | nil => rw [replaced, replaced, h, hnext]
  | cons o more =>
    have hlt := hstart o rfl
    obtain ⟨n, hn⟩ : ∃ n, o.start - lo = n + 1 := ⟨o.start - lo - 1, by omega⟩
    have hn' : o.start - (lo + 1) = n := by omega
    rw [replaced, replaced, h, hnext, hn, hn', List.take_succ_cons, List.cons_append]

theorem replaced_occurrencesFrom (pieces : List (Piece Text)) (h : t.drop i = written sigil pieces) :
    replaced sigil lookup t i (occurrencesFrom sigil i pieces) = pieces.flatMap (filled sigil lookup) := by
  induction pieces generalizing i with
  | nil => exact h
  | cons piece pieces ih =>
    cases piece with
    | char c =>
      have hcons : t.drop i = c :: written sigil pieces := h
      have hstart := le_start_occurrencesFrom sigil (i + 1) pieces
      rw [occurrencesFrom, replaced_cons hcons hstart, ih (drop_succ_eq hcons), List.flatMap_cons]
      rfl
    | item name =>
      have happend : t.drop i = (sigil ++ name) ++ written sigil pieces := h
      have hnext : t.drop (i + sigil.length + name.length) = written sigil pieces := by
        rw [Nat.add_assoc, ← List.length_append, ← List.drop_drop, happend, List.drop_left]
      have hlength : i + sigil.length + name.length - i = (sigil ++ name).length := by
        rw [List.length_append]
        omega
      rw [occurrencesFrom, replaced, Nat.sub_self, List.take_zero, Occurrence.stop, hlength, happend,
        List.take_left, ih hnext, List.flatMap_cons]
      rfl

/-! ## A pass that keeps a record -/

/-- The question for a name that a setting with this number puts to its resolver. -/
def callFor (number : Nat) (lookup : Text → Option Text) (o : Occurrence) : Call :=
  ⟨number, o.name, lookup o.name⟩

theorem run_ask_recorded (number : Nat) (sigil : Text) (lookup : Text → Option Text) (key : Text)
    (ledger : Ledger (List Call)) :
    ((Setting.recorded number sigil lookup).ask key).run.run ledger =
      (.ok (lookup key), { ledger with world := ⟨number, key, lookup key⟩ :: ledger.world }) := rfl

theorem run_rewrite_recorded (number : Nat) (sigil : Text) (lookup : Text → Option Text) (i : Nat)
    (pieces : List (Piece Text)) (ledger : Ledger (List Call)) :
    (rewrite (.recorded number sigil lookup) pieces).run.run ledger =
      (.ok (pieces.flatMap (filled sigil lookup)),
        { ledger with
          world := (occurrencesFrom sigil i pieces).map (callFor number lookup) ++ ledger.world }) := by
  induction pieces generalizing i with
  | nil => rfl
  | cons piece pieces ih =>
    cases piece with
    | char c =>
      rw [rewrite, run_bind, ih (i + 1)]
      rfl
    | item name =>
      rw [rewrite, run_bind, ih (i + sigil.length + name.length)]
      dsimp only
      rw [run_bind, run_ask_recorded]
      rfl

/-- Whatever the sigil, its pattern can be read and finds the occurrences of the sigil with a name from left
to right. A pass asks for each of them once, the last one first, and changes nothing besides them. -/
theorem run_pass_recorded (number : Nat) (sigil : Text) (k : NameClass) (lookup : Text → Option Text) (t : Text)
    (ledger : Ledger (List Call)) (h : ledger.cache.Faithful) :
    ∃ occurrences, LeftToRight sigil k t 0 occurrences ∧
      (∀ others, LeftToRight sigil k t 0 others → others = occurrences) ∧
      (∃ re, Regex.read ledger.cache.names (referencePattern sigil k.source) 0 = .ok re ∧
        re.all t = occurrences.map (Occurrence.found sigil)) ∧
      (∀ o ∈ occurrences, (o.found sigil).text? t 2 = some o.name) ∧
      (pass (.recorded number sigil lookup) t k.source).run.run ledger =
        (.ok (replaced sigil lookup t 0 occurrences),
          ⟨(ledger.cache.read (referencePattern sigil k.source) 0).2,
            occurrences.map (callFor number lookup) ++ ledger.world⟩) := by
  have hfound : LeftToRight sigil k t 0 (occurrencesFrom sigil 0 (references sigil k t)) :=
    leftToRight_references rfl
  have hreplaced : replaced sigil lookup t 0 (occurrencesFrom sigil 0 (references sigil k t)) =
      (references sigil k t).flatMap (filled sigil lookup) :=
    replaced_occurrencesFrom _ written_references.symm
  refine ⟨_, hfound, fun others => leftToRight_unique hfound, ?_, text?_of_leftToRight hfound, ?_⟩
  · refine ⟨referenceRegex sigil k, read_referencePattern _ sigil k, ?_⟩
    rw [all_referenceRegex, matchesFrom_eq_map]
  · rw [run_pass _ _ _ h, hreplaced]
    exact run_rewrite_recorded number sigil lookup 0 _ _

/-- A sigil of characters that mean something in patterns, twice with a name behind it. The first name has a
value, which is longer than the name and holds the sigil. -/
theorem run_pass_recorded_brackets :
    let sigil : Text := "[.".toList
    let lookup : Text → Option Text := fun key => if key = ['x', '1'] then some "<[.x>".toList else none
    let t : Text := "[.x1 [.[.y!".toList
    Cache.Faithful .empty ∧
      ((pass (.recorded 7 sigil lookup) t NameClass.dotted.source).run.run ⟨.empty, []⟩).1 =
        .ok "<[.x> [.[.y!".toList ∧
      ((pass (.recorded 7 sigil lookup) t NameClass.dotted.source).run.run ⟨.empty, []⟩).2.world =
        [⟨7, ['x', '1'], some "<[.x>".toList⟩, ⟨7, ['y'], none⟩] := by
  intro sigil lookup t
  obtain ⟨occurrences, -, hunique, -, -, hrun⟩ :=
    run_pass_recorded 7 sigil .dotted lookup t ⟨.empty, []⟩ Cache.faithful_empty
  have hpieces : references "[.".toList .dotted "[.x1 [.[.y!".toList =
      [.item ['x', '1'], .char ' ', .char '[', .char '.', .item ['y'], .char '!'] := by
    decide +kernel
  have hfound : LeftToRight "[.".toList .dotted "[.x1 [.[.y!".toList 0
      (occurrencesFrom "[.".toList 0 (references "[.".toList .dotted "[.x1 [.[.y!".toList)) :=
    leftToRight_references rfl
  rw [hpieces] at hfound
  have hoccurrences : occurrences = [⟨0, ['x', '1']⟩, ⟨7, ['y']⟩] := (hunique _ hfound).symm
  rw [hrun, hoccurrences]
  exact ⟨Cache.faithful_empty, by decide, by decide⟩

end MudClient.Reference

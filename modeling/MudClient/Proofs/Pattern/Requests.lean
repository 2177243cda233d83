import Mathlib.Data.List.Induction
import MudClient.Proofs.Pattern.Cache

/-!
# Requests to a cache

* `Cache.asked`: a cache after requests
* `Cache.toList_read`: reading adds the pattern that was not there and can be read, last
* `Request.readable?`, `keys_asked`: the keys are those of the patterns that could be read, each once
* `Request.notice?`, `log_asked`: the log has one message for each request for a pattern with a problem
* `reported`, `log_answer`: the log grows by the message of an answer, if it has one
* `answer_asked`: a cache answers as if it read every pattern anew
* `RefusedSilently`, `answer_asked_refused`: some patterns are refused without a message in the log
-/

set_option autoImplicit false

namespace MudClient.Pattern

variable {cache : Cache} {source : Text} {bits : Int} {what : Use} {request : Request}

namespace Request

/-- The source and settings of a request for a pattern that can be read. -/
def readable? (names : CharacterNames) : Request → Option (Text × Int)
  | use source bits _ => if (Regex.read names source bits).isOk then some (source, bits) else none
  | _ => none

/-- The message about a request for a pattern that has a problem. -/
def notice? (names : CharacterNames) : Request → Option String
  | use source bits _ =>
    match Regex.read names source bits with
    | .error (.problem p) => some ("Invalid pattern '" ++ String.ofList source ++ "': " ++ p.reason source)
    | _ => none
  | _ => none

end Request

instance decidableEqRead : DecidableEq (Except Refusal Regex)
  | .ok re, .ok re' => decidable_of_iff (re = re') (Except.ok.injEq re re').symm.to_iff
  | .error refusal, .error refusal' =>
    decidable_of_iff (refusal = refusal') (Except.error.injEq refusal refusal').symm.to_iff
  | .ok _, .error _ => isFalse nofun
  | .error _, .ok _ => isFalse nofun

theorem filterMap_concat {α β : Type} (f : α → Option β) (as : List α) (a : α) :
    (as ++ [a]).filterMap f = as.filterMap f ++ (f a).toList := by
  rw [List.filterMap_append]
  cases h : f a with
  | none => rw [List.filterMap_cons_none h, List.filterMap_nil, Option.toList_none]
  | some b => rw [List.filterMap_cons_some h, List.filterMap_nil, Option.toList_some]

namespace Cache

/-- The cache after requests to a new one. -/
def asked (names : CharacterNames) (requests : List Request) : Cache :=
  requests.foldl (fun cache request => (cache.answer request).2) (new names)

theorem asked_concat (names : CharacterNames) (requests : List Request) (request : Request) :
    asked names (requests ++ [request]) = ((asked names requests).answer request).2 := by
  rw [asked, List.foldl_append]
  rfl

/-! ## One request -/

theorem toList_read (cache : Cache) (source : Text) (bits : Int) :
    (cache.read source bits).2.patterns.toList = cache.patterns.toList ++
      if (source, bits) ∈ cache.keys then []
      else
        match Regex.read cache.names source bits with
        | .ok re => [((source, bits), re)]
        | .error _ => [] := by
  rw [read]
  cases hget : cache.get? (source, bits) with
  | some re =>
    have hkey : (source, bits) ∈ cache.keys := by
      by_contra hkey
      rw [(cache.get?_eq_none_iff _).2 hkey] at hget
      cases hget
    rw [if_pos hkey, List.append_nil]
  | none =>
    have hkey := (cache.get?_eq_none_iff _).1 hget
    rw [if_neg hkey]
    cases Regex.read cache.names source bits with
    | ok re => exact OrderedMap.toList_insert_of_notMem hkey re
    | error refusal => exact (List.append_nil _).symm

theorem names_read (cache : Cache) (source : Text) (bits : Int) :
    (cache.read source bits).2.names = cache.names := by
  rw [read]
  split
  · rfl
  · split <;> rfl

/-- A pattern that cannot be read leaves the cache as it is, but for the log. -/
theorem read_of_error {refusal : Refusal} (h : cache.Faithful)
    (hread : Regex.read cache.names source bits = .error refusal) :
    cache.read source bits =
      (.error refusal, { cache with log := cache.log ++ (refusal.notice? source).toList }) := by
  rw [read]
  cases hget : cache.get? (source, bits) with
  | some re =>
    have hre := h source bits re hget
    rw [hread] at hre
    cases hre
  | none => rw [hread]

theorem mem_read_of_ok {re : Regex} (h : cache.Faithful) (hread : Regex.read cache.names source bits = .ok re) :
    ((source, bits), re) ∈ (cache.read source bits).2.patterns.toList := by
  rw [toList_read, List.mem_append]
  by_cases hkey : (source, bits) ∈ cache.keys
  · left
    obtain ⟨⟨key, re'⟩, hmem, rfl⟩ := List.mem_map.1 hkey
    have hre' := h source bits re' ((cache.patterns.get?_eq_some_iff _ _).2 hmem)
    rw [hread] at hre'
    cases hre'
    exact hmem
  · right
    rw [if_neg hkey, hread]
    exact List.mem_singleton_self _

theorem answer_use (cache : Cache) (source : Text) (bits : Int) (what : Use) :
    cache.answer (.use source bits what) =
      (match (cache.read source bits).1 with
        | .ok re => re.answer what
        | .error refusal => .error (.refused source refusal), (cache.read source bits).2) := by
  rw [answer]
  obtain ⟨outcome, kept⟩ := cache.read source bits
  cases outcome <;> rfl

theorem answer_fresh (h : cache.Faithful) (source : Text) (bits : Int) (what : Use) :
    (cache.answer (.use source bits what)).1 = Answer.fresh cache.names source bits what := by
  rw [answer_use, read_of_faithful h]
  rfl

theorem names_answer (cache : Cache) (request : Request) : (cache.answer request).2.names = cache.names := by
  cases request with
  | size => rfl
  | holds source => rfl
  | use source bits what =>
    rw [answer_use]
    exact names_read cache source bits

theorem Faithful.answer (h : cache.Faithful) (request : Request) : (cache.answer request).2.Faithful := by
  cases request with
  | size => exact h
  | holds source => exact h
  | use source bits what =>
    rw [answer_use]
    exact h.read source bits

theorem prefix_answer (cache : Cache) (request : Request) :
    cache.patterns.toList <+: (cache.answer request).2.patterns.toList := by
  cases request with
  | size => exact List.prefix_refl _
  | holds source => exact List.prefix_refl _
  | use source bits what =>
    rw [answer_use, toList_read]
    exact List.prefix_append _ _

theorem keys_answer (cache : Cache) (request : Request) :
    (cache.answer request).2.keys =
      cache.keys ++ (request.readable? cache.names).toList.filter (· ∉ cache.keys) := by
  cases request with
  | size => exact (List.append_nil _).symm
  | holds source => exact (List.append_nil _).symm
  | use source bits what =>
    rw [answer_use, keys, OrderedMap.keys, toList_read, List.map_append, ← OrderedMap.keys, ← keys,
      Request.readable?]
    congr 1
    by_cases hkey : (source, bits) ∈ cache.keys <;>
      cases Regex.read cache.names source bits <;> simp [Except.isOk, Except.toBool, hkey]

/-! ## Messages -/

/-- The messages in the log that come with an answer. -/
def reported : Except Failure Answer → List String
  | .ok _ => []
  | .error failure => failure.notice?.toList

/-- What a pattern that has been read is used for may fail, but is never reported. -/
theorem reported_answer (re : Regex) (what : Use) : reported (re.answer what) = [] := by
  cases what with
  | compile => rfl
  | replace t template =>
    rw [Regex.answer]
    cases re.replace template t <;> rfl
  | spans t => rfl
  | has t => rfl
  | first t => rfl
  | all t => rfl
  | piece t number =>
    rw [Regex.answer]
    cases re.first? t with
    | none => rfl
    | some m =>
      dsimp only
      cases m.spanAt number <;> rfl

theorem reported_fresh (names : CharacterNames) (source : Text) (bits : Int) (what : Use) :
    reported (Answer.fresh names source bits what) = (Request.notice? names (.use source bits what)).toList := by
  rw [Answer.fresh, Request.notice?]
  cases Regex.read names source bits with
  | ok re => exact reported_answer re what
  | error refusal => cases refusal <;> rfl

theorem log_answer (cache : Cache) (request : Request) :
    (cache.answer request).2.log = cache.log ++ reported (cache.answer request).1 := by
  cases request with
  | size => exact (List.append_nil _).symm
  | holds source => exact (List.append_nil _).symm
  | use source bits what =>
    rw [answer_use, read]
    cases cache.get? (source, bits) with
    | some re =>
      dsimp only
      rw [reported_answer, List.append_nil]
    | none =>
      cases Regex.read cache.names source bits with
      | ok re =>
        dsimp only
        rw [reported_answer, List.append_nil]
      | error refusal => rfl

/-! ## Requests one after the other -/

theorem names_asked (names : CharacterNames) (requests : List Request) : (asked names requests).names = names := by
  induction requests using List.reverseRecOn with
  | nil => rfl
  | append_singleton requests request ih => rw [asked_concat, names_answer, ih]

theorem faithful_asked (names : CharacterNames) (requests : List Request) : (asked names requests).Faithful := by
  induction requests using List.reverseRecOn with
  | nil => exact faithful_new names
  | append_singleton requests request ih =>
    rw [asked_concat]
    exact ih.answer request

theorem keys_asked (names : CharacterNames) (requests : List Request) :
    (asked names requests).keys = (requests.filterMap (Request.readable? names)).eraseDups := by
  induction requests using List.reverseRecOn with
  | nil => rfl
  | append_singleton requests request ih =>
    rw [asked_concat, keys_answer, names_asked, ih, filterMap_concat, List.eraseDups_append]
    generalize requests.filterMap (Request.readable? names) = keys
    cases request.readable? names with
    | none => rfl
    | some key => by_cases hkey : key ∈ keys <;> simp [List.removeAll, hkey, List.eraseDups_cons]

theorem log_asked (names : CharacterNames) (requests : List Request) :
    (asked names requests).log = requests.filterMap (Request.notice? names) := by
  induction requests using List.reverseRecOn with
  | nil => rfl
  | append_singleton requests request ih =>
    rw [asked_concat, log_answer, ih, filterMap_concat]
    cases request with
    | size => rfl
    | holds source => rfl
    | use source bits what => rw [answer_fresh (faithful_asked names requests), names_asked, reported_fresh]

theorem holds_asked (names : CharacterNames) (requests : List Request) (source : Text) :
    (asked names requests).holds source ↔
      ∃ bits what, .use source bits what ∈ requests ∧ (Regex.read names source bits).isOk := by
  rw [holds, List.any_eq_true, keys_asked]
  constructor
  · rintro ⟨⟨source', bits⟩, hkey, hsource⟩
    obtain rfl : source' = source := by simpa using hsource
    obtain ⟨request, hrequest, hreadable⟩ := List.mem_filterMap.1 (List.mem_eraseDups.1 hkey)
    cases request with
    | size => cases hreadable
    | holds source => cases hreadable
    | use source bits' what =>
      rw [Request.readable?, Option.ite_none_right_eq_some] at hreadable
      obtain ⟨hok, hsame⟩ := hreadable
      cases hsame
      exact ⟨bits, what, hrequest, hok⟩
  · rintro ⟨bits, what, hrequest, hok⟩
    refine ⟨(source, bits), List.mem_eraseDups.2 (List.mem_filterMap.2 ⟨_, hrequest, ?_⟩), beq_self_eq_true source⟩
    exact if_pos hok

/-- After any requests the cache holds what could be read, and every answer is that of the pattern read
anew. A pattern that is refused is refused each time in the same way and not kept, with one message in the log
each time if it has a problem; there are no other messages. One that can be read is kept also when its use
fails. -/
theorem answer_asked (names : CharacterNames) (before : List Request) :
    (asked names before).keys = (before.filterMap (Request.readable? names)).eraseDups ∧
    (∀ source, (asked names before).holds source ↔
      ∃ bits what, .use source bits what ∈ before ∧ (Regex.read names source bits).isOk) ∧
    (asked names before).log = before.filterMap (Request.notice? names) ∧
    (∀ request, (asked names (before ++ [request])).log =
      (asked names before).log ++ reported ((asked names before).answer request).1) ∧
    (∀ request, (asked names before).patterns.toList <+: (asked names (before ++ [request])).patterns.toList) ∧
    (∀ source bits what,
      ((asked names before).answer (.use source bits what)).1 = Answer.fresh names source bits what) ∧
    (∀ source bits what re, Regex.read names source bits = .ok re →
      ((source, bits), re) ∈ (asked names (before ++ [.use source bits what])).patterns.toList ∧
        asked names (before ++ [.use source bits what]) = asked names (before ++ [.use source bits .compile])) ∧
    ∀ source bits what refusal, Regex.read names source bits = .error refusal →
      (asked names before).answer (.use source bits what) =
        (.error (.refused source refusal), { asked names before with
          log := (asked names before).log ++ (Request.notice? names (.use source bits what)).toList }) := by
  have hfaithful := faithful_asked names before
  have hnames := names_asked names before
  refine ⟨keys_asked names before, holds_asked names before, log_asked names before, ?_, ?_, ?_, ?_, ?_⟩
  · intro request
    rw [asked_concat, log_answer]
  · intro request
    rw [asked_concat]
    exact prefix_answer _ request
  · intro source bits what
    rw [answer_fresh hfaithful, hnames]
  · intro source bits what re hread
    rw [asked_concat, asked_concat, answer_use, answer_use]
    exact ⟨mem_read_of_ok hfaithful (hnames.symm ▸ hread), rfl⟩
  · intro source bits what refusal hread
    rw [answer_use, read_of_error hfaithful (hnames.symm ▸ hread), Request.notice?, hread]
    cases refusal <;> rfl

/-- A pattern under two settings, one that cannot be read, one that names a character, and one whose template
names a group too many. -/
theorem answer_asked_mixed :
    let names : CharacterNames := fun name => if name = "PILCROW SIGN".toList then some '¶' else none
    let named := "\\N\x7bPILCROW SIGN\x7d".toList
    let requests : List Request := [.use ['a'] 0 .compile, .use ['('] 0 .compile, .use ['a'] 2 (.has ['A']),
      .use ['('] 0 (.all ['a']), .use named 0 (.has ['¶']), .use ['b'] 0 (.replace ['b'] ['\\', '1'])]
    (asked names requests).keys = [(['a'], 0), (['a'], 2), (named, 0), (['b'], 0)] ∧
      (asked names requests).log =
        List.replicate 2 "Invalid pattern '(': missing ), unterminated subpattern at position 0" := by
  intro names named requests
  obtain ⟨hkeys, -, hlog, -⟩ := answer_asked names requests
  rw [hkeys, hlog]
  exact ⟨by decide +kernel, by decide +kernel⟩

/-- However often a pattern is asked for, it is refused in the same way, and the log stays empty. -/
def RefusedSilently (names : CharacterNames) (source : Text) (bits : Int) (refusal : Refusal) : Prop :=
  ∀ times,
    let cache := asked names (List.replicate times (.use source bits .compile))
    (cache.answer (.use source bits .compile)).1 = .error (.refused source refusal) ∧ cache.log = []

theorem refusedSilently {names : CharacterNames} {refusal : Refusal}
    (hread : Regex.read names source bits = .error refusal)
    (hno : Request.notice? names (.use source bits .compile) = none) :
    RefusedSilently names source bits refusal := by
  intro times
  constructor
  · rw [answer_fresh (faithful_asked _ _), names_asked, Answer.fresh, hread]
  · rw [log_asked, List.filterMap_replicate_of_none hno]

/-- A bound that cannot be counted, flags that exclude each other and flags that cannot be held are no problems
of the pattern: each time they are refused without a message in the log. -/
theorem answer_asked_refused :
    RefusedSilently (fun _ => none) "a\x7b4294967296\x7d".toList 0 .hugeRepeat ∧
      RefusedSilently (fun _ => none) "(?u)a".toList 256 .asciiAndUnicode ∧
      RefusedSilently (fun _ => none) ['a'] 0x80000000 .hugeFlags := by
  have hhuge : Regex.read (fun _ => none) "a\x7b4294967296\x7d".toList 0 = .error .hugeRepeat := by
    decide +kernel
  have hboth : Regex.read (fun _ => none) "(?u)a".toList 256 = .error .asciiAndUnicode := by decide +kernel
  have hflags : Regex.read (fun _ => none) ['a'] 0x80000000 = .error .hugeFlags := by decide +kernel
  refine ⟨refusedSilently hhuge ?_, refusedSilently hboth ?_, refusedSilently hflags ?_⟩
  · rw [Request.notice?, hhuge]
  · rw [Request.notice?, hboth]
  · rw [Request.notice?, hflags]

end Cache

end MudClient.Pattern

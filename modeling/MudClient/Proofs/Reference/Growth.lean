import MudClient.Proofs.Reference.Ending
import MudClient.Proofs.Reference.Visit
import Mathlib.Data.List.Induction

/-!
# Growth of the cache

* `referencePattern_inj`: different sigils or classes of names have different patterns
* `found`: the sigils that the cascade has found in its texts
* `Tally`: the cache holds the patterns of these sigils and nothing else
* `follows_watch`: the cascade keeps it so
* `Request`, `cacheAfter`: the cache of an engine after requests
* `keys_cacheAfter`: it grows with the sigils only
-/

set_option autoImplicit false

namespace MudClient.Reference

open Pattern

variable {World α β : Type} {setting : Setting World} {t : Text} {k k' : NameClass}
  {sigil sigil' rest rest' : Text} {c : Char}

/-! ## Patterns of different sigils -/

theorem escaped_cons (c : Char) (t : Text) :
    Text.escaped (c :: t) = (if Text.specialChars.contains c then ['\\', c] else [c]) ++ t.escaped := rfl

theorem cons_escaped_ne (c : Char) (t u v : Text) : Text.escaped (c :: t) ++ u ≠ '(' :: v := by
  rw [escaped_cons]
  split
  · simp
  · next hc =>
    intro h
    obtain rfl : c = '(' := (List.cons.inj h).1
    exact hc (by decide)

/-- An escaped text ends at the first parenthesis without a backslash before it. -/
theorem escaped_append_inj (h : sigil.escaped ++ '(' :: rest = sigil'.escaped ++ '(' :: rest') :
    sigil = sigil' ∧ rest = rest' := by
  induction sigil generalizing sigil' with
  | nil =>
    cases sigil' with
    | nil => exact ⟨rfl, List.tail_eq_of_cons_eq h⟩
    | cons c' sigil' => exact absurd h.symm (cons_escaped_ne c' sigil' _ rest)
  | cons c sigil ih =>
    cases sigil' with
    | nil => exact absurd h (cons_escaped_ne c sigil _ rest')
    | cons c' sigil' =>
      have hchar : c = c' ∧ Text.escaped sigil ++ '(' :: rest = Text.escaped sigil' ++ '(' :: rest' := by
        rw [escaped_cons, escaped_cons] at h
        split at h <;> split at h
        · simpa using h
        · next hspecial hspecial' =>
          have hc' : '\\' = c' := (List.cons.inj h).1
          exact absurd (hc' ▸ by decide) hspecial'
        · next hspecial hspecial' =>
          have hc : c = '\\' := (List.cons.inj h).1
          exact absurd (hc ▸ by decide) hspecial
        · simpa using h
      obtain ⟨rfl, htail⟩ := hchar
      obtain ⟨rfl, hrest⟩ := ih htail
      exact ⟨rfl, hrest⟩

theorem NameClass.source_inj : k.source = k'.source ↔ k = k' := by
  cases k <;> cases k' <;> decide

/-- Different sigils or classes of names have different patterns. -/
theorem referencePattern_inj :
    referencePattern sigil k.source = referencePattern sigil' k'.source ↔ sigil = sigil' ∧ k = k' := by
  constructor
  · intro h
    simp only [referencePattern, List.cons_append, List.append_assoc, List.cons.injEq, true_and] at h
    obtain ⟨rfl, hclass⟩ := escaped_append_inj h
    exact ⟨rfl, NameClass.source_inj.1 (List.append_cancel_right hclass)⟩
  · rintro ⟨rfl, rfl⟩
    rfl

/-! ## The sigils that were found -/

/-- The sigil stands in the text. -/
def Visit.isFound (v : Visit) : Bool := v.sigil.occursIn v.target

/-- The sigils that stand in the texts over which their cascade was run, in the order in which they were
first found there. -/
def found (visits : List Visit) : List Text :=
  ((visits.filter Visit.isFound).map Visit.sigil).eraseDups

theorem mem_found {visits : List Visit} :
    sigil ∈ found visits ↔ ∃ target, ⟨sigil, target⟩ ∈ visits ∧ sigil.occursIn target := by
  simp only [found, List.mem_eraseDups, List.mem_map, List.mem_filter]
  constructor
  · rintro ⟨⟨sigil, target⟩, ⟨hmem, hfound⟩, rfl⟩
    exact ⟨target, hmem, hfound⟩
  · rintro ⟨target, hmem, hfound⟩
    exact ⟨⟨sigil, target⟩, ⟨hmem, hfound⟩, rfl⟩

theorem found_concat (visits : List Visit) (v : Visit) :
    found (visits ++ [v]) =
      if v.isFound ∧ v.sigil ∉ found visits then found visits ++ [v.sigil] else found visits := by
  have hmem : v.sigil ∈ found visits ↔ v.sigil ∈ (visits.filter Visit.isFound).map Visit.sigil :=
    List.mem_eraseDups
  have happend : found (visits ++ [v]) = found visits ++
      ((([v].filter Visit.isFound).map Visit.sigil).removeAll
        ((visits.filter Visit.isFound).map Visit.sigil)).eraseDups := by
    rw [found, List.filter_append, List.map_append, List.eraseDups_append, ← found]
  rw [happend]
  cases hv : v.isFound with
  | false => simp [hv, List.removeAll]
  | true =>
    by_cases hs : v.sigil ∈ found visits
    · simp [hv, List.removeAll, hs, hmem.1 hs]
    · simp [hv, List.removeAll, hs, mt hmem.2 hs, List.eraseDups_cons]

theorem nodup_found (visits : List Visit) : (found visits).Nodup := by
  induction visits using List.reverseRecOn with
  | nil => exact List.nodup_nil
  | append_singleton visits v ih =>
    rw [found_concat]
    split
    · next h =>
      refine List.nodup_append.2 ⟨ih, by simp, fun a ha b hb e => h.2 ?_⟩
      rwa [← List.mem_singleton.1 hb, ← e]
    · exact ih

/-! ## What the cascade does to the cache -/

/-- The computation does not fail, and makes of the cache what `f` makes of it. -/
def Leads (f : Cache → Cache) (x : Expansion World α) : Prop :=
  ∀ ledger, (∃ a, (x.run.run ledger).1 = .ok a) ∧ (x.run.run ledger).2.cache = f ledger.cache

theorem leads_bind {f g : Cache → Cache} {x : Expansion World α} {h : α → Expansion World β} (hx : Leads f x)
    (hh : ∀ a, Leads g (h a)) : Leads (g ∘ f) (x >>= h) := by
  intro ledger
  obtain ⟨⟨a, ha⟩, hcache⟩ := hx ledger
  rw [run_bind]
  cases hrun : x.run.run ledger with
  | mk result ledger' =>
    rw [hrun] at ha hcache
    subst ha
    rw [Function.comp_apply, ← hcache]
    exact hh a ledger'

theorem leads_fill (setting : Setting World) (source t : Text) (located : List Match) :
    Leads id (fill setting source t located) := by
  intro ledger
  have hends : Ends (· = ledger.cache) (fun _ => False) (Within fun _ => True) (fill setting source t located) :=
    ends_fill (fun _ _ v _ => within_true v) source located (within_true t)
  obtain ⟨hcache, hresult⟩ := hends ledger rfl
  refine ⟨?_, hcache⟩
  cases hrun : ((fill setting source t located).run.run ledger).1 with
  | ok u => exact ⟨u, rfl⟩
  | error e =>
    rw [hrun] at hresult
    exact hresult.elim

/-- The cache after the pattern of a sigil and a class was read. -/
def readInto (sigil : Text) (k : NameClass) (cache : Cache) : Cache :=
  (cache.read (referencePattern sigil k.source) 0).2

theorem leads_pass (setting : Setting World) (k : NameClass) (t : Text) :
    Leads (readInto setting.sigil k) (pass setting t k.source) := by
  have hpattern : Leads (readInto setting.sigil k)
      (pattern (referencePattern setting.sigil k.source) : Expansion World Regex) := by
    intro ledger
    obtain ⟨re, hre⟩ := exists_read ledger.cache setting.sigil k
    rw [run_pattern, hre]
    exact ⟨⟨re, rfl⟩, rfl⟩
  exact leads_bind hpattern fun re => leads_fill setting t t _

def readCascade (sigil : Text) : Cache → Cache :=
  (readInto sigil .alphanumeric ∘ readInto sigil .hyphened) ∘ readInto sigil .dotted

theorem leads_simplify (hs : setting.sigil.occursIn t) :
    Leads (readCascade setting.sigil) (simplify setting t) := by
  rw [simplify_passes, if_pos hs]
  refine leads_bind (leads_pass setting .dotted t) fun t₁ => ?_
  exact leads_bind (leads_pass setting .hyphened t₁) fun t₂ => leads_pass setting .alphanumeric t₂

/-! ## What the cache holds -/

/-- The key under which the cache holds the pattern of a sigil and a class. -/
def patternKey (sigil : Text) (k : NameClass) : Text × Int :=
  (referencePattern sigil k.source, 0)

theorem patternKey_inj : patternKey sigil k = patternKey sigil' k' ↔ sigil = sigil' ∧ k = k' := by
  rw [← referencePattern_inj]
  simp [patternKey]

/-- The keys of the three patterns of a sigil. -/
def patternKeys (sigil : Text) : List (Text × Int) :=
  nameClasses.map fun nameClass => (referencePattern sigil nameClass, 0)

theorem patternKeys_eq (sigil : Text) :
    patternKeys sigil = [.dotted, .hyphened, .alphanumeric].map (patternKey sigil) := by
  rw [patternKeys, nameClasses_eq]
  rfl

theorem patternKey_mem {sigils : List Text} :
    patternKey sigil k ∈ sigils.flatMap patternKeys ↔ sigil ∈ sigils := by
  simp only [List.mem_flatMap, patternKeys_eq, List.mem_map]
  constructor
  · rintro ⟨sigil', hmem, k', -, hkey⟩
    rwa [← (patternKey_inj.1 hkey).1]
  · intro hmem
    exact ⟨sigil, hmem, k, by cases k <;> simp, rfl⟩

theorem readInto_of_mem {cache : Cache} (h : patternKey sigil k ∈ cache.keys) :
    readInto sigil k cache = cache := by
  rw [readInto, Cache.read]
  cases hget : cache.get? (referencePattern sigil k.source, 0) with
  | some re => rfl
  | none => exact absurd h ((cache.get?_eq_none_iff _).1 hget)

theorem keys_readInto_of_notMem {cache : Cache} (h : patternKey sigil k ∉ cache.keys) :
    (readInto sigil k cache).keys = cache.keys ++ [patternKey sigil k] := by
  have hget : cache.get? (referencePattern sigil k.source, 0) = none :=
    (cache.get?_eq_none_iff _).2 h
  rw [readInto, Cache.read]
  simp only [hget, read_referencePattern]
  exact (OrderedMap.keys_insert cache.patterns _ _).trans (if_neg h)

theorem readCascade_of_mem {cache : Cache} (h : ∀ k, patternKey sigil k ∈ cache.keys) :
    readCascade sigil cache = cache := by
  rw [readCascade, Function.comp_apply, Function.comp_apply, readInto_of_mem (h .dotted),
    readInto_of_mem (h .hyphened), readInto_of_mem (h .alphanumeric)]

theorem keys_readCascade_of_notMem {cache : Cache} (h : ∀ k, patternKey sigil k ∉ cache.keys) :
    (readCascade sigil cache).keys = cache.keys ++ patternKeys sigil := by
  have hdotted := keys_readInto_of_notMem (h .dotted)
  have hhyphened : (readInto sigil .hyphened (readInto sigil .dotted cache)).keys =
      cache.keys ++ [patternKey sigil .dotted, patternKey sigil .hyphened] := by
    rw [keys_readInto_of_notMem (by simp [hdotted, h, patternKey_inj]), hdotted]
    simp
  rw [readCascade, Function.comp_apply, Function.comp_apply,
    keys_readInto_of_notMem (by simp [hhyphened, h, patternKey_inj]), hhyphened]
  simp [patternKeys_eq]

/-- The cache holds the patterns of the sigils that were found, and nothing else. -/
def Tally (cache : Cache) (visits : List Visit) : Prop :=
  cache.keys = (found visits).flatMap patternKeys

/-- The cascade reads the patterns of its sigil if the sigil stands in the text, and none otherwise. -/
theorem follows_watch (setting : Setting World) (t : Text) :
    Follows Tally (watch setting t) (simplify setting t) := by
  intro ledger visits htally
  refine ⟨visits ++ [⟨setting.sigil, t⟩], rfl, ?_⟩
  have hmem (k : NameClass) : patternKey setting.sigil k ∈ ledger.cache.keys ↔ setting.sigil ∈ found visits := by
    rw [htally, patternKey_mem]
  rw [Tally, found_concat]
  by_cases hoccurs : setting.sigil.occursIn t
  · rw [(leads_simplify hoccurs ledger).2]
    by_cases hs : setting.sigil ∈ found visits
    · rw [if_neg (by simp [hs]), readCascade_of_mem fun k => (hmem k).2 hs]
      exact htally
    · rw [if_pos ⟨hoccurs, hs⟩, keys_readCascade_of_notMem fun k => mt (hmem k).1 hs, htally,
        List.flatMap_append, List.flatMap_singleton]
  · have hskip : simplify setting t = pure t := by rw [simplify, if_neg hoccurs]
    rw [hskip, if_neg fun h => hoccurs h.1]
    exact htally

/-! ## Requests to an engine -/

/-- A text to be expanded, in whole or in its indexed forms only, and the world in which this is asked for. -/
structure Request (World : Type) where
  formsOnly : Bool
  ctx : Context World
  text : Text
  world : World

namespace Request

def expansion (q : Request World) : Expansion World Text :=
  if q.formsOnly then expandIndexed q.ctx q.text else expand q.ctx q.text

def watched (q : Request World) : Watched World Text :=
  if q.formsOnly then watchIndexed q.ctx q.text else watchExpand q.ctx q.text

theorem follows_expansion {I : Cache → List Visit → Prop}
    (hI : ∀ (setting : Setting World) (t : Text), Follows I (watch setting t) (simplify setting t))
    (q : Request World) : Follows I q.watched q.expansion := by
  rw [watched, expansion]
  split
  · exact follows_expandIndexed hI q.ctx q.text
  · exact follows_expand hI q.ctx q.text

end Request

/-- The cache of an engine after requests to it, whether they succeeded or not. It is empty at first. -/
def cacheAfter (requests : List (Request World)) : Cache :=
  requests.foldl (fun cache q => (q.expansion.run.run ⟨cache, q.world⟩).2.cache) .empty

/-- The cache and the notes after one more request. -/
def watchRequest (s : Cache × List Visit) (q : Request World) : Cache × List Visit :=
  let (ledger, visits) := (q.watched.run.run (⟨s.1, q.world⟩, s.2)).2
  (ledger.cache, visits)

/-- Where the cascade is run in the course of requests to an engine, from the first one to the last. -/
def visitsIn (requests : List (Request World)) : List Visit :=
  (requests.foldl watchRequest (.empty, [])).2

theorem watchRequest_of_follows {I : Cache → List Visit → Prop} {q : Request World} {cache : Cache}
    {visits : List Visit} (h : Follows I q.watched q.expansion) (hI : I cache visits) :
    (watchRequest (cache, visits) q).1 = (q.expansion.run.run ⟨cache, q.world⟩).2.cache ∧
      I (watchRequest (cache, visits) q).1 (watchRequest (cache, visits) q).2 := by
  obtain ⟨visits', hrun, hI'⟩ := h ⟨cache, q.world⟩ visits hI
  simp only [watchRequest, hrun]
  exact ⟨trivial, hI'⟩

theorem tally_foldl (requests : List (Request World)) (cache : Cache) (visits : List Visit)
    (h : Tally cache visits) :
    Tally (requests.foldl (fun cache q => (q.expansion.run.run ⟨cache, q.world⟩).2.cache) cache)
      (requests.foldl watchRequest (cache, visits)).2 := by
  induction requests generalizing cache visits with
  | nil => exact h
  | cons q requests ih =>
    obtain ⟨hcache, htally⟩ := watchRequest_of_follows (q.follows_expansion follows_watch) h
    simp only [List.foldl_cons]
    rw [← hcache]
    exact ih _ _ htally

theorem tally_cacheAfter (requests : List (Request World)) : Tally (cacheAfter requests) (visitsIn requests) :=
  tally_foldl requests .empty [] rfl

/-- The watched expansion does what the expansion does, whatever it has been asked for and noted before. -/
theorem run_watched (q : Request World) (ledger : Ledger World) (visits : List Visit) :
    ∃ visits', q.watched.run.run (ledger, visits) =
      ((q.expansion.run.run ledger).1, (q.expansion.run.run ledger).2, visits') := by
  have hnote (setting : Setting World) (t : Text) :
      Follows (fun _ _ => True) (watch setting t) (simplify setting t) :=
    fun _ visits _ => ⟨visits ++ [⟨setting.sigil, t⟩], rfl, trivial⟩
  obtain ⟨visits', hrun, -⟩ := q.follows_expansion hnote ledger visits trivial
  exact ⟨visits', hrun⟩

/-- The cache of an engine grows with the sigils only. After any requests it holds the three patterns of each
sigil over a text with which the cascade was run, in the order in which the sigils were first found, and
nothing else. These patterns are all different, so there are three times as many as there are such sigils. -/
theorem keys_cacheAfter (requests : List (Request World)) :
    (∀ (q : Request World) (ledger : Ledger World) (visits : List Visit),
        ∃ visits', q.watched.run.run (ledger, visits) =
          ((q.expansion.run.run ledger).1, (q.expansion.run.run ledger).2, visits')) ∧
      (∀ sigil, sigil ∈ found (visitsIn requests) ↔
        ∃ target, ⟨sigil, target⟩ ∈ visitsIn requests ∧ sigil.occursIn target) ∧
      (found (visitsIn requests)).Nodup ∧
      (cacheAfter requests).keys = (found (visitsIn requests)).flatMap patternKeys ∧
      (∀ sigil sigil' (k k' : NameClass), referencePattern sigil k.source = referencePattern sigil' k'.source ↔
        sigil = sigil' ∧ k = k') ∧
      (cacheAfter requests).size = 3 * (found (visitsIn requests)).length := by
  have htally := tally_cacheAfter requests
  refine ⟨run_watched, fun _ => mem_found, nodup_found _, htally, fun _ _ _ _ => referencePattern_inj, ?_⟩
  have hlength (sigil : Text) : (patternKeys sigil).length = 3 := rfl
  calc (cacheAfter requests).size = (cacheAfter requests).keys.length := (List.length_map _).symm
    _ = ((found (visitsIn requests)).map fun sigil => (patternKeys sigil).length).sum := by
      rw [htally, List.length_flatMap]
    _ = 3 * (found (visitsIn requests)).length := by
      simp only [hlength, List.map_const', List.sum_replicate_nat, Nat.mul_comm]

end MudClient.Reference

/-!
# Maps in insertion order

* `OrderedMap`: pairs with distinct keys, in the order in which the keys first came
* `OrderedMap.put`: a value for a key in a list of pairs, and what it does to the keys and to look-ups
* `OrderedMap.insert`: a new value for a key, which keeps its place if it has one
* `OrderedMap.insertNew`: a value for a key that has none yet
* `OrderedMap.erase`: a map without a key
-/

set_option autoImplicit false

namespace MudClient

variable {κ ν : Type} [DecidableEq κ]

/-- Pairs of a key and a value, no key twice, oldest key first. -/
structure OrderedMap (κ ν : Type) where
  toList : List (κ × ν)
  nodup_keys : (toList.map Prod.fst).Nodup

namespace OrderedMap

def empty : OrderedMap κ ν := ⟨[], by simp⟩

instance : Inhabited (OrderedMap κ ν) := ⟨empty⟩

def keys (m : OrderedMap κ ν) : List κ := m.toList.map Prod.fst

def get? (m : OrderedMap κ ν) (k : κ) : Option ν := m.toList.lookup k

def contains (m : OrderedMap κ ν) (k : κ) : Bool := decide (k ∈ m.keys)

def size (m : OrderedMap κ ν) : Nat := m.toList.length

/-! ## Lists of pairs -/

/-- Gives `k` the value `v` in a list of pairs: in its place, or last. -/
def put (k : κ) (v : ν) : List (κ × ν) → List (κ × ν)
  | [] => [(k, v)]
  | p :: ps => if p.1 = k then (k, v) :: ps else p :: put k v ps

theorem map_fst_put (k : κ) (v : ν) (ps : List (κ × ν)) :
    (put k v ps).map Prod.fst = if k ∈ ps.map Prod.fst then ps.map Prod.fst
      else ps.map Prod.fst ++ [k] := by
  induction ps with
  | nil => simp [put]
  | cons p ps ih =>
    simp only [put]
    split
    · next h => simp [h]
    · next h =>
      rw [List.map_cons, ih]
      have hk : ¬k = p.1 := fun e => h e.symm
      by_cases hm : k ∈ ps.map Prod.fst
      · rw [if_pos hm, if_pos (by simp only [List.map_cons, List.mem_cons]; exact .inr hm)]
        rfl
      · rw [if_neg hm, if_neg (by simp only [List.map_cons, List.mem_cons]; exact fun h => h.elim hk hm)]
        rfl

theorem put_of_notMem {k : κ} {ps : List (κ × ν)} (h : k ∉ ps.map Prod.fst) (v : ν) :
    put k v ps = ps ++ [(k, v)] := by
  induction ps with
  | nil => rfl
  | cons p ps ih =>
    rw [List.map_cons, List.mem_cons, not_or] at h
    rw [put, if_neg fun e => h.1 e.symm, ih h.2, List.cons_append]

theorem lookup_put (k k' : κ) (v : ν) (ps : List (κ × ν)) :
    (put k v ps).lookup k' = if k' = k then some v else ps.lookup k' := by
  induction ps with
  | nil =>
    by_cases h : k' = k
    · simp [put, h]
    · simp [put, List.lookup_cons, h, beq_eq_false_iff_ne.2 h]
  | cons p ps ih =>
    obtain ⟨key, value⟩ := p
    simp only [put]
    split
    · next hp =>
      by_cases h : k' = k
      · simp [h]
      · have hp' : (k' == key) = false := by simp [hp, h]
        simp [List.lookup_cons, h, hp', beq_eq_false_iff_ne.2 h]
    · next hp =>
      by_cases h : k' = key
      · simp [h, hp]
      · have hb : (k' == key) = false := by simp [h]
        simp only [List.lookup_cons, hb, ih]

theorem lookup_filter_ne (k k' : κ) (ps : List (κ × ν)) :
    (ps.filter fun p => p.1 ≠ k).lookup k' = if k' = k then none else ps.lookup k' := by
  induction ps with
  | nil => simp
  | cons p ps ih =>
    obtain ⟨key, value⟩ := p
    rw [List.filter_cons]
    by_cases hp : key = k
    · rw [if_neg (by simp [hp]), ih]
      by_cases h : k' = k
      · simp [h]
      · simp [List.lookup_cons, hp, h, beq_eq_false_iff_ne.2 h]
    · rw [if_pos (by simp [hp]), List.lookup_cons, List.lookup_cons, ih]
      by_cases h : k' = key
      · simp [h, hp]
      · simp [beq_eq_false_iff_ne.2 h]

theorem lookup_eq_some_iff_mem {ps : List (κ × ν)} (hps : (ps.map Prod.fst).Nodup) (k : κ) (v : ν) :
    ps.lookup k = some v ↔ (k, v) ∈ ps := by
  induction ps with
  | nil => simp
  | cons p ps ih =>
    obtain ⟨key, value⟩ := p
    obtain ⟨hkey, hrest⟩ := List.nodup_cons.1 hps
    rw [List.lookup_cons, List.mem_cons, Prod.mk.injEq]
    by_cases hk : k = key
    · subst hk
      have hnot : (k, v) ∉ ps := fun hv => hkey (List.mem_map.2 ⟨_, hv, rfl⟩)
      simp [hnot, eq_comm]
    · simp [beq_eq_false_iff_ne.2 hk, hk, ih hrest]

theorem lookup_eq_none_iff_notMem (ps : List (κ × ν)) (k : κ) : ps.lookup k = none ↔ k ∉ ps.map Prod.fst := by
  simp only [List.lookup_eq_none_iff, List.mem_map, not_exists, not_and]
  constructor
  · intro h p hp e
    simpa [e] using h p hp
  · intro h p hp
    simpa using fun e : k = p.1 => h p hp e.symm

/-- Lists with the same keys in the same order, none twice, that show the same for every key. -/
theorem eq_of_lookup {ps ps' : List (κ × ν)} (hps : (ps.map Prod.fst).Nodup)
    (hkeys : ps.map Prod.fst = ps'.map Prod.fst) (hlookup : ∀ k, ps.lookup k = ps'.lookup k) : ps = ps' := by
  induction ps generalizing ps' with
  | nil => exact (List.map_eq_nil_iff.1 hkeys.symm).symm
  | cons p ps ih =>
    obtain ⟨key, value⟩ := p
    obtain ⟨⟨key', value'⟩, ps', rfl, hkey, hrest⟩ := List.map_eq_cons_iff.1 hkeys.symm
    obtain rfl : key' = key := hkey
    obtain ⟨hnew, hps⟩ := List.nodup_cons.1 hps
    have hvalue : value = value' := by simpa using hlookup key'
    rw [hvalue, ih hps hrest.symm fun k => ?_]
    by_cases hk : k = key'
    · rw [hk, (lookup_eq_none_iff_notMem ps key').2 hnew, (lookup_eq_none_iff_notMem ps' key').2 (hrest ▸ hnew)]
    · simpa [List.lookup_cons, beq_eq_false_iff_ne.2 hk] using hlookup k

/-! ## Operations -/

/-- The value of `k` becomes `v`; a key that is already there keeps its place, a new one goes last. -/
def insert (m : OrderedMap κ ν) (k : κ) (v : ν) : OrderedMap κ ν where
  toList := put k v m.toList
  nodup_keys := by
    rw [map_fst_put]
    split
    · exact m.nodup_keys
    · next h =>
      rw [List.nodup_append]
      refine ⟨m.nodup_keys, by simp, ?_⟩
      intro a ha b hb
      simp only [List.mem_singleton] at hb
      subst hb
      exact fun e => h (e ▸ ha)

/-- A key that has a value keeps it; a new key goes last. -/
def insertNew (m : OrderedMap κ ν) (k : κ) (v : ν) : OrderedMap κ ν :=
  if m.contains k then m else m.insert k v

def erase (m : OrderedMap κ ν) (k : κ) : OrderedMap κ ν where
  toList := m.toList.filter fun p => p.1 ≠ k
  nodup_keys := m.nodup_keys.sublist ((List.filter_sublist).map Prod.fst)

/-- All pairs inserted from the left: a repeated key has its first place and its last value. -/
def ofList (ps : List (κ × ν)) : OrderedMap κ ν :=
  ps.foldl (fun m p => m.insert p.1 p.2) empty

/-! ## What the operations do to the keys and the values -/

@[simp] theorem toList_insert (m : OrderedMap κ ν) (k : κ) (v : ν) :
    (m.insert k v).toList = put k v m.toList := rfl

theorem toList_insert_of_notMem {m : OrderedMap κ ν} {k : κ} (h : k ∉ m.keys) (v : ν) :
    (m.insert k v).toList = m.toList ++ [(k, v)] :=
  put_of_notMem h v

theorem keys_insert (m : OrderedMap κ ν) (k : κ) (v : ν) :
    (m.insert k v).keys = if k ∈ m.keys then m.keys else m.keys ++ [k] :=
  map_fst_put k v m.toList

theorem get?_insert (m : OrderedMap κ ν) (k k' : κ) (v : ν) :
    (m.insert k v).get? k' = if k' = k then some v else m.get? k' :=
  lookup_put k k' v m.toList

theorem get?_erase (m : OrderedMap κ ν) (k k' : κ) :
    (m.erase k).get? k' = if k' = k then none else m.get? k' :=
  lookup_filter_ne k k' m.toList

theorem get?_eq_some_iff (m : OrderedMap κ ν) (k : κ) (v : ν) : m.get? k = some v ↔ (k, v) ∈ m.toList :=
  lookup_eq_some_iff_mem m.nodup_keys k v

theorem get?_eq_none_iff (m : OrderedMap κ ν) (k : κ) : m.get? k = none ↔ k ∉ m.keys :=
  lookup_eq_none_iff_notMem m.toList k

/-- A map is its keys in their order and the value of each. -/
theorem eq_of_get? {m m' : OrderedMap κ ν} (hkeys : m.keys = m'.keys) (hget : ∀ k, m.get? k = m'.get? k) :
    m = m' := by
  cases m with
  | mk ps hps =>
    cases m' with
    | mk ps' hps' =>
      congr 1
      exact eq_of_lookup hps hkeys hget

theorem keys_insertNew (m : OrderedMap κ ν) (k : κ) (v : ν) :
    (m.insertNew k v).keys = m.keys ++ if k ∈ m.keys then [] else [k] := by
  rw [insertNew, contains]
  by_cases h : k ∈ m.keys
  · simp [h]
  · simp [h, keys_insert]

theorem get?_insertNew (m : OrderedMap κ ν) (k k' : κ) (v : ν) :
    (m.insertNew k v).get? k' = (m.get? k').or (if k' = k then some v else none) := by
  rw [insertNew, contains]
  by_cases h : k ∈ m.keys
  · rw [if_pos (by simpa using h)]
    by_cases hk : k' = k
    · have hsome : m.get? k' ≠ none := fun hnone => (m.get?_eq_none_iff k').1 hnone (hk ▸ h)
      obtain ⟨old, hold⟩ := Option.ne_none_iff_exists'.1 hsome
      rw [hold, Option.some_or]
    · rw [if_neg hk, Option.or_none]
  · rw [if_neg (by simpa using h), get?_insert]
    by_cases hk : k' = k
    · rw [if_pos hk, if_pos hk, hk, (m.get?_eq_none_iff k).2 h, Option.none_or]
    · rw [if_neg hk, if_neg hk, Option.or_none]

end OrderedMap

end MudClient

import MudClient.Pattern.Cache

/-!
# What a cache holds

* `Cache.Faithful`: a cache that holds for each source only what reading it gives
* `Cache.read_of_faithful`: from such a cache a pattern comes as if it were read anew
* `Cache.Faithful.read`: and the cache stays so
-/

set_option autoImplicit false

namespace MudClient.Pattern.Cache

variable {cache : Cache} {source : Text} {bits : Int}

theorem get?_eq_none_iff (cache : Cache) (key : Text × Int) : cache.get? key = none ↔ key ∉ cache.keys :=
  cache.patterns.get?_eq_none_iff key

/-- Every pattern that the cache holds is what its source is read as. -/
def Faithful (cache : Cache) : Prop :=
  ∀ source bits re, cache.get? (source, bits) = some re → Regex.read cache.names source bits = .ok re

theorem faithful_new (names : CharacterNames) : (new names).Faithful := by
  intro source bits re h
  cases h

theorem faithful_empty : Faithful empty := faithful_new _

theorem read_of_faithful (h : cache.Faithful) (source : Text) (bits : Int) :
    (cache.read source bits).1 = Regex.read cache.names source bits := by
  rw [read]
  split
  · next re hre => exact (h source bits re hre).symm
  · split <;> next hr => exact hr.symm

theorem Faithful.read (h : cache.Faithful) (source : Text) (bits : Int) :
    (cache.read source bits).2.Faithful := by
  rw [Cache.read]
  split
  · exact h
  · split
    · next re hre =>
      intro source' bits' re' hget
      rw [get?, OrderedMap.get?_insert] at hget
      split at hget
      · next hkey =>
        obtain ⟨rfl, rfl⟩ := Prod.mk.inj hkey
        rwa [Option.some.inj hget] at hre
      · exact h source' bits' re' hget
    · exact h

end MudClient.Pattern.Cache

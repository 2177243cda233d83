import MudClient.Variables.Binding

/-!
# What the platform decides about a moment as text

* `isSome_directive`: which letters have a meaning is the same for all moments
* `isSome_filled?`: and so it is the same for all moments whether a pattern can be filled in
* `format_eq_format`: a pattern that can be filled in shows the same on every platform
* `Portable`, `evaluate_eq_evaluate`: settings with which computed variables show the same on every platform
* `portable_default`: those that are there from the start are such
-/

set_option autoImplicit false

namespace MudClient.Calendar

variable {m : Moment} {t : Text}

theorem isSome_directive (m m' : Moment) (c : Char) : (directive m c).isSome = (directive m' c).isSome := by
  rw [directive, directive, Option.isSome_map, Option.isSome_map]

theorem isSome_filled?_percent (m : Moment) (c : Char) (t : Text) :
    (filled? m ('%' :: c :: t)).isSome = ((directive m c).isSome && (filled? m t).isSome) := by
  rw [filled?]
  cases directive m c <;> cases filled? m t <;> rfl

theorem isSome_filled? (m m' : Moment) (t : Text) : (filled? m t).isSome = (filled? m' t).isSome := by
  fun_induction filled? m t with
  | case1 => rfl
  | case2 => rfl
  | case3 c t ih =>
    -- stated of the whole pattern, not of what is left after looking the letter up
    change (filled? m ('%' :: c :: t)).isSome = _
    rw [isSome_filled?_percent, isSome_filled?_percent, isSome_directive m m', ih]
  | case4 => rfl
  | case5 c t _ _ _ ih =>
    rw [Option.isSome_map, ih]
    simp_all [filled?]

theorem format_eq_format (h : (filled? m t).isSome) (platform platform' : Platform) :
    format platform m t = format platform' m t := by
  obtain ⟨shown, hshown⟩ := Option.isSome_iff_exists.1 h
  rw [format, format, hshown, Option.getD_some, Option.getD_some]

end Calendar

namespace Variables

open Calendar (Moment Platform)

/-- Settings whose patterns can be filled in at one moment: there are no other directives in them. -/
def Portable (settings : Settings) : Prop :=
  ∃ m : Moment, ∀ kind, (Calendar.filled? m ((⟨m, settings⟩ : Reading).pattern kind)).isSome

theorem portable_default : Portable .default := by
  refine ⟨⟨0, .unknown⟩, fun kind => ?_⟩
  cases kind <;> rfl

/-- With portable settings computed variables show the same on every platform, at any moment. -/
theorem evaluate_eq_evaluate {settings : Settings} (h : Portable settings) (m : Moment)
    (platform platform' : Platform) (binding : Binding) :
    binding.evaluate { now := m, settings := settings, platform := platform } =
      binding.evaluate { now := m, settings := settings, platform := platform' } := by
  cases binding with
  | literal text => rfl
  | computed kind =>
    obtain ⟨m₀, hfilled⟩ := h
    have hpattern := hfilled kind
    rw [Calendar.isSome_filled? m₀ m] at hpattern
    exact congrArg some (Calendar.format_eq_format hpattern platform platform')

end Variables

end MudClient

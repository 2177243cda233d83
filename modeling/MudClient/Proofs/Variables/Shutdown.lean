import Mathlib.Data.List.Induction
import MudClient.Proofs.Variables.Access

/-!
# Flushes and closes that overlap

* `Access.WholeClose`, `Access.Overtaken`: a client that closes the store, all of it between the two steps of a flush
* `Access.Since`: what is known of the steps since a flush found the store open
* `Access.Told`, `Access.told_run?`: where every refusal comes from
* `Access.refused_of_overtaken`: what becomes of a flush that is overtaken
* `Access.refusals_of_run?`: the queue refuses the jobs of these flushes, and no others
-/

set_option autoImplicit false

namespace MudClient.Variables.Access

variable {a a' : Access} {step : Step} {steps between : List Step} {client other : Nat} {stage stage' : Stage}
  {action : Action} {job : Job}

/-! ## A close as a whole -/

/-- Some client marks the store as closed and later shuts the queue. -/
def WholeClose (steps : List Step) : Prop :=
  ∃ client before between after,
    steps = before ++ .act client .mark :: (between ++ .act client .shut :: after)

/-- A client looks whether the store is closed for a flush, and later submits its job, and in between there is a
whole close. -/
def Overtaken (client : Nat) (steps : List Step) : Prop :=
  ∃ before between after,
    steps = before ++ .act client .flush :: (between ++ .act client .submit :: after) ∧
      .act client .submit ∉ between ∧ WholeClose between

theorem WholeClose.concat (h : WholeClose steps) (step : Step) : WholeClose (steps ++ [step]) := by
  obtain ⟨client, before, between, after, rfl⟩ := h
  exact ⟨client, before, between, after ++ [step], by simp⟩

theorem Overtaken.concat (h : Overtaken client steps) (step : Step) : Overtaken client (steps ++ [step]) := by
  obtain ⟨before, between, after, rfl, hbetween⟩ := h
  exact ⟨before, between, after ++ [step], by simp, hbetween⟩

theorem wholeClose_of_mark (h : .act client .mark ∈ between) : WholeClose (between ++ [.act client .shut]) := by
  obtain ⟨before, after, rfl⟩ := List.append_of_mem h
  exact ⟨client, before, after, [], by simp⟩

/-! ## Since a flush found the store open -/

/-- What is known of the steps since a moment at which the store was open. -/
structure Since (between : List Step) (a : Access) : Prop where
  marks : ∀ (client : Nat) (stage : Stage), a.stages[client]? = some stage → stage = .marked ∨ stage = .shutting →
    .act client .mark ∈ between
  closes : a.shared.shut = true → WholeClose between

theorem since_of_open (hsound : Sound a) (hopen : a.shared.store.closed = false) : Since [] a := by
  have hnot : a.shared.store.closed ≠ true := Bool.eq_false_iff.1 hopen
  refine ⟨fun client stage hstage hmarked => ?_, fun hshut => absurd (hsound.closed_of_shut hshut) hnot⟩
  have hfits := hsound.fits client stage hstage
  rcases hmarked with rfl | rfl
  · exact absurd hfits.2 hnot
  · exact absurd hfits hnot

theorem since_step (h : a.step? step = some a') (hsince : Since between a) : Since (between ++ [step]) a' := by
  rcases step?_cases h with ⟨client, action, stage, s', stage', rfl, hstage, hacts, rfl⟩ | ⟨-, hidles⟩
  · refine ⟨fun other stage₁ h₁ hmarked => ?_, fun hshut => ?_⟩
    · rcases stage_of_set h₁ with ⟨rfl, rfl⟩ | ⟨hne, hother⟩
      · rcases hacts.of_marked hmarked with rfl | rfl
        · exact List.mem_append_right _ List.mem_cons_self
        · exact List.mem_append_left _ (hsince.marks other _ hstage (.inl rfl))
      · exact List.mem_append_left _ (hsince.marks other stage₁ hother hmarked)
    · rcases hacts.effect.shut with heq | ⟨rfl, rfl, -⟩
      · exact (hsince.closes (heq ▸ hshut)).concat _
      · exact wholeClose_of_mark (hsince.marks client _ hstage (.inr rfl))
  · refine ⟨fun client stage hstage hmarked => ?_, fun hshut => ?_⟩
    · rcases hidles.of_stage client stage hstage with hstage | rfl
      · exact List.mem_append_left _ (hsince.marks client stage hstage hmarked)
      · simp at hmarked
    · exact (hsince.closes (hidles.shut_eq ▸ hshut)).concat _

/-! ## What every refusal comes from -/

/-- What the steps of a run tell of the flushes that have looked at the store, and of the refusals. -/
structure Told (steps : List Step) (a : Access) : Prop where
  sound : Sound a
  flushing : ∀ client : Nat, a.stages[client]? = some .flushing → ∃ before between,
    steps = before ++ .act client .flush :: between ∧ .act client .submit ∉ between ∧ Since between a
  refused : ∀ client job, (client, job) ∈ a.shared.refused → job = .nothing client ∧ Overtaken client steps

theorem told_start (store : Store) : Told [] (start store) :=
  ⟨sound_start store, nofun, nofun⟩

/-- A flush that was on its way goes on being on its way, and what has gone on since it looked grows. -/
theorem flushing_concat (htold : Told steps a) (h : a.step? step = some a')
    (hflushing : a.stages[client]? = some .flushing) (hstep : step ≠ .act client .submit) :
    ∃ before between, steps ++ [step] = before ++ .act client .flush :: between ∧
      .act client .submit ∉ between ∧ Since between a' := by
  obtain ⟨before, between, rfl, hnot, hsince⟩ := htold.flushing client hflushing
  refine ⟨before, between ++ [step], by simp, ?_, since_step h hsince⟩
  rw [List.mem_append, List.mem_singleton, not_or]
  exact ⟨hnot, hstep.symm⟩

theorem told_act (htold : Told steps a) (h : a.step? (.act client action) = some a')
    (hstage : a.stages[client]? = some stage) {s' : Shared} (hacts : a.shared.Acts client stage action s' stage')
    (heq : a' = ⟨s', a.stages.set client stage'⟩) : Told (steps ++ [.act client action]) a' := by
  have hsound' : Sound a' := sound_step h htold.sound
  subst heq
  refine ⟨hsound', fun other hother => ?_, fun other job hmem => ?_⟩
  · rcases stage_of_set hother with ⟨rfl, rfl⟩ | ⟨hne, hother⟩
    · obtain ⟨rfl, hopen, rfl⟩ := hacts.of_flushing
      exact ⟨steps, [], rfl, List.not_mem_nil, since_of_open hsound' hopen⟩
    · refine flushing_concat htold h hother ?_
      rintro ⟨⟩
      exact hne rfl
  · have hearlier (hmem : (other, job) ∈ a.shared.refused) :
        job = .nothing other ∧ Overtaken other (steps ++ [.act client action]) :=
      (htold.refused other job hmem).imp_right fun hover => hover.concat _
    rcases hacts.effect.refused with heq | ⟨hshut, rfl, job', heq, hjob⟩
    · exact hearlier (heq ▸ hmem)
    rw [heq, List.mem_append, List.mem_singleton] at hmem
    rcases hmem with hmem | hmem
    · exact hearlier hmem
    obtain ⟨rfl, rfl⟩ := Prod.mk.inj hmem
    rcases hjob with ⟨rfl, rfl⟩ | ⟨change, rfl, -⟩
    · obtain ⟨before, between, rfl, hnot, hsince⟩ := htold.flushing other hstage
      exact ⟨rfl, before, between, [], by simp, hnot, hsince.closes hshut⟩
    · -- a set has seen the store open, and has the lock since
      have hopen : a.shared.store.closed = false := (htold.sound.fits other _ hstage).2
      exact absurd (htold.sound.closed_of_shut hshut) (Bool.eq_false_iff.1 hopen)

theorem told_step (htold : Told steps a) (h : a.step? step = some a') : Told (steps ++ [step]) a' := by
  rcases step?_cases h with ⟨client, action, stage, s', stage', rfl, hstage, hacts, heq⟩ | ⟨hact, hidles⟩
  · exact told_act htold h hstage hacts heq
  · refine ⟨sound_step h htold.sound, fun client hflushing => ?_, fun client job hmem => ?_⟩
    · rcases hidles.of_stage client _ hflushing with hflushing | heq
      · exact flushing_concat htold h hflushing (hact client .submit)
      · cases heq
    · obtain ⟨hjob, hover⟩ := htold.refused client job (hidles.refused_eq ▸ hmem)
      exact ⟨hjob, hover.concat step⟩

theorem told_run? {store : Store} (h : (start store).run? steps = some a) : Told steps a := by
  induction steps using List.reverseRecOn generalizing a with
  | nil =>
    obtain rfl := Option.some.inj h
    exact told_start store
  | append_singleton steps step ih =>
    rw [run?_append] at h
    obtain ⟨a₁, hrun, hlast⟩ := Option.bind_eq_some_iff.1 h
    rw [run?_cons] at hlast
    obtain ⟨a₂, hstep, hend⟩ := Option.bind_eq_some_iff.1 hlast
    obtain rfl := Option.some.inj hend
    exact told_step (ih hrun) hstep

/-! ## What becomes of a flush that is overtaken -/

theorem shut_step (h : a.step? step = some a') (hshut : a.shared.shut = true) : a'.shared.shut = true := by
  rcases step?_cases h with ⟨client, action, stage, s', stage', -, -, hacts, rfl⟩ | ⟨-, hidles⟩
  · exact hacts.effect.stays_shut hshut
  · exact hidles.shut_eq.trans hshut

theorem mem_refused_step {refusal : Nat × Job} (h : a.step? step = some a') (hmem : refusal ∈ a.shared.refused) :
    refusal ∈ a'.shared.refused := by
  rcases step?_cases h with ⟨client, action, stage, s', stage', -, -, hacts, rfl⟩ | ⟨-, hidles⟩
  · rcases hacts.effect.refused with heq | ⟨-, -, job, heq, -⟩
    · exact heq ▸ hmem
    · exact heq ▸ List.mem_append_left _ hmem
  · exact hidles.refused_eq ▸ hmem

theorem flushing_step (h : a.step? step = some a') (hstep : step ≠ .act client .submit)
    (hflushing : a.stages[client]? = some .flushing) : a'.stages[client]? = some .flushing := by
  rcases step?_cases h with ⟨other, action, stage, s', stage', rfl, hstage, hacts, rfl⟩ | ⟨-, hidles⟩
  · have hne : other ≠ client := by
      rintro rfl
      obtain rfl := Option.some.inj (hstage.symm.trans hflushing)
      cases hacts
      exact hstep rfl
    exact (List.getElem?_set_ne hne).trans hflushing
  · exact hidles.stays client .flushing hflushing

/-- The store is closed, and the client is not on its way to submit anything. -/
def Barred (client : Nat) (a : Access) : Prop :=
  a.shared.store.closed = true ∧ a.stages[client]? ≠ some .flushing ∧
    ∀ change, a.stages[client]? ≠ some (.submitting change)

theorem barred_step (h : a.step? step = some a') (hbarred : Barred client a) : Barred client a' := by
  obtain ⟨hclosed, hflushing, hsubmitting⟩ := hbarred
  rcases step?_cases h with ⟨other, action, stage, s', stage', -, -, hacts, rfl⟩ | ⟨-, hidles⟩
  · have hnot : a.shared.store.closed ≠ false := by simp [hclosed]
    refine ⟨hacts.effect.stays_closed hclosed, fun hstage => ?_, fun change hstage => ?_⟩
    · rcases stage_of_set hstage with ⟨-, rfl⟩ | ⟨-, hstage⟩
      · exact hnot hacts.of_flushing.2.1
      · exact hflushing hstage
    · rcases stage_of_set hstage with ⟨-, rfl⟩ | ⟨-, hstage⟩
      · exact hnot hacts.of_submitting
      · exact hsubmitting change hstage
  · refine ⟨hidles.store_eq ▸ hclosed, fun hstage => ?_, fun change hstage => ?_⟩
    · rcases hidles.of_stage client _ hstage with hstage | heq
      · exact hflushing hstage
      · cases heq
    · rcases hidles.of_stage client _ hstage with hstage | heq
      · exact hsubmitting change hstage
      · cases heq

theorem shut_of_wholeClose (h : a.run? between = some a') (hwhole : WholeClose between) : a'.shared.shut = true := by
  obtain ⟨client, before, middle, after, rfl⟩ := hwhole
  rw [List.append_cons, ← List.append_assoc, run?_append] at h
  obtain ⟨a₁, -, h⟩ := Option.bind_eq_some_iff.1 h
  obtain ⟨a₂, hshut, hafter⟩ := Option.bind_eq_some_iff.1 h
  obtain ⟨stage, s', stage', -, hacts, rfl⟩ := acts_of_step? hshut
  cases hacts
  exact of_run? (P := fun a => a.shared.shut = true) (fun _ _ _ _ => shut_step) hafter rfl

/-- A flush that finds the store open is on its way until it submits its job. One that finds it closed has nothing
to submit, and the client has nothing to submit ever after. -/
theorem flushing_or_barred (hflush : a.step? (.act client .flush) = some a') {a₁ : Access}
    (h : a'.run? between = some a₁) (hnot : .act client .submit ∉ between) :
    a₁.stages[client]? = some .flushing ∨ Barred client a₁ := by
  obtain ⟨stage, s', stage', hstage, hacts, rfl⟩ := acts_of_step? hflush
  have hset : (a.stages.set client stage')[client]? = some stage' :=
    List.getElem?_set_self (List.getElem?_eq_some_iff.1 hstage).1
  cases hacts with
  | flushClosed hclosed =>
    refine .inr (of_run? (fun _ _ _ _ => barred_step) h ⟨hclosed, ?_, fun change => ?_⟩) <;> simp [hset]
  | flushOpen hopen =>
    refine .inl (of_run? (P := fun a => a.stages[client]? = some .flushing) (fun step hstep _ _ hs => ?_) h hset)
    exact flushing_step hs fun heq => hnot (heq ▸ hstep)

theorem refused_of_overtaken {a₀ : Access} (h : a₀.run? steps = some a) (hover : Overtaken client steps) :
    (client, .nothing client) ∈ a.shared.refused := by
  obtain ⟨before, between, after, rfl, hnot, hwhole⟩ := hover
  rw [run?_append] at h
  obtain ⟨a₁, -, h⟩ := Option.bind_eq_some_iff.1 h
  obtain ⟨a₂, hflush, h⟩ := Option.bind_eq_some_iff.1 h
  rw [← run?, run?_append] at h
  obtain ⟨a₃, hbetween, h⟩ := Option.bind_eq_some_iff.1 h
  obtain ⟨a₄, hsubmit, hafter⟩ := Option.bind_eq_some_iff.1 h
  have hshut : a₃.shared.shut = true := shut_of_wholeClose hbetween hwhole
  refine of_run? (P := fun a => (client, Job.nothing client) ∈ a.shared.refused) (fun _ _ _ _ => mem_refused_step)
    hafter ?_
  obtain ⟨stage, s', stage', hstage, hacts, rfl⟩ := acts_of_step? hsubmit
  rcases flushing_or_barred hflush hbetween hnot with hflushing | ⟨-, hflushing, hsubmitting⟩
  · obtain rfl := Option.some.inj (hstage.symm.trans hflushing)
    cases hacts
    simp [Shared.submit, hshut]
  · cases hacts with
    | submitChange change => exact absurd hstage (hsubmitting change)
    | submitNothing => exact absurd hstage hflushing

/-- In every state that clients can reach, the queue takes what a set is about to submit. It refuses the job of a flush
if a whole close has overtaken the flush, and it refuses nothing else. -/
theorem refusals_of_run? {store : Store} (h : (start store).run? steps = some a) :
    (∀ (client : Nat) (change : Change), a.stages[client]? = some (.submitting change) → a.shared.shut = false) ∧
      ∀ (client : Nat) (job : Job),
        (client, job) ∈ a.shared.refused ↔ job = .nothing client ∧ Overtaken client steps := by
  have htold := told_run? h
  refine ⟨fun client change hstage => ?_, fun client job => ⟨htold.refused client job, ?_⟩⟩
  · have hopen : a.shared.store.closed = false := (htold.sound.fits client _ hstage).2
    exact Bool.eq_false_iff.2 fun hshut => Bool.eq_false_iff.1 hopen (htold.sound.closed_of_shut hshut)
  · rintro ⟨rfl, hover⟩
    exact refused_of_overtaken h hover

/-- A flush finds the store open while another client sets a variable. A third client, which had to wait for the
lock, closes the store, and only then the flush submits its job. -/
def race : List Step :=
  [.arrive, .arrive, .arrive, .act 2 (.set ⟨⟨0, .unknown⟩, .default⟩ "roomid".toList (some "42".toList)),
    .act 2 .bind, .act 2 .check, .act 0 .flush, .act 1 .close, .act 2 .submit, .act 2 .leave, .retry 1,
    .act 1 .mark, .act 1 .leave, .act 1 .shut, .act 0 .submit]

theorem refusals_of_run?_race :
    ∃ a, (start (Store.global "changed".toList)).run? race = some a ∧ (0, .nothing 0) ∈ a.shared.refused ∧
      ∀ client change, (client, .post change) ∉ a.shared.refused := by
  obtain ⟨a, ha⟩ := Option.isSome_iff_exists.1
    (show ((start (Store.global "changed".toList)).run? race).isSome from by decide)
  obtain ⟨-, hrefused⟩ := refusals_of_run? ha
  refine ⟨a, ha, (hrefused 0 (.nothing 0)).2 ⟨rfl, ?_⟩, fun client change hmem => ?_⟩
  · exact ⟨race.take 6, (race.drop 7).dropLast, [], rfl, by simp [race],
      1, (race.drop 7).take 4, [.act 1 .leave], [], rfl⟩
  · cases ((hrefused client (.post change)).1 hmem).1

/-- So there are runs in which a flush raises an error. -/
theorem exists_refused : ¬∀ (steps : List Step) (a : Access),
    (start (Store.global "changed".toList)).run? steps = some a → a.shared.refused = [] := by
  intro h
  have hrace : ((start (Store.global "changed".toList)).run? race).map (·.shared.refused) =
      some [(0, .nothing 0)] := by
    decide
  obtain ⟨a, ha, hrefused⟩ := Option.map_eq_some_iff.1 hrace
  rw [h race a ha] at hrefused
  cases hrefused

end MudClient.Variables.Access

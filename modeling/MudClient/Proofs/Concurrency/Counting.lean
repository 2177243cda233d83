import MudClient.Concurrency.ReadersWriterLock

/-!
# The counts of a lock

* `System.Stage`: moves taken apart
* `System.stages_of_step?`: every move is one stage or two
* `System.of_reachable`: what every stage keeps holds in every state that can be reached
* `System.Fits`, `System.Counted`: the counts are those of the threads, and nobody is inside with a writer
* `System.inside_of_step?`, `System.eq_of_inside_write`: a thread stays inside until it leaves, and a writer is alone
* `System.waitingWriters_of_entry`: a reader enters only while no writer waits
* `System.counts_of_reachable`: what the counts say in every state that can be reached
-/

set_option autoImplicit false

namespace MudClient.Concurrency.System

/-! ## Stages of moves -/

/-- The stages of moves: a thread that asks is awake at first, and an awake thread enters or sleeps. A thread
that leaves wakes all that sleep, or none. -/
inductive Stage : System → System → Prop
  | ask (l : Lock) (before after : List Phase) (mode : Mode) :
    Stage ⟨l, before ++ .outside :: after⟩ ⟨l.ask mode, before ++ .waiting mode true :: after⟩
  | enter (l : Lock) (before after : List Phase) (mode : Mode) (h : l.admits mode) :
    Stage ⟨l, before ++ .waiting mode true :: after⟩ ⟨l.enter mode, before ++ .inside mode :: after⟩
  | sleep (l : Lock) (before after : List Phase) (mode : Mode) (h : l.admits mode = false) :
    Stage ⟨l, before ++ .waiting mode true :: after⟩ ⟨l, before ++ .waiting mode false :: after⟩
  | leave (l : Lock) (before after : List Phase) (mode : Mode) (h : (l.leave mode).wakes mode = false) :
    Stage ⟨l, before ++ .inside mode :: after⟩ ⟨l.leave mode, before ++ .outside :: after⟩
  | leaveWaking (l : Lock) (before after : List Phase) (mode : Mode) (h : (l.leave mode).wakes mode) :
    Stage ⟨l, before ++ .inside mode :: after⟩ ⟨l.leave mode, (before ++ .outside :: after).map wake⟩

variable {s s' : System} {m : Move} {l : Lock} {before after threads : List Phase} {phase : Phase}
  {mode : Mode} {thread : Nat}

theorem exists_around (h : threads[thread]? = some phase) :
    ∃ before after, threads = before ++ phase :: after ∧ before.length = thread := by
  obtain ⟨hlt, rfl⟩ := List.getElem?_eq_some_iff.1 h
  refine ⟨threads.take thread, threads.drop (thread + 1), ?_, ?_⟩
  · rw [List.getElem_cons_drop, List.take_append_drop]
  · rw [List.length_take]
    omega

theorem set_around (phase' : Phase) :
    (before ++ phase :: after).set before.length phase' = before ++ phase' :: after := by
  simp

theorem stage_settleThread :
    Stage ⟨l, before ++ .waiting mode true :: after⟩
      (settleThread ⟨l, before ++ phase :: after⟩ before.length mode) := by
  simp only [settleThread, set_around]
  split
  · next h => exact .enter l before after mode h
  · next h => exact .sleep l before after mode (Bool.eq_false_iff.2 h)

/-- A move is one stage, or two where a thread asks. -/
theorem stages_of_step? (h : s.step? m = some s') : Stage s s' ∨ ∃ t, Stage s t ∧ Stage t s' := by
  obtain ⟨l, threads⟩ := s
  cases m with
  | ask thread mode =>
    simp only [step?] at h
    split at h
    · next hphase =>
      obtain ⟨before, after, rfl, rfl⟩ := exists_around hphase
      obtain rfl := Option.some.inj h
      exact .inr ⟨_, .ask l before after mode, stage_settleThread⟩
    · cases h
  | retry thread =>
    simp only [step?] at h
    split at h
    · next mode hphase =>
      obtain ⟨before, after, rfl, rfl⟩ := exists_around hphase
      obtain rfl := Option.some.inj h
      exact .inl stage_settleThread
    · cases h
  | leave thread =>
    simp only [step?] at h
    split at h
    · next mode hphase =>
      obtain ⟨before, after, rfl, rfl⟩ := exists_around hphase
      obtain rfl := Option.some.inj h
      simp only [set_around]
      split
      · next hw => exact .inl (.leaveWaking l before after mode hw)
      · next hw => exact .inl (.leave l before after mode (Bool.eq_false_iff.2 hw))
    · cases h

/-- What holds at first and after every arrival, and is kept by every stage of a move, holds in every state that
can be reached. -/
theorem of_reachable {I : System → Prop} (hempty : I empty) (harrive : ∀ s, I s → I s.arrive)
    (hstage : ∀ s s', Stage s s' → I s → I s') (h : s.Reachable) : I s := by
  induction h with
  | empty => exact hempty
  | arrive _ ih => exact harrive _ ih
  | step _ hs ih =>
    obtain hp | ⟨t, hp, hp'⟩ := stages_of_step? hs
    · exact hstage _ _ hp ih
    · exact hstage _ _ hp' (hstage _ _ hp ih)

/-! ## Counts -/

theorem holders_around (l : Lock) (before after : List Phase) (phase : Phase) (mode : Mode) :
    holders ⟨l, before ++ phase :: after⟩ mode =
      (before ++ after).count (.inside mode) + if phase = .inside mode then 1 else 0 := by
  simp only [holders, List.count_append, List.count_cons, beq_iff_eq]
  omega

theorem waiters_around (l : Lock) (before after : List Phase) (phase : Phase) (mode : Mode) :
    waiters ⟨l, before ++ phase :: after⟩ mode =
      (before ++ after).countP (Phase.isWaitingFor mode) + if phase.isWaitingFor mode then 1 else 0 := by
  simp only [waiters, List.countP_append, List.countP_cons]
  omega

theorem holders_wake (l : Lock) (threads : List Phase) (mode : Mode) :
    holders ⟨l, threads.map wake⟩ mode = holders ⟨l, threads⟩ mode := by
  have hwake (p : Phase) : (wake p == .inside mode) = (p == .inside mode) := by
    cases p <;> rfl
  simp only [holders, List.count, List.countP_map, Function.comp_def, hwake]

theorem waiters_wake (l : Lock) (threads : List Phase) (mode : Mode) :
    waiters ⟨l, threads.map wake⟩ mode = waiters ⟨l, threads⟩ mode := by
  have hwake (p : Phase) : (wake p).isWaitingFor mode = p.isWaitingFor mode := by
    cases p <;> rfl
  simp only [waiters, List.countP_map, Function.comp_def, hwake]

theorem reachable_move (h : s.Reachable) (m : Move) : (s.move m).Reachable := by
  rw [move]
  cases hs : s.step? m with
  | none => exact h
  | some s' => exact h.step hs

theorem reachable_settle (h : s.Reachable) : s.settle.Reachable := by
  rw [settle]
  induction List.range s.threads.length generalizing s with
  | nil => exact h
  | cons thread rest ih => exact ih (reachable_move h (.retry thread))

theorem reachable_acquire (h : s.Reachable) (mode : Mode) : (s.acquire mode).Reachable :=
  reachable_settle (reachable_move h.arrive _)

theorem reachable_release (h : s.Reachable) (hs : s.release mode = some s') : s'.Reachable := by
  obtain ⟨thread, -, rfl⟩ := Option.map_eq_some_iff.1 hs
  exact reachable_settle (reachable_move h (.leave thread))

/-! ## What the lock counts -/

/-- The lock counts so many readers and writers inside and so many writers that wait, and nobody is inside
together with a writer. -/
structure Fits (l : Lock) (readers writers waiting : Nat) : Prop where
  readers_eq : l.readers = readers
  writers_eq : writers = if l.writer then 1 else 0
  waiting_eq : l.waitingWriters = waiting
  apart : writers = 0 ∨ readers = 0

section

variable {readers writers waiting : Nat}

theorem nonneg_of_fits (h : Fits l readers writers waiting) : 0 ≤ l.readers ∧ 0 ≤ l.waitingWriters := by
  rw [h.readers_eq, h.waiting_eq]
  omega

theorem fits_askWrite (h : Fits l readers writers waiting) :
    Fits (l.ask .write) readers writers (waiting + 1) := by
  refine ⟨h.readers_eq, h.writers_eq, ?_, h.apart⟩
  have hwaiting := h.waiting_eq
  simp only [Lock.ask]
  omega

theorem fits_enterRead (hl : l.admits .read) (h : Fits l readers writers waiting) :
    Fits (l.enter .read) (readers + 1) writers waiting := by
  have hreaders := h.readers_eq
  have hwriters := h.writers_eq
  simp only [Lock.admits, Bool.and_eq_true, Bool.not_eq_true'] at hl
  rw [hl.1] at hwriters
  refine ⟨?_, h.writers_eq, h.waiting_eq, .inl hwriters⟩
  simp only [Lock.enter]
  omega

theorem fits_enterWrite (hl : l.admits .write) (h : Fits l readers writers (waiting + 1)) :
    Fits (l.enter .write) readers (writers + 1) waiting := by
  have hreaders := h.readers_eq
  have hwriters := h.writers_eq
  have hwaiting := h.waiting_eq
  simp only [Lock.admits, Bool.and_eq_true, Bool.not_eq_true', beq_iff_eq] at hl
  rw [hl.1] at hwriters
  refine ⟨h.readers_eq, by rw [hwriters]; rfl, ?_, .inr ?_⟩
  · simp only [Lock.enter]
    omega
  · omega

theorem fits_leaveRead (h : Fits l (readers + 1) writers waiting) :
    Fits (l.leave .read) readers writers waiting := by
  have hreaders := h.readers_eq
  have hapart := h.apart
  refine ⟨?_, h.writers_eq, h.waiting_eq, .inl (by omega)⟩
  simp only [Lock.leave]
  omega

theorem fits_leaveWrite (h : Fits l readers (writers + 1) waiting) :
    Fits (l.leave .write) readers writers waiting := by
  have hwriters := h.writers_eq
  have hnone : writers = 0 := by
    split at hwriters <;> omega
  exact ⟨h.readers_eq, hnone, h.waiting_eq, .inl hnone⟩

end

/-! ## Counted systems -/

/-- The lock counts the threads that are inside and the writers that wait. -/
def Counted (s : System) : Prop :=
  Fits s.lock (s.holders .read) (s.holders .write) (s.waiters .write)

theorem counted_around :
    Counted ⟨l, before ++ phase :: after⟩ ↔
      Fits l ((before ++ after).count (.inside .read) + if phase = .inside .read then 1 else 0)
        ((before ++ after).count (.inside .write) + if phase = .inside .write then 1 else 0)
        ((before ++ after).countP (Phase.isWaitingFor .write) +
          if phase.isWaitingFor .write then 1 else 0) := by
  rw [Counted, holders_around, holders_around, waiters_around]

theorem counted_wake : Counted ⟨l, threads.map wake⟩ ↔ Counted ⟨l, threads⟩ := by
  rw [Counted, holders_wake, holders_wake, waiters_wake]
  rfl

theorem counted_leave (h : Counted ⟨l, before ++ .inside mode :: after⟩) :
    Counted ⟨l.leave mode, before ++ .outside :: after⟩ := by
  rw [counted_around] at h ⊢
  cases mode with
  | read => exact fits_leaveRead h
  | write => exact fits_leaveWrite h

theorem counted_stage (hs : Stage s s') (h : Counted s) : Counted s' := by
  cases hs with
  | ask l before after mode =>
    rw [counted_around] at h ⊢
    cases mode with
    | read => exact h
    | write => exact fits_askWrite h
  | enter l before after mode hl =>
    rw [counted_around] at h ⊢
    cases mode with
    | read => exact fits_enterRead hl h
    | write => exact fits_enterWrite hl h
  | sleep l before after mode hl =>
    rw [counted_around] at h ⊢
    exact h
  | leave l before after mode hw => exact counted_leave h
  | leaveWaking l before after mode hw => exact counted_wake.2 (counted_leave h)

theorem counted_empty : Counted empty := ⟨rfl, rfl, rfl, .inl rfl⟩

theorem counted_arrive (h : Counted s) : Counted s.arrive := by
  have harrive : s.arrive = ⟨s.lock, s.threads ++ .outside :: []⟩ := rfl
  rw [harrive, counted_around, List.append_nil]
  exact h

theorem counted_of_reachable (h : s.Reachable) : Counted s :=
  of_reachable counted_empty (fun _ => counted_arrive) (fun _ _ => counted_stage) h

/-! ## Threads inside -/

/-- Nobody but the thread itself ends its stay inside. -/
theorem inside_of_step? {i : Nat} (hs : s.step? m = some s') (hi : s.threads[i]? = some (.inside mode))
    (hstays : m ≠ .leave i) : s'.threads[i]? = some (.inside mode) := by
  have hsettle : ∀ (l : Lock) (thread : Nat) (wanted : Mode), thread ≠ i →
      (settleThread ⟨l, s.threads⟩ thread wanted).threads[i]? = some (.inside mode) := by
    intro l thread wanted hne
    rw [settleThread]
    split <;> exact (List.getElem?_set_ne hne).trans hi
  cases m with
  | ask thread wanted =>
    simp only [step?] at hs
    split at hs
    · next houtside =>
      obtain rfl := Option.some.inj hs
      refine hsettle _ thread wanted ?_
      rintro rfl
      rw [hi] at houtside
      cases houtside
    · cases hs
  | retry thread =>
    simp only [step?] at hs
    split at hs
    · next wanted hwaiting =>
      obtain rfl := Option.some.inj hs
      refine hsettle s.lock thread wanted ?_
      rintro rfl
      rw [hi] at hwaiting
      cases hwaiting
    · cases hs
  | leave thread =>
    simp only [step?] at hs
    split at hs
    · next left hleaves =>
      obtain rfl := Option.some.inj hs
      have hne : thread ≠ i := by
        rintro rfl
        exact hstays rfl
      have hset : (s.threads.set thread .outside)[i]? = some (.inside mode) := (List.getElem?_set_ne hne).trans hi
      split
      · rw [List.getElem?_map, hset]
        rfl
      · exact hset
    · cases hs

theorem eq_of_inside_write {i j : Nat} (h : s.Reachable) (hi : s.threads[i]? = some (.inside .write))
    (hj : s.threads[j]? = some (.inside .write)) : i = j := by
  obtain ⟨l, threads⟩ := s
  obtain ⟨before, after, rfl, rfl⟩ := exists_around hi
  have hwriters := (counted_around.1 (counted_of_reachable h)).writers_eq
  rw [if_pos rfl] at hwriters
  have hnone : .inside .write ∉ before ++ after := by
    rw [← List.count_eq_zero]
    split at hwriters <;> omega
  -- a place other than the first writer's lies before or behind it
  rcases Nat.lt_trichotomy j before.length with hlt | heq | hgt
  · rw [List.getElem?_append_left hlt] at hj
    exact absurd (List.mem_append_left _ (List.mem_of_getElem? hj)) hnone
  · exact heq.symm
  · obtain ⟨k, rfl⟩ := Nat.exists_eq_add_of_lt hgt
    rw [List.getElem?_append_right (by omega), Nat.add_assoc, Nat.add_sub_cancel_left, List.getElem?_cons_succ] at hj
    exact absurd (List.mem_append_right _ (List.mem_of_getElem? hj)) hnone

/-! ## Readers that enter -/

theorem admits_of_settleThread {i : Nat} (hbefore : s.threads[i]? ≠ some (.inside .read))
    (hafter : (s.settleThread thread mode).threads[i]? = some (.inside .read)) :
    mode = .read ∧ s.lock.admits .read := by
  rw [settleThread] at hafter
  split at hafter
  · next hadmits =>
    simp only [List.getElem?_set] at hafter
    split at hafter
    · split at hafter
      · simp only [Option.some.injEq, Phase.inside.injEq] at hafter
        exact ⟨hafter, hafter ▸ hadmits⟩
      · cases hafter
    · exact absurd hafter hbefore
  · simp only [List.getElem?_set] at hafter
    split at hafter
    · split at hafter <;> cases hafter
    · exact absurd hafter hbefore

theorem waitingWriters_of_admits (h : l.admits .read) : l.waitingWriters = 0 := by
  simp only [Lock.admits, Bool.and_eq_true, beq_iff_eq] at h
  exact h.2

theorem not_inside_of_leave {i : Nat} (hbefore : threads[i]? ≠ some (.inside mode)) (b : Bool) :
    (if b then (threads.set thread .outside).map wake else threads.set thread .outside)[i]? ≠
      some (.inside mode) := by
  have hset : (threads.set thread .outside)[i]? ≠ some (.inside mode) := by
    rw [List.getElem?_set]
    split
    · split <;> simp
    · exact hbefore
  split
  · rw [List.getElem?_map]
    intro hafter
    obtain ⟨p, hp, hwake⟩ := Option.map_eq_some_iff.1 hafter
    cases p with
    | outside => cases hwake
    | waiting mode' woken => cases hwake
    | inside mode' => exact hset (hwake ▸ hp)
  · exact hset

/-- A reader enters only while no writer waits. -/
theorem waitingWriters_of_entry (hs : s.step? m = some s')
    (hbefore : s.threads[thread]? ≠ some (.inside .read)) (hafter : s'.threads[thread]? = some (.inside .read)) :
    s.lock.waitingWriters = 0 := by
  cases m with
  | ask asking mode =>
    simp only [step?] at hs
    split at hs
    · obtain rfl := Option.some.inj hs
      obtain ⟨rfl, hadmits⟩ := admits_of_settleThread (s := ⟨s.lock.ask mode, s.threads⟩) hbefore hafter
      exact waitingWriters_of_admits hadmits
    · cases hs
  | retry woken =>
    simp only [step?] at hs
    split at hs
    · obtain rfl := Option.some.inj hs
      exact waitingWriters_of_admits (admits_of_settleThread hbefore hafter).2
    · cases hs
  | leave leaving =>
    simp only [step?] at hs
    split at hs
    · obtain rfl := Option.some.inj hs
      exact absurd hafter (not_inside_of_leave hbefore _)
    · cases hs

/-! ## The counts in every state -/

/-- In every state that threads can reach, the writer flag tells whether exactly one thread is inside to write, the
other counts are those of the readers inside and of the writers that wait, and so never fall below zero, no
two threads are inside of which one writes, and no move lets a reader enter while a writer waits. -/
theorem counts_of_reachable (h : s.Reachable) :
    (s.lock.writer ↔ s.holders .write = 1) ∧
      s.lock.readers = s.holders .read ∧
      s.lock.waitingWriters = s.waiters .write ∧
      (s.holders .write ≤ 1 ∧ (s.holders .write = 0 ∨ s.holders .read = 0)) ∧
      (0 ≤ s.lock.readers ∧ 0 ≤ s.lock.waitingWriters) ∧
      ∀ (m : Move) (s' : System) (thread : Nat), s.step? m = some s' → s.threads[thread]? ≠ some (.inside .read) →
        s'.threads[thread]? = some (.inside .read) → ¬0 < s.lock.waitingWriters := by
  have hfits := counted_of_reachable h
  have hwriters := hfits.writers_eq
  refine ⟨?_, hfits.readers_eq, hfits.waiting_eq, ⟨?_, hfits.apart⟩, nonneg_of_fits hfits,
    fun m s' thread hs hbefore hafter => ?_⟩
  · rw [hwriters]
    cases s.lock.writer <;> simp
  · split at hwriters <;> omega
  · rw [waitingWriters_of_entry hs hbefore hafter]
    omega

/-- A reader inside, and behind it a writer and a reader that wait. -/
def crowd : System := ((empty.acquire .read).acquire .write).acquire .read

/-- A writer has left, and the reader that waited for it is awake. -/
def handover : System := ((empty.acquire .write).acquire .read).move (.leave 0)

theorem reachable_crowd : crowd.Reachable :=
  reachable_acquire (reachable_acquire (reachable_acquire .empty _) _) _

theorem reachable_handover : handover.Reachable :=
  reachable_move (reachable_acquire (reachable_acquire .empty _) _) _

theorem counts_of_reachable_crowd :
    (crowd.Reachable ∧ crowd.lock.readers = 1 ∧ crowd.holders .read = 1 ∧ crowd.lock.waitingWriters = 1 ∧
        crowd.waiters .write = 1 ∧ ¬crowd.lock.writer) ∧
      handover.Reachable ∧ handover.step? (.retry 1) = some ⟨⟨1, false, 0⟩, [.outside, .inside .read]⟩ ∧
      handover.threads[1]? ≠ some (.inside .read) ∧ ¬0 < handover.lock.waitingWriters := by
  obtain ⟨hwriter, hreaders, hwaiting, -, -, -⟩ := counts_of_reachable reachable_crowd
  have hentry := (counts_of_reachable reachable_handover).2.2.2.2.2 (.retry 1)
    ⟨⟨1, false, 0⟩, [.outside, .inside .read]⟩ 1 (by decide) (by decide) (by decide)
  refine ⟨⟨reachable_crowd, ?_, by decide, ?_, by decide, ?_⟩, reachable_handover, by decide, by decide, hentry⟩
  · rw [hreaders]
    decide
  · rw [hwaiting]
    decide
  · rw [hwriter]
    decide

end MudClient.Concurrency.System

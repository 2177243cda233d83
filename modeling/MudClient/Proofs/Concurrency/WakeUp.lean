import MudClient.Proofs.Concurrency.Counting

/-!
# No wake-up is lost

* `System.Justified`: the lock would let none of the threads in that sleep
* `System.justified_stage`, `System.justified_of_reachable`: that is so in every state that can be reached
* `System.exists_admitted`: when nobody is inside and a thread waits, one that is awake would be let in
* `System.waits_of_reachable`: what threads wait for
-/

set_option autoImplicit false

namespace MudClient.Concurrency.System

variable {s s' : System} {l : Lock} {before after threads : List Phase} {phase : Phase} {mode : Mode}

/-! ## Locks that keep threads out -/

theorem admits_read_eq_false : l.admits .read = false ↔ l.writer ∨ l.waitingWriters ≠ 0 := by
  simp only [Lock.admits, Bool.and_eq_false_iff, Bool.not_eq_false', beq_eq_false_iff_ne]

theorem admits_write_eq_false : l.admits .write = false ↔ l.writer ∨ l.readers ≠ 0 := by
  simp only [Lock.admits, Bool.and_eq_false_iff, Bool.not_eq_false', beq_eq_false_iff_ne]

variable (h : l.admits mode = false)
include h

theorem not_admits_ask (hcount : 0 ≤ l.waitingWriters) (asking : Mode) :
    (l.ask asking).admits mode = false := by
  cases asking with
  | read => exact h
  | write =>
    cases mode with
    | read =>
      refine admits_read_eq_false.2 (.inr ?_)
      simp only [Lock.ask]
      omega
    | write => exact h

theorem not_admits_enter (hcount : 0 ≤ l.readers) (entering : Mode) :
    (l.enter entering).admits mode = false := by
  cases entering with
  | read =>
    cases mode with
    | read => exact h
    | write =>
      refine admits_write_eq_false.2 (.inr ?_)
      simp only [Lock.enter]
      omega
  | write => cases mode <;> rfl

/-- A reader that leaves others behind makes no place for a writer. -/
theorem not_admits_leave {leaving : Mode} (hw : (l.leave leaving).wakes leaving = false) :
    (l.leave leaving).admits mode = false := by
  cases leaving with
  | read =>
    cases mode with
    | read => exact h
    | write =>
      refine admits_write_eq_false.2 (.inr ?_)
      simpa only [Lock.wakes, beq_eq_false_iff_ne] using hw
  | write => cases hw

omit h

/-! ## Sleeping threads -/

/-- The lock would let none of the threads in that sleep. -/
def Justified (s : System) : Prop :=
  ∀ mode, .waiting mode false ∈ s.threads → s.lock.admits mode = false

theorem justified_around :
    Justified ⟨l, before ++ phase :: after⟩ ↔
      (∀ mode, phase = .waiting mode false → l.admits mode = false) ∧ Justified ⟨l, before ++ after⟩ := by
  simp only [Justified, List.mem_append, List.mem_cons]
  constructor
  · intro h
    exact ⟨fun mode hp => h mode (.inr (.inl hp.symm)), fun mode hm => h mode (hm.imp_right .inr)⟩
  · rintro ⟨hp, h⟩ mode (hm | hm | hm)
    · exact h mode (.inl hm)
    · exact hp mode hm.symm
    · exact h mode (.inr hm)

theorem justified_wake (l : Lock) (threads : List Phase) : Justified ⟨l, threads.map wake⟩ := by
  intro mode hm
  obtain ⟨p, -, hp⟩ := List.mem_map.1 hm
  cases p <;> cases hp

theorem justified_stage (hs : Stage s s') (hc : Counted s) (h : Justified s) : Justified s' := by
  obtain ⟨hreaders, hwaiting⟩ := nonneg_of_fits hc
  cases hs with
  | ask l before after asking =>
    rw [justified_around] at h ⊢
    exact ⟨by simp, fun mode hm => not_admits_ask (h.2 mode hm) hwaiting asking⟩
  | enter l before after entering hl =>
    rw [justified_around] at h ⊢
    exact ⟨by simp, fun mode hm => not_admits_enter (h.2 mode hm) hreaders entering⟩
  | sleep l before after sleeping hl =>
    rw [justified_around] at h ⊢
    refine ⟨fun mode hp => ?_, h.2⟩
    cases hp
    exact hl
  | leave l before after leaving hw =>
    rw [justified_around] at h ⊢
    exact ⟨by simp, fun mode hm => not_admits_leave (h.2 mode hm) hw⟩
  | leaveWaking l before after leaving hw => exact justified_wake _ _

theorem justified_arrive (h : Justified s) : Justified s.arrive := by
  intro mode hm
  refine h mode ?_
  simpa [arrive] using hm

theorem justified_of_reachable (h : s.Reachable) : Justified s := by
  -- A stage keeps this only because the counts are not negative, so both are carried along together.
  have hboth : Counted s ∧ Justified s :=
    of_reachable (I := fun s => Counted s ∧ Justified s) ⟨counted_empty, by simp [Justified, empty]⟩
      (fun _ hs => ⟨counted_arrive hs.1, justified_arrive hs.2⟩)
      (fun _ _ hstage hs => ⟨counted_stage hstage hs.1, justified_stage hstage hs.1 hs.2⟩) h
  exact hboth.2

/-! ## Threads that are awake -/

theorem awake_of_admits {woken : Bool} (h : s.Reachable) (hm : .waiting mode woken ∈ s.threads)
    (hadmits : s.lock.admits mode) : woken = true := by
  cases woken with
  | false => exact absurd (justified_of_reachable h mode hm) (by simp [hadmits])
  | true => rfl

/-- When nobody is inside and a thread waits, one that is awake would be let in. -/
theorem exists_admitted {woken : Bool} (h : s.Reachable) (hnone : ∀ mode, .inside mode ∉ s.threads)
    (hm : .waiting mode woken ∈ s.threads) :
    ∃ mode, .waiting mode true ∈ s.threads ∧ s.lock.admits mode := by
  obtain ⟨hreaders, hwriters, hwaiting, -⟩ := counted_of_reachable h
  have hfree : s.lock.writer = false := by
    rw [holders, List.count_eq_zero.2 (hnone .write)] at hwriters
    cases hw : s.lock.writer with
    | false => rfl
    | true => simp [hw] at hwriters
  have hempty : s.lock.readers = 0 := by
    rw [hreaders, holders, List.count_eq_zero.2 (hnone .read)]
    rfl
  by_cases hwriter : ∃ woken, .waiting .write woken ∈ s.threads
  · obtain ⟨woken', hm'⟩ := hwriter
    have hadmits : s.lock.admits .write := by simp [Lock.admits, hfree, hempty]
    exact ⟨.write, awake_of_admits h hm' hadmits ▸ hm', hadmits⟩
  · -- Nobody waits to write, so the thread that waits is a reader, and nothing keeps it out.
    have hnobody : s.waiters .write = 0 := by
      refine List.countP_eq_zero.2 fun phase hphase hw => ?_
      cases phase with
      | waiting mode' woken' =>
        obtain rfl : mode' = .write := by simpa [Phase.isWaitingFor] using hw
        exact hwriter ⟨woken', hphase⟩
      | outside => cases hw
      | inside mode' => cases hw
    have hadmits : s.lock.admits .read := by simp [Lock.admits, hfree, hwaiting, hnobody]
    cases mode with
    | read => exact ⟨.read, awake_of_admits h hm hadmits ▸ hm, hadmits⟩
    | write => exact absurd ⟨woken, hm⟩ hwriter

theorem enters_of_admits {thread : Nat} (hm : s.threads[thread]? = some (.waiting mode true))
    (hadmits : s.lock.admits mode) :
    ∃ s', s.step? (.retry thread) = some s' ∧ s'.threads[thread]? = some (.inside mode) := by
  refine ⟨⟨s.lock.enter mode, s.threads.set thread (.inside mode)⟩, ?_, ?_⟩
  · simp only [step?, hm, settleThread, hadmits, if_true]
  · obtain ⟨hlt, -⟩ := List.getElem?_eq_some_iff.1 hm
    exact List.getElem?_set_self hlt

/-! ## What threads wait for -/

/-- In every state that threads can reach, a thread that waits and was not woken has something to wait for: a
reader a writer that is inside or waits, and a writer a thread that is inside. So while a thread waits, some
thread is inside or some woken one can enter, and where neither is so, no thread waits. -/
theorem waits_of_reachable (h : s.Reachable) :
    (.waiting .read false ∈ s.threads → s.lock.writer ∨ 0 < s.lock.waitingWriters) ∧
      (.waiting .write false ∈ s.threads → s.lock.writer ∨ 0 < s.lock.readers) ∧
      ((∃ mode woken, .waiting mode woken ∈ s.threads) →
        (∃ mode, .inside mode ∈ s.threads) ∨
          ∃ thread mode s', s.threads[thread]? = some (.waiting mode true) ∧
            s.step? (.retry thread) = some s' ∧ s'.threads[thread]? = some (.inside mode)) ∧
      ((∀ mode, .inside mode ∉ s.threads) → (∀ mode, .waiting mode true ∉ s.threads) →
        ∀ mode woken, .waiting mode woken ∉ s.threads) := by
  obtain ⟨hreaders, hwaiting⟩ := nonneg_of_fits (counted_of_reachable h)
  have hreason := justified_of_reachable h
  refine ⟨fun hm => ?_, fun hm => ?_, ?_, fun hnone hasleep mode woken hm => ?_⟩
  · exact (admits_read_eq_false.1 (hreason .read hm)).imp_right fun hne => by omega
  · exact (admits_write_eq_false.1 (hreason .write hm)).imp_right fun hne => by omega
  · rintro ⟨mode, woken, hm⟩
    by_cases hinside : ∃ mode, .inside mode ∈ s.threads
    · exact .inl hinside
    · obtain ⟨mode', hm', hadmits⟩ := exists_admitted h (fun mode hi => hinside ⟨mode, hi⟩) hm
      obtain ⟨thread, hthread⟩ := List.mem_iff_getElem?.1 hm'
      obtain ⟨s', hs', hentered⟩ := enters_of_admits hthread hadmits
      exact .inr ⟨thread, mode', s', hthread, hs', hentered⟩
  · obtain ⟨mode', hm', -⟩ := exists_admitted h hnone hm
    exact hasleep mode' hm'

/-- The only thread has been inside and has left. -/
def rested : System := (empty.acquire .write).move (.leave 0)

theorem reachable_rested : rested.Reachable := reachable_move (reachable_acquire .empty _) _

theorem waits_of_reachable_crowd :
    crowd.Reachable ∧ .waiting .read false ∈ crowd.threads ∧ 0 < crowd.lock.waitingWriters ∧
      .waiting .write false ∈ crowd.threads ∧ 0 < crowd.lock.readers ∧
      ((∀ mode, .inside mode ∉ handover.threads) ∧ .waiting .read true ∈ handover.threads ∧
        ∃ thread mode s', handover.threads[thread]? = some (.waiting mode true) ∧
          handover.step? (.retry thread) = some s' ∧ s'.threads[thread]? = some (.inside mode)) ∧
      (rested.threads = [.outside] ∧ ∀ mode woken, .waiting mode woken ∉ rested.threads) := by
  obtain ⟨hread, hwrite, -, -⟩ := waits_of_reachable reachable_crowd
  obtain ⟨-, -, hgoesOn, -⟩ := waits_of_reachable reachable_handover
  obtain ⟨-, -, -, hfree⟩ := waits_of_reachable reachable_rested
  have hnone : ∀ mode, .inside mode ∉ handover.threads := by
    intro mode
    cases mode <;> decide
  refine ⟨reachable_crowd, by decide, (hread (by decide)).resolve_left (by decide), by decide,
    (hwrite (by decide)).resolve_left (by decide), ⟨hnone, by decide, ?_⟩, ?_⟩
  · refine (hgoesOn ⟨.read, true, by decide⟩).resolve_left ?_
    rintro ⟨mode, hm⟩
    exact hnone mode hm
  · have hthreads : rested.threads = [.outside] := by decide
    exact ⟨hthreads, hfree (by simp [hthreads]) (by simp [hthreads])⟩

end MudClient.Concurrency.System

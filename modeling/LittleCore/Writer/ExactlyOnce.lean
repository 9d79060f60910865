import LittleCore.Library.Fairness
import LittleCore.Writer.Accounts

/-!
# Every snapshot job exactly once

What the accounts say about a reachable state, and that a fair run gets through with everything
that it is given: a job that was accepted is handed to `snapshot_write_file`, and the buffer of
every call is freed.

## Main results

* `snapshot_queue` — the queue, its order, and its buffers in every interleaving
-/

namespace LittleCore

open Library

/-- The ring of the globals is a window of at most four jobs, and empty elsewhere. -/
structure SnapshotGlobals.Window (g : SnapshotGlobals) : Prop where
  count_le : g.gSnapshotCount ≤ 4
  tail : g.gSnapshotTail = (g.gSnapshotHead + g.gSnapshotCount) % 4
  outside : ∀ i < 4, (∀ k < g.gSnapshotCount, (g.gSnapshotHead + k) % 4 ≠ i) →
    g.gSnapshotQueue[i]? = some {}

/-- The writer has been given the jobs in the order in which they were accepted and none of them
twice, no buffer has been freed twice, and a writer that is stopped has left nothing behind. -/
structure SnapshotThreads.ExactlyOnce (s : SnapshotThreads) : Prop where
  order : s.written <+: s.accepted
  distinct : (buffers s.accepted).Nodup
  passed : ∀ b ∈ buffers s.accepted, b ∈ s.passed
  freed : s.freed.Nodup
  stopped : s.control = .outside → s.globals.gSnapshotStarted = false →
    s.written = s.accepted ∧ ∀ b ∈ buffers s.accepted, b ∈ s.freed

/-- The steps that the writer thread makes by itself. -/
def SnapshotStep.byWriter : SnapshotStep → Bool
  | .test | .process | .attempt | .finish | .release => true
  | _ => false

/-- The scheduler lets the writer thread and every call go on. Nobody is waited for: the other
steps, among them that a wait returns without a signal, may be left out for ever. -/
structure SnapshotThreads.FairRun (r : snapshotThreads.Run) : Prop where
  writer : r.Fair fun e => e.byWriter = true
  enqueue : ∀ job, r.Fair (· = .enqueue job)
  reject : ∀ job, r.Fair (· = .reject job)

/-- How many steps of its own the writer thread has at most until it takes another job. -/
def WriterThread.toDo : WriterThread → ℕ
  | .ready => snapshotMaxAttempts + 4
  | .holding _ => snapshotMaxAttempts + 3
  | .writing _ attempts => snapshotMaxAttempts - attempts + 2
  | .releasing _ => 1
  | _ => 0

/-- How many jobs the writer thread is through with. -/
def SnapshotThreads.done (s : SnapshotThreads) : ℕ := s.written.length - s.writer.handed.length

namespace Keeps

variable {s s' : SnapshotThreads} {released q : List SnapshotJob} {e : SnapshotStep}

theorem window (h : Keeps s released q) : s.globals.Window := by
  refine ⟨h.holds.count_le, ?_, fun i hi hout => h.holds.empty_of_outside hi hout⟩
  rw [h.holds.tail, ← h.holds.count]
  rfl

theorem count_accepted_le (h : Keeps s released q) (b : ℕ) :
    (buffers s.accepted).count b ≤ s.passed.count b := by
  have hfreed := h.freed b
  have howned := h.owned b
  rw [h.accepted]
  simp only [buffers_append, List.count_append] at howned ⊢
  omega

theorem exactlyOnce (h : Keeps s released q) : s.ExactlyOnce where
  order := by
    rw [h.written, h.accepted, List.append_assoc]
    refine (List.prefix_append_right_inj released).mpr ?_
    cases s.writer <;> simp [WriterThread.handed, WriterThread.owned]
  distinct := List.nodup_iff_count_le_one.mpr fun b =>
    (h.count_accepted_le b).trans (List.nodup_iff_count_le_one.mp h.distinct b)
  passed b hb := List.count_pos_iff.mp
    ((List.count_pos_iff.mpr hb).trans_le (h.count_accepted_le b))
  freed := List.nodup_iff_count_le_one.mpr fun b => by
    have howned := h.owned b
    have hdistinct := List.nodup_iff_count_le_one.mp h.distinct b
    omega
  stopped hcontrol hstarted := by
    have hphase := h.phase
    rw [hcontrol, WriterPhase, hstarted, if_neg Bool.false_ne_true] at hphase
    have haccepted := h.accepted
    have hwritten := h.written
    rw [hphase.2, h.closed hstarted] at haccepted
    rw [hphase.2] at hwritten
    have hreleased : s.accepted = released := by simpa [WriterThread.owned] using haccepted
    refine ⟨by simpa [WriterThread.handed, hreleased] using hwritten, fun b hb => ?_⟩
    rw [hreleased] at hb
    exact List.count_pos_iff.mp ((List.count_pos_iff.mpr hb).trans_le (h.freed b))

/-! ### The writer gets on -/

/-- What the writer is through with. -/
theorem done_eq (h : Keeps s released q) : s.done = released.length := by
  rw [SnapshotThreads.done, h.written, List.length_append, Nat.add_sub_cancel]

/-- A writer with something left to do works. -/
theorem works_of_pending (h : Keeps s released q) (hpending : s.done < s.accepted.length) :
    s.writer.Works := by
  by_contra hrest
  have howned : s.writer.owned = [] := by
    cases hwriter : s.writer <;> rw [hwriter] at hrest <;> first | rfl | exact absurd trivial hrest
  rw [h.done_eq, h.accepted, howned, h.rest hrest] at hpending
  simp at hpending

/-- The other threads leave a writer that works alone. -/
theorem others (h : Keeps s released q) (hworks : s.writer.Works) (htakes : s.Takes e s')
    (hother : e.byWriter = false) : s'.writer = s.writer ∧ s'.written = s.written := by
  cases htakes with
  | call =>
    rw [SnapshotThreads.call]
    split <;> exact ⟨rfl, rfl⟩
  | enqueue =>
    rw [SnapshotThreads.enqueue]
    split
    · exact ⟨hworks.signal_eq, rfl⟩
    · exact ⟨rfl, rfl⟩
  | wake hwriter =>
    rw [hwriter] at hworks
    exact hworks.elim
  | init =>
    rw [SnapshotThreads.init]
    split_ifs <;> exact ⟨rfl, rfl⟩
  | create hcontrol =>
    have hphase := h.phase
    rw [hcontrol] at hphase
    exact absurd hphase.2.2 hworks.ne_absent
  | stop =>
    rw [SnapshotThreads.stop]
    split_ifs
    · exact ⟨rfl, rfl⟩
    · exact ⟨hworks.signal_eq, rfl⟩
  | join _ hwriter =>
    rw [hwriter] at hworks
    exact hworks.elim
  | reject | start | clear => exact ⟨rfl, rfl⟩
  | test | process | attempt | finish | release => cases hother

/-- **A step of the writer** brings it nearer to the end of its job, or it is through with it. -/
theorem writer_advances (h : Keeps s released q) (hpending : s.done < s.accepted.length)
    (htakes : s.Takes e s') (hwriter : e.byWriter = true) :
    s'.done = s.done ∧ s'.writer.toDo < s.writer.toDo ∨
      s'.done = s.done + 1 ∧ s'.writer = .ready ∧ 0 < s.writer.toDo := by
  cases htakes with
  | test hready =>
    rcases q with _ | ⟨job, q⟩
    · rw [h.done_eq, h.accepted, hready] at hpending
      simp [WriterThread.owned] at hpending
    · refine .inl ⟨?_, ?_⟩
      · simp [SnapshotThreads.done, SnapshotThreads.test, h.holds.test_cons.1, hready,
          WriterThread.handed]
      · simp [SnapshotThreads.test, h.holds.test_cons.1, hready, WriterThread.toDo]
  | process hholding =>
    obtain ⟨hkeeps, hwriting⟩ := h.process hholding
    refine .inl ⟨?_, ?_⟩
    · rw [hkeeps.done_eq, h.done_eq]
    · simp [hwriting, hholding, WriterThread.toDo]
  | attempt hwriting hattempts =>
    refine .inl ⟨?_, ?_⟩
    · rw [(h.attempt hwriting).done_eq, h.done_eq]
    · rw [hwriting]
      change snapshotMaxAttempts - _ + 2 < snapshotMaxAttempts - _ + 2
      omega
  | finish hwriting =>
    refine .inl ⟨?_, ?_⟩
    · simp [SnapshotThreads.done, hwriting, WriterThread.handed]
    · rw [hwriting]
      change 1 < snapshotMaxAttempts - _ + 2
      omega
  | release hreleasing =>
    refine .inr ⟨?_, rfl, ?_⟩
    · rw [(h.release hreleasing).done_eq, h.done_eq, List.length_append, List.length_singleton]
    · rw [hreleasing]
      exact Nat.one_pos
  | call | enqueue | reject | wake | init | create | start | stop | join | clear => cases hwriter

end Keeps

/-! ### The calls get on -/

/-- The steps that the calls make. -/
def SnapshotStep.byCall : SnapshotStep → Bool
  | .call .. | .enqueue _ | .reject _ => true
  | _ => false

/-- The calls are where they were. -/
structure SameCalls (s s' : SnapshotThreads) : Prop where
  callers : s'.callers = s.callers
  rejected : s'.rejected = s.rejected
  accepted : s'.accepted = s.accepted

namespace SnapshotThreads.Takes

variable {s s' : SnapshotThreads} {e : SnapshotStep} {job : SnapshotJob}

/-- The other threads leave the calls alone. -/
theorem sameCalls (h : s.Takes e s') (hother : e.byCall = false) : SameCalls s s' := by
  cases h with
  | process =>
    rw [SnapshotThreads.process]
    split_ifs <;> exact ⟨rfl, rfl, rfl⟩
  | init =>
    rw [SnapshotThreads.init]
    split_ifs <;> exact ⟨rfl, rfl, rfl⟩
  | create =>
    rw [SnapshotThreads.create]
    split_ifs <;> exact ⟨rfl, rfl, rfl⟩
  | stop =>
    rw [SnapshotThreads.stop]
    split_ifs <;> exact ⟨rfl, rfl, rfl⟩
  | call | enqueue | reject => cases hother
  | _ => exact ⟨rfl, rfl, rfl⟩

theorem accepted_grows (h : s.Takes e s') : s.accepted <+: s'.accepted := by
  cases hcall : e.byCall with
  | false => rw [(h.sameCalls hcall).accepted]
  | true =>
    cases h with
    | call =>
      rw [SnapshotThreads.call]
      split <;> exact List.prefix_rfl
    | enqueue =>
      rw [SnapshotThreads.enqueue]
      split
      · exact List.prefix_append ..
      · exact List.prefix_rfl
    | reject => exact List.prefix_rfl
    | _ => cases hcall

/-- A call waits for the mutex until it has it, and its job is accepted or rejected then. -/
theorem callers (h : s.Takes e s') (hjob : job ∈ s.callers) :
    (job ∈ s'.rejected ∨ job ∈ s'.accepted) ∨ job ∈ s'.callers ∧ e ≠ .enqueue job := by
  cases hcall : e.byCall with
  | false =>
    rw [(h.sameCalls hcall).callers]
    exact .inr ⟨hjob, fun heq => by rw [heq] at hcall; cases hcall⟩
  | true =>
    cases h with
    | call =>
      refine .inr ⟨?_, by simp⟩
      rw [SnapshotThreads.call]
      split
      · exact hjob
      · exact List.mem_append_left _ hjob
    | @enqueue other =>
      rw [SnapshotThreads.enqueue]
      by_cases hother : job = other
      · rw [hother]
        split
        · exact .inl (.inr (List.mem_append_right _ (List.mem_singleton_self _)))
        · exact .inl (.inl (List.mem_append_right _ (List.mem_singleton_self _)))
      · refine .inr ⟨?_, fun heq => hother (SnapshotStep.enqueue.inj heq).symm⟩
        split <;> exact (List.mem_erase_of_ne hother).mpr hjob
    | reject => exact .inr ⟨hjob, by simp⟩
    | _ => cases hcall

/-- A call that was rejected frees its buffer. -/
theorem rejected (h : s.Takes e s') (hjob : job ∈ s.rejected) :
    (∀ b ∈ job.data, b ∈ s'.freed) ∨ job ∈ s'.rejected ∧ e ≠ .reject job := by
  cases hcall : e.byCall with
  | false =>
    rw [(h.sameCalls hcall).rejected]
    exact .inr ⟨hjob, fun heq => by rw [heq] at hcall; cases hcall⟩
  | true =>
    cases h with
    | call =>
      refine .inr ⟨?_, by simp⟩
      rw [SnapshotThreads.call]
      split <;> exact hjob
    | enqueue =>
      refine .inr ⟨?_, by simp⟩
      rw [SnapshotThreads.enqueue]
      split
      · exact hjob
      · exact List.mem_append_left _ hjob
    | @reject other =>
      by_cases hother : job = other
      · refine .inl ?_
        intro b hb
        rw [hother] at hb
        exact List.mem_append_right _ (Option.mem_toList.mpr hb)
      · refine .inr ⟨(List.mem_erase_of_ne hother).mpr hjob, fun heq => hother ?_⟩
        exact (SnapshotStep.reject.inj heq).symm
    | _ => cases hcall

end SnapshotThreads.Takes

/-! ### Fair runs -/

/-- A writer thread that works can make a step. -/
theorem WriterThread.Works.can_step {s : SnapshotThreads} (h : s.writer.Works) :
    ∃ e : SnapshotStep, e.byWriter = true ∧ (s.step e).isSome := by
  cases hwriter : s.writer with
  | absent | asleep | exited =>
    rw [hwriter] at h
    exact h.elim
  | ready => exact ⟨.test, rfl, by simp [SnapshotThreads.step, hwriter]⟩
  | holding job => exact ⟨.process, rfl, by simp [SnapshotThreads.step, hwriter]⟩
  | writing job attempts =>
    by_cases hattempts : 0 < attempts
    · exact ⟨.finish, rfl, by simp [SnapshotThreads.step, hwriter, hattempts]⟩
    · have hzero : attempts = 0 := by omega
      exact ⟨.attempt, rfl, by simp [SnapshotThreads.step, hwriter, hzero, snapshotMaxAttempts]⟩
  | releasing job => exact ⟨.release, rfl, by simp [SnapshotThreads.step, hwriter]⟩

section

variable {r : snapshotThreads.Run} {t : ℕ}

/-- **The writer gets through with every job.** What is left to do before the job number `i` has
been freed is so many rounds of the writer thread's loop, and the rest of the present one. -/
theorem done_eventually (hfair : SnapshotThreads.FairRun r)
    (hkeeps : ∃ released q, Keeps (r.state t) released q) {i : ℕ}
    (hi : i < (r.state t).accepted.length) : ∃ t' ≥ t, i < (r.state t').done := by
  refine Monitor.Run.leadsTo hfair.writer
    (fun s => (∃ released q, Keeps s released q) ∧ i < s.accepted.length) (fun s => i < s.done)
    (fun s => (i - s.done) * (snapshotMaxAttempts + 4) + s.writer.toDo) ?_ ?_ ⟨hkeeps, hi⟩
  · rintro s ⟨⟨released, q, h⟩, hi⟩ hbefore
    exact (h.works_of_pending (by omega)).can_step
  · rintro s e s' ⟨⟨released, q, h⟩, hi⟩ hbefore hstep
    have htakes := SnapshotThreads.takes_of_step hstep
    have hpending : s.done < s.accepted.length := by omega
    have hinvariant : (∃ released q, Keeps s' released q) ∧ i < s'.accepted.length :=
      ⟨h.step hstep, hi.trans_le htakes.accepted_grows.length_le⟩
    cases hwriter : e.byWriter with
    | false =>
      obtain ⟨hsame, hwritten⟩ := h.others (h.works_of_pending hpending) htakes hwriter
      have hdone : s'.done = s.done := by
        rw [SnapshotThreads.done, hwritten, hsame]
        rfl
      exact .inr ⟨hinvariant, by rw [hdone, hsame], fun hcontra => by cases hcontra⟩
    | true =>
      rcases h.writer_advances hpending htakes hwriter with
        ⟨hdone, hless⟩ | ⟨hdone, hready, hleft⟩
      · refine .inr ⟨hinvariant, ?_, fun _ => ?_⟩
        · rw [hdone]
          omega
        · rw [hdone]
          omega
      · by_cases hlast : i < s'.done
        · exact .inl hlast
        · obtain ⟨k, hk⟩ := Nat.exists_eq_add_of_le (Nat.not_lt.mp hlast)
          have hrounds : i - s.done = k + 1 := by omega
          have hrounds' : i - s'.done = k := by omega
          have hless : (i - s'.done) * (snapshotMaxAttempts + 4) + s'.writer.toDo
              < (i - s.done) * (snapshotMaxAttempts + 4) + s.writer.toDo := by
            rw [hrounds, hrounds', hready, Nat.succ_mul]
            exact Nat.lt_add_of_pos_right hleft
          exact .inr ⟨hinvariant, hless.le, fun _ => hless⟩

theorem keeps_later (h : ∃ released q, Keeps (r.state t) released q) {t' : ℕ} (ht : t ≤ t') :
    ∃ released q, Keeps (r.state t') released q :=
  Monitor.Run.induct (P := fun s : SnapshotThreads => ∃ released q, Keeps s released q)
    (fun _ _ _ ⟨_, _, h⟩ hstep => h.step hstep) h ht

/-- A job that was accepted is handed to `snapshot_write_file`, and freed after that. -/
theorem written_eventually (hfair : SnapshotThreads.FairRun r)
    (hkeeps : ∃ released q, Keeps (r.state t) released q) {job : SnapshotJob}
    (hjob : job ∈ (r.state t).accepted) :
    ∃ t' ≥ t, job ∈ (r.state t').written ∧ ∀ b ∈ job.data, b ∈ (r.state t').freed := by
  obtain ⟨i, hi, hget⟩ := List.getElem_of_mem hjob
  obtain ⟨t', ht', hdone⟩ := done_eventually hfair hkeeps hi
  obtain ⟨released, q, h⟩ := keeps_later hkeeps ht'
  have haccepted : (r.state t).accepted <+: (r.state t').accepted :=
    Monitor.Run.induct (P := fun s : SnapshotThreads => (r.state t).accepted <+: s.accepted)
      (fun _ _ _ hprefix hstep =>
        hprefix.trans (SnapshotThreads.takes_of_step hstep).accepted_grows) List.prefix_rfl ht'
  rw [h.done_eq] at hdone
  have hmem : job ∈ released := by
    have hget' : (r.state t').accepted[i]? = some job := by
      obtain ⟨later, hlater⟩ := haccepted
      rw [← hlater, List.getElem?_append_left hi, List.getElem?_eq_getElem hi, hget]
    rw [h.accepted, List.append_assoc, List.getElem?_append_left hdone] at hget'
    exact List.mem_of_getElem? hget'
  refine ⟨t', ht', ?_, fun b hb => ?_⟩
  · rw [h.written]
    exact List.mem_append_left _ hmem
  · have hcount := List.count_pos_iff.mpr (mem_buffers.mpr ⟨job, hmem, hb⟩)
    exact List.count_pos_iff.mp (hcount.trans_le (h.freed b))

/-- A call that has its job gets on, and the writer or the call itself frees the buffer. -/
theorem rejected_eventually (hfair : SnapshotThreads.FairRun r) {job : SnapshotJob}
    (hjob : job ∈ (r.state t).rejected) : ∃ t' ≥ t, ∀ b ∈ job.data, b ∈ (r.state t').freed := by
  refine Monitor.Run.leadsTo (hfair.reject job) (fun s => job ∈ s.rejected)
    (fun s => ∀ b ∈ job.data, b ∈ s.freed) (fun _ => 0) ?_ ?_ hjob
  · intro s hjob _
    exact ⟨.reject job, rfl, by simp [snapshotThreads, SnapshotThreads.step, hjob]⟩
  · intro s e s' hjob _ hstep
    rcases (SnapshotThreads.takes_of_step hstep).rejected hjob with hfreed | ⟨hjob', hne⟩
    · exact .inl hfreed
    · exact .inr ⟨hjob', Nat.le_refl _, fun heq => absurd heq hne⟩

theorem judged_eventually (hfair : SnapshotThreads.FairRun r) {job : SnapshotJob}
    (hjob : job ∈ (r.state t).callers) :
    ∃ t' ≥ t, job ∈ (r.state t').rejected ∨ job ∈ (r.state t').accepted := by
  refine Monitor.Run.leadsTo (hfair.enqueue job) (fun s => job ∈ s.callers)
    (fun s => job ∈ s.rejected ∨ job ∈ s.accepted) (fun _ => 0) ?_ ?_ hjob
  · intro s hjob _
    exact ⟨.enqueue job, rfl, by simp [snapshotThreads, SnapshotThreads.step, hjob]⟩
  · intro s e s' hjob _ hstep
    rcases (SnapshotThreads.takes_of_step hstep).callers hjob with hjudged | ⟨hjob', hne⟩
    · exact .inl hjudged
    · exact .inr ⟨hjob', Nat.le_refl _, fun heq => absurd heq hne⟩

/-- Wherever a buffer is, it is freed in the end. -/
theorem freed_eventually (hfair : SnapshotThreads.FairRun r) {released q : List SnapshotJob}
    (h : Keeps (r.state t) released q) {b : ℕ} (hb : b ∈ (r.state t).passed) :
    ∃ t' ≥ t, b ∈ (r.state t').freed := by
  have hkeeps : ∃ released q, Keeps (r.state t) released q := ⟨released, q, h⟩
  have howned := h.owned b
  have hpassed := List.count_pos_iff.mpr hb
  by_cases hcallers : b ∈ buffers (r.state t).callers
  · obtain ⟨job, hjob, hdata⟩ := mem_buffers.mp hcallers
    obtain ⟨t₁, ht₁, hjudged⟩ := judged_eventually hfair hjob
    rcases hjudged with hrejected | haccepted
    · obtain ⟨t₂, ht₂, hfreed⟩ := rejected_eventually hfair hrejected
      exact ⟨t₂, ht₁.trans ht₂, hfreed b hdata⟩
    · obtain ⟨t₂, ht₂, -, hfreed⟩ := written_eventually hfair (keeps_later hkeeps ht₁) haccepted
      exact ⟨t₂, ht₁.trans ht₂, hfreed b hdata⟩
  by_cases hrejected : b ∈ buffers (r.state t).rejected
  · obtain ⟨job, hjob, hdata⟩ := mem_buffers.mp hrejected
    obtain ⟨t₁, ht₁, hfreed⟩ := rejected_eventually hfair hjob
    exact ⟨t₁, ht₁, hfreed b hdata⟩
  by_cases hqueued : b ∈ buffers ((r.state t).writer.owned ++ q)
  · obtain ⟨job, hjob, hdata⟩ := mem_buffers.mp hqueued
    have haccepted : job ∈ (r.state t).accepted := by
      rw [h.accepted, List.append_assoc]
      exact List.mem_append_right _ hjob
    obtain ⟨t₁, ht₁, -, hfreed⟩ := written_eventually hfair hkeeps haccepted
    exact ⟨t₁, ht₁, hfreed b hdata⟩
  · refine ⟨t, Nat.le_refl _, List.count_pos_iff.mp ?_⟩
    rw [List.count_eq_zero_of_not_mem hcallers, List.count_eq_zero_of_not_mem hrejected,
      List.count_eq_zero_of_not_mem hqueued] at howned
    omega

end

/-- **The job queue.** In every reachable state the ring is a window of at most four jobs, the
writer has been given the accepted jobs in their order and none of them twice, no buffer has been
freed twice, and nothing is left behind where the writer has been stopped. And from there every
fair run hands the jobs that were accepted to `snapshot_write_file` and frees every buffer that a
call was given. -/
theorem snapshot_queue {steps : List SnapshotStep} {s : SnapshotThreads}
    (hrun : snapshotThreads.run steps = some s) :
    s.globals.Window ∧ s.ExactlyOnce ∧
      ∀ r : snapshotThreads.Run, r.state 0 = s → SnapshotThreads.FairRun r →
        (∀ job ∈ s.accepted, ∃ t, job ∈ (r.state t).written) ∧
          ∀ b ∈ s.passed, ∃ t, b ∈ (r.state t).freed := by
  obtain ⟨released, q, h⟩ := keeps_run hrun
  refine ⟨h.window, h.exactlyOnce, ?_⟩
  rintro r rfl hfair
  refine ⟨fun job hjob => ?_, fun b hb => ?_⟩
  · obtain ⟨t, -, hwritten, -⟩ := written_eventually hfair ⟨released, q, h⟩ hjob
    exact ⟨t, hwritten⟩
  · obtain ⟨t, -, hfreed⟩ := freed_eventually hfair h hb
    exact ⟨t, hfreed⟩

/-- Two jobs are queued, the writer is to stop, and a third call comes too late. -/
def queueSteps : List SnapshotStep :=
  [.init none true, .create true, .test, .start,
    .call (some 1) 9 100 none, .enqueue ⟨some 1, 9, 100, "manual".toList⟩,
    .call (some 2) 5 200 none, .enqueue ⟨some 2, 5, 200, "manual".toList⟩, .stop,
    .call (some 3) 7 300 none, .enqueue ⟨some 3, 7, 300, "manual".toList⟩]

/-- The writer gets through with both, and is joined. -/
def windUpSteps : List SnapshotStep :=
  [.test, .process, .attempt, .finish, .release, .test, .process, .attempt, .attempt, .finish,
    .release, .test, .join, .clear, .reject ⟨some 3, 7, 300, "manual".toList⟩]

/-- A run that has come to rest where no thread is left is fair. -/
theorem SnapshotThreads.fairRun_of_rest {r : snapshotThreads.Run} {s : SnapshotThreads} {n : ℕ}
    (hrest : ∀ t ≥ n, r.state t = s) (hwriter : s.writer = .absent) (hcallers : s.callers = [])
    (hrejected : s.rejected = []) : SnapshotThreads.FairRun r where
  writer := Monitor.Run.fair_of_rest hrest fun e he => by
    cases e <;> simp [SnapshotStep.byWriter] at he <;>
      simp [snapshotThreads, SnapshotThreads.step, hwriter]
  enqueue job := Monitor.Run.fair_of_rest hrest fun e he => by
    simp [he, snapshotThreads, SnapshotThreads.step, hcallers]
  reject job := Monitor.Run.fair_of_rest hrest fun e he => by
    simp [he, snapshotThreads, SnapshotThreads.step, hrejected]

/-- Nothing has been written or freed when the writer is to stop, and a fair run from there does
both. -/
theorem snapshot_queue_sample : ∃ s, snapshotThreads.run queueSteps = some s ∧
    s.accepted.map SnapshotJob.pts = [100, 200] ∧ s.passed = [1, 2, 3] ∧ s.written = [] ∧
    s.freed = [] ∧ s.ExactlyOnce ∧
    ∃ r : snapshotThreads.Run, r.state 0 = s ∧ SnapshotThreads.FairRun r ∧
      (∀ job ∈ s.accepted, ∃ t, job ∈ (r.state t).written) ∧
        ∀ b ∈ s.passed, ∃ t, b ∈ (r.state t).freed := by
  obtain ⟨s, s', hrun, haccepted, hpassed, hwritten, hfreed, hend, hwriter, hcallers, hrejected⟩ :
      ∃ s s', snapshotThreads.run queueSteps = some s ∧
        s.accepted.map SnapshotJob.pts = [100, 200] ∧ s.passed = [1, 2, 3] ∧ s.written = [] ∧
        s.freed = [] ∧ windUpSteps.foldlM snapshotThreads.step s = some s' ∧
        s'.writer = .absent ∧ s'.callers = [] ∧ s'.rejected = [] :=
    ⟨_, _, rfl, rfl, rfl, rfl, rfl, rfl, rfl, rfl, rfl⟩
  obtain ⟨-, honce, hfinishes⟩ := snapshot_queue hrun
  obtain ⟨r, hstart, hrest⟩ := Monitor.Run.exists_rest hend
  have hfair := SnapshotThreads.fairRun_of_rest hrest hwriter hcallers hrejected
  exact ⟨s, hrun, haccepted, hpassed, hwritten, hfreed, honce, r, hstart, hfair,
    hfinishes r hstart hfair⟩

end LittleCore

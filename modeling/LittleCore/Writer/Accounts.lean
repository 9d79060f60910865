import LittleCore.Writer.Queue

/-!
# Who has which buffer

In every reachable state a buffer that a call was given is in one place: with a call that is under
way, in the queue, with the writer thread, or freed. The jobs that were accepted are the ones that
the writer is done with, the one it has and the ones in the queue, in this order.

`Keeps s released q` says so of the state `s`, in which the writer is done with `released` and
the queue is `q`. One lemma for each kind of step carries it on.

## Main results

* `keeps_run` — the invariant of every interleaving
* `Keeps.rest` — a writer that waits or is gone leaves nothing in the queue
-/

namespace LittleCore

open Library

/-- The buffers of some jobs. -/
def buffers (jobs : List SnapshotJob) : List ℕ := jobs.flatMap fun job => job.data.toList

@[simp] theorem buffers_append (l r : List SnapshotJob) :
    buffers (l ++ r) = buffers l ++ buffers r := List.flatMap_append

@[simp] theorem buffers_singleton (job : SnapshotJob) : buffers [job] = job.data.toList :=
  List.flatMap_singleton ..

theorem mem_buffers {jobs : List SnapshotJob} {b : ℕ} :
    b ∈ buffers jobs ↔ ∃ job ∈ jobs, job.data = some b := by
  simp [buffers]

/-- A job that is taken out takes its buffer with it. -/
theorem count_buffers_erase {job : SnapshotJob} {jobs : List SnapshotJob} (h : job ∈ jobs) (b : ℕ) :
    (buffers jobs).count b = job.data.toList.count b + (buffers (jobs.erase job)).count b := by
  have hperm : (buffers jobs).Perm (buffers (job :: jobs.erase job)) :=
    (List.perm_cons_erase h).flatMap_right _
  rw [hperm.count_eq, buffers, List.flatMap_cons, List.count_append]
  rfl

namespace WriterThread

/-- The job that the thread has to free. -/
def owned : WriterThread → List SnapshotJob
  | .holding job | .writing job _ | .releasing job => [job]
  | _ => []

/-- That job, if it has been handed to `snapshot_write_file`. -/
def handed : WriterThread → List SnapshotJob
  | .writing job _ | .releasing job => [job]
  | _ => []

/-- It is in its loop, and does not wait. -/
def Works : WriterThread → Prop
  | .absent | .asleep | .exited => False
  | _ => True

/-- A signal does nothing to a thread that works. -/
theorem Works.signal_eq {w : WriterThread} (h : w.Works) : w.signal = w := by
  cases w <;> first | rfl | exact h.elim

theorem Works.ne_absent {w : WriterThread} (h : w.Works) : w ≠ .absent := by
  rintro rfl
  exact h

/-- Behind a signal a thread that is in its loop works. -/
theorem works_signal {w : WriterThread} (h : w.Works ∨ w = .asleep) : w.signal.Works := by
  rcases h with hworks | rfl
  · rw [hworks.signal_eq]
    exact hworks
  · trivial

@[simp] theorem owned_signal (w : WriterThread) : w.signal.owned = w.owned := by
  cases w <;> rfl

@[simp] theorem handed_signal (w : WriterThread) : w.signal.handed = w.handed := by
  cases w <;> rfl

end WriterThread

/-- What the flags say about the two threads. -/
def WriterPhase (g : SnapshotGlobals) (control : ControlThread) (writer : WriterThread) : Prop :=
  match control with
  | .outside =>
    g.gSnapshotStop = false ∧
      if g.gSnapshotStarted then writer.Works ∨ writer = .asleep else writer = .absent
  | .creating => g.gSnapshotStarted = false ∧ g.gSnapshotStop = false ∧ writer = .absent
  | .created =>
    g.gSnapshotStarted = false ∧ g.gSnapshotStop = false ∧ (writer.Works ∨ writer = .asleep)
  | .joining =>
    g.gSnapshotStarted = true ∧ g.gSnapshotStop = true ∧ (writer.Works ∨ writer = .exited)
  | .joined => g.gSnapshotStarted = true ∧ g.gSnapshotStop = true ∧ writer = .absent

namespace WriterPhase

variable {g g' : SnapshotGlobals} {control : ControlThread} {writer writer' : WriterThread}

/-- The writer that takes jobs is in its loop. -/
theorem running (h : WriterPhase g control writer) (hstarted : g.gSnapshotStarted = true)
    (hstop : g.gSnapshotStop = false) : writer.Works ∨ writer = .asleep := by
  cases control <;> simp only [WriterPhase, hstarted, hstop] at h
  · exact h.2
  all_goals simp at h

/-- The thread goes on in its loop, or wakes up. -/
theorem goes (h : WriterPhase g control writer) (hwriter : writer.Works ∨ writer = .asleep)
    (hflags : SameFlags g g') (hwriter' : writer'.Works) : WriterPhase g' control writer' := by
  have hpresent : writer ≠ .absent := by rintro rfl; simp [WriterThread.Works] at hwriter
  cases control with
  | outside =>
    obtain ⟨hstop, hthreads⟩ := h
    refine ⟨hflags.stop.trans hstop, ?_⟩
    split at hthreads
    · rename_i hstarted
      rw [hflags.started, if_pos hstarted]
      exact .inl hwriter'
    · exact absurd hthreads hpresent
  | creating => exact absurd h.2.2 hpresent
  | created => exact ⟨hflags.started.trans h.1, hflags.stop.trans h.2.1, .inl hwriter'⟩
  | joining => exact ⟨hflags.started.trans h.1, hflags.stop.trans h.2.1, .inl hwriter'⟩
  | joined => exact absurd h.2.2 hpresent

/-- The thread goes to sleep, or leaves its loop when it is to stop. -/
theorem rests (h : WriterPhase g control writer) (hwriter : writer.Works) :
    WriterPhase g control (if g.gSnapshotStop then .exited else .asleep) := by
  have hpresent := hwriter.ne_absent
  cases control with
  | outside =>
    obtain ⟨hstop, hthreads⟩ := h
    rw [hstop, if_neg Bool.false_ne_true]
    refine ⟨hstop, ?_⟩
    split at hthreads
    · rename_i hstarted
      rw [if_pos hstarted]
      exact .inr rfl
    · exact absurd hthreads hpresent
  | creating => exact absurd h.2.2 hpresent
  | created =>
    obtain ⟨hstarted, hstop, -⟩ := h
    rw [hstop, if_neg Bool.false_ne_true]
    exact ⟨hstarted, hstop, .inr rfl⟩
  | joining =>
    obtain ⟨hstarted, hstop, -⟩ := h
    rw [if_pos hstop]
    exact ⟨hstarted, hstop, .inr rfl⟩
  | joined => exact absurd h.2.2 hpresent

end WriterPhase

/-- **The invariant.** The writer is done with `released`, and the queue is `q`. -/
structure Keeps (s : SnapshotThreads) (released q : List SnapshotJob) : Prop where
  holds : QueueHolds s.globals q
  phase : WriterPhase s.globals s.control s.writer
  /-- A writer that does not work leaves nothing to do. -/
  rest : ¬ s.writer.Works → q = []
  closed : s.globals.gSnapshotStarted = false → q = []
  accepted : s.accepted = released ++ s.writer.owned ++ q
  written : s.written = released ++ s.writer.handed
  freed : ∀ b, (buffers released).count b ≤ s.freed.count b
  /-- Every buffer is in one place. -/
  owned : ∀ b, s.passed.count b = (buffers s.callers).count b + (buffers s.rejected).count b
    + (buffers (s.writer.owned ++ q)).count b + s.freed.count b
  distinct : s.passed.Nodup
  proper : ∀ job ∈ s.callers ++ s.accepted, job.data ≠ none ∧ job.len > 0

namespace Keeps

variable {s : SnapshotThreads} {released q : List SnapshotJob} {job : SnapshotJob}

theorem initial : Keeps {} [] [] where
  holds := .initial
  phase := ⟨rfl, rfl⟩
  rest _ := rfl
  closed _ := rfl
  accepted := rfl
  written := rfl
  freed := by simp [buffers]
  owned := by simp [buffers, WriterThread.owned]
  distinct := List.nodup_nil
  proper := by simp

/-- Nobody gets a job or gives one away. -/
theorem moves (h : Keeps s released q) {g : SnapshotGlobals} {writer : WriterThread}
    {control : ControlThread} (hholds : QueueHolds g q) (hphase : WriterPhase g control writer)
    (hrest : ¬ writer.Works → q = []) (hclosed : g.gSnapshotStarted = false → q = [])
    (howned : writer.owned = s.writer.owned) (hhanded : writer.handed = s.writer.handed) :
    Keeps { s with globals := g, writer := writer, control := control } released q where
  holds := hholds
  phase := hphase
  rest := hrest
  closed := hclosed
  accepted := by rw [h.accepted, ← howned]
  written := by rw [h.written, ← hhanded]
  freed := h.freed
  owned := by rw [howned]; exact h.owned
  distinct := h.distinct
  proper := h.proper

/-! ### The calls -/

theorem call (h : Keeps s released q) {data : Option ℕ} (hfresh : ∀ b ∈ data, b ∉ s.passed)
    (len pts : UInt64) (reason : Option (List Char)) :
    Keeps (s.call data len pts reason) released q := by
  have hdistinct : (s.passed ++ data.toList).Nodup := by
    cases data with
    | none => simpa using h.distinct
    | some b =>
      rw [Option.toList_some, List.nodup_append]
      exact ⟨h.distinct, List.nodup_singleton b, fun a ha c hc =>
        fun heq => hfresh b rfl (by rwa [← List.mem_singleton.mp hc, ← heq])⟩
  rw [SnapshotThreads.call, snapshotJob]
  split_ifs with hempty
  · refine { h with freed := fun b => (h.freed b).trans ?_, owned := ?_, distinct := hdistinct }
    · exact (List.sublist_append_left ..).count_le b
    intro b
    have howned := h.owned b
    simp only [List.count_append] at howned ⊢
    omega
  · refine { h with owned := ?_, distinct := hdistinct, proper := ?_ }
    · intro b
      have howned := h.owned b
      simp only [List.count_append, buffers_append, buffers_singleton] at howned ⊢
      omega
    · intro job hjob
      rcases List.mem_append.mp hjob with hjob | hjob
      · rcases List.mem_append.mp hjob with hjob | hjob
        · exact h.proper job (List.mem_append_left _ hjob)
        · rw [List.mem_singleton.mp hjob]
          obtain ⟨hdata, hlen⟩ := not_or.mp hempty
          exact ⟨hdata, UInt64.pos_iff_ne_zero.mpr hlen⟩
      · exact h.proper job (List.mem_append_right _ hjob)

/-- A call that has the mutex puts its job behind the queue, or keeps it to free it. -/
theorem enqueue (h : Keeps s released q) (hjob : job ∈ s.callers) :
    ∃ q', Keeps (s.enqueue job) released q' := by
  have hcount := fun b => count_buffers_erase hjob b
  have hcallers : ∀ j ∈ s.callers.erase job, j ∈ s.callers := fun j hj => List.mem_of_mem_erase hj
  rcases h.holds.enqueue job with henqueue | ⟨g, henqueue, hstarted, hstop, hholds, hflags⟩
  · refine ⟨q, ?_⟩
    rw [SnapshotThreads.enqueue, henqueue]
    refine { h with owned := ?_, proper := ?_ }
    · intro b
      have howned := h.owned b
      rw [hcount b] at howned
      simp only [List.count_append, buffers_append, buffers_singleton] at howned ⊢
      omega
    · intro j hj
      refine h.proper j (List.mem_append.mpr ?_)
      exact (List.mem_append.mp hj).imp_left (hcallers j)
  · refine ⟨q ++ [job], ?_⟩
    rw [SnapshotThreads.enqueue, henqueue]
    have hrunning := h.phase.running hstarted hstop
    have hworks := WriterThread.works_signal hrunning
    exact {
      holds := hholds
      phase := h.phase.goes hrunning hflags hworks
      rest := fun hrest => absurd hworks hrest
      closed := fun hclosed => by rw [hflags.started, hstarted] at hclosed; cases hclosed
      accepted := by rw [h.accepted, WriterThread.owned_signal, List.append_assoc _ q]
      written := by rw [h.written, WriterThread.handed_signal]
      freed := h.freed
      owned := by
        intro b
        have howned := h.owned b
        rw [hcount b] at howned
        simp only [List.count_append, buffers_append, buffers_singleton,
          WriterThread.owned_signal] at howned ⊢
        omega
      distinct := h.distinct
      proper := by
        intro j hj
        rcases List.mem_append.mp hj with hj | hj
        · exact h.proper j (List.mem_append_left _ (hcallers j hj))
        · rcases List.mem_append.mp hj with hj | hj
          · exact h.proper j (List.mem_append_right _ hj)
          · rw [List.mem_singleton.mp hj]
            exact h.proper job (List.mem_append_left _ hjob) }

theorem reject (h : Keeps s released q) (hjob : job ∈ s.rejected) :
    Keeps (s.reject job) released q := by
  refine { h with freed := fun b => (h.freed b).trans ?_, owned := ?_ }
  · exact (List.sublist_append_left ..).count_le b
  intro b
  have howned := h.owned b
  rw [count_buffers_erase hjob b] at howned
  simp only [SnapshotThreads.reject, List.count_append] at howned ⊢
  omega

/-! ### The writer -/

/-- The writer that works on is the writer that worked, or has been woken. -/
theorem works (h : Keeps s released q) {writer : WriterThread} (hwriter : writer.Works)
    (hrunning : s.writer.Works ∨ s.writer = .asleep) (howned : writer.owned = s.writer.owned)
    (hhanded : writer.handed = s.writer.handed) :
    Keeps { s with writer := writer } released q :=
  h.moves h.holds (h.phase.goes hrunning ⟨rfl, rfl⟩ hwriter) (absurd hwriter) h.closed howned
    hhanded

/-- The writer that has the mutex takes the oldest job, if there is one. -/
theorem test (h : Keeps s released q) (hwriter : s.writer = .ready) :
    ∃ q', Keeps s.test released q' := by
  have hworks : s.writer.Works := by rw [hwriter]; trivial
  rw [SnapshotThreads.test]
  rcases q with _ | ⟨job, q⟩
  · refine ⟨[], ?_⟩
    rw [h.holds.test_nil]
    refine h.moves h.holds (h.phase.rests hworks) (fun _ => rfl) (fun _ => rfl) ?_ ?_ <;>
    · rw [hwriter]
      split <;> rfl
  · refine ⟨q, ?_⟩
    obtain ⟨hholding, hholds, hflags⟩ := h.holds.test_cons
    have haccepted := h.accepted
    have howned := h.owned
    rw [hwriter] at haccepted howned
    rw [hholding]
    exact {
      holds := hholds
      phase := h.phase.goes (.inl hworks) hflags trivial
      rest := fun hrest => absurd trivial hrest
      closed := fun hclosed => by
        have := h.closed (hflags.started.symm.trans hclosed)
        cases this
      accepted := by simpa [WriterThread.owned] using haccepted
      written := by rw [h.written, hwriter]; rfl
      freed := h.freed
      owned := howned
      distinct := h.distinct
      proper := h.proper }

/-- A job that was accepted is a proper one, so that it is handed to `snapshot_write_file`. -/
theorem process (h : Keeps s released q) (hwriter : s.writer = .holding job) :
    Keeps (s.process job) released q ∧ (s.process job).writer = .writing job 0 := by
  have hmem : job ∈ s.accepted := by
    rw [h.accepted, hwriter]
    simp [WriterThread.owned]
  rw [SnapshotThreads.process, if_pos (h.proper job (List.mem_append_right _ hmem))]
  refine ⟨?_, rfl⟩
  have hworks : s.writer.Works := by rw [hwriter]; trivial
  have haccepted := h.accepted
  have howned := h.owned
  have hwritten := h.written
  rw [hwriter] at haccepted howned hwritten
  exact { h with
    phase := h.phase.goes (.inl hworks) ⟨rfl, rfl⟩ trivial
    rest := fun hrest => absurd trivial hrest
    accepted := haccepted
    written := by simpa [WriterThread.handed] using hwritten
    owned := howned }

theorem attempt (h : Keeps s released q) {attempts : ℕ}
    (hwriter : s.writer = .writing job attempts) :
    Keeps (s.attempt job attempts) released q := by
  have hworks : s.writer.Works := by rw [hwriter]; trivial
  exact h.moves ⟨h.holds.ring, h.holds.depth, h.holds.count, h.holds.tail⟩
    (h.phase.goes (.inl hworks) ⟨rfl, rfl⟩ trivial) (absurd trivial) h.closed
    (by rw [hwriter]; rfl) (by rw [hwriter]; rfl)

/-- The writer frees the buffer of the job it is done with. -/
theorem release (h : Keeps s released q) (hwriter : s.writer = .releasing job) :
    Keeps (s.release job) (released ++ [job]) q := by
  have hworks : s.writer.Works := by rw [hwriter]; trivial
  have haccepted := h.accepted
  have howned := h.owned
  have hwritten := h.written
  rw [hwriter] at haccepted howned hwritten
  exact { h with
    phase := h.phase.goes (.inl hworks) ⟨rfl, rfl⟩ trivial
    rest := fun hrest => absurd trivial hrest
    accepted := by simpa [WriterThread.owned, SnapshotThreads.release] using haccepted
    written := by simpa [WriterThread.handed, SnapshotThreads.release] using hwritten
    freed := by
      intro b
      rw [buffers_append, buffers_singleton, List.count_append, SnapshotThreads.release,
        List.count_append]
      exact Nat.add_le_add_right (h.freed b) _
    owned := by
      intro b
      have hcount := howned b
      simp only [SnapshotThreads.release, WriterThread.owned, List.count_append, buffers_append,
        buffers_singleton, List.nil_append] at hcount ⊢
      omega }

/-! ### Starting and stopping -/

theorem init (h : Keeps s released q) (hcontrol : s.control = .outside) (dir : Option (List Char))
    (mkdirOk : Bool) : Keeps (s.init dir mkdirOk) released q := by
  rw [SnapshotThreads.init]
  split_ifs with hdir hstarted
  · exact h
  · exact h
  · rw [Bool.not_eq_true] at hstarted
    obtain rfl := h.closed hstarted
    have hphase := h.phase
    rw [hcontrol, WriterPhase, hstarted, if_neg Bool.false_ne_true] at hphase
    exact h.moves (h.holds.reset _) ⟨hstarted, rfl, hphase.2⟩ (fun _ => rfl) (fun _ => rfl) rfl rfl

theorem create (h : Keeps s released q) (hcontrol : s.control = .creating) (ok : Bool) :
    Keeps (s.create ok) released q := by
  have hphase := h.phase
  rw [hcontrol] at hphase
  obtain ⟨hstarted, hstop, hwriter⟩ := hphase
  rw [SnapshotThreads.create]
  split_ifs
  · exact h.moves h.holds ⟨hstarted, hstop, .inl trivial⟩ (absurd trivial) h.closed
      (by rw [hwriter]; rfl) (by rw [hwriter]; rfl)
  · refine h.moves h.holds ⟨hstop, ?_⟩ h.rest h.closed rfl rfl
    rw [hstarted, if_neg Bool.false_ne_true]
    exact hwriter

theorem start (h : Keeps s released q) (hcontrol : s.control = .created) :
    Keeps s.start released q := by
  have hphase := h.phase
  rw [hcontrol] at hphase
  exact h.moves ⟨h.holds.ring, h.holds.depth, h.holds.count, h.holds.tail⟩ ⟨hphase.2.1, hphase.2.2⟩
    h.rest (fun hclosed => by cases hclosed) rfl rfl

theorem stop (h : Keeps s released q) (hcontrol : s.control = .outside) :
    Keeps s.stop released q := by
  rw [SnapshotThreads.stop]
  split_ifs with hclosed
  · exact h
  · have hstarted : s.globals.gSnapshotStarted = true := by simpa using hclosed
    have hphase := h.phase
    rw [hcontrol, WriterPhase, if_pos hstarted] at hphase
    have hworks := WriterThread.works_signal hphase.2
    exact h.moves ⟨h.holds.ring, h.holds.depth, h.holds.count, h.holds.tail⟩
      ⟨hstarted, rfl, .inl hworks⟩ (absurd hworks) h.closed (WriterThread.owned_signal _)
      (WriterThread.handed_signal _)

theorem join (h : Keeps s released q) (hcontrol : s.control = .joining)
    (hwriter : s.writer = .exited) :
    Keeps { s with writer := .absent, control := .joined } released q := by
  have hphase := h.phase
  rw [hcontrol] at hphase
  exact h.moves h.holds ⟨hphase.1, hphase.2.1, rfl⟩ (fun _ => h.rest (by rw [hwriter]; exact id))
    h.closed (by rw [hwriter]; rfl) (by rw [hwriter]; rfl)

/-- There is nothing left to free when the writer has stopped. -/
theorem clear (h : Keeps s released q) (hcontrol : s.control = .joined) :
    Keeps s.clear released q := by
  have hphase := h.phase
  rw [hcontrol] at hphase
  obtain rfl := h.rest (by rw [hphase.2.2]; exact id)
  have hfree : s.globals.gSnapshotQueue.flatMap (fun job => job.data.toList) = [] := by
    rw [h.holds.ring.slots_eq]
    simp
  rw [SnapshotThreads.clear, hfree, List.append_nil]
  exact h.moves h.holds.clear ⟨rfl, hphase.2.2⟩ (fun _ => rfl) (fun _ => rfl) rfl rfl

/-- **Every step** keeps the accounts. -/
theorem step (h : Keeps s released q) {e : SnapshotStep} {s' : SnapshotThreads}
    (hstep : s.step e = some s') : ∃ released' q', Keeps s' released' q' := by
  cases SnapshotThreads.takes_of_step hstep with
  | call hfresh => exact ⟨_, _, h.call hfresh _ _ _⟩
  | enqueue hjob => exact ⟨released, h.enqueue hjob⟩
  | reject hjob => exact ⟨_, _, h.reject hjob⟩
  | wake hwriter =>
    exact ⟨_, _, h.works trivial (.inr hwriter) (by rw [hwriter]; rfl) (by rw [hwriter]; rfl)⟩
  | test hwriter => exact ⟨released, h.test hwriter⟩
  | process hwriter => exact ⟨_, _, (h.process hwriter).1⟩
  | attempt hwriter _ => exact ⟨_, _, h.attempt hwriter⟩
  | finish hwriter _ =>
    exact ⟨_, _, h.works trivial (.inl (by rw [hwriter]; trivial)) (by rw [hwriter]; rfl)
      (by rw [hwriter]; rfl)⟩
  | release hwriter => exact ⟨_, _, h.release hwriter⟩
  | init hcontrol => exact ⟨_, _, h.init hcontrol _ _⟩
  | create hcontrol => exact ⟨_, _, h.create hcontrol _⟩
  | start hcontrol => exact ⟨_, _, h.start hcontrol⟩
  | stop hcontrol => exact ⟨_, _, h.stop hcontrol⟩
  | join hcontrol hwriter => exact ⟨_, _, h.join hcontrol hwriter⟩
  | clear hcontrol => exact ⟨_, _, h.clear hcontrol⟩

end Keeps

/-- **Every interleaving** keeps the accounts. -/
theorem keeps_run {steps : List SnapshotStep} {s : SnapshotThreads}
    (hrun : snapshotThreads.run steps = some s) : ∃ released q, Keeps s released q :=
  Monitor.invariant (I := fun _ s => ∃ released q, Keeps s released q) ⟨[], [], .initial⟩
    (fun _ _ _ _ ⟨_, _, h⟩ hstep => h.step hstep) hrun

end LittleCore

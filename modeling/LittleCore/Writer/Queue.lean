import LittleCore.Library.Ring
import LittleCore.Writer.Threads

/-!
# The snapshot queue as a bounded queue

`QueueHolds g q` says that the ring in the globals `g` holds the jobs `q`, oldest first. Each
critical section is described by what it does to `q`.
-/

namespace LittleCore

open Library

/-- The ring holds `q`. -/
structure QueueHolds (g : SnapshotGlobals) (q : List SnapshotJob) : Prop where
  ring : RingHolds {} g.gSnapshotQueue g.gSnapshotHead q
  depth : g.gSnapshotQueue.length = snapshotQueueDepth
  count : g.gSnapshotCount = q.length
  tail : g.gSnapshotTail = (g.gSnapshotHead + q.length) % snapshotQueueDepth

/-- The flags that say whether the writer takes jobs are as they were. -/
structure SameFlags (g g' : SnapshotGlobals) : Prop where
  started : g'.gSnapshotStarted = g.gSnapshotStarted
  stop : g'.gSnapshotStop = g.gSnapshotStop

namespace QueueHolds

variable {g : SnapshotGlobals} {q : List SnapshotJob} {job : SnapshotJob}

theorem count_le (h : QueueHolds g q) : g.gSnapshotCount ≤ snapshotQueueDepth := by
  rw [h.count, ← h.depth]
  exact h.ring.length_le

theorem initial : QueueHolds {} [] :=
  ⟨RingHolds.of_empty _ (by decide), rfl, rfl, rfl⟩

/-- **`snapshot_pop_job`** takes the oldest job. -/
theorem pop (h : QueueHolds g (job :: q)) :
    g.snapshotPopJob.1 = some job ∧ QueueHolds g.snapshotPopJob.2 q ∧
      SameFlags g g.snapshotPopJob.2 := by
  have hcount := h.count
  have hring := h.ring.pop
  rw [h.depth] at hring
  rw [SnapshotGlobals.snapshotPopJob, if_neg (by simp [hcount]), h.ring.front]
  refine ⟨rfl, ⟨hring, by simp [h.depth], by simp [hcount], ?_⟩, ⟨rfl, rfl⟩⟩
  change g.gSnapshotTail = ((g.gSnapshotHead + 1) % snapshotQueueDepth + q.length)
    % snapshotQueueDepth
  rw [h.tail, Nat.mod_add_mod, List.length_cons, Nat.add_assoc, Nat.add_comm 1]

/-- **The writer's critical section**, if there is nothing to do. -/
theorem test_nil (h : QueueHolds g []) :
    g.test = (if g.gSnapshotStop then .exited else .asleep, g) := by
  have hcount : g.gSnapshotCount = 0 := h.count
  rw [SnapshotGlobals.test, hcount]
  cases g.gSnapshotStop <;> rfl

/-- **The writer's critical section**, if there is a job. -/
theorem test_cons (h : QueueHolds g (job :: q)) :
    g.test.1 = .holding job ∧ QueueHolds g.test.2 q ∧ SameFlags g g.test.2 := by
  obtain ⟨hpop, hholds, hflags⟩ := h.pop
  have hcount : (g.gSnapshotCount == 0) = false := by simp [h.count]
  rw [SnapshotGlobals.test, hcount, Bool.and_false, Bool.and_false, if_neg Bool.false_ne_true,
    if_neg Bool.false_ne_true]
  dsimp only
  rw [hpop]
  exact ⟨rfl, hholds, hflags⟩

/-- **The critical section of a call.** A job is taken if the writer has been started, is not to
stop and has room. -/
theorem enqueue (h : QueueHolds g q) (job : SnapshotJob) :
    g.enqueue job = (false, g) ∨
      ∃ g', g.enqueue job = (true, g') ∧ g.gSnapshotStarted = true ∧ g.gSnapshotStop = false ∧
        QueueHolds g' (q ++ [job]) ∧ SameFlags g g' := by
  rw [SnapshotGlobals.enqueue]
  split
  · exact .inl rfl
  · rename_i hopen
    split
    · exact .inl rfl
    · rename_i hroom
      have hlt : q.length < g.gSnapshotQueue.length := by
        rw [h.depth, ← h.count]
        exact Nat.not_le.mp hroom
      have hring := h.ring.push hlt job
      rw [h.depth, ← h.tail] at hring
      refine .inr ⟨_, rfl, ?_, ?_, ⟨hring, ?_, ?_, ?_⟩, ⟨rfl, rfl⟩⟩
      · cases hstarted : g.gSnapshotStarted <;> simp [hstarted] at hopen ⊢
      · cases hstop : g.gSnapshotStop <;> simp [hstop] at hopen ⊢
      · exact List.length_set.trans h.depth
      · simp [h.count]
      · change (g.gSnapshotTail + 1) % snapshotQueueDepth = _
        rw [h.tail, Nat.mod_add_mod, List.length_append, List.length_singleton, Nat.add_assoc]

/-- An empty queue may begin anywhere. -/
theorem reset (h : QueueHolds g []) (targetDir : List Char) :
    QueueHolds (g.reset targetDir) [] := by
  have hslots := h.ring.slots_eq
  refine ⟨?_, h.depth, rfl, rfl⟩
  change RingHolds {} g.gSnapshotQueue 0 []
  rw [hslots, h.depth]
  exact .of_empty _ (by decide)

theorem clear (h : QueueHolds g q) : QueueHolds g.clear [] := by
  refine ⟨?_, (List.length_map ..).trans h.depth, rfl, rfl⟩
  change RingHolds {} (g.gSnapshotQueue.map fun _ => ({} : SnapshotJob)) 0 []
  rw [List.map_const', h.depth]
  exact .of_empty _ (by decide)

/-- **Outside the window** of the queue the slots are empty. -/
theorem empty_of_outside (h : QueueHolds g q) {i : ℕ} (hi : i < snapshotQueueDepth)
    (hout : ∀ k < g.gSnapshotCount, (g.gSnapshotHead + k) % snapshotQueueDepth ≠ i) :
    g.gSnapshotQueue[i]? = some {} := by
  refine h.ring.empty_of_outside (by rwa [h.depth]) ?_
  intro k hk
  rw [h.depth]
  exact hout k (by rwa [h.count])

end QueueHolds

end LittleCore

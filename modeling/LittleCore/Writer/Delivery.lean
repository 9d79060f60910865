import LittleCore.Writer.ExactlyOnce
import LittleCore.Writer.Files

/-!
# From the queue to the files

The threads of the snapshot writer with the memory and the files they work on. `SnapshotThreads`
knows a buffer by its number only; here it has bytes, from the call that passes it on until it is
freed, and `snapshot_write_file` reads them and does to the files what `snapshotWriteFile` does.

`snapshot_writer_enqueue_h265` is here too. Its caller keeps the data, so what is passed on is a
copy.

## Main results

* `snapshots_delivered` — what has been accepted is in the files, in every interleaving
-/

namespace LittleCore

open Library

/-- The threads, what each buffer held when it was passed on, the files, and the jobs for which
`snapshot_write_file` has returned. -/
structure Delivery where
  threads : SnapshotThreads := {}
  given : ℕ → List UInt8 := fun _ => []
  files : Files
  jobs : List JobStep := []

inductive DeliveryStep where
  /-- `snapshot_writer_enqueue_h265_take` is called with a buffer that is not `NULL`. -/
  | take (buffer : ℕ) (data : List UInt8) (len pts : UInt64) (reason : Option (List Char))
  /-- `snapshot_writer_enqueue_h265` is called; `none` is a `malloc` that fails. -/
  | copy (data : List UInt8) (malloc : Option ℕ) (len pts : UInt64) (reason : Option (List Char))
  /-- `snapshot_write_file` returns. -/
  | finish (outcomes : JobOutcomes)
  /-- A step that reads no buffer and touches no file. -/
  | thread (e : SnapshotStep)

/-- Steps that have a step of their own above. -/
def SnapshotStep.touchesData : SnapshotStep → Bool
  | .call (some _) .. | .finish => true
  | _ => false

namespace Delivery

/-- What a buffer holds. The memory of one that was freed is gone. -/
def heap (s : Delivery) (buffer : ℕ) : Option (List UInt8) :=
  if buffer ∈ s.threads.passed ∧ buffer ∉ s.threads.freed then some (s.given buffer) else none

/-- What a job was to write, when it was passed on. -/
def bytesOf (s : Delivery) (job : SnapshotJob) : List UInt8 := job.data.elim [] s.given

def take (buffer : ℕ) (data : List UInt8) (len pts : UInt64) (reason : Option (List Char))
    (s : Delivery) : Option Delivery :=
  if data.length = len.toNat then
    (s.threads.step (.call (some buffer) len pts reason)).map fun threads =>
      { s with threads, given := fun b => if b = buffer then data else s.given b }
  else none

/-- `snapshot_writer_enqueue_h265`. -/
def copy (data : List UInt8) (malloc : Option ℕ) (len pts : UInt64)
    (reason : Option (List Char)) (s : Delivery) : Option Delivery :=
  if len = 0 then some s
  else
    match malloc with
    | none => some s
    | some buffer => s.take buffer data len pts reason

/-- The end of `snapshot_write_file`. The globals have counted the attempts that it made. -/
def finish (o : JobOutcomes) (s : Delivery) : Option Delivery :=
  match s.threads.writer with
  | .writing job attempts =>
    let data := ((job.data.bind s.heap).getD []).take job.len.toNat
    let g := s.threads.globals
    let r := snapshotWriteFile g.gSnapshotDir data o
      ⟨s.files, g.gSnapshotSeq - UInt32.ofNat attempts⟩
    if r.1.running = false ∧ r.2.gSnapshotSeq = g.gSnapshotSeq then
      (s.threads.step .finish).map fun threads =>
        { s with
          threads
          files := r.2.files
          jobs := s.jobs ++ [⟨{ data := data, outcomes := o }, s.files, r.1, r.2.files⟩] }
    else none
  | _ => none

def step (s : Delivery) : DeliveryStep → Option Delivery
  | .take buffer data len pts reason => s.take buffer data len pts reason
  | .copy data malloc len pts reason => s.copy data malloc len pts reason
  | .finish o => s.finish o
  | .thread e =>
    if e.touchesData then none else (s.threads.step e).map fun threads => { s with threads }

end Delivery

/-- The interleavings of the threads, from the start of the program. -/
def delivery (files : Files) : Monitor Delivery DeliveryStep where
  start := { files := files }
  step := Delivery.step

/-- The buffer that a call passes on, with what it holds. -/
def DeliveryStep.given? : DeliveryStep → Option (ℕ × List UInt8)
  | .take buffer data .. => some (buffer, data)
  | .copy data malloc .. => malloc.map fun buffer => (buffer, data)
  | _ => none

/-! ### The threads -/

/-- The jobs that `snapshot_write_file` has returned from. -/
def SnapshotThreads.returned (s : SnapshotThreads) : List SnapshotJob :=
  match s.writer with
  | .writing .. => s.written.dropLast
  | _ => s.written

theorem SnapshotThreads.returned_signal (s : SnapshotThreads) :
    { s with writer := s.writer.signal }.returned = s.returned := by
  rw [returned, returned]
  dsimp only
  cases s.writer <;> rfl

section Threads

variable {s s' : SnapshotThreads} {released q : List SnapshotJob} {e : SnapshotStep}

theorem SnapshotThreads.returned_of_not_writing {s : SnapshotThreads}
    (h : ∀ job attempts, s.writer ≠ .writing job attempts) : s.returned = s.written := by
  rw [returned]
  split
  · rename_i hwriter
    exact absurd hwriter (h _ _)
  · rfl

/-- Only the end of `snapshot_write_file` returns from it. -/
theorem SnapshotThreads.Takes.returned_eq (hkeeps : Keeps s released q) (h : s.Takes e s')
    (he : e ≠ .finish) : s'.returned = s.returned := by
  cases h with
  | call =>
    rw [SnapshotThreads.call]
    split <;> rfl
  | enqueue =>
    rw [SnapshotThreads.enqueue]
    split
    · exact returned_signal s
    · rfl
  | init =>
    rw [SnapshotThreads.init]
    split_ifs <;> rfl
  | wake hwriter => rw [returned, returned, hwriter]
  | test hwriter =>
    rw [returned_of_not_writing (s := s) (by simp [hwriter])]
    refine returned_of_not_writing fun job attempts htest => ?_
    change s.globals.test.1 = _ at htest
    rw [SnapshotGlobals.test] at htest
    split_ifs at htest
  | process hwriter =>
    rw [returned_of_not_writing (s := s) (by simp [hwriter]), SnapshotThreads.process]
    split_ifs
    · exact List.dropLast_concat
    · rfl
  | attempt hwriter =>
    rw [returned, returned, hwriter]
    rfl
  | finish => exact absurd rfl he
  | release hwriter =>
    rw [returned_of_not_writing (s := s) (by simp [hwriter])]
    rfl
  | create hcontrol =>
    have hphase := hkeeps.phase
    rw [hcontrol] at hphase
    rw [returned_of_not_writing (s := s) (by simp [hphase.2.2]), SnapshotThreads.create]
    split_ifs
    · rfl
    · exact returned_of_not_writing (by simp [hphase.2.2])
  | stop =>
    rw [SnapshotThreads.stop]
    split_ifs
    · rfl
    · exact returned_signal s
  | join _ hwriter =>
    rw [returned_of_not_writing (s := s) (by simp [hwriter])]
    rfl
  | reject | start | clear => rfl

/-- The end of `snapshot_write_file` returns the job that was written. -/
theorem SnapshotThreads.returned_finish (hkeeps : Keeps s released q) {job : SnapshotJob}
    {attempts : ℕ} (hwriter : s.writer = .writing job attempts) :
    { s with writer := .releasing job }.returned = s.returned ++ [job] := by
  have hwritten := hkeeps.written
  rw [hwriter, WriterThread.handed] at hwritten
  rw [returned, returned, hwriter]
  dsimp only
  rw [hwritten, List.dropLast_concat]

/-- A job that is under way or accepted was that before, or has just been passed on. -/
theorem SnapshotThreads.Takes.mem_jobs (h : s.Takes e s') {job : SnapshotJob}
    (hjob : job ∈ s'.callers ++ s'.accepted) : job ∈ s.callers ++ s.accepted ∨
      ∃ b pts reason, e = .call (some b) job.len pts reason ∧ job.data = some b := by
  cases h with
  | @call data len pts reason hfresh =>
    rw [SnapshotThreads.call, snapshotJob] at hjob
    split_ifs at hjob with hempty
    · exact .inl hjob
    · rcases data with _ | b
      · exact absurd (.inl rfl) hempty
      · simp only [List.mem_append, List.mem_singleton] at hjob ⊢
        rcases hjob with (hjob | rfl) | hjob
        · exact .inl (.inl hjob)
        · exact .inr ⟨b, pts, reason, rfl, rfl⟩
        · exact .inl (.inr hjob)
  | @enqueue job' hmem =>
    refine .inl ?_
    rw [SnapshotThreads.enqueue] at hjob
    split at hjob
    · simp only [List.mem_append, List.mem_singleton] at hjob ⊢
      rcases hjob with hjob | hjob | rfl
      · exact .inl (List.mem_of_mem_erase hjob)
      · exact .inr hjob
      · exact .inl hmem
    · simp only [List.mem_append] at hjob ⊢
      exact hjob.imp_left List.mem_of_mem_erase
  | process =>
    rw [SnapshotThreads.process] at hjob
    split at hjob <;> exact .inl hjob
  | init =>
    rw [SnapshotThreads.init] at hjob
    split_ifs at hjob <;> exact .inl hjob
  | create =>
    rw [SnapshotThreads.create] at hjob
    split_ifs at hjob <;> exact .inl hjob
  | stop =>
    rw [SnapshotThreads.stop] at hjob
    split_ifs at hjob <;> exact .inl hjob
  | reject | wake | test | attempt | finish | release | start | join | clear => exact .inl hjob

/-- A buffer that the writer thread has to free is not freed. -/
theorem Keeps.not_freed (hkeeps : Keeps s released q) {job : SnapshotJob}
    (hjob : job ∈ s.writer.owned ++ q) {b : ℕ} (hdata : job.data = some b) :
    b ∈ s.passed ∧ b ∉ s.freed := by
  have howned := hkeeps.owned b
  have hcount : 0 < (buffers (s.writer.owned ++ q)).count b :=
    List.count_pos_iff.mpr (mem_buffers.mpr ⟨job, hjob, hdata⟩)
  have hdistinct := List.nodup_iff_count_le_one.mp hkeeps.distinct b
  refine ⟨List.count_pos_iff.mp (by omega), fun hmem => ?_⟩
  have hfreed := List.count_pos_iff.mpr hmem
  omega

/-- Every buffer of a job was passed on. -/
theorem Keeps.mem_passed (hkeeps : Keeps s released q) {job : SnapshotJob}
    (hjob : job ∈ s.callers ++ s.accepted) {b : ℕ} (hdata : job.data = some b) : b ∈ s.passed := by
  rcases List.mem_append.mp hjob with hjob | hjob
  · have howned := hkeeps.owned b
    have hcount : 0 < (buffers s.callers).count b :=
      List.count_pos_iff.mpr (mem_buffers.mpr ⟨job, hjob, hdata⟩)
    exact List.count_pos_iff.mp (by omega)
  · exact hkeeps.exactlyOnce.passed b (mem_buffers.mpr ⟨job, hjob, hdata⟩)

theorem Keeps.returned_prefix (hkeeps : Keeps s released q) : s.returned <+: s.accepted := by
  refine List.IsPrefix.trans ?_ hkeeps.exactlyOnce.order
  rw [SnapshotThreads.returned]
  split
  · exact List.dropLast_prefix _
  · exact List.prefix_rfl

end Threads

/-! ### The files -/

/-- What a job has left is there. -/
def JobStep.LeftIn (j : JobStep) (f : Files) : Prop :=
  ∃ h265 image, j.report.opened = some (h265, image) ∧
    (j.report.converted = true ∧ (f image).isSome ∨
      j.report.converted = false ∧ f h265 = some j.task.data)

/-- What some jobs have made of the files. -/
structure JobsDone (files₀ files : Files) (jobs : List JobStep) : Prop where
  kept : ∀ path bytes, files₀ path = some bytes → files path = some bytes
  left : ∀ j ∈ jobs, j.report.saved = true → j.LeftIn files
  named : ∀ j ∈ jobs, ∀ names, j.report.opened = some names →
    ∃ dir seq, names = (h265Path dir seq, imagePath dir seq)
  taken : ∀ j ∈ jobs, ∀ names, j.report.opened = some names →
    (files names.1).isSome ∨ (files names.2).isSome
  apart : jobs.Pairwise JobStep.Apart

/-- The two names of a job go together, wherever they are. -/
theorem h265Path_inj_iff (dir dir' : List Char) (seq seq' : UInt32) :
    h265Path dir seq = h265Path dir' seq' ↔ imagePath dir seq = imagePath dir' seq' := by
  rw [h265Path, h265Path, imagePath, imagePath, List.append_cancel_right_eq,
    List.append_cancel_right_eq]

/-- **A job after other jobs**, in any directory. -/
theorem JobsDone.concat {files₀ files : Files} {jobs : List JobStep}
    (h : JobsDone files₀ files jobs) {j : JobStep} (hbefore : j.before = files) (hsafe : j.Safe)
    {dir : List Char} (htakes : j.Takes dir) : JobsDone files₀ j.after (jobs ++ [j]) := by
  have hkept : ∀ path bytes, files path = some bytes → j.after path = some bytes := by
    rw [← hbefore]
    exact hsafe.kept
  have hsome : ∀ path, (files path).isSome → (j.after path).isSome := by
    intro path hpath
    obtain ⟨bytes, hbytes⟩ := Option.isSome_iff_exists.mp hpath
    rw [hkept path bytes hbytes]
    rfl
  refine ⟨fun path bytes hbytes => hkept path bytes (h.kept path bytes hbytes), ?_, ?_, ?_, ?_⟩
  · intro j' hj' hsaved
    rcases List.mem_append.mp hj' with hj' | hj'
    · obtain ⟨h265, image, hopened, hleft⟩ := h.left j' hj' hsaved
      exact ⟨h265, image, hopened, hleft.imp (fun hc => ⟨hc.1, hsome _ hc.2⟩)
        fun hc => ⟨hc.1, hkept _ _ hc.2⟩⟩
    · obtain rfl := List.mem_singleton.mp hj'
      obtain ⟨h265, image, hopened, hleft⟩ := hsafe.saved hsaved
      exact ⟨h265, image, hopened, hleft.imp (fun hc => ⟨hc.1, hc.2.1⟩)
        fun hc => ⟨hc.1, hc.2.1⟩⟩
  · intro j' hj' names hnames
    rcases List.mem_append.mp hj' with hj' | hj'
    · exact h.named j' hj' names hnames
    · obtain rfl := List.mem_singleton.mp hj'
      exact ⟨dir, (htakes.names names hnames).named⟩
  · intro j' hj' names hnames
    rcases List.mem_append.mp hj' with hj' | hj'
    · exact (h.taken j' hj' names hnames).imp (hsome _) (hsome _)
    · obtain rfl := List.mem_singleton.mp hj'
      exact htakes.taken names hnames
  · refine List.pairwise_append.mpr ⟨h.apart, List.pairwise_singleton .., ?_⟩
    intro j' hj' j'' hj'' names hnames names' hnames'
    obtain rfl := List.mem_singleton.mp hj''
    have hfresh := htakes.names names' hnames'
    rw [hbefore] at hfresh
    -- The names are different because one of the files of a job stays.
    have hne : names ≠ names' := by
      rintro rfl
      have htaken := h.taken j' hj' names hnames
      rw [hfresh.h265, hfresh.image] at htaken
      exact htaken.elim (fun hc => by cases hc) fun hc => by cases hc
    obtain ⟨dir₁, seq₁, rfl⟩ := h.named j' hj' names hnames
    obtain ⟨seq₂, rfl⟩ := hfresh.named
    constructor
    · exact fun heq => hne (Prod.ext heq ((h265Path_inj_iff ..).mp heq))
    · exact fun heq => hne (Prod.ext ((h265Path_inj_iff ..).mpr heq) heq)

/-! ### A run -/

/-- What holds after every step. -/
structure Delivery.Keeps (files₀ : Files) (steps : List DeliveryStep) (s : Delivery) : Prop where
  threads : ∃ released q, LittleCore.Keeps s.threads released q
  /-- A job was passed on in a buffer that held its bytes. -/
  origin : ∀ job ∈ s.threads.callers ++ s.threads.accepted, ∃ e ∈ steps, ∃ b,
    e.given? = some (b, s.bytesOf job) ∧ job.data = some b ∧
      (s.bytesOf job).length = job.len.toNat
  /-- The jobs are done in turn, with these bytes. -/
  jobs : s.jobs.map (·.task.data) = s.threads.returned.map s.bytesOf
  files : JobsDone files₀ s.files s.jobs

theorem Delivery.Keeps.initial (files₀ : Files) : Delivery.Keeps files₀ [] { files := files₀ } where
  threads := ⟨[], [], .initial⟩
  origin _ hjob := nomatch hjob
  jobs := rfl
  files := by
    refine ⟨fun _ _ h => h, ?_, ?_, ?_, List.Pairwise.nil⟩ <;>
    · intro j hj
      cases hj

namespace Delivery.Keeps

variable {files₀ : Files} {steps : List DeliveryStep} {s s' : Delivery}

/-- A step of the threads in which no file is written. What is passed on is new. -/
theorem thread (h : Keeps files₀ steps s) {e : SnapshotStep} {threads : SnapshotThreads}
    (hstep : s.threads.step e = some threads) (he : e ≠ .finish) {given : ℕ → List UInt8}
    (hgiven : ∀ b ∈ s.threads.passed, given b = s.given b) {step : DeliveryStep}
    (hcall : ∀ b len pts reason, e = .call (some b) len pts reason →
      step.given? = some (b, given b) ∧ (given b).length = len.toNat) :
    Keeps files₀ (steps ++ [step]) { s with threads, given } := by
  obtain ⟨released, q, hkeeps⟩ := h.threads
  have htakes := SnapshotThreads.takes_of_step hstep
  have hsame : ∀ job ∈ s.threads.callers ++ s.threads.accepted,
      ({ s with threads, given } : Delivery).bytesOf job = s.bytesOf job := by
    intro job hjob
    rw [bytesOf, bytesOf]
    cases hdata : job.data with
    | none => rfl
    | some b => exact hgiven b (hkeeps.mem_passed hjob hdata)
  refine ⟨hkeeps.step hstep, fun job hjob => ?_, ?_, h.files⟩
  · rcases htakes.mem_jobs hjob with hjob | ⟨b, pts, reason, rfl, hdata⟩
    · obtain ⟨e', he', b, horigin⟩ := h.origin job hjob
      rw [← hsame job hjob] at horigin
      exact ⟨e', List.mem_append_left _ he', b, horigin⟩
    · obtain ⟨hstep', hlen⟩ := hcall b _ pts reason rfl
      refine ⟨step, by simp, b, ?_, hdata, ?_⟩
      · rw [bytesOf, hdata]
        exact hstep'
      · rw [bytesOf, hdata]
        exact hlen
  · change s.jobs.map (·.task.data) = threads.returned.map _
    rw [htakes.returned_eq hkeeps he, h.jobs, List.map_inj_left]
    intro job hjob
    exact (hsame job (List.mem_append_right _ (hkeeps.returned_prefix.subset hjob))).symm

theorem take (h : Keeps files₀ steps s) {buffer : ℕ} {data : List UInt8} {len pts : UInt64}
    {reason : Option (List Char)} (hstep : s.take buffer data len pts reason = some s')
    {step : DeliveryStep} (hgiven : step.given? = some (buffer, data)) :
    Keeps files₀ (steps ++ [step]) s' := by
  obtain ⟨hlen, hstep⟩ := Option.ite_none_right_eq_some.mp hstep
  obtain ⟨threads, hthreads, rfl⟩ := Option.map_eq_some_iff.mp hstep
  have hfresh : buffer ∉ s.threads.passed := by
    cases SnapshotThreads.takes_of_step hthreads with
    | call hfresh => exact hfresh buffer rfl
  refine h.thread hthreads (by simp) (fun b hb => ?_) fun b len' pts' reason' heq => ?_
  · exact if_neg fun heq : b = buffer => hfresh (heq ▸ hb)
  · cases heq
    rw [if_pos rfl]
    exact ⟨hgiven, hlen⟩

theorem finish (h : Keeps files₀ steps s) {o : JobOutcomes} (ho : ConvertsOnly o.system)
    (hstep : s.finish o = some s') : Keeps files₀ (steps ++ [.finish o]) s' := by
  obtain ⟨released, q, hkeeps⟩ := h.threads
  rw [Delivery.finish] at hstep
  split at hstep
  · rename_i job attempts hwriter
    dsimp only at hstep
    obtain ⟨-, hstep⟩ := Option.ite_none_right_eq_some.mp hstep
    obtain ⟨threads, hthreads, rfl⟩ := Option.map_eq_some_iff.mp hstep
    -- The bytes that are written are those that were passed on.
    have howned : job ∈ s.threads.writer.owned ++ q := by simp [hwriter, WriterThread.owned]
    have haccepted : job ∈ s.threads.callers ++ s.threads.accepted := by
      rw [hkeeps.accepted, List.append_assoc released]
      exact List.mem_append_right _ (List.mem_append_right _ howned)
    obtain ⟨-, -, b, -, hdata, hlen⟩ := h.origin job haccepted
    have hbytes : ((job.data.bind s.heap).getD []).take job.len.toNat = s.bytesOf job := by
      rw [hdata, Option.bind_some, heap, if_pos (hkeeps.not_freed howned hdata), Option.getD_some]
      rw [bytesOf, hdata] at hlen
      rw [bytesOf, hdata, ← hlen]
      exact List.take_length
    obtain ⟨hsafe, htakes⟩ := snapshotWriteFile_safe s.threads.globals.gSnapshotDir
      (t := ⟨((job.data.bind s.heap).getD []).take job.len.toNat, o, false⟩) ho
      ⟨s.files, s.threads.globals.gSnapshotSeq - UInt32.ofNat attempts⟩
    obtain rfl : { s.threads with writer := .releasing job } = threads := by
      rw [SnapshotThreads.step, hwriter] at hthreads
      exact (Option.ite_none_right_eq_some.mp hthreads).2 |> Option.some.inj
    refine ⟨hkeeps.step hthreads, fun job' hjob' => ?_, ?_, h.files.concat rfl hsafe htakes⟩
    · obtain ⟨e, he, horigin⟩ := h.origin job' hjob'
      exact ⟨e, List.mem_append_left _ he, horigin⟩
    · change (s.jobs ++ [_]).map (fun j : JobStep => j.task.data) = List.map s.bytesOf _
      rw [List.map_append, h.jobs, SnapshotThreads.returned_finish hkeeps hwriter, List.map_append,
        List.map_singleton, List.map_singleton, hbytes]
  · cases hstep

theorem step (h : Keeps files₀ steps s) {step : DeliveryStep}
    (hconverts : ∀ o, step = .finish o → ConvertsOnly o.system) (hstep : s.step step = some s') :
    Keeps files₀ (steps ++ [step]) s' := by
  cases step with
  | take buffer data len pts reason => exact h.take hstep rfl
  | copy data malloc len pts reason =>
    have hnothing : Keeps files₀ (steps ++ [.copy data malloc len pts reason]) s :=
      ⟨h.threads, fun job hjob => by
        obtain ⟨e, he, horigin⟩ := h.origin job hjob
        exact ⟨e, List.mem_append_left _ he, horigin⟩, h.jobs, h.files⟩
    rw [Delivery.step, Delivery.copy.eq_def] at hstep
    split at hstep
    · cases hstep
      exact hnothing
    · cases malloc with
      | none =>
        cases hstep
        exact hnothing
      | some buffer => exact h.take hstep rfl
  | finish o => exact h.finish (hconverts o rfl) hstep
  | thread e =>
    rw [Delivery.step] at hstep
    split at hstep
    · cases hstep
    · rename_i hdata
      obtain ⟨threads, hthreads, rfl⟩ := Option.map_eq_some_iff.mp hstep
      refine h.thread hthreads ?_ (fun _ _ => rfl) fun b len pts reason heq => ?_
      · rintro rfl
        exact hdata rfl
      · rw [heq] at hdata
        exact absurd rfl hdata

end Delivery.Keeps

theorem delivery_keeps {files : Files} {steps : List DeliveryStep} {s : Delivery}
    (hconverts : ∀ o, .finish o ∈ steps → ConvertsOnly o.system)
    (hrun : (delivery files).run steps = some s) : s.Keeps files steps := by
  refine Monitor.invariant (I := fun steps s =>
    (∀ o, .finish o ∈ steps → ConvertsOnly o.system) → Delivery.Keeps files steps s)
    (fun _ => .initial files) (fun l s step s' h hstep hconverts => ?_) hrun hconverts
  have hkeeps := h fun o ho => hconverts o (List.mem_append_left _ ho)
  exact hkeeps.step (fun o heq => hconverts o (by simp [heq])) hstep

/-- **What is accepted gets into the files.** However the threads take turns and whatever fails: the
jobs that `snapshot_write_file` was called for are the oldest of those that were accepted, in this
order, each written with the bytes that its buffer held when it was passed on. A job that was saved
is there for good, as an image or as these bytes; no file that was there before is lost and no two
jobs share a name; and when the writer is stopped every job has had its turn. -/
theorem snapshots_delivered {files : Files} {steps : List DeliveryStep} {s : Delivery}
    (hconverts : ∀ o, .finish o ∈ steps → ConvertsOnly o.system)
    (hrun : (delivery files).run steps = some s) :
    s.jobs.map (·.task.data) <+: s.threads.accepted.map s.bytesOf ∧
    (∀ job ∈ s.threads.accepted, ∃ e ∈ steps, ∃ b, e.given? = some (b, s.bytesOf job) ∧
      job.data = some b) ∧
    (∀ j ∈ s.jobs, j.report.saved = true → j.LeftIn s.files) ∧
    (∀ path bytes, files path = some bytes → s.files path = some bytes) ∧
    s.jobs.Pairwise JobStep.Apart ∧
    (s.threads.control = .outside → s.threads.globals.gSnapshotStarted = false →
      s.jobs.length = s.threads.accepted.length) := by
  have h := delivery_keeps hconverts hrun
  obtain ⟨released, q, hkeeps⟩ := h.threads
  refine ⟨?_, fun job hjob => ?_, h.files.left, h.files.kept, h.files.apart,
    fun hcontrol hstarted => ?_⟩
  · rw [h.jobs]
    exact hkeeps.returned_prefix.map _
  · obtain ⟨e, he, b, hgiven, hdata, -⟩ := h.origin job (List.mem_append_right _ hjob)
    exact ⟨e, he, b, hgiven, hdata⟩
  · have hphase := hkeeps.phase
    rw [hcontrol, WriterPhase, hstarted, if_neg Bool.false_ne_true] at hphase
    have hlength := congrArg List.length h.jobs
    rw [List.length_map, List.length_map,
      SnapshotThreads.returned_of_not_writing (by simp [hphase.2]),
      (hkeeps.exactlyOnce.stopped hcontrol hstarted).1] at hlength
    exact hlength

/-- Two bytes that are written in two goes. -/
def sampleOutcomes : JobOutcomes :=
  { writes := [.interrupted, .wrote 1, .wrote 5], system := sampleSystem }

/-- The writer is started and has one job. -/
def sampleDelivery : List DeliveryStep :=
  [.thread (.init none true), .thread (.create true), .thread .start,
    .copy [1, 2] (some 7) 2 900 none, .thread (.enqueue ⟨some 7, 2, 900, "manual".toList⟩),
    .thread .test, .thread .process, .thread .attempt, .finish sampleOutcomes, .thread .release]

theorem snapshots_delivered_sample : ∃ s, (delivery fun _ => none).run sampleDelivery = some s ∧
    s.jobs.length = 1 ∧ ∀ j ∈ s.jobs, j.report.saved = true → j.LeftIn s.files := by
  have hjobs : ((delivery fun _ => none).run sampleDelivery).map (·.jobs.length) = some 1 := by
    decide +kernel
  obtain ⟨s, hrun, hlength⟩ := Option.map_eq_some_iff.mp hjobs
  have hconverts : ∀ o, .finish o ∈ sampleDelivery → ConvertsOnly o.system := by
    intro o ho
    simp only [sampleDelivery, List.mem_cons, List.not_mem_nil, reduceCtorEq, or_false, false_or,
      DeliveryStep.finish.injEq] at ho
    rw [ho]
    exact sampleSystem_convertsOnly
  exact ⟨s, hrun, hlength, (snapshots_delivered hconverts hrun).2.2.1⟩

end LittleCore

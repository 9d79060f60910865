import LittleCore.Library.Monitor

/-!
# The snapshot writer and its threads

`snapshot_writer.c`: the job queue with its mutex, the calls that put jobs in, the writer thread
that takes them out, and the thread that starts and stops the writer. What a thread does while it
has the mutex is one step, and so is what it does in between.

A buffer goes by a number, which stands for one allocation. `passed`, `accepted`, `written` and
`freed` are the history: the code has no such variables.
-/

namespace LittleCore

open Library

/-- `SNAPSHOT_QUEUE_DEPTH`. -/
def snapshotQueueDepth : ℕ := 4

/-- `SNAPSHOT_PATH_MAX`. -/
def snapshotPathMax : ℕ := 256

/-- `SNAPSHOT_DEFAULT_DIR`. -/
def snapshotDefaultDir : List Char := "/sdcard/snapshots".toList

/-- The attempts of `snapshot_open_unique_h265`. -/
def snapshotMaxAttempts : ℕ := 1000000

/-- `snapshot_job_t`; a `data` of `none` is `NULL`. -/
structure SnapshotJob where
  data : Option ℕ := none
  len : UInt64 := 0
  pts : UInt64 := 0
  reason : List Char := []
deriving DecidableEq, Repr

/-- The globals that the mutex is for. -/
structure SnapshotGlobals where
  gSnapshotStarted : Bool := false
  gSnapshotStop : Bool := false
  gSnapshotQueue : List SnapshotJob := List.replicate snapshotQueueDepth {}
  gSnapshotHead : ℕ := 0
  gSnapshotTail : ℕ := 0
  gSnapshotCount : ℕ := 0
  gSnapshotSeq : UInt32 := 0
  gSnapshotDir : List Char := snapshotDefaultDir
deriving DecidableEq, Repr

/-- Where the writer thread is, and the job it has. -/
inductive WriterThread where
  /-- There is none. -/
  | absent
  /-- In front of the loop over `pthread_cond_wait`, or behind a wait that has returned. -/
  | ready
  /-- In `pthread_cond_wait`. -/
  | asleep
  | holding (job : SnapshotJob)
  /-- In `snapshot_write_file`, which has taken a new `g_snapshot_seq` so many times. -/
  | writing (job : SnapshotJob) (attempts : ℕ)
  /-- In front of `snapshot_free_job`. -/
  | releasing (job : SnapshotJob)
  | exited
deriving DecidableEq, Repr

/-- Where the thread is that calls `snapshot_writer_init` and `snapshot_writer_deinit`. -/
inductive ControlThread where
  | outside
  /-- In front of `pthread_create`. -/
  | creating
  /-- Behind it. -/
  | created
  /-- In `pthread_join`. -/
  | joining
  /-- Behind it. -/
  | joined
deriving DecidableEq, Repr

/-- `pthread_cond_signal`: a thread that waits is woken. -/
def WriterThread.signal : WriterThread → WriterThread
  | .asleep => .ready
  | writer => writer

namespace SnapshotGlobals

/-- `snapshot_pop_job`; `none` is its `-1`. -/
def snapshotPopJob (g : SnapshotGlobals) : Option SnapshotJob × SnapshotGlobals :=
  if g.gSnapshotCount = 0 then (none, g)
  else
    (some (g.gSnapshotQueue[g.gSnapshotHead]?.getD {}),
      { g with
        gSnapshotQueue := g.gSnapshotQueue.set g.gSnapshotHead {}
        gSnapshotHead := (g.gSnapshotHead + 1) % snapshotQueueDepth
        gSnapshotCount := g.gSnapshotCount - 1 })

/-- What `snapshot_writer_enqueue_h265_take` does while it has the mutex, and whether the job is
taken. -/
def enqueue (job : SnapshotJob) (g : SnapshotGlobals) : Bool × SnapshotGlobals :=
  if !g.gSnapshotStarted || g.gSnapshotStop then (false, g)
  else if g.gSnapshotCount ≥ snapshotQueueDepth then (false, g)
  else
    (true, { g with
      gSnapshotQueue := g.gSnapshotQueue.set g.gSnapshotTail job
      gSnapshotTail := (g.gSnapshotTail + 1) % snapshotQueueDepth
      gSnapshotCount := g.gSnapshotCount + 1 })

/-- What `snapshot_writer_loop` does while it has the mutex, up to the next wait or the unlock. The
job is zero where nothing is popped. -/
def test (g : SnapshotGlobals) : WriterThread × SnapshotGlobals :=
  if !g.gSnapshotStop && g.gSnapshotCount == 0 then (.asleep, g)
  else if g.gSnapshotStop && g.gSnapshotCount == 0 then (.exited, g)
  else
    let r := g.snapshotPopJob
    (.holding (r.1.getD {}), r.2)

/-- The first critical section of `snapshot_writer_init`, if the writer has not been started. The
queue itself is left as it is. -/
def reset (targetDir : List Char) (g : SnapshotGlobals) : SnapshotGlobals :=
  { g with
    gSnapshotDir := targetDir.take (snapshotPathMax - 1)
    gSnapshotStop := false
    gSnapshotHead := 0
    gSnapshotTail := 0
    gSnapshotCount := 0
    gSnapshotSeq := 0 }

/-- The last critical section of `snapshot_writer_deinit`, without the `free`s. -/
def clear (g : SnapshotGlobals) : SnapshotGlobals :=
  { g with
    gSnapshotQueue := g.gSnapshotQueue.map fun _ => {}
    gSnapshotStarted := false
    gSnapshotStop := false
    gSnapshotHead := 0
    gSnapshotTail := 0
    gSnapshotCount := 0 }

end SnapshotGlobals

/-- What `snapshot_writer_enqueue_h265_take` makes of its arguments. An empty buffer is no job. -/
def snapshotJob (data : Option ℕ) (len pts : UInt64) (reason : Option (List Char)) :
    Option SnapshotJob :=
  if data = none ∨ len = 0 then none
  else
    some
      { data := data, len := len, pts := pts, reason := (reason.getD "manual".toList).take 31 }

/-- The directory that `snapshot_writer_init` is to use. -/
def snapshotTargetDir (dir : Option (List Char)) : List Char :=
  match dir with
  | none => snapshotDefaultDir
  | some [] => snapshotDefaultDir
  | some dir => dir

/-- All threads together, and what has happened so far. -/
structure SnapshotThreads where
  globals : SnapshotGlobals := {}
  /-- The calls of `snapshot_writer_enqueue_h265_take` in front of the mutex. -/
  callers : List SnapshotJob := []
  /-- The calls behind it that have to free their buffer. -/
  rejected : List SnapshotJob := []
  writer : WriterThread := .absent
  control : ControlThread := .outside
  /-- The buffers that calls were given. -/
  passed : List ℕ := []
  /-- The jobs of the calls that return `0`. -/
  accepted : List SnapshotJob := []
  /-- The jobs that `snapshot_write_file` was called with. -/
  written : List SnapshotJob := []
  /-- The buffers that were freed. -/
  freed : List ℕ := []
deriving DecidableEq, Repr

inductive SnapshotStep where
  /-- `snapshot_writer_enqueue_h265_take` is called. -/
  | call (data : Option ℕ) (len pts : UInt64) (reason : Option (List Char))
  /-- A call has the mutex. -/
  | enqueue (job : SnapshotJob)
  /-- A call frees its buffer. -/
  | reject (job : SnapshotJob)
  /-- `pthread_cond_wait` returns without a signal. -/
  | wake
  /-- The writer has the mutex. -/
  | test
  | process
  /-- `snapshot_open_unique_h265` takes the next `g_snapshot_seq`. -/
  | attempt
  /-- `snapshot_write_file` returns. -/
  | finish
  | release
  /-- `snapshot_writer_init`, up to `pthread_create`. -/
  | init (dir : Option (List Char)) (mkdirOk : Bool)
  | create (ok : Bool)
  /-- The rest of `snapshot_writer_init`. -/
  | start
  /-- `snapshot_writer_deinit`, up to `pthread_join`. -/
  | stop
  | join
  /-- The rest of `snapshot_writer_deinit`. -/
  | clear
deriving DecidableEq, Repr

namespace SnapshotThreads

def call (data : Option ℕ) (len pts : UInt64) (reason : Option (List Char)) (s : SnapshotThreads) :
    SnapshotThreads :=
  match snapshotJob data len pts reason with
  | none => { s with passed := s.passed ++ data.toList, freed := s.freed ++ data.toList }
  | some job => { s with passed := s.passed ++ data.toList, callers := s.callers ++ [job] }

def enqueue (job : SnapshotJob) (s : SnapshotThreads) : SnapshotThreads :=
  match s.globals.enqueue job with
  | (true, g) =>
    { s with
      globals := g
      callers := s.callers.erase job
      writer := s.writer.signal
      accepted := s.accepted ++ [job] }
  | (false, g) =>
    { s with
      globals := g
      callers := s.callers.erase job
      rejected := s.rejected ++ [job] }

def reject (job : SnapshotJob) (s : SnapshotThreads) : SnapshotThreads :=
  { s with rejected := s.rejected.erase job, freed := s.freed ++ job.data.toList }

def test (s : SnapshotThreads) : SnapshotThreads :=
  { s with writer := s.globals.test.1, globals := s.globals.test.2 }

def process (job : SnapshotJob) (s : SnapshotThreads) : SnapshotThreads :=
  if job.data ≠ none ∧ job.len > 0 then
    { s with writer := .writing job 0, written := s.written ++ [job] }
  else { s with writer := .releasing job }

def attempt (job : SnapshotJob) (attempts : ℕ) (s : SnapshotThreads) : SnapshotThreads :=
  { s with
    writer := .writing job (attempts + 1)
    globals := { s.globals with gSnapshotSeq := s.globals.gSnapshotSeq + 1 } }

def release (job : SnapshotJob) (s : SnapshotThreads) : SnapshotThreads :=
  { s with writer := .ready, freed := s.freed ++ job.data.toList }

/-- `snapshot_writer_init`. It returns early, and has changed nothing then, if the path is too long
or the directory cannot be made, and if the writer has been started. -/
def init (dir : Option (List Char)) (mkdirOk : Bool) (s : SnapshotThreads) : SnapshotThreads :=
  if (snapshotTargetDir dir).length ≥ snapshotPathMax ∨ ¬ mkdirOk then s
  else if s.globals.gSnapshotStarted then s
  else { s with globals := s.globals.reset (snapshotTargetDir dir), control := .creating }

def create (ok : Bool) (s : SnapshotThreads) : SnapshotThreads :=
  if ok then { s with writer := .ready, control := .created } else { s with control := .outside }

def start (s : SnapshotThreads) : SnapshotThreads :=
  { s with globals := { s.globals with gSnapshotStarted := true }, control := .outside }

/-- `snapshot_writer_deinit`. It returns at once if the writer has not been started. -/
def stop (s : SnapshotThreads) : SnapshotThreads :=
  if !s.globals.gSnapshotStarted then s
  else
    { s with
      globals := { s.globals with gSnapshotStop := true }
      writer := s.writer.signal
      control := .joining }

def clear (s : SnapshotThreads) : SnapshotThreads :=
  { s with
    globals := s.globals.clear
    control := .outside
    freed := s.freed ++ s.globals.gSnapshotQueue.flatMap fun job => job.data.toList }

/-- One step of one of the threads, if that thread can make it. Calls may be made by any number of
threads at once, each with a buffer that has not been passed on before; `snapshot_writer_init` and
`snapshot_writer_deinit` are called by one. -/
def step (s : SnapshotThreads) : SnapshotStep → Option SnapshotThreads
  | .call data len pts reason =>
    if ∀ b ∈ data, b ∉ s.passed then some (s.call data len pts reason) else none
  | .enqueue job => if job ∈ s.callers then some (s.enqueue job) else none
  | .reject job => if job ∈ s.rejected then some (s.reject job) else none
  | .wake => if s.writer = .asleep then some { s with writer := .ready } else none
  | .test => if s.writer = .ready then some s.test else none
  | .process =>
    match s.writer with
    | .holding job => some (s.process job)
    | _ => none
  | .attempt =>
    match s.writer with
    | .writing job attempts =>
      if attempts < snapshotMaxAttempts then some (s.attempt job attempts) else none
    | _ => none
  | .finish =>
    match s.writer with
    | .writing job attempts =>
      if 0 < attempts then some { s with writer := .releasing job } else none
    | _ => none
  | .release =>
    match s.writer with
    | .releasing job => some (s.release job)
    | _ => none
  | .init dir mkdirOk => if s.control = .outside then some (s.init dir mkdirOk) else none
  | .create ok => if s.control = .creating then some (s.create ok) else none
  | .start => if s.control = .created then some s.start else none
  | .stop => if s.control = .outside then some s.stop else none
  | .join =>
    if s.control = .joining ∧ s.writer = .exited then
      some { s with writer := .absent, control := .joined }
    else none
  | .clear => if s.control = .joined then some s.clear else none

/-- The steps that can be made, and what they lead to. -/
inductive Takes (s : SnapshotThreads) : SnapshotStep → SnapshotThreads → Prop
  | call {data len pts reason} (hfresh : ∀ b ∈ data, b ∉ s.passed) :
    Takes s (.call data len pts reason) (s.call data len pts reason)
  | enqueue {job} (hjob : job ∈ s.callers) : Takes s (.enqueue job) (s.enqueue job)
  | reject {job} (hjob : job ∈ s.rejected) : Takes s (.reject job) (s.reject job)
  | wake (hwriter : s.writer = .asleep) : Takes s .wake { s with writer := .ready }
  | test (hwriter : s.writer = .ready) : Takes s .test s.test
  | process {job} (hwriter : s.writer = .holding job) : Takes s .process (s.process job)
  | attempt {job attempts} (hwriter : s.writer = .writing job attempts)
      (hattempts : attempts < snapshotMaxAttempts) : Takes s .attempt (s.attempt job attempts)
  | finish {job attempts} (hwriter : s.writer = .writing job attempts) (hattempts : 0 < attempts) :
    Takes s .finish { s with writer := .releasing job }
  | release {job} (hwriter : s.writer = .releasing job) : Takes s .release (s.release job)
  | init {dir mkdirOk} (hcontrol : s.control = .outside) :
    Takes s (.init dir mkdirOk) (s.init dir mkdirOk)
  | create {ok} (hcontrol : s.control = .creating) : Takes s (.create ok) (s.create ok)
  | start (hcontrol : s.control = .created) : Takes s .start s.start
  | stop (hcontrol : s.control = .outside) : Takes s .stop s.stop
  | join (hcontrol : s.control = .joining) (hwriter : s.writer = .exited) :
    Takes s .join { s with writer := .absent, control := .joined }
  | clear (hcontrol : s.control = .joined) : Takes s .clear s.clear

/-- **What a step does**, once for all proofs about steps. -/
theorem takes_of_step {s s' : SnapshotThreads} {e : SnapshotStep} (h : s.step e = some s') :
    s.Takes e s' := by
  cases e with
  | call data len pts reason =>
    obtain ⟨hfresh, rfl⟩ := Monitor.of_guard h
    exact .call hfresh
  | enqueue job =>
    obtain ⟨hjob, rfl⟩ := Monitor.of_guard h
    exact .enqueue hjob
  | reject job =>
    obtain ⟨hjob, rfl⟩ := Monitor.of_guard h
    exact .reject hjob
  | wake =>
    obtain ⟨hwriter, rfl⟩ := Monitor.of_guard h
    exact .wake hwriter
  | test =>
    obtain ⟨hwriter, rfl⟩ := Monitor.of_guard h
    exact .test hwriter
  | process =>
    rw [step] at h
    split at h
    · rename_i hwriter
      obtain rfl := Option.some.inj h
      exact .process hwriter
    · cases h
  | attempt =>
    rw [step] at h
    split at h
    · rename_i hwriter
      obtain ⟨hattempts, rfl⟩ := Monitor.of_guard h
      exact .attempt hwriter hattempts
    · cases h
  | finish =>
    rw [step] at h
    split at h
    · rename_i hwriter
      obtain ⟨hattempts, rfl⟩ := Monitor.of_guard h
      exact .finish hwriter hattempts
    · cases h
  | release =>
    rw [step] at h
    split at h
    · rename_i hwriter
      obtain rfl := Option.some.inj h
      exact .release hwriter
    · cases h
  | init dir mkdirOk =>
    obtain ⟨hcontrol, rfl⟩ := Monitor.of_guard h
    exact .init hcontrol
  | create ok =>
    obtain ⟨hcontrol, rfl⟩ := Monitor.of_guard h
    exact .create hcontrol
  | start =>
    obtain ⟨hcontrol, rfl⟩ := Monitor.of_guard h
    exact .start hcontrol
  | stop =>
    obtain ⟨hcontrol, rfl⟩ := Monitor.of_guard h
    exact .stop hcontrol
  | join =>
    obtain ⟨⟨hcontrol, hwriter⟩, rfl⟩ := Monitor.of_guard h
    exact .join hcontrol hwriter
  | clear =>
    obtain ⟨hcontrol, rfl⟩ := Monitor.of_guard h
    exact .clear hcontrol

end SnapshotThreads

/-- The interleavings of the threads, from the start of the program. -/
def snapshotThreads : Monitor SnapshotThreads SnapshotStep where
  start := {}
  step := SnapshotThreads.step

end LittleCore

import LittleCore.Library.Directories
import LittleCore.Writer.Threads
import Mathlib.Logic.Relation

/-!
# The directory of the snapshot writer

`snapshot_mkdir_p` of `snapshot_writer.c` makes a directory with everything in front of it, one
`mkdir` at each slash. `EEXIST` counts as a success, whatever it is that exists: so the function
succeeds exactly when the path leads somewhere afterwards, be it to a file.

`snapshot_writer_init` calls it in front of the mutex. The second half of the module follows the
directory over the runs of all threads, next to anyone else who makes files and directories.

## Main results

* `snapshotMkdirP_makes` — what the call leaves behind, when it succeeds, and why it fails
* `snapshotDir_stands` — a writer that runs has a directory to write to
-/

namespace LittleCore

open Library

/-- What the file system says to a name that is free. -/
abbrev MayMake := Directories → ℕ → List Char → Bool

/-- `snapshot_mkdir_one`: whether its caller goes on, which it also does on `EEXIST`. -/
def snapshotMkdirOne (mayMake : MayMake) (path : List Char) (t : Directories) :
    Bool × Directories :=
  match t.mkdir mayMake path with
  | .made t => (true, t)
  | .eexist => (true, t)
  | .failed => (false, t)

/-- The loop of `snapshot_mkdir_p` from `i` on, with `n` characters to go. A slash is overwritten
for the time of the call. -/
def snapshotMkdirLoop (mayMake : MayMake) (dir : List Char) :
    ℕ → ℕ → Directories → Bool × Directories
  | 0, _, t => (true, t)
  | n + 1, i, t =>
    if dir[i]? = some '/' ∧ dir.take i ≠ [] then
      match snapshotMkdirOne mayMake (dir.take i) t with
      | (false, t) => (false, t)
      | (true, t) => snapshotMkdirLoop mayMake dir n (i + 1) t
    else snapshotMkdirLoop mayMake dir n (i + 1) t

/-- `snapshot_mkdir_p`: whether it returns 0, and the directories. -/
def snapshotMkdirP (mayMake : MayMake) (dir : List Char) (t : Directories) : Bool × Directories :=
  if dir = [] then (false, t)
  else if dir.length ≥ snapshotPathMax then (false, t)
  else
    match snapshotMkdirLoop mayMake dir (dir.length - 1) 1 t with
    | (false, t) => (false, t)
    | (true, t) => snapshotMkdirOne mayMake dir t

/-! ### The parts of a path -/

/-- The path itself, or what is in front of one of its slashes. -/
def IsCut (dir path : List Char) : Prop :=
  path ≠ [] ∧ (path = dir ∨ ∃ rest, dir = path ++ '/' :: rest)

/-- From `t` to `t'` nothing has come but directories, and `dir` leads through them or to them. -/
structure MadeFor (dir : List Char) (t t' : Directories) : Prop where
  grown : t.Extends t'
  made : ∀ i, t.size ≤ i → i < t'.size →
    t'.isDir i = true ∧ ∃ path, IsCut dir path ∧ t'.resolve path = some i

/-- Everything in front of a slash leads somewhere. -/
def LeadsUpTo (t : Directories) (path : List Char) : Prop :=
  ∀ front rest, path = front ++ '/' :: rest → front ≠ [] → ∃ i, t.resolve front = some i

/-- There is a directory for the last name, and it is not made there. -/
def Refuses (mayMake : MayMake) (t : Directories) (path : List Char) : Prop :=
  ∃ parent name, t.walk (t.start path) (pathNames path).dropLast = some parent ∧
    (pathNames path).getLast? = some name ∧ t.entry parent name = none ∧
    mayMake t parent name = false

section Mkdir

variable {mayMake : MayMake} {dir path : List Char} {t t' t'' : Directories}

theorem MadeFor.refl (dir : List Char) (t : Directories) : MadeFor dir t t :=
  ⟨Directories.Extends.refl t, fun _ h h' => absurd h' (Nat.not_lt.mpr h)⟩

theorem MadeFor.trans (h : MadeFor dir t t') (h' : MadeFor dir t' t'') : MadeFor dir t t'' where
  grown := h.grown.trans h'.grown
  made i hi hi' := by
    rcases Nat.lt_or_ge i t'.size with hlt | hge
    · obtain ⟨hdir, path, hcut, hr⟩ := h.made i hi hlt
      rw [h'.grown.isDir_old hlt]
      exact ⟨hdir, path, hcut, h'.grown.resolve hr⟩
    · exact h'.made i hge hi'

theorem LeadsUpTo.extend (h : LeadsUpTo t path) (hext : t.Extends t') : LeadsUpTo t' path := by
  intro front rest hpath hfront
  obtain ⟨i, hi⟩ := h front rest hpath hfront
  exact ⟨i, hext.resolve hi⟩

/-- One character more, which may be a slash. -/
theorem LeadsUpTo.succ {i : ℕ} (h : LeadsUpTo t (dir.take i))
    (hslash : dir[i]? = some '/' → dir.take i ≠ [] → ∃ j, t.resolve (dir.take i) = some j) :
    LeadsUpTo t (dir.take (i + 1)) := by
  cases hc : dir[i]? with
  | none => rwa [List.take_add_one, hc, Option.toList_none, List.append_nil]
  | some c =>
    intro front rest hpath hfront
    rw [List.take_add_one, hc, Option.toList_some] at hpath
    induction rest using List.reverseRecOn with
    | nil =>
      obtain ⟨htake, hlast⟩ := List.append_inj' hpath rfl
      rw [List.singleton_inj.mp hlast] at hc
      rw [← htake] at hfront ⊢
      exact hslash hc hfront
    | append_singleton rest d _ =>
      rw [← List.cons_append, ← List.append_assoc] at hpath
      exact h front rest (List.append_inj' hpath rfl).1 hfront

theorem isCut_take {i : ℕ} (hslash : dir[i]? = some '/') (hpath : dir.take i ≠ []) :
    IsCut dir (dir.take i) := by
  obtain ⟨hi, hget⟩ := List.getElem?_eq_some_iff.mp hslash
  refine ⟨hpath, .inr ⟨dir.drop (i + 1), ?_⟩⟩
  rw [← hget, ← List.drop_eq_getElem_cons hi, List.take_append_drop]

/-- One call. -/
theorem snapshotMkdirOne_spec (hcut : IsCut dir path) :
    MadeFor dir t (snapshotMkdirOne mayMake path t).2 ∧
      ((snapshotMkdirOne mayMake path t).1 = true →
        ∃ i, (snapshotMkdirOne mayMake path t).2.resolve path = some i) ∧
      ((snapshotMkdirOne mayMake path t).1 = false →
        (snapshotMkdirOne mayMake path t).2.mkdir mayMake path = .failed) := by
  rw [snapshotMkdirOne]
  cases hmkdir : t.mkdir mayMake path with
  | made t' =>
    obtain ⟨hext, hsize, hdir, hresolve⟩ := Directories.of_mkdir_made hmkdir
    refine ⟨⟨hext, fun i hi hi' => ?_⟩, fun _ => ⟨t.size, hresolve⟩, nofun⟩
    obtain rfl : i = t.size := by
      change i < t'.size at hi'
      omega
    exact ⟨hdir, path, hcut, hresolve⟩
  | eexist =>
    have hresolve := Directories.mkdir_eexist_iff.mp hmkdir
    exact ⟨MadeFor.refl dir t, fun _ => hresolve, nofun⟩
  | failed => exact ⟨MadeFor.refl dir t, nofun, fun _ => hmkdir⟩

/-- A call that stops the function: everything in front has been made. -/
def Stops (mayMake : MayMake) (dir : List Char) (t : Directories) : Prop :=
  ∃ path, IsCut dir path ∧ LeadsUpTo t path ∧ t.mkdir mayMake path = .failed

/-- **The loop**: what is in front of slashes before `i` leads somewhere, and so on to the end. -/
theorem snapshotMkdirLoop_spec (n i : ℕ) (t : Directories)
    (hup : LeadsUpTo t (dir.take i)) :
    MadeFor dir t (snapshotMkdirLoop mayMake dir n i t).2 ∧
      ((snapshotMkdirLoop mayMake dir n i t).1 = true →
        LeadsUpTo (snapshotMkdirLoop mayMake dir n i t).2 (dir.take (i + n))) ∧
      ((snapshotMkdirLoop mayMake dir n i t).1 = false →
        Stops mayMake dir (snapshotMkdirLoop mayMake dir n i t).2) := by
  induction n generalizing i t with
  | zero => exact ⟨MadeFor.refl dir t, fun _ => hup, nofun⟩
  | succ n ih =>
    have hlength : i + (n + 1) = i + 1 + n := by omega
    rw [snapshotMkdirLoop, hlength]
    split
    · rename_i hslash
      have hcut := isCut_take hslash.1 hslash.2
      obtain ⟨hmade, hgoes, hstops⟩ := @snapshotMkdirOne_spec mayMake dir _ t hcut
      generalize snapshotMkdirOne mayMake (dir.take i) t = r at hmade hgoes hstops
      obtain ⟨ok, t'⟩ := r
      cases ok with
      | false =>
        have hstop : Stops mayMake dir t' :=
          ⟨dir.take i, hcut, hup.extend hmade.grown, hstops rfl⟩
        exact ⟨hmade, nofun, fun _ => hstop⟩
      | true =>
        have hsucc := (hup.extend hmade.grown).succ fun _ _ => hgoes rfl
        obtain ⟨hrest, hend⟩ := ih (i + 1) t' hsucc
        exact ⟨hmade.trans hrest, hend⟩
    · rename_i hslash
      exact ih (i + 1) t (hup.succ fun h h' => absurd ⟨h, h'⟩ hslash)

/-- What the whole call leaves behind, and where it stops. -/
theorem snapshotMkdirP_spec (mayMake : MayMake) (dir : List Char) (t : Directories) :
    MadeFor dir t (snapshotMkdirP mayMake dir t).2 ∧
      ((snapshotMkdirP mayMake dir t).1 = true → dir.length < snapshotPathMax ∧
        ∃ i, (snapshotMkdirP mayMake dir t).2.resolve dir = some i) ∧
      ((snapshotMkdirP mayMake dir t).1 = false → dir = [] ∨ snapshotPathMax ≤ dir.length ∨
        Stops mayMake dir (snapshotMkdirP mayMake dir t).2) := by
  rw [snapshotMkdirP]
  split
  · rename_i hdir
    exact ⟨MadeFor.refl dir t, nofun, fun _ => .inl hdir⟩
  rename_i hdir
  split
  · rename_i hlong
    exact ⟨MadeFor.refl dir t, nofun, fun _ => .inr (.inl hlong)⟩
  rename_i hshort
  have hup : LeadsUpTo t (dir.take 1) := by
    intro front rest hpath hfront
    have hle := dir.length_take_le 1
    rw [hpath, List.length_append, List.length_cons] at hle
    exact absurd (List.length_pos_iff.mpr hfront) (by omega)
  have hlength : 1 + (dir.length - 1) = dir.length :=
    Nat.add_sub_of_le (List.length_pos_iff.mpr hdir)
  obtain ⟨hmade, hgoes, hstops⟩ := @snapshotMkdirLoop_spec mayMake dir (dir.length - 1) 1 t hup
  rw [hlength, List.take_length] at hgoes
  generalize snapshotMkdirLoop mayMake dir (dir.length - 1) 1 t = r at hmade hgoes hstops
  obtain ⟨ok, t'⟩ := r
  cases ok with
  | false => exact ⟨hmade, nofun, fun _ => .inr (.inr (hstops rfl))⟩
  | true =>
    have hcut : IsCut dir dir := ⟨hdir, .inl rfl⟩
    obtain ⟨hlast, hdone, hfailed⟩ := @snapshotMkdirOne_spec mayMake dir _ t' hcut
    refine ⟨hmade.trans hlast, fun h => ⟨Nat.not_le.mp hshort, hdone h⟩, fun h => ?_⟩
    exact .inr (.inr ⟨dir, hcut, (hgoes rfl).extend hlast.grown, hfailed h⟩)

/-- A function that has stopped leaves a path that leads nowhere. -/
theorem Stops.resolve (h : Stops mayMake dir t) : t.resolve dir = none := by
  obtain ⟨path, ⟨hpath, hcut⟩, -, hfailed⟩ := h
  have hnone := Directories.resolve_of_failed hfailed
  rcases hcut with rfl | ⟨rest, rfl⟩
  · exact hnone
  · by_contra hsome
    obtain ⟨i, hi⟩ := Option.ne_none_iff_exists'.mp hsome
    obtain ⟨j, hj⟩ := Directories.resolve_of_append_slash hpath hi
    rw [hnone] at hj
    cases hj

/-- **Why it stops.** Something in front of a slash is no directory, or a name is refused. -/
theorem Stops.reason (h : Stops mayMake dir t) :
    ∃ path, IsCut dir path ∧
      (Refuses mayMake t path ∨ ∃ i, t.resolve path = some i ∧ t.isDir i = false) := by
  obtain ⟨path, ⟨hpath, hcut⟩, hup, hfailed⟩ := h
  have hcases := Directories.cases_of_failed hfailed hpath
  by_cases hdrop : (pathNames path).dropLast = []
  · -- The name is to be made where the path begins.
    rw [hdrop] at hcases
    have hstart : t.isDir (t.start path) = true := by
      rw [Directories.start]
      split
      · exact t.isDir_root
      · exact t.isDir_cwd
    rcases hcases with h | ⟨parent, h, hparent⟩
    · cases h
    · obtain rfl := Option.some.inj h
      rcases hparent with hfile | ⟨name, hlast, hfree, hmay⟩
      · rw [hstart] at hfile
        cases hfile
      · exact ⟨path, ⟨hpath, hcut⟩, .inl ⟨_, name, by rw [hdrop]; rfl, hlast, hfree, hmay⟩⟩
  · -- It is to be made where an earlier call has been.
    obtain ⟨front, rest, rfl, hfront, hnames⟩ := exists_dropLast_pathNames hdrop
    obtain ⟨i, hi⟩ := hup front rest rfl hfront
    have hwalk := hi
    rw [Directories.resolve, if_neg hfront, hnames, ← t.start_append hfront ('/' :: rest)] at hwalk
    rw [hwalk] at hcases
    rcases hcases with h | ⟨parent, h, hparent⟩
    · cases h
    · obtain rfl := Option.some.inj h
      rcases hparent with hfile | ⟨name, hlast, hfree, hmay⟩
      · refine ⟨front, ⟨hfront, .inr ?_⟩, .inr ⟨i, hi, hfile⟩⟩
        rcases hcut with rfl | ⟨rest', rfl⟩
        · exact ⟨rest, rfl⟩
        · exact ⟨rest ++ '/' :: rest', by rw [List.append_assoc, List.cons_append]⟩
      · exact ⟨_, ⟨hpath, hcut⟩, .inl ⟨i, name, hwalk, hlast, hfree, hmay⟩⟩

/-- A call for what is there. -/
theorem snapshotMkdirOne_of_resolve {i : ℕ} (h : t.resolve path = some i) :
    snapshotMkdirOne mayMake path t = (true, t) := by
  rw [snapshotMkdirOne, Directories.mkdir_eexist_iff.mpr ⟨i, h⟩]

theorem snapshotMkdirLoop_of_leadsUpTo (h : LeadsUpTo t dir) (n i : ℕ) :
    snapshotMkdirLoop mayMake dir n i t = (true, t) := by
  induction n generalizing i with
  | zero => rfl
  | succ n ih =>
    rw [snapshotMkdirLoop]
    split
    · rename_i hslash
      obtain ⟨-, heq | ⟨rest, hrest⟩⟩ := isCut_take hslash.1 hslash.2
      · -- The slash itself is not in front of itself.
        obtain ⟨hi, -⟩ := List.getElem?_eq_some_iff.mp hslash.1
        have hlength := congrArg List.length heq
        rw [List.length_take] at hlength
        omega
      · obtain ⟨j, hj⟩ := h _ rest hrest hslash.2
        rw [snapshotMkdirOne_of_resolve hj]
        exact ih (i + 1)
    · exact ih (i + 1)

/-- What is there is left as it is. -/
theorem snapshotMkdirP_of_resolve {i : ℕ} (hlength : dir.length < snapshotPathMax)
    (h : t.resolve dir = some i) : snapshotMkdirP mayMake dir t = (true, t) := by
  have hdir : dir ≠ [] := by
    rintro rfl
    cases h
  have hup : LeadsUpTo t dir := by
    rintro front rest rfl hfront
    exact Directories.resolve_of_append_slash hfront h
  rw [snapshotMkdirP, if_neg hdir, if_neg (Nat.not_le.mpr hlength),
    snapshotMkdirLoop_of_leadsUpTo hup]
  exact snapshotMkdirOne_of_resolve h

/-- When the call returns 0. -/
theorem snapshotMkdirP_iff (mayMake : MayMake) (dir : List Char) (t : Directories) :
    (snapshotMkdirP mayMake dir t).1 = true ↔ dir.length < snapshotPathMax ∧
      ∃ i, (snapshotMkdirP mayMake dir t).2.resolve dir = some i := by
  obtain ⟨-, hdone, hfailed⟩ := snapshotMkdirP_spec mayMake dir t
  refine ⟨hdone, ?_⟩
  rintro ⟨hlength, i, hi⟩
  by_contra hfalse
  rcases hfailed (Bool.not_eq_true _ ▸ hfalse) with rfl | hlong | hstops
  · cases hi
  · omega
  · rw [hstops.resolve] at hi
    cases hi

end Mkdir

/-- A root directory, and a file `log` in it. -/
def sampleDirectories : Directories where
  size := 2
  isDir i := i == 0
  entry i name :=
    if i = 0 then
      if name = ['.'] ∨ name = ['.', '.'] then some 0
      else if name = "log".toList then some 1
      else none
    else none
  root := 0
  cwd := 0
  isDir_of_entry {i name j} h := by
    split_ifs at h with hi <;> exact beq_iff_eq.mpr hi
  entry_lt {i name j} h := by
    split_ifs at h
    · rw [← Option.some.inj h]
      exact Nat.zero_lt_two
    · rw [← Option.some.inj h]
      exact Nat.one_lt_two
  lt_size {i} h := by
    rw [eq_of_beq h]
    exact Nat.zero_lt_two
  isDir_root := rfl
  isDir_cwd := rfl

/-- A file in the place of the directory does not make the call fail, in front of it it does. -/
example :
    (snapshotMkdirP (fun _ _ _ => true) "/log".toList sampleDirectories).1 = true ∧
    (snapshotMkdirP (fun _ _ _ => true) "/log/a".toList sampleDirectories).1 = false ∧
    (snapshotMkdirP (fun _ _ _ => true) "/a//b/".toList sampleDirectories).1 = true := by
  decide +kernel

/-! ### The directory of a writer that runs -/

/-- The threads, and the directories that they find. -/
structure SnapshotSystem where
  directories : Directories
  threads : SnapshotThreads

namespace SnapshotSystem

/-- `snapshot_writer_init` up to `pthread_create`. -/
def init (mayMake : MayMake) (dir : Option (List Char)) (s : SnapshotSystem) : SnapshotSystem :=
  if (snapshotTargetDir dir).length ≥ snapshotPathMax then s
  else
    let r := snapshotMkdirP mayMake (snapshotTargetDir dir) s.directories
    { directories := r.2, threads := s.threads.init dir r.1 }

/-- A step of one of the threads, or of anyone else, who takes no directory away. -/
inductive Step (s : SnapshotSystem) : SnapshotSystem → Prop
  | init (mayMake : MayMake) (dir : Option (List Char)) (hcontrol : s.threads.control = .outside) :
    Step s (s.init mayMake dir)
  | thread {e : SnapshotStep} {threads : SnapshotThreads} (hinit : ∀ dir ok, e ≠ .init dir ok)
      (hstep : s.threads.step e = some threads) : Step s { s with threads := threads }
  | other {directories : Directories} (hext : s.directories.Extends directories) :
    Step s { s with directories := directories }

/-- Every run from a program that has just been started. -/
def Reachable (directories : Directories) : SnapshotSystem → Prop :=
  Relation.ReflTransGen Step ⟨directories, {}⟩

variable {s s' : SnapshotSystem} {directories : Directories}

/-- The threads on their own take a step, or none. -/
theorem Step.threads (h : Step s s') :
    s'.threads = s.threads ∨ ∃ e, s.threads.step e = some s'.threads := by
  cases h with
  | init mayMake dir hcontrol =>
    rw [SnapshotSystem.init]
    split
    · exact .inl rfl
    · exact .inr ⟨.init dir _, if_pos hcontrol⟩
  | thread hinit hstep => exact .inr ⟨_, hstep⟩
  | other => exact .inl rfl

/-- What is proved of the threads holds here. -/
theorem Reachable.threads (h : Reachable directories s) :
    ∃ steps, snapshotThreads.run steps = some s.threads := by
  induction h with
  | refl => exact ⟨[], rfl⟩
  | tail _ hstep ih =>
    obtain ⟨steps, hrun⟩ := ih
    rcases hstep.threads with heq | ⟨e, he⟩
    · exact ⟨steps, heq ▸ hrun⟩
    · refine ⟨steps ++ [e], ?_⟩
      rw [Monitor.run_concat, hrun]
      exact he

/-- There is a writer, or one is being started or stopped. -/
def Active (threads : SnapshotThreads) : Prop :=
  threads.writer ≠ .absent ∨ threads.control ≠ .outside ∨ threads.globals.gSnapshotStarted = true

theorem active_of_writer {threads : SnapshotThreads} {writer : WriterThread}
    (hwriter : threads.writer = writer) (hne : writer ≠ .absent) : Active threads :=
  .inl (hwriter ▸ hne)

theorem active_of_control {threads : SnapshotThreads} {control : ControlThread}
    (hcontrol : threads.control = control) (hne : control ≠ .outside) : Active threads :=
  .inr (.inl (hcontrol ▸ hne))

/-- Only `snapshot_writer_init` sets the directory, and nothing else brings a writer. -/
theorem of_step {threads threads' : SnapshotThreads} {e : SnapshotStep}
    (hinit : ∀ dir ok, e ≠ .init dir ok) (h : threads.step e = some threads') :
    threads'.globals.gSnapshotDir = threads.globals.gSnapshotDir ∧
      (Active threads' → Active threads) := by
  cases SnapshotThreads.takes_of_step h with
  | @call data len pts reason hfresh =>
    rw [SnapshotThreads.call]
    cases snapshotJob data len pts reason <;> exact ⟨rfl, id⟩
  | @enqueue job hjob =>
    have hsignal : threads.writer.signal ≠ .absent → threads.writer ≠ .absent := by
      cases threads.writer <;> simp [WriterThread.signal]
    rw [SnapshotThreads.enqueue, SnapshotGlobals.enqueue]
    split_ifs
    · exact ⟨rfl, id⟩
    · exact ⟨rfl, id⟩
    · exact ⟨rfl, Or.imp_left hsignal⟩
  | reject => exact ⟨rfl, id⟩
  | wake hwriter => exact ⟨rfl, fun _ => active_of_writer hwriter (by simp)⟩
  | test hwriter =>
    refine ⟨?_, fun _ => active_of_writer hwriter (by simp)⟩
    rw [SnapshotThreads.test, SnapshotGlobals.test, SnapshotGlobals.snapshotPopJob]
    split_ifs <;> rfl
  | process hwriter =>
    refine ⟨?_, fun _ => active_of_writer hwriter (by simp)⟩
    rw [SnapshotThreads.process]
    split_ifs <;> rfl
  | attempt hwriter => exact ⟨rfl, fun _ => active_of_writer hwriter (by simp)⟩
  | finish hwriter => exact ⟨rfl, fun _ => active_of_writer hwriter (by simp)⟩
  | release hwriter => exact ⟨rfl, fun _ => active_of_writer hwriter (by simp)⟩
  | init => exact absurd rfl (hinit _ _)
  | create hcontrol =>
    refine ⟨?_, fun _ => active_of_control hcontrol (by simp)⟩
    rw [SnapshotThreads.create]
    split_ifs <;> rfl
  | start hcontrol => exact ⟨rfl, fun _ => active_of_control hcontrol (by simp)⟩
  | stop hcontrol =>
    rw [SnapshotThreads.stop]
    split_ifs with hstarted
    · exact ⟨rfl, id⟩
    · exact ⟨rfl, fun _ => .inr (.inr (by simpa using hstarted))⟩
  | join hcontrol => exact ⟨rfl, fun _ => active_of_control hcontrol (by simp)⟩
  | clear hcontrol => exact ⟨rfl, fun _ => active_of_control hcontrol (by simp)⟩

/-- While there is a writer, its directory leads somewhere. -/
def Stands (s : SnapshotSystem) : Prop :=
  Active s.threads → ∃ i, s.directories.resolve s.threads.globals.gSnapshotDir = some i

theorem Stands.extend (h : Stands s) (hext : s.directories.Extends directories) :
    Stands { s with directories := directories } := by
  intro hactive
  obtain ⟨i, hi⟩ := h hactive
  exact ⟨i, hext.resolve hi⟩

theorem Stands.init (h : Stands s) (mayMake : MayMake) (dir : Option (List Char)) :
    Stands (s.init mayMake dir) := by
  rw [SnapshotSystem.init]
  split
  · exact h
  rename_i hshort
  obtain ⟨hmade, hdone, -⟩ := snapshotMkdirP_spec mayMake (snapshotTargetDir dir) s.directories
  dsimp only
  generalize snapshotMkdirP mayMake (snapshotTargetDir dir) s.directories = r at hmade hdone
  obtain ⟨ok, directories⟩ := r
  have hext := h.extend hmade.grown
  rw [SnapshotThreads.init]
  split_ifs with hreturn hstarted
  · exact hext
  · exact hext
  · -- The directory is the one that has just been made.
    obtain ⟨-, hok⟩ := not_or.mp hreturn
    obtain ⟨hlength, i, hi⟩ := hdone (not_not.mp hok)
    intro _
    have htake : (snapshotTargetDir dir).take (snapshotPathMax - 1) = snapshotTargetDir dir :=
      List.take_of_length_le (Nat.le_sub_one_of_lt hlength)
    refine ⟨i, ?_⟩
    change directories.resolve ((snapshotTargetDir dir).take (snapshotPathMax - 1)) = some i
    rw [htake]
    exact hi

theorem Stands.step (hs : Stands s) (h : Step s s') : Stands s' := by
  cases h with
  | init mayMake dir hcontrol => exact hs.init mayMake dir
  | thread hinit hstep =>
    obtain ⟨hdir, hback⟩ := of_step hinit hstep
    intro hactive
    obtain ⟨i, hi⟩ := hs (hback hactive)
    exact ⟨i, hdir ▸ hi⟩
  | other hext => exact hs.extend hext

/-- A writer for `/a/b` that has just been created. -/
def sample : SnapshotSystem where
  directories := (snapshotMkdirP (fun _ _ _ => true) "/a/b".toList sampleDirectories).2
  threads := (({} : SnapshotThreads).init (some "/a/b".toList) true).create true

theorem reachable_sample : Reachable sampleDirectories sample := by
  have hok : (snapshotMkdirP (fun _ _ _ => true) "/a/b".toList sampleDirectories).1 = true := by
    decide +kernel
  have hinit : Step ⟨sampleDirectories, {}⟩
      ⟨(snapshotMkdirP (fun _ _ _ => true) "/a/b".toList sampleDirectories).2,
        ({} : SnapshotThreads).init (some "/a/b".toList) true⟩ := by
    have hstep := Step.init (s := ⟨sampleDirectories, {}⟩) (fun _ _ _ => true)
      (some "/a/b".toList) rfl
    have hdir : snapshotTargetDir (some "/a/b".toList) = "/a/b".toList := by decide
    rw [SnapshotSystem.init, hdir, if_neg (by decide)] at hstep
    dsimp only at hstep
    rwa [hok] at hstep
  refine (Relation.ReflTransGen.single hinit).tail ?_
  exact .thread (e := .create true) (fun _ _ h => by cases h) rfl

end SnapshotSystem

end LittleCore

import LittleCore.Library.Files
import LittleCore.Writer.Quoting
import Mathlib.Data.List.Pairwise

/-!
# The files of the snapshot writer

`snapshot_write_file` of `snapshot_writer.c` and what it calls, over the files of the system. What a
system call returns is an argument, one for each call; the functions of the writer thread are not
interrupted by anyone else who would change the files.

A job takes two names, for the stream and for the image. The first is taken by `O_EXCL`, the second
by looking with `access`. Whatever fails, one of the two files is there in the end, so both names
are taken for good.

## Main results

* `snapshotWriteFile_safe` — what a job does to the files
* `writeJobs_safe` — the same for runs, restarts of the writer included
-/

namespace LittleCore

open Library

/-- The files, and `g_snapshot_seq`. -/
structure SnapshotDisk where
  files : Files
  gSnapshotSeq : UInt32

/-- The result of `write`: `EINTR`, another error, or the number of bytes it took. -/
inductive WriteOutcome where
  | interrupted
  | failed
  | wrote (n : ℕ)
deriving DecidableEq, Repr

/-- What the system answers while a job is written. -/
structure JobOutcomes where
  /-- `open` fails, and not with `EEXIST`. It is asked with the number of attempts left. -/
  openFails : ℕ → Bool := fun _ => false
  writes : List WriteOutcome
  closes : Bool := true
  /-- What is in the arrays `quoted_h265` and `quoted_image` at first. -/
  quotedH265 : ℕ → Char := fun _ => '\x00'
  quotedImage : ℕ → Char := fun _ => '\x00'
  system : List Char → Files → ℤ × Files
  unlinks : Bool := true

/-- The path that `snapshot_open_unique_h265` prints, up to the extension. -/
def snapshotStem (dir : List Char) (seq : UInt32) : List Char :=
  cstr dir ++ "/snapshot_".toList ++ zeroPadded 6 seq.toNat

def h265Path (dir : List Char) (seq : UInt32) : List Char := snapshotStem dir seq ++ ".h265".toList

def imagePath (dir : List Char) (seq : UInt32) : List Char := snapshotStem dir seq ++ ".jpg".toList

/-- The loop of `snapshot_open_unique_h265` with so many attempts left: the two paths, `none` where
it returns `-1`. -/
def openAttempts (dir : List Char) (openFails : ℕ → Bool) :
    ℕ → SnapshotDisk → Option (List Char × List Char) × SnapshotDisk
  | 0, d => (none, d)
  | n + 1, d =>
    let seq := d.gSnapshotSeq + 1
    let d := { d with gSnapshotSeq := seq }
    if (h265Path dir seq).length ≥ snapshotPathMax ∨
        (imagePath dir seq).length ≥ snapshotPathMax then
      (none, d)
    else if (d.files (imagePath dir seq)).isSome then openAttempts dir openFails n d
    else if openFails n then (none, d)
    else if (d.files (h265Path dir seq)).isSome then openAttempts dir openFails n d
    else
      (some (h265Path dir seq, imagePath dir seq),
        { d with files := d.files.create (h265Path dir seq) })

def snapshotOpenUniqueH265 (dir : List Char) (openFails : ℕ → Bool) (d : SnapshotDisk) :
    Option (List Char × List Char) × SnapshotDisk :=
  openAttempts dir openFails snapshotMaxAttempts d

/-- `snapshot_write_all` from an offset on: whether everything is written, `none` as long as the
loop runs. -/
def snapshotWriteAll (path : List Char) :
    List WriteOutcome → List UInt8 → Files → Option Bool × Files
  | [], data, f => (if data = [] then some true else none, f)
  | o :: os, data, f =>
    if data = [] then (some true, f)
    else
      match o with
      | .interrupted => snapshotWriteAll path os data f
      | .failed => (some false, f)
      | .wrote n =>
        if n = 0 then (some false, f)
        else snapshotWriteAll path os (data.drop n) (f.append path (data.take n))

/-- `snapshot_convert_h265_to_image`, and whether it returns 0. -/
def snapshotConvertH265ToImage (o : JobOutcomes) (h265Path imagePath : List Char) (f : Files) :
    Bool × Files :=
  match ffmpegCommand o.quotedH265 o.quotedImage h265Path imagePath with
  | none => (false, f)
  | some cmd =>
    let r := o.system cmd f
    (r.1 == 0, r.2)

/-- What a job has done. -/
structure JobReport where
  /-- The paths of the stream and of the image. -/
  opened : Option (List Char × List Char) := none
  /-- `snapshot_write_all` has not returned. -/
  running : Bool := false
  /-- `write` and `close` succeeded. -/
  saved : Bool := false
  converted : Bool := false
  /-- The paths `unlink` was called with. -/
  unlinked : List (List Char) := []
deriving DecidableEq

/-- `snapshot_write_file`. -/
def snapshotWriteFile (dir : List Char) (data : List UInt8) (o : JobOutcomes) (d : SnapshotDisk) :
    JobReport × SnapshotDisk :=
  match snapshotOpenUniqueH265 dir o.openFails d with
  | (none, d) => ({}, d)
  | (some (h265, image), d) =>
    match snapshotWriteAll h265 o.writes data d.files with
    | (none, f) => ({ opened := some (h265, image), running := true }, { d with files := f })
    | (some false, f) => ({ opened := some (h265, image) }, { d with files := f })
    | (some true, f) =>
      if !o.closes then ({ opened := some (h265, image) }, { d with files := f })
      else
        match snapshotConvertH265ToImage o h265 image f with
        | (false, f) =>
          ({ opened := some (h265, image), saved := true }, { d with files := f })
        | (true, f) =>
          ({ opened := some (h265, image), saved := true, converted := true, unlinked := [h265] },
            { d with files := if o.unlinks then f.unlink h265 else f })

/-- A job that the writer thread takes, and whether the writer was stopped and started before it,
which sets `g_snapshot_seq` to 0. -/
structure WriterTask where
  data : List UInt8
  outcomes : JobOutcomes
  restarted : Bool := false

/-- A job, with the files before and behind it. -/
structure JobStep where
  task : WriterTask
  before : Files
  report : JobReport
  after : Files

/-- The jobs of a run, one after another. -/
def writeJobs (dir : List Char) : List WriterTask → SnapshotDisk → List JobStep
  | [], _ => []
  | t :: ts, d =>
    let d := if t.restarted then { d with gSnapshotSeq := 0 } else d
    let r := snapshotWriteFile dir t.data t.outcomes d
    ⟨t, d.files, r.1, r.2.files⟩ :: if r.1.running then [] else writeJobs dir ts r.2

/-! ### The system -/

/-- `system` runs a converter that touches its output only, and exits with 0 only after it has
written it. -/
structure ConvertsOnly (system : List Char → Files → ℤ × Files) : Prop where
  touches : ∀ {cmd stream image : List Char},
    shellWords cmd = some (ffmpegOptions ++ [stream, "-frames:v".toList, "1".toList, image]) →
      ∀ f, Files.OnlyTouches (· = image) f (system cmd f).2
  wrote : ∀ {cmd stream image : List Char},
    shellWords cmd = some (ffmpegOptions ++ [stream, "-frames:v".toList, "1".toList, image]) →
      ∀ f, (system cmd f).1 = 0 → ((system cmd f).2 image).isSome

/-! ### The names -/

theorem not_mem_snapshotStem (dir : List Char) (seq : UInt32) : '\x00' ∉ snapshotStem dir seq := by
  intro hmem
  rw [snapshotStem, List.mem_append, List.mem_append] at hmem
  rcases hmem with (hmem | hmem) | hmem
  · exact not_mem_cstr dir hmem
  · exact absurd hmem (by decide)
  · exact not_mem_zeroPadded 6 _ hmem

theorem not_mem_h265Path (dir : List Char) (seq : UInt32) : '\x00' ∉ h265Path dir seq := by
  intro hmem
  rcases List.mem_append.mp hmem with hmem | hmem
  · exact not_mem_snapshotStem dir seq hmem
  · exact absurd hmem (by decide)

theorem not_mem_imagePath (dir : List Char) (seq : UInt32) : '\x00' ∉ imagePath dir seq := by
  intro hmem
  rcases List.mem_append.mp hmem with hmem | hmem
  · exact not_mem_snapshotStem dir seq hmem
  · exact absurd hmem (by decide)

/-- The two names of a job go together. -/
theorem h265Path_eq_iff (dir : List Char) (seq seq' : UInt32) :
    h265Path dir seq = h265Path dir seq' ↔ imagePath dir seq = imagePath dir seq' := by
  rw [h265Path, h265Path, imagePath, imagePath, List.append_cancel_right_eq,
    List.append_cancel_right_eq]

theorem h265Path_ne_imagePath (dir : List Char) (seq : UInt32) :
    h265Path dir seq ≠ imagePath dir seq := by
  rw [h265Path, imagePath, Ne, List.append_cancel_left_eq]
  decide

/-- A pair of names that was chosen while there was no file of either. -/
structure FreshNames (dir : List Char) (f : Files) (names : List Char × List Char) : Prop where
  named : ∃ seq, names = (h265Path dir seq, imagePath dir seq)
  h265 : f names.1 = none
  image : f names.2 = none

/-- **The names of a job** are new. -/
theorem openAttempts_spec (dir : List Char) (openFails : ℕ → Bool) (n : ℕ) (d : SnapshotDisk) :
    ((openAttempts dir openFails n d).1 = none →
        (openAttempts dir openFails n d).2.files = d.files) ∧
      ∀ names, (openAttempts dir openFails n d).1 = some names → FreshNames dir d.files names ∧
        (openAttempts dir openFails n d).2.files = d.files.create names.1 := by
  induction n generalizing d with
  | zero => exact ⟨fun _ => rfl, fun names h => by cases h⟩
  | succ n ih =>
    have hnext := ih { d with gSnapshotSeq := d.gSnapshotSeq + 1 }
    rw [openAttempts]
    dsimp only at hnext ⊢
    split
    · exact ⟨fun _ => rfl, fun names h => by cases h⟩
    · split
      · exact hnext
      · rename_i himage
        split
        · exact ⟨fun _ => rfl, fun names h => by cases h⟩
        · split
          · exact hnext
          · rename_i hh265
            refine ⟨fun h => absurd h (Option.some_ne_none _), fun names h => ?_⟩
            obtain rfl := Option.some.inj h
            exact ⟨⟨⟨_, rfl⟩, by simpa using hh265, by simpa using himage⟩, rfl⟩

/-! ### The calls -/

/-- What is written is in front of what is left to write. -/
theorem snapshotWriteAll_spec (path : List Char) (os : List WriteOutcome) (data : List UInt8)
    (f : Files) :
    Files.OnlyTouches (· = path) f (snapshotWriteAll path os data f).2 ∧
      ∀ bytes, f path = some bytes → ∃ done,
        (snapshotWriteAll path os data f).2 path = some (bytes ++ done) ∧
          ((snapshotWriteAll path os data f).1 = some true → done = data) := by
  induction os generalizing data f with
  | nil =>
    refine ⟨.refl _ f, fun bytes hbytes => ⟨[], by rw [List.append_nil]; exact hbytes, ?_⟩⟩
    change (if data = [] then some true else none) = some true → [] = data
    split
    · rename_i hdata
      exact fun _ => hdata.symm
    · exact fun h => by cases h
  | cons o os ih =>
    have hstay : ∀ done : Option Bool, (done = some true → data = []) →
        ∀ bytes, f path = some bytes → ∃ part, f path = some (bytes ++ part) ∧
          (done = some true → part = data) := fun done hdone bytes hbytes =>
      ⟨[], by rw [List.append_nil]; exact hbytes, fun h => (hdone h).symm⟩
    rw [snapshotWriteAll.eq_def]
    dsimp only
    split
    · rename_i hdata
      exact ⟨.refl _ f, hstay _ fun _ => hdata⟩
    · rcases o with _ | _ | n
      · exact ih data f
      · exact ⟨.refl _ f, hstay _ fun h => by cases h⟩
      · dsimp only
        split
        · exact ⟨.refl _ f, hstay _ fun h => by cases h⟩
        · obtain ⟨htouch, hcontent⟩ := ih (data.drop n) (f.append path (data.take n))
          refine ⟨(Files.OnlyTouches.append (P := (· = path)) rfl f _).trans htouch,
            fun bytes hbytes => ?_⟩
          obtain ⟨done, hdone, hall⟩ := hcontent (bytes ++ data.take n) (by
            rw [Files.append_self, hbytes]
            rfl)
          refine ⟨data.take n ++ done, by rw [hdone, List.append_assoc], fun h => ?_⟩
          rw [hall h, List.take_append_drop]

theorem snapshotConvertH265ToImage_spec {o : JobOutcomes} (ho : ConvertsOnly o.system)
    {stream image : List Char} (hstream : '\x00' ∉ stream) (himage : '\x00' ∉ image) (f : Files) :
    Files.OnlyTouches (· = image) f (snapshotConvertH265ToImage o stream image f).2 ∧
      ((snapshotConvertH265ToImage o stream image f).1 = true →
        ((snapshotConvertH265ToImage o stream image f).2 image).isSome) := by
  rw [snapshotConvertH265ToImage]
  split
  · exact ⟨.refl _ f, fun h => by cases h⟩
  · rename_i cmd hcmd
    have hwords := shellWords_ffmpegCommand hstream himage hcmd
    exact ⟨ho.touches hwords f, fun h => ho.wrote hwords f (by simpa using h)⟩

/-! ### A job -/

/-- What is said of every job. -/
structure JobStep.Safe (s : JobStep) : Prop where
  /-- Nothing that was there is changed or removed. -/
  kept : ∀ path bytes, s.before path = some bytes → s.after path = some bytes
  fresh : ∀ h265 image, s.report.opened = some (h265, image) →
    s.before h265 = none ∧ s.before image = none
  elsewhere : ∀ path, (∀ names ∈ s.report.opened, path ≠ names.1 ∧ path ≠ names.2) →
    s.after path = s.before path
  /-- The stream is saved exactly if the job has got its names, all of it is written and `close`
  succeeds. -/
  saved_iff : s.report.saved = true ↔ ∃ names, s.report.opened = some names ∧
    (snapshotWriteAll names.1 s.task.outcomes.writes s.task.data
      (s.before.create names.1)).1 = some true ∧ s.task.outcomes.closes = true
  saved : s.report.saved = true → ∃ h265 image, s.report.opened = some (h265, image) ∧
    (s.report.converted = true ∧ (s.after image).isSome ∧
        (∀ path ∈ s.report.unlinked, path = h265) ∨
      s.report.converted = false ∧ s.after h265 = some s.task.data ∧ s.report.unlinked = [])
  unlinked : s.report.saved = false → s.report.unlinked = []

/-- What holds of a job and keeps the names of the next ones apart. -/
structure JobStep.Takes (dir : List Char) (s : JobStep) : Prop where
  names : ∀ names, s.report.opened = some names → FreshNames dir s.before names
  taken : ∀ names, s.report.opened = some names →
    (s.after names.1).isSome ∨ (s.after names.2).isSome

/-- A job that has got its names, and has left one of the two files. -/
theorem JobStep.safe_of_opened {dir : List Char} {s : JobStep} {h265 image : List Char}
    (hopened : s.report.opened = some (h265, image))
    (hfresh : FreshNames dir s.before (h265, image))
    (htouch : Files.OnlyTouches (fun path => path = h265 ∨ path = image) s.before s.after)
    (htaken : (s.after h265).isSome ∨ (s.after image).isSome)
    (hiff : s.report.saved = true ↔
      (snapshotWriteAll h265 s.task.outcomes.writes s.task.data (s.before.create h265)).1
          = some true ∧ s.task.outcomes.closes = true)
    (hsaved : s.report.saved = true →
      s.report.converted = true ∧ (s.after image).isSome ∧
          (∀ path ∈ s.report.unlinked, path = h265) ∨
        s.report.converted = false ∧ s.after h265 = some s.task.data ∧ s.report.unlinked = [])
    (hunlinked : s.report.saved = false → s.report.unlinked = []) : s.Safe ∧ s.Takes dir := by
  have hnew : ∀ path, path = h265 ∨ path = image → s.before path = none := by
    rintro path (rfl | rfl)
    · exact hfresh.h265
    · exact hfresh.image
  have hnames : ∀ names, s.report.opened = some names → names = (h265, image) := fun names h =>
    Option.some.inj (h.symm.trans hopened)
  constructor
  · refine ⟨fun path bytes h => htouch.keeps hnew h, fun h265' image' h => ?_, fun path h => ?_,
      ?_, fun h => ⟨h265, image, hopened, hsaved h⟩, hunlinked⟩
    · obtain ⟨rfl, rfl⟩ := Prod.mk.inj (hnames _ h)
      exact ⟨hfresh.h265, hfresh.image⟩
    · obtain ⟨hh265, himage⟩ := h _ hopened
      exact htouch path (not_or.mpr ⟨hh265, himage⟩)
    · rw [hiff]
      constructor
      · exact fun h => ⟨_, hopened, h⟩
      · rintro ⟨names, hn, h⟩
        rwa [hnames names hn] at h
  · constructor
    · intro names h
      rw [hnames names h]
      exact hfresh
    · intro names h
      rw [hnames names h]
      exact htaken

/-- What a job that has got its names has left when its write loop ends. -/
theorem snapshotWriteAll_created (h265 image : List Char) (os : List WriteOutcome)
    (data : List UInt8) (f : Files) :
    Files.OnlyTouches (fun path => path = h265 ∨ path = image) f
        (snapshotWriteAll h265 os data (f.create h265)).2 ∧
      ((snapshotWriteAll h265 os data (f.create h265)).2 h265).isSome ∧
      ((snapshotWriteAll h265 os data (f.create h265)).1 = some true →
        (snapshotWriteAll h265 os data (f.create h265)).2 h265 = some data) := by
  obtain ⟨hwrite, hcontent⟩ := snapshotWriteAll_spec h265 os data (f.create h265)
  obtain ⟨done, hdone, hall⟩ := hcontent [] (Files.create_self ..)
  have hcreate : Files.OnlyTouches (fun path => path = h265 ∨ path = image) f (f.create h265) :=
    .create (.inl rfl) f
  refine ⟨hcreate.trans (hwrite.mono fun path h => Or.inl h), ?_, ?_⟩
  · rw [hdone]
    rfl
  · intro h
    rw [hdone, hall h]
    rfl

/-- The stream of a converted job is unlinked, or left. -/
theorem unlinked_stream {h265 image : List Char} (hne : h265 ≠ image) (unlinks : Bool)
    (f : Files) :
    Files.OnlyTouches (· = h265) f (if unlinks then f.unlink h265 else f) ∧
      (if unlinks then f.unlink h265 else f) image = f image := by
  have hunlink : Files.OnlyTouches (· = h265) f (if unlinks then f.unlink h265 else f) := by
    split
    · exact Files.OnlyTouches.unlink (P := (· = h265)) rfl f
    · exact .refl _ f
  exact ⟨hunlink, hunlink image hne.symm⟩

/-- **A job.** -/
theorem snapshotWriteFile_safe (dir : List Char) {t : WriterTask}
    (ht : ConvertsOnly t.outcomes.system) (d : SnapshotDisk) :
    JobStep.Safe ⟨t, d.files, (snapshotWriteFile dir t.data t.outcomes d).1,
        (snapshotWriteFile dir t.data t.outcomes d).2.files⟩ ∧
      JobStep.Takes dir ⟨t, d.files, (snapshotWriteFile dir t.data t.outcomes d).1,
        (snapshotWriteFile dir t.data t.outcomes d).2.files⟩ := by
  obtain ⟨hnone, hsome⟩ := openAttempts_spec dir t.outcomes.openFails snapshotMaxAttempts d
  rw [← snapshotOpenUniqueH265] at hnone hsome
  rw [snapshotWriteFile]
  generalize snapshotOpenUniqueH265 dir t.outcomes.openFails d = r at hnone hsome
  obtain ⟨_ | ⟨h265, image⟩, d'⟩ := r
  · have hfiles : d'.files = d.files := hnone rfl
    dsimp only
    rw [hfiles]
    have hiff : (false = true) ↔ ∃ names : List Char × List Char, none = some names ∧
        (snapshotWriteAll names.1 t.outcomes.writes t.data (d.files.create names.1)).1
          = some true ∧ t.outcomes.closes = true := by simp
    refine ⟨⟨fun _ _ h => h, fun _ _ h => ?_, fun _ _ => rfl, hiff, fun h => ?_, fun _ => rfl⟩,
      ⟨fun _ h => ?_, fun _ h => ?_⟩⟩ <;> cases h
  · obtain ⟨hfresh, hfiles⟩ := hsome _ rfl
    obtain ⟨seq, hseq⟩ := hfresh.named
    obtain ⟨hh265, himage⟩ := Prod.mk.inj hseq
    have hne : h265 ≠ image := by
      rw [hh265, himage]
      exact h265Path_ne_imagePath dir seq
    dsimp only at hfiles ⊢
    obtain ⟨hboth, hstream, hdata⟩ :=
      snapshotWriteAll_created h265 image t.outcomes.writes t.data d.files
    rw [← hfiles] at hboth hstream hdata
    generalize hr : snapshotWriteAll h265 t.outcomes.writes t.data d'.files = r
      at hboth hstream hdata
    obtain ⟨written, f⟩ := r
    have hret : (snapshotWriteAll h265 t.outcomes.writes t.data (d.files.create h265)).1
        = written := by rw [← hfiles, hr]
    dsimp only at hboth hstream hdata
    have hfail : ∀ running, ¬(written = some true ∧ t.outcomes.closes = true) →
        JobStep.Safe ⟨t, d.files, { opened := some (h265, image), running := running }, f⟩ ∧
        JobStep.Takes dir ⟨t, d.files, { opened := some (h265, image), running := running }, f⟩ :=
      fun running hnot => JobStep.safe_of_opened rfl hfresh hboth (.inl hstream)
        (by simpa [hret] using hnot) (fun h => by cases h) fun _ => rfl
    rcases written with _ | _ | _
    · exact hfail true (by simp)
    · exact hfail false (by simp)
    · dsimp only
      split
      · rename_i hcloses
        exact hfail false (by simpa using hcloses)
      · rename_i hcloses
        have hdone : (snapshotWriteAll h265 t.outcomes.writes t.data (d.files.create h265)).1
            = some true ∧ t.outcomes.closes = true := ⟨hret, by simpa using hcloses⟩
        obtain ⟨hconvert, hwrote⟩ := snapshotConvertH265ToImage_spec ht
          (hh265 ▸ not_mem_h265Path dir seq) (himage ▸ not_mem_imagePath dir seq) f
        generalize snapshotConvertH265ToImage t.outcomes h265 image f = r at hconvert hwrote
        obtain ⟨converted, f'⟩ := r
        dsimp only at hconvert hwrote
        have hthree := hboth.trans (hconvert.mono fun path h => Or.inr h)
        have hkept : f' h265 = some t.data := (hconvert h265 hne).trans (hdata rfl)
        rcases converted with _ | _
        · exact JobStep.safe_of_opened rfl hfresh hthree
            (.inl (Option.isSome_iff_exists.mpr ⟨_, hkept⟩)) ⟨fun _ => hdone, fun _ => rfl⟩
            (fun _ => .inr ⟨rfl, hkept, rfl⟩) fun h => by cases h
        · obtain ⟨hunlink, hleft⟩ := unlinked_stream hne t.outcomes.unlinks f'
          have hthere : ((if t.outcomes.unlinks then f'.unlink h265 else f') image).isSome := by
            rw [hleft]
            exact hwrote rfl
          exact JobStep.safe_of_opened rfl hfresh
            (hthree.trans (hunlink.mono fun path h => Or.inl h)) (.inr hthere)
            ⟨fun _ => hdone, fun _ => rfl⟩
            (fun _ => .inl ⟨rfl, hthere, fun path h => List.mem_singleton.mp h⟩)
            fun h => by cases h

/-! ### A run -/

/-- The first job of a run, and the rest of it. -/
theorem writeJobs_cons (dir : List Char) {t : WriterTask} (ht : ConvertsOnly t.outcomes.system)
    (ts : List WriterTask) (d : SnapshotDisk) : ∃ s rest, writeJobs dir (t :: ts) d = s :: rest ∧
      s.before = d.files ∧ (s.Safe ∧ s.Takes dir) ∧
      (rest = [] ∨ ∃ d' : SnapshotDisk, d'.files = s.after ∧ rest = writeJobs dir ts d') := by
  have hfiles : (if t.restarted then { d with gSnapshotSeq := 0 } else d).files = d.files := by
    split <;> rfl
  rw [writeJobs]
  generalize (if t.restarted then { d with gSnapshotSeq := 0 } else d) = u at hfiles
  refine ⟨_, _, rfl, hfiles, snapshotWriteFile_safe dir ht u, ?_⟩
  split
  · exact .inl rfl
  · exact .inr ⟨_, rfl, rfl⟩

section Runs

variable {dir : List Char} {tasks : List WriterTask}
  (htasks : ∀ t ∈ tasks, ConvertsOnly t.outcomes.system)

include htasks

theorem writeJobs_steps (d : SnapshotDisk) :
    ∀ s ∈ writeJobs dir tasks d, s.Safe ∧ s.Takes dir := by
  induction tasks generalizing d with
  | nil => exact fun s hs => by cases hs
  | cons t ts ih =>
    obtain ⟨s, rest, heq, -, hfirst, hrest⟩ :=
      writeJobs_cons dir (htasks t (List.mem_cons_self ..)) ts d
    intro s' hs'
    rw [heq, List.mem_cons] at hs'
    rcases hs' with rfl | hs'
    · exact hfirst
    · rcases hrest with rfl | ⟨d', -, rfl⟩
      · cases hs'
      · exact ih (fun t' ht' => htasks t' (List.mem_cons_of_mem _ ht')) d' s' hs'

/-- **A name that is taken** is not chosen again. -/
theorem not_opened_of_taken {d : SnapshotDisk} {names : List Char × List Char}
    (htaken : (d.files names.1).isSome ∨ (d.files names.2).isSome) :
    ∀ s ∈ writeJobs dir tasks d, s.report.opened ≠ some names := by
  induction tasks generalizing d with
  | nil => exact fun s hs => by cases hs
  | cons t ts ih =>
    obtain ⟨s, rest, heq, hbefore, ⟨hsafe, htakes⟩, hrest⟩ :=
      writeJobs_cons dir (htasks t (List.mem_cons_self ..)) ts d
    intro s' hs'
    rw [heq, List.mem_cons] at hs'
    rcases hs' with rfl | hs'
    · intro hopened
      have hfresh := htakes.names names hopened
      rw [hbefore] at hfresh
      rw [hfresh.h265, hfresh.image] at htaken
      exact htaken.elim (fun h => by cases h) fun h => by cases h
    · rcases hrest with rfl | ⟨d', hd', rfl⟩
      · cases hs'
      · have hkept : ∀ path, (d.files path).isSome → (d'.files path).isSome := by
          intro path h
          obtain ⟨bytes, hbytes⟩ := Option.isSome_iff_exists.mp h
          rw [hd', hsafe.kept path bytes (by rw [hbefore, hbytes])]
          rfl
        exact ih (fun t' ht' => htasks t' (List.mem_cons_of_mem _ ht'))
          (htaken.imp (hkept _) (hkept _)) s' hs'

/-- Two jobs with different names. -/
def JobStep.Apart (s s' : JobStep) : Prop :=
  ∀ names ∈ s.report.opened, ∀ names' ∈ s'.report.opened,
    names.1 ≠ names'.1 ∧ names.2 ≠ names'.2

/-- The names are different because one of the files of a job stays. -/
theorem pairwise_writeJobs (d : SnapshotDisk) :
    (writeJobs dir tasks d).Pairwise JobStep.Apart := by
  induction tasks generalizing d with
  | nil => exact List.Pairwise.nil
  | cons t ts ih =>
    have hts : ∀ t' ∈ ts, ConvertsOnly t'.outcomes.system := fun t' ht' =>
      htasks t' (List.mem_cons_of_mem _ ht')
    obtain ⟨s, rest, heq, -, ⟨-, htakes⟩, hrest⟩ :=
      writeJobs_cons dir (htasks t (List.mem_cons_self ..)) ts d
    rw [heq]
    rcases hrest with rfl | ⟨d', hd', rfl⟩
    · exact List.pairwise_singleton ..
    · refine List.pairwise_cons.mpr ⟨fun s' hs' names hnames names' hnames' => ?_, ih hts d'⟩
      have htaken := htakes.taken names hnames
      rw [← hd'] at htaken
      have hne : names' ≠ names := by
        rintro rfl
        exact not_opened_of_taken hts htaken s' hs' hnames'
      obtain ⟨seq, rfl⟩ := (htakes.names names hnames).named
      obtain ⟨seq', rfl⟩ := ((writeJobs_steps hts d' s' hs').2.names names' hnames').named
      constructor
      · exact fun h => hne (Prod.ext h.symm ((h265Path_eq_iff dir seq seq').mp h).symm)
      · exact fun h => hne (Prod.ext ((h265Path_eq_iff dir seq seq').mpr h).symm h.symm)

/-- **A run overwrites and deletes nothing**, and no two of its jobs have a name in common. -/
theorem writeJobs_safe (d : SnapshotDisk) :
    (∀ s ∈ writeJobs dir tasks d, s.Safe) ∧ (writeJobs dir tasks d).Pairwise JobStep.Apart :=
  ⟨fun s hs => (writeJobs_steps htasks d s hs).1, pairwise_writeJobs htasks d⟩

end Runs

/-- A converter that writes one byte to its output. -/
def sampleSystem (cmd : List Char) (f : Files) : ℤ × Files :=
  match (shellWords cmd).bind List.getLast? with
  | some image => (0, f.set image (some [0xff]))
  | none => (1, f)

theorem sampleSystem_convertsOnly : ConvertsOnly sampleSystem := by
  have hlast : ∀ {cmd stream image : List Char},
      shellWords cmd = some (ffmpegOptions ++ [stream, "-frames:v".toList, "1".toList, image]) →
        ∀ f, sampleSystem cmd f = (0, f.set image (some [0xff])) := by
    intro cmd stream image h f
    rw [sampleSystem, h]
    rfl
  constructor
  · intro cmd stream image h f
    rw [hlast h]
    exact Files.OnlyTouches.set (P := (· = image)) rfl f _
  · intro cmd stream image h f _
    rw [hlast h]
    exact Option.isSome_iff_exists.mpr ⟨_, Files.set_self f image _⟩

/-- A job that is converted, and one whose `close` fails, with a restart in between. -/
def sampleTasks : List WriterTask :=
  [{ data := [1, 2]
     outcomes := { writes := [.interrupted, .wrote 1, .wrote 5], system := sampleSystem } },
   { data := [3]
     outcomes := { writes := [.wrote 1], closes := false, system := sampleSystem }
     restarted := true }]

theorem writeJobs_safe_sample :
    (∀ s ∈ writeJobs "/sdcard".toList sampleTasks ⟨fun _ => none, 0xffffffff⟩, s.Safe) ∧
      (writeJobs "/sdcard".toList sampleTasks ⟨fun _ => none, 0xffffffff⟩).Pairwise
        JobStep.Apart := by
  refine writeJobs_safe (fun t ht => ?_) _
  rcases List.mem_pair.mp ht with rfl | rfl
  · exact sampleSystem_convertsOnly
  · exact sampleSystem_convertsOnly

end LittleCore

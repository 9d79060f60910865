import LittleCore.FileSource
import LittleCore.Library.Monitor
import LittleCore.Startup.Arguments
import Mathlib.Logic.Relation

/-!
# From `main` to the accept loop

`main` of `RTSP_Create.c` with `load_file_source`, `read_whole_file` of `file.c`,
`snapshot_writer_init` as far as it can fail, `start_rtsp_server` and `cleanup_resources`. Every
call to the outside may fail, and each failure has its way back through the releases.

`bootLedger` is the monitor of these ways: it refuses what is acquired twice and what is released
without being held. The sender thread is detached and only counts as started. What it allocates
itself is not looked at here.

When `start_rtsp_server` fails, `cleanup_resources` runs while the sender thread exists. In file
mode this does no harm: the thread waits for a client, and none can have come.

## Main results

* `main_releases` — what is held where `main` ends, on every way
* `client_served` — once a client plays, nothing is released any more, at any interleaving
-/

namespace LittleCore

namespace Startup

open Library

/-! ### What is acquired and released -/

inductive Resource where
  /-- The `FILE *` of `read_whole_file`. -/
  | stream
  | gFileBuf
  | gNalus
  /-- The thread that `snapshot_writer_init` starts. -/
  | writer
  | listenFd
deriving DecidableEq, Repr

inductive BootEvent where
  | acquire (r : Resource)
  | release (r : Resource)
  /-- The sender thread was created and detached. -/
  | spawned
  /-- The accept loop is entered. -/
  | serving
deriving DecidableEq, Repr

/-- The results of the calls to the outside, each of which is made once at most. -/
structure BootEnv where
  /-- What `fopen` finds. -/
  fopen : List Char → Option (List UInt8)
  fseekEnd : Bool := true
  ftell : Bool := true
  fseekSet : Bool := true
  malloc : Bool := true
  /-- How much `fread` delivers at most. -/
  fread : ℕ
  realloc : ℕ → Bool := fun _ => true
  /-- `snapshot_mkdir_p` of the directory. -/
  mkdir : Bool := true
  writerThread : Bool := true
  senderThread : Bool := true
  socket : Bool := true
  bind : Bool := true
  listen : Bool := true

/-- `read_whole_file`; `t` is the trace. -/
def readWholeFile (env : BootEnv) (path : List Char) (t : List BootEvent) :
    Option (List UInt8) × List BootEvent :=
  match env.fopen path with
  | none => (none, t)
  | some content =>
    let t := t ++ [.acquire .stream]
    if !env.fseekEnd then (none, t ++ [.release .stream])
    else
      let fileSize : ℤ := if env.ftell then content.length else -1
      if fileSize ≤ 0 then (none, t ++ [.release .stream])
      else if !env.fseekSet then (none, t ++ [.release .stream])
      else if !env.malloc then (none, t ++ [.release .stream])
      else
        let buffer := content.take env.fread
        let t := t ++ [.acquire .gFileBuf] ++ [.release .stream]
        if (buffer.length : ℤ) ≠ fileSize then (none, t ++ [.release .gFileBuf])
        else (some buffer, t)

/-- `load_file_source`. A `load_annexb_nalus` that fails has freed its array. -/
def loadFileSource (env : BootEnv) (path : List Char) (t : List BootEvent) :
    Option (List (List UInt8)) × List BootEvent :=
  match readWholeFile env path t with
  | (none, t) => (none, t)
  | (some fileBuf, t) =>
    match loadAnnexbNalus env.realloc fileBuf with
    | none => (none, t ++ [.release .gFileBuf])
    | some nalus =>
      if nalus.length = 0 then (none, t ++ [.release .gFileBuf])
      else (some nalus, t ++ [.acquire .gNalus])

/-- `snapshot_writer_init` when the program starts: the directory is short enough, and no writer has
been started before. -/
def snapshotWriterInit (env : BootEnv) (t : List BootEvent) : Bool × List BootEvent :=
  if !env.mkdir then (false, t)
  else if !env.writerThread then (false, t)
  else (true, t ++ [.acquire .writer])

def startRtspServer (env : BootEnv) (t : List BootEvent) : Bool × List BootEvent :=
  if !env.socket then (false, t)
  else
    let t := t ++ [.acquire .listenFd]
    if !env.bind then (false, t ++ [.release .listenFd])
    else if !env.listen then (false, t ++ [.release .listenFd])
    else (true, t)

/-- `cleanup_resources`. A pointer that is `NULL` is freed without effect. -/
def cleanupResources (gSnapshotReady loaded : Bool) (t : List BootEvent) : List BootEvent :=
  t ++ (if gSnapshotReady then [.release .writer] else []) ++
    if loaded then [.release .gNalus, .release .gFileBuf] else []

/-- `main` from `pthread_create` on; `none` where it returns `-1`. -/
def startThreads {α : Type*} (env : BootEnv) (gSnapshotReady loaded : Bool) (source : α)
    (t : List BootEvent) : Option α × List BootEvent :=
  if !env.senderThread then (none, cleanupResources gSnapshotReady loaded t)
  else
    match startRtspServer env (t ++ [.spawned]) with
    | (false, t) => (none, cleanupResources gSnapshotReady loaded t)
    | (true, t) => (some source, t ++ [.serving])

/-- `main` up to the accept loop, which is never left: the source that is served, `none` where it
returns `-1`. -/
def main (env : BootEnv) (args : List (List Char)) :
    Option (Source (List (List UInt8))) × List BootEvent :=
  match parseArgs (fun path => some (loadFileSource env path [])) args with
  | none => (none, [])
  | some (.file (none, t)) => (none, t)
  | some (.file (some gNalus, t)) => startThreads env false true (.file gNalus) t
  | some (.datafifo gFifoPhyAddr) =>
    match snapshotWriterInit env [] with
    | (gSnapshotReady, t) => startThreads env gSnapshotReady false (.datafifo gFifoPhyAddr) t

/-! ### The ledger -/

/-- What is held, in the order in which it was acquired, and whether the accept loop is running. -/
structure BootLedger where
  held : List Resource := []
  serving : Bool := false

/-- Behind the accept loop there is nothing. -/
def bootLedger : Monitor BootLedger BootEvent where
  start := {}
  step
    | ⟨_, true⟩, _ => none
    | ⟨held, false⟩, .acquire r => if r ∈ held then none else some ⟨held ++ [r], false⟩
    | ⟨held, false⟩, .release r => if r ∈ held then some ⟨held.erase r, false⟩ else none
    | ⟨held, false⟩, .spawned => some ⟨held, false⟩
    | ⟨held, false⟩, .serving => some ⟨held, true⟩

/-- On the way to the accept loop. -/
def Holds (t : List BootEvent) (held : List Resource) : Prop :=
  bootLedger.run t = some ⟨held, false⟩

namespace Holds

variable {t : List BootEvent} {held : List Resource} {r : Resource}

theorem acquire (h : Holds t held) (hr : r ∉ held) : Holds (t ++ [.acquire r]) (held ++ [r]) := by
  rw [Holds, Monitor.run_concat, h]
  exact if_neg hr

theorem release (h : Holds t held) (hr : r ∈ held) :
    Holds (t ++ [.release r]) (held.erase r) := by
  rw [Holds, Monitor.run_concat, h]
  exact if_pos hr

end Holds

/-- **A file is read completely or not at all**, and it is closed in either case. -/
theorem readWholeFile_spec (env : BootEnv) (path : List Char) :
    (∃ content, env.fopen path = some content ∧
        (readWholeFile env path []).1 = some content ∧ 0 < content.length ∧
        Holds (readWholeFile env path []).2 [.gFileBuf]) ∨
      (readWholeFile env path []).1 = none ∧ Holds (readWholeFile env path []).2 [] := by
  have hstart : Holds [] [] := rfl
  have hopen := hstart.acquire (r := .stream) (by simp)
  have hclosed := hopen.release (r := .stream) (by simp)
  have hbuf := (hopen.acquire (r := .gFileBuf) (by simp)).release (r := .stream) (by simp)
  rw [readWholeFile]
  cases env.fopen path with
  | none => exact .inr ⟨rfl, hstart⟩
  | some content =>
    dsimp only
    by_cases hend : env.fseekEnd = true
    · rw [if_neg (by simp [hend])]
      by_cases hsize : (if env.ftell then (content.length : ℤ) else -1) ≤ 0
      · rw [if_pos hsize]
        exact .inr ⟨rfl, hclosed⟩
      · rw [if_neg hsize]
        by_cases hset : env.fseekSet = true
        · rw [if_neg (by simp [hset])]
          by_cases hmalloc : env.malloc = true
          · rw [if_neg (by simp [hmalloc])]
            split_ifs at hsize with htell
            · rw [if_pos htell]
              by_cases hread : ((content.take env.fread).length : ℤ) = content.length
              · rw [if_neg (by simpa using hread)]
                have hall : content.take env.fread = content :=
                  (List.take_prefix _ _).eq_of_length (by exact_mod_cast hread)
                rw [hall]
                exact .inl ⟨content, rfl, rfl, by omega, hbuf⟩
              · rw [if_pos hread]
                exact .inr ⟨rfl, hbuf.release (by simp)⟩
            · exact absurd (by decide) hsize
          · rw [if_pos (by simpa using hmalloc)]
            exact .inr ⟨rfl, hclosed⟩
        · rw [if_pos (by simpa using hset)]
          exact .inr ⟨rfl, hclosed⟩
    · rw [if_pos (by simpa using hend)]
      exact .inr ⟨rfl, hclosed⟩

/-- What is loaded are the NALUs of the whole file. -/
theorem loadFileSource_spec (env : BootEnv) (path : List Char) :
    (∃ content gNalus, env.fopen path = some content ∧
        (loadFileSource env path []).1 = some gNalus ∧
        LittleCore.loadFileSource env.realloc content = some gNalus ∧
        Holds (loadFileSource env path []).2 [.gFileBuf, .gNalus]) ∨
      (loadFileSource env path []).1 = none ∧ Holds (loadFileSource env path []).2 [] := by
  have hread := readWholeFile_spec env path
  rw [loadFileSource]
  generalize readWholeFile env path [] = r at hread
  obtain ⟨fileBuf, t⟩ := r
  rcases hread with ⟨content, hopen, rfl, hlen, hholds⟩ | ⟨rfl, hholds⟩
  · dsimp only at hholds ⊢
    cases hload : loadAnnexbNalus env.realloc content with
    | none => exact .inr ⟨rfl, hholds.release (by simp)⟩
    | some nalus =>
      dsimp only
      by_cases hnone : nalus.length = 0
      · rw [if_pos hnone]
        exact .inr ⟨rfl, hholds.release (by simp)⟩
      · rw [if_neg hnone]
        refine .inl ⟨content, nalus, hopen, rfl, ?_, hholds.acquire (by simp)⟩
        rw [LittleCore.loadFileSource, if_neg (by omega), hload]
        exact if_neg hnone
  · exact .inr ⟨rfl, hholds⟩

/-! ### The ways through `main` -/

/-- What is held when the sources are set up. -/
def setUp (gSnapshotReady loaded : Bool) : List Resource :=
  (if gSnapshotReady then [.writer] else []) ++ if loaded then [.gFileBuf, .gNalus] else []

theorem cleanupResources_holds {t : List BootEvent} {gSnapshotReady loaded : Bool}
    (h : Holds t (setUp gSnapshotReady loaded)) :
    Holds (cleanupResources gSnapshotReady loaded t) [] := by
  have hwriter : Holds (t ++ if gSnapshotReady then [.release .writer] else [])
      (setUp false loaded) := by
    cases gSnapshotReady with
    | false => simpa using h
    | true => exact h.release (r := .writer) (List.mem_cons_self ..)
  rw [cleanupResources]
  cases loaded with
  | false =>
    rw [if_neg Bool.false_ne_true, List.append_nil]
    exact hwriter
  | true =>
    have hnalus := hwriter.release (r := .gNalus) (by decide)
    have hbuf : Holds _ [] := hnalus.release (r := .gFileBuf) (by decide)
    rwa [if_pos rfl, List.append_cons _ _ [BootEvent.release .gFileBuf]]

theorem startRtspServer_holds (env : BootEnv) {t : List BootEvent} {held : List Resource}
    (h : Holds t held) (hfd : .listenFd ∉ held) :
    Holds (startRtspServer env t).2
      (if (startRtspServer env t).1 then held ++ [.listenFd] else held) := by
  have hopen := h.acquire hfd
  have hclosed := hopen.release (r := .listenFd) (by simp)
  rw [List.erase_append_right _ hfd, List.erase_cons_head, List.append_nil] at hclosed
  rw [startRtspServer]
  cases env.socket with
  | false => exact h
  | true =>
    cases env.bind with
    | false => exact hclosed
    | true =>
      cases env.listen with
      | false => exact hclosed
      | true => exact hopen

theorem startThreads_holds {α : Type*} (env : BootEnv) {gSnapshotReady loaded : Bool} (source : α)
    {t : List BootEvent} (h : Holds t (setUp gSnapshotReady loaded)) :
    (startThreads env gSnapshotReady loaded source t).1 = none ∧
        Holds (startThreads env gSnapshotReady loaded source t).2 [] ∨
      (startThreads env gSnapshotReady loaded source t).1 = some source ∧
        bootLedger.run (startThreads env gSnapshotReady loaded source t).2
          = some ⟨setUp gSnapshotReady loaded ++ [.listenFd], true⟩ := by
  have hspawned : Holds (t ++ [.spawned]) (setUp gSnapshotReady loaded) := by
    rw [Holds, Monitor.run_concat, h]
    rfl
  have hfd : Resource.listenFd ∉ setUp gSnapshotReady loaded := by
    cases gSnapshotReady <;> cases loaded <;> decide
  have hserver := startRtspServer_holds env hspawned hfd
  rw [startThreads]
  cases env.senderThread with
  | false => exact .inl ⟨rfl, cleanupResources_holds h⟩
  | true =>
    simp only [Bool.not_true, Bool.false_eq_true, if_false]
    generalize startRtspServer env (t ++ [.spawned]) = r at hserver
    obtain ⟨ok, t'⟩ := r
    cases ok with
    | false => exact .inl ⟨rfl, cleanupResources_holds hserver⟩
    | true =>
      refine .inr ⟨rfl, ?_⟩
      rw [Monitor.run_concat]
      exact congrArg (Option.bind · _) hserver

/-! ### What the ledger says -/

/-- Nothing is released that is not held, and `held` is what is left. -/
structure Balanced (held : List Resource) (t : List BootEvent) : Prop where
  balance : ∀ r, t.count (.acquire r) = t.count (.release r) + if r ∈ held then 1 else 0
  before : ∀ pre post, t = pre ++ post →
    ∀ r, pre.count (.release r) ≤ pre.count (.acquire r)

theorem count_of_run {t : List BootEvent} {s : BootLedger} (h : bootLedger.run t = some s) :
    s.held.Nodup ∧
      ∀ r, t.count (.acquire r) = t.count (.release r) + if r ∈ s.held then 1 else 0 := by
  refine Monitor.invariant (I := fun t (s : BootLedger) => s.held.Nodup ∧
    ∀ r, t.count (BootEvent.acquire r) = t.count (.release r) + if r ∈ s.held then 1 else 0)
    ⟨List.nodup_nil, by simp [bootLedger]⟩ (fun t s e s' hI he => ?_) h
  obtain ⟨held, serving⟩ := s
  obtain ⟨hnodup, hcount⟩ := hI
  cases serving with
  | true => cases e <;> cases he
  | false =>
    cases e with
    | acquire r =>
      obtain ⟨hr, rfl⟩ : r ∉ held ∧ ⟨held ++ [r], false⟩ = s' := by
        simpa [bootLedger] using he
      refine ⟨List.nodup_append.mpr ⟨hnodup, List.pairwise_singleton _ r, ?_⟩, fun r' => ?_⟩
      · rintro r₁ hr₁ r₂ hr₂ rfl
        rw [List.mem_singleton.mp hr₂] at hr₁
        exact hr hr₁
      · rw [List.count_append, List.count_append, hcount r']
        by_cases hrr : r = r'
        · subst hrr
          simp [hr]
        · simp [hrr, Ne.symm hrr]
    | release r =>
      obtain ⟨hr, rfl⟩ : r ∈ held ∧ ⟨held.erase r, false⟩ = s' := by
        simpa [bootLedger] using he
      refine ⟨hnodup.erase r, fun r' => ?_⟩
      rw [List.count_append, List.count_append, hcount r']
      by_cases hrr : r = r'
      · subst hrr
        simp [hr, hnodup.mem_erase_iff]
      · simp [hrr, hnodup.mem_erase_iff, Ne.symm hrr]
    | spawned | serving =>
      obtain rfl := Option.some.inj he
      exact ⟨hnodup, by simpa [List.count_append] using hcount⟩

theorem balanced_of_run {t : List BootEvent} {s : BootLedger} (h : bootLedger.run t = some s) :
    Balanced s.held t := by
  refine ⟨(count_of_run h).2, ?_⟩
  rintro pre post rfl r
  obtain ⟨s', h'⟩ := Monitor.exists_of_run_append h
  rw [(count_of_run h').2 r]
  exact Nat.le_add_right _ _

/-- The accept loop comes last. -/
theorem serving_of_run {l r : List BootEvent} {s : BootLedger}
    (h : bootLedger.run (l ++ .serving :: r) = some s) : r = [] ∧ s.serving = true := by
  have hserving : ∀ s', bootLedger.run (l ++ [.serving]) = some s' → s'.serving = true := by
    intro s' hs'
    rw [Monitor.run_concat] at hs'
    obtain ⟨⟨held, serving⟩, -, hstep⟩ := Option.bind_eq_some_iff.mp hs'
    cases serving with
    | true => cases hstep
    | false =>
      rw [← Option.some.inj hstep]
  rcases r with _ | ⟨e, r⟩
  · exact ⟨rfl, hserving s h⟩
  · rw [List.append_cons] at h
    obtain ⟨⟨held, serving⟩, t', ht, hstep⟩ := Monitor.exists_step_of_run h
    obtain rfl : serving = true := hserving _ ht
    cases e <;> cases hstep

/-- What is held while the accept loop runs. -/
def heldBy {α : Type*} (gSnapshotReady : Bool) : Source α → List Resource
  | .file _ => [.gFileBuf, .gNalus, .listenFd]
  | .datafifo _ => setUp gSnapshotReady false ++ [.listenFd]

theorem main_holds (env : BootEnv) (args : List (List Char)) :
    (main env args).1 = none ∧ Holds (main env args).2 [] ∨
      ∃ source gSnapshotReady, (main env args).1 = some source ∧
        bootLedger.run (main env args).2 = some ⟨heldBy gSnapshotReady source, true⟩ := by
  rw [main]
  cases hargs : parseArgs (fun path => some (loadFileSource env path [])) args with
  | none => exact .inl ⟨rfl, rfl⟩
  | some source =>
    cases source with
    | file loaded =>
      obtain ⟨path, -, -, hload⟩ := (parseArgs_file_iff loaded).mp hargs
      have hspec := loadFileSource_spec env path
      rw [Option.some.inj hload] at hspec
      obtain ⟨gNalus, t⟩ := loaded
      rcases hspec with ⟨content, nalus, -, rfl, -, hholds⟩ | ⟨rfl, hholds⟩
      · rcases @startThreads_holds _ env false true (Source.file nalus) _ hholds
          with h | h
        · exact .inl h
        · exact .inr ⟨.file nalus, false, h⟩
      · exact .inl ⟨rfl, hholds⟩
    | datafifo gFifoPhyAddr =>
      have hinit : Holds (snapshotWriterInit env []).2
          (setUp (snapshotWriterInit env []).1 false) := by
        rw [snapshotWriterInit]
        cases env.mkdir <;> cases env.writerThread <;> rfl
      dsimp only
      generalize snapshotWriterInit env [] = r at hinit
      obtain ⟨gSnapshotReady, t⟩ := r
      rcases startThreads_holds env (α := Source (List (List UInt8))) (.datafifo gFifoPhyAddr)
        hinit with h | h
      · exact .inl h
      · exact .inr ⟨.datafifo gFifoPhyAddr, gSnapshotReady, h⟩

/-- **Every way through `main`.** Whatever the command line is and whichever calls fail, nothing is
released that is not held. When `main` returns, everything has been released; when it serves, the
listening socket and what the mode needs are left, and nothing else. -/
theorem main_releases (env : BootEnv) (args : List (List Char)) :
    match (main env args).1 with
    | none => Balanced [] (main env args).2
    | some source => ∃ gSnapshotReady,
      Balanced (heldBy gSnapshotReady source) (main env args).2 := by
  rcases main_holds env args with ⟨hnone, h⟩ | ⟨source, gSnapshotReady, hsome, h⟩
  · rw [hnone]
    exact balanced_of_run h
  · rw [hsome]
    exact ⟨gSnapshotReady, balanced_of_run h⟩

/-! ### The other threads -/

/-- How far `main` has got, and the state that it shares with the sender thread. -/
structure Process where
  booted : List BootEvent := []
  rtsp : RtspState := {}

/-- `main` goes on, or it serves a client. The sender thread looks at the shared state at any time,
and never writes what is looked at here. -/
inductive Process.Step (env : BootEnv) (args : List (List Char)) : Process → Process → Prop
  | boot {p : Process} {e : BootEvent} (h : p.booted ++ [e] <+: (main env args).2) :
    Step env args p { p with booted := p.booted ++ [e] }
  | control {p : Process} (h : .serving ∈ p.booted) (s : RtspStep) :
    Step env args p { p with rtsp := p.rtsp.apply s }

namespace Process

variable {env : BootEnv} {args : List (List Char)} {p p' : Process}

/-- Nobody plays before the accept loop runs. -/
structure Inv (env : BootEnv) (args : List (List Char)) (p : Process) : Prop where
  booted : p.booted <+: (main env args).2
  playing : p.rtsp.gPlay = true → .serving ∈ p.booted

theorem Inv.step (h : Inv env args p) (hstep : Step env args p p') : Inv env args p' := by
  cases hstep with
  | boot hpre => exact ⟨hpre, fun hplay => List.mem_append_left _ (h.playing hplay)⟩
  | control hserving s => exact ⟨h.booted, fun _ => hserving⟩

theorem Inv.run (h : Inv env args p) (hrun : Relation.ReflTransGen (Step env args) p p') :
    Inv env args p' := by
  induction hrun with
  | refl => exact h
  | tail _ hstep ih => exact ih.step hstep

/-- What has been done is not undone. -/
theorem booted_prefix (hrun : Relation.ReflTransGen (Step env args) p p') :
    p.booted <+: p'.booted := by
  induction hrun with
  | refl => exact List.prefix_rfl
  | tail _ hstep ih =>
    cases hstep with
    | boot => exact ih.trans (List.prefix_append _ _)
    | control => exact ih

end Process

/-- **A client is served from what is held.** At any interleaving of `main` with the threads, once
the sender thread finds a client playing, `main` has got to its accept loop: what the mode needs is
held, and stays so. -/
theorem client_served {env : BootEnv} {args : List (List Char)} {p p' : Process}
    (hrun : Relation.ReflTransGen (Process.Step env args) {} p) (hsend : p.rtsp.canSend = true)
    (hlater : Relation.ReflTransGen (Process.Step env args) p p') :
    ∃ source gSnapshotReady, (main env args).1 = some source ∧
      Balanced (heldBy gSnapshotReady source) p'.booted := by
  have hinv : Process.Inv env args p := Process.Inv.run ⟨List.nil_prefix, fun h => by cases h⟩ hrun
  have hinv' := hinv.run hlater
  have hserving := (Process.booted_prefix hlater).subset
    (hinv.playing (Bool.and_eq_true_iff.mp hsend).1)
  obtain ⟨l, r, hl⟩ := List.append_of_mem hserving
  obtain ⟨rest, hrest⟩ := hinv'.booted
  have hmain : (main env args).2 = l ++ .serving :: (r ++ rest) := by
    rw [← hrest, hl, List.append_assoc, List.cons_append]
  rcases main_holds env args with ⟨-, h⟩ | ⟨source, gSnapshotReady, hsome, h⟩
  · rw [Holds, hmain] at h
    cases (serving_of_run h).2
  · have hnone : r ++ rest = [] := by
      rw [hmain] at h
      exact (serving_of_run h).1
    have hall : p'.booted = (main env args).2 := by
      rw [hl, hmain, hnone, (List.append_eq_nil_iff.mp hnone).1]
    rw [hall]
    exact ⟨source, gSnapshotReady, hsome, balanced_of_run h⟩

/-- `main` alone. -/
theorem Process.run_boot {env : BootEnv} {args : List (List Char)} {l : List BootEvent}
    (h : l <+: (main env args).2) :
    Relation.ReflTransGen (Process.Step env args) {} { booted := l } := by
  induction l using List.reverseRecOn with
  | nil => exact .refl
  | append_singleton l e ih =>
    exact (ih ((List.prefix_append l [e]).trans h)).tail (.boot (p := { booted := l }) h)

def sampleBoot : BootEnv where
  fopen _ := some [0, 0, 1, 0x40, 1]
  fread := 5

/-- A client sets up and plays as soon as the file is served. -/
theorem client_served_sample : ∃ source gSnapshotReady,
    (main sampleBoot ["a.h265".toList]).1 = some source ∧ Balanced (heldBy gSnapshotReady source)
      [.acquire .stream, .acquire .gFileBuf, .release .stream, .acquire .gNalus, .spawned,
        .acquire .listenFd, .serving] := by
  have hboot := @Process.run_boot sampleBoot ["a.h265".toList]
    [.acquire .stream, .acquire .gFileBuf, .release .stream, .acquire .gNalus, .spawned,
      .acquire .listenFd, .serving] (by decide +kernel)
  have hsetup := hboot.tail (.control (by decide) (.setup ⟨7, 5000⟩))
  have hplay := hsetup.tail (.control (by decide) .play)
  exact client_served hplay rfl .refl

end Startup

end LittleCore

import LittleCore.Library.Trace
import LittleCore.Message
import LittleCore.Rtsp.State
import LittleCore.Snapshot.Buffer

/-!
# The sender thread's world

The state the RTP sender thread works on, what its environment decides, and the trace of what it
does.

The code is translated function by function into functions on a `World`. What a call to the
outside returns is not computed but looked up in an `Env`: the `n`-th fallible step of the sender
asks the environment about `n`. The snapshot path has its own counter and its own answers, so two
runs can be compared that differ in nothing else.

## Interleaving

The control thread writes the shared state in critical sections on `g_mutex`. `World.schedule`
runs, before each step of the sender that touches the shared state or the network, the critical
sections that `Env.control` places there. The control thread never reads what the sender writes,
so every interleaving of the two threads is one choice of `Env.control`, together with the
critical sections that the caller places between messages.

## The trace

Every step leaves an `Event`. `parameterSet` and `nalu` stand for whole calls of
`send_h265_nalu_rtp` and carry its result; the packets of that call are the `sendto` events
before it.
-/

namespace LittleCore

/-- The three parameter sets of an H.265 stream. -/
inductive ParamSet where
  | vps
  | sps
  | pps
deriving DecidableEq, Repr

/-- A mapping made by `nalu_datafifo_mmap_pack`, named by the step that made it. -/
inductive Mapping where
  | playback (n : ℕ)
  | snapshot (n : ℕ)
deriving DecidableEq, Repr

/-- What the sender and, between its steps, the control thread do. -/
inductive Event where
  /-- A critical section of the control thread, with the shared state it leaves. -/
  | rtsp (step : RtspStep) (after : RtspState)
  /-- `nalu_datafifo_read` returned an item. -/
  | read (item : Item)
  /-- `DATAFIFO_CMD_READ_DONE`. -/
  | readDone (ptr : ℕ)
  /-- `get_rtsp_target`: whether this message may be sent, and where to. -/
  | target (canSend : Bool) (dest : SockAddrIn)
  /-- A NALU of at least two bytes entered `datafifo_process_nalu_for_playback`. -/
  | received (nalu : List UInt8)
  /-- A parameter set was copied into its cache. -/
  | cached (kind : ParamSet) (nalu : List UInt8)
  /-- There was no memory for that copy. -/
  | copyFailed (kind : ParamSet)
  /-- `rtsp_session_needs_parameter_sets`. -/
  | needs (need : Bool)
  /-- One of the three calls in `send_cached_parameter_sets`. -/
  | parameterSet (kind : ParamSet) (dest : SockAddrIn) (nalu : List UInt8) (ok : Bool)
  /-- `rtsp_mark_parameter_sets_sent`. -/
  | marked
  /-- An IDR NALU cleared `wait_for_idr`. -/
  | idrFound
  /-- The call at the end of `datafifo_process_nalu_for_playback`. -/
  | nalu (dest : SockAddrIn) (nalu : List UInt8) (ok : Bool)
  | sendto (dest : SockAddrIn) (packet : List UInt8) (ok : Bool)
  | mmap (mapping : Mapping) (pack : MppNaluIpcPack)
  | mmapFailed
  /-- `nalu_datafifo_munmap_pack` was called on the mapping. -/
  | munmap (mapping : Mapping) (ok : Bool)
  /-- `snapshot_writer_enqueue_h265_take`. -/
  | enqueue (stream : List UInt8) (pts : UInt64) (ok : Bool)
  /-- `log_datafifo_stats`: the gap it computed, and whether it printed a line. -/
  | stats (seqGap : UInt64) (logged : Bool)
deriving DecidableEq

/-- An item was read or marked done. -/
def Event.isItemStep : Event → Bool
  | .read _ | .readDone _ => true
  | _ => false

/-- Everything the environment decides. The functions of the playback path are asked with the
number of the sender's step, those of the snapshot path with the number of the snapshot step. -/
structure Env where
  control : ℕ → List RtspStep := fun _ => []
  sendto : ℕ → Bool := fun _ => true
  malloc : ℕ → Bool := fun _ => true
  mmap : ℕ → Bool := fun _ => true
  munmap : ℕ → Bool := fun _ => true
  /-- The measured duration of sending one message, in milliseconds. -/
  sendCostMs : ℕ → UInt64 := fun _ => 0
  snapshotMmap : ℕ → Bool := fun _ => true
  snapshotMunmap : ℕ → Bool := fun _ => true
  snapshotAlloc : ℕ → Bool := fun _ => true
  /-- The result of `snapshot_writer_enqueue_h265_take`. -/
  snapshotEnqueue : ℕ → Bool := fun _ => true
  /-- `g_snapshot_ready`, which is constant once the sender runs. -/
  gSnapshotReady : Bool := true

/-- The control thread takes its steps between messages only. -/
def Env.Quiet (env : Env) : Prop := ∀ n, env.control n = []

/-- The globals the sender works on, the locals of its loop, the two step counters and the
trace. -/
structure World where
  rtsp : RtspState := {}
  /-- `g_vps_cache`, `NULL` while `none`. -/
  gVpsCache : Option (List UInt8) := none
  gSpsCache : Option (List UInt8) := none
  gPpsCache : Option (List UInt8) := none
  gH265SnapshotCache : H265SnapshotCache := {}
  seq : UInt16 := 0
  timestamp : UInt32 := 0x12345678
  lastSentSeq : UInt64 := 0
  lastReadSeq : UInt64 := 0
  frameCount : UInt32 := 0
  waitForIdr : Bool := false
  tick : ℕ := 0
  snapshotTick : ℕ := 0
  trace : List Event := []
deriving DecidableEq

namespace World

/-- Append an event to the trace. -/
def emit (w : World) (e : Event) : World := { w with trace := w.trace ++ [e] }

/-- A critical section of the control thread. -/
def rtspStep (w : World) (s : RtspStep) : World :=
  { w with rtsp := w.rtsp.apply s, trace := w.trace ++ [.rtsp s (w.rtsp.apply s)] }

/-- Let the control thread run up to the sender's next step, and count that step. -/
def schedule (env : Env) (w : World) : World :=
  (env.control w.tick).foldl rtspStep { w with tick := w.tick + 1 }

/-- Count a step of the snapshot path. -/
def snapshotStep (w : World) : World := { w with snapshotTick := w.snapshotTick + 1 }

end World

/-! ### The control thread in between -/

open Library

/-- A critical section of the control thread. -/
def Event.IsCritical : Event → Prop
  | .rtsp .. => True
  | _ => False

/-- The control thread changes the shared state, and its critical sections are traced. -/
theorem World.schedule_spec (env : Env) (w : World) :
    Grows Event.IsCritical w.trace (w.schedule env).trace ∧
      w.schedule env = { w with
        rtsp := (w.schedule env).rtsp, tick := w.tick + 1, trace := (w.schedule env).trace } := by
  have hfold : ∀ (l : List RtspStep) (v : World),
      Grows Event.IsCritical v.trace (l.foldl World.rtspStep v).trace ∧
        l.foldl World.rtspStep v = { v with
          rtsp := (l.foldl World.rtspStep v).rtsp, trace := (l.foldl World.rtspStep v).trace } := by
    intro l
    induction l with
    | nil => exact fun v => ⟨Grows.refl _ _, rfl⟩
    | cons s l ih =>
      intro v
      obtain ⟨hgrows, hframe⟩ := ih (v.rtspStep s)
      exact ⟨(Grows.single trivial v.trace).trans hgrows, hframe⟩
  exact hfold (env.control w.tick) { w with tick := w.tick + 1 }

theorem World.seq_schedule (env : Env) (w : World) : (w.schedule env).seq = w.seq := by
  rw [(World.schedule_spec env w).2]

/-! ### Steps that only reach the wire

`Sends env dest` relates the worlds before and after code that sends packets to `dest` and does
nothing else of its own: the control thread may run, the RTP sequence number and the step counter
move, and everything else stays. -/

/-- The events of sending to `dest`. -/
def Event.IsWire (env : Env) (dest : SockAddrIn) : Event → Prop
  | .rtsp s _ => ∃ n, s ∈ env.control n
  | .sendto d _ ok => d = dest ∧ ∃ n, ok = env.sendto n
  | _ => False

namespace World

structure Sends (env : Env) (dest : SockAddrIn) (w w' : World) : Prop where
  grows : Grows (Event.IsWire env dest) w.trace w'.trace
  /-- Apart from the shared state, the RTP sequence number, the step counter and the trace
  nothing moves. -/
  frame : w' = { w with rtsp := w'.rtsp, seq := w'.seq, tick := w'.tick, trace := w'.trace }
  tick_le : w.tick ≤ w'.tick
  /-- Without interference the shared state does not move either. -/
  quiet : env.Quiet → w'.rtsp = w.rtsp

namespace Sends

variable {env : Env} {dest : SockAddrIn} {w w' w'' : World}

theorem refl (env : Env) (dest : SockAddrIn) (w : World) : Sends env dest w w :=
  ⟨Grows.refl _ _, rfl, Nat.le_refl _, fun _ => rfl⟩

theorem trans (h₁ : Sends env dest w w') (h₂ : Sends env dest w' w'') :
    Sends env dest w w'' := by
  refine ⟨h₁.grows.trans h₂.grows, ?_, Nat.le_trans h₁.tick_le h₂.tick_le, fun hq => ?_⟩
  · rw [h₂.frame, h₁.frame]
  · rw [h₂.quiet hq, h₁.quiet hq]

end Sends

theorem sends_rtspStep {env : Env} (dest : SockAddrIn) {n : ℕ} {s : RtspStep}
    (hs : s ∈ env.control n) (w : World) : Sends env dest w (w.rtspStep s) := by
  refine ⟨Grows.single ⟨n, hs⟩ _, rfl, Nat.le_refl _, fun hq => ?_⟩
  rw [hq n] at hs
  simp at hs

theorem sends_schedule (env : Env) (dest : SockAddrIn) (w : World) :
    Sends env dest w (w.schedule env) := by
  have htick : Sends env dest w { w with tick := w.tick + 1 } :=
    ⟨Grows.refl _ _, rfl, Nat.le_succ _, fun _ => rfl⟩
  have hfold : ∀ (l : List RtspStep), (∀ s ∈ l, s ∈ env.control w.tick) → ∀ v : World,
      Sends env dest v (l.foldl rtspStep v) := by
    intro l
    induction l with
    | nil => intro _ v; exact .refl env dest v
    | cons s l ih =>
      intro hl v
      exact (sends_rtspStep dest (hl s (List.mem_cons_self ..)) v).trans
        (ih (fun t ht => hl t (List.mem_cons_of_mem _ ht)) _)
  exact htick.trans (hfold _ (fun _ h => h) _)

end World

/-- `nalu_datafifo_mmap_pack`; `maps` is the answer of the system. -/
def naluDatafifoMmapPack (maps : Bool) (mapping : Mapping) (pack : MppNaluIpcPack) (w : World) :
    Option Mapping × World :=
  if pack.physAddr = 0 ∨ pack.len = 0 then (none, w)
  else if maps then (some mapping, w.emit (.mmap mapping pack)) else (none, w.emit .mmapFailed)

/-- `nalu_datafifo_munmap_pack`; `unmaps` is the answer of the system. -/
def naluDatafifoMunmapPack (unmaps : Bool) (pack : MppNaluIpcPack) (mapping : Mapping)
    (w : World) : Bool × World :=
  let ok := pack.len ≠ 0 && unmaps
  (ok, w.emit (.munmap mapping ok))

end LittleCore

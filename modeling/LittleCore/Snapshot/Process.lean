import LittleCore.Playback

/-!
# The snapshot path

`datafifo_snapshot.c`: a flagged message is mapped, its NALUs are collected into an access unit,
the parameter set, GOP and IRAP caches are brought up to date, and the stream to decode is built
and handed to the snapshot writer.

A function that works on the frame under construction takes it together with the world; the steps
that can fail for lack of memory take the environment's answer at the current snapshot step.
-/

namespace LittleCore

open Library

def h265NalBlaWLp : UInt8 := 16

def h265NalCraNut : UInt8 := 21

/-- `H265_SNAPSHOT_MAX_GOP_BYTES`. -/
def h265SnapshotMaxGopBytes : ℕ := 8 * 1024 * 1024

def h265NaluIsIrap (nalType : Option UInt8) : Bool :=
  nalType.any fun t => decide (h265NalBlaWLp ≤ t) && decide (t ≤ h265NalCraNut)

/-- `h265_snapshot_frame_t`. -/
structure H265SnapshotFrame where
  au : H265ByteBuffer := {}
  copyAu : Bool := false
  hasVps : Bool := false
  hasSps : Bool := false
  hasPps : Bool := false
  hasIrap : Bool := false
deriving DecidableEq

/-- Two allocation answers, one for the start code and one for the NALU. -/
def h265AppendAnnexbNalu (alloc₁ alloc₂ : Bool) (dst : H265ByteBuffer) (nalu : List UInt8) :
    Bool × H265ByteBuffer :=
  let nalu := stripTrailingZeros nalu
  if nalu.length < 2 then (true, dst)
  else
    match h265BufferAppendStartCode alloc₁ dst with
    | (false, dst) => (false, dst)
    | (true, dst) => h265BufferAppend alloc₂ dst nalu

namespace H265SnapshotCache

/-- The cached parameter set of a kind. -/
def paramSet (c : H265SnapshotCache) : ParamSet → H265ByteBuffer
  | .vps => c.vps
  | .sps => c.sps
  | .pps => c.pps

def setParamSet (c : H265SnapshotCache) (b : H265ByteBuffer) : ParamSet → H265SnapshotCache
  | .vps => { c with vps := b }
  | .sps => { c with sps := b }
  | .pps => { c with pps := b }

end H265SnapshotCache

/-- The flag `has_vps`, `has_sps` or `has_pps`. -/
def H265SnapshotFrame.mark (frame : H265SnapshotFrame) : ParamSet → H265SnapshotFrame
  | .vps => { frame with hasVps := true }
  | .sps => { frame with hasSps := true }
  | .pps => { frame with hasPps := true }

/-- `h265_snapshot_update_param_set`. A replacement that fails is only logged. -/
def h265SnapshotUpdateParamSet (env : Env) (nalType : Option UInt8) (annexbNalu : List UInt8)
    (s : H265SnapshotFrame × World) : H265SnapshotFrame × World :=
  match h265ParamCacheForType nalType with
  | none => s
  | some kind =>
    let cache := s.2.gH265SnapshotCache
    let r := h265BufferReplace (env.snapshotAlloc s.2.snapshotTick) (cache.paramSet kind) annexbNalu
    (s.1.mark kind, { s.2.snapshotStep with gH265SnapshotCache := cache.setParamSet r.2 kind })

def h265SnapshotFeedNalu (env : Env) (nalu : List UInt8) (s : H265SnapshotFrame × World) :
    Bool × H265SnapshotFrame × World :=
  if nalu.length < 2 then (false, s)
  else
    let nalType := h265NaluType nalu
    let isParamSet := h265IsParameterSet nalType
    let frame := if h265NaluIsIrap nalType then { s.1 with hasIrap := true } else s.1
    let w := s.2
    if !frame.copyAu && !frame.hasIrap && !isParamSet &&
        !w.gH265SnapshotCache.currentGopHasIrap then (true, frame, w)
    else
      let naluOffset := frame.au.len
      match h265AppendAnnexbNalu (env.snapshotAlloc w.snapshotTick)
          (env.snapshotAlloc (w.snapshotTick + 1)) frame.au nalu with
      | (false, au) => (false, { frame with au := au }, w.snapshotStep.snapshotStep)
      | (true, au) =>
        let s := h265SnapshotUpdateParamSet env nalType (au.bytes.drop naluOffset)
          ({ frame with au := au }, w.snapshotStep.snapshotStep)
        if s.1.hasIrap || (!isParamSet && s.2.gH265SnapshotCache.currentGopHasIrap) then
          (true, { s.1 with copyAu := true }, s.2)
        else (true, s)

def h265SnapshotFeedBuffer (env : Env) (buf : List UInt8) (s : H265SnapshotFrame × World) :
    Bool × H265SnapshotFrame × World :=
  if buf.length < 2 then (false, s)
  else if !bufferStartsWithStartCode buf then h265SnapshotFeedNalu env buf s
  else
    let nalus := (annexbNalus h265FindStartCode buf).map Prod.fst
    match forEach (h265SnapshotFeedNalu env) nalus s with
    | (false, s) => (false, s)
    | (true, s) => (decide (0 < nalus.length), s)

/-- `h265_snapshot_append_cached_params`. -/
def h265SnapshotAppendCachedParams (alloc : Bool) (out source : H265ByteBuffer) :
    Bool × H265ByteBuffer :=
  if source.hasData && decide (0 < source.len) then h265BufferAppend alloc out source.bytes
  else (true, out)

def h265SnapshotAppendParams (alloc : ℕ → Bool) (cache : H265SnapshotCache)
    (out : H265ByteBuffer) : Bool × H265ByteBuffer :=
  match h265SnapshotAppendCachedParams (alloc 0) out cache.vps with
  | (false, out) => (false, out)
  | (true, out) =>
    match h265SnapshotAppendCachedParams (alloc 1) out cache.sps with
    | (false, out) => (false, out)
    | (true, out) => h265SnapshotAppendCachedParams (alloc 2) out cache.pps

def h265SnapshotUpdateGopCache (env : Env) (frame : H265SnapshotFrame) (msg : MppNaluIpcMsg)
    (w : World) : World :=
  if !frame.au.hasData || frame.au.len = 0 then w
  else
    let cache := w.gH265SnapshotCache
    if !frame.hasIrap && !cache.currentGopHasIrap then w
    else
      let cache := if frame.hasIrap then
          { cache with
            currentGop := h265BufferReset cache.currentGop
            currentGopHasIrap := true
            currentGopPts := msg.framePts
            currentGopStartSeq := msg.seq }
        else cache
      if frame.au.len > h265SnapshotMaxGopBytes ||
          cache.currentGop.len > h265SnapshotMaxGopBytes - frame.au.len then
        { w with gH265SnapshotCache :=
          { cache with
            currentGop := h265BufferReset cache.currentGop, currentGopHasIrap := false } }
      else
        match h265BufferAppend (env.snapshotAlloc w.snapshotTick) cache.currentGop
            frame.au.bytes with
        | (true, gop) =>
          { w.snapshotStep with gH265SnapshotCache :=
            { cache with currentGop := gop, currentGopLastSeq := msg.seq } }
        | (false, gop) =>
          { w.snapshotStep with gH265SnapshotCache :=
            { cache with currentGop := h265BufferReset gop, currentGopHasIrap := false } }

/-- `h265_snapshot_build_output`: the result, the output buffer and `used_cached_gop`. The four
allocation answers are for the three parameter sets and the body. -/
def h265SnapshotBuildOutput (alloc : ℕ → Bool) (cache : H265SnapshotCache)
    (out : H265ByteBuffer) : Bool × H265ByteBuffer × Bool :=
  let out := h265BufferReset out
  let haveParams := decide (0 < cache.vps.len) && decide (0 < cache.sps.len) &&
    decide (0 < cache.pps.len)
  if !haveParams then (false, out, false)
  else if cache.currentGopHasIrap && cache.currentGop.hasData &&
      decide (0 < cache.currentGop.len) then
    match h265SnapshotAppendParams alloc cache out with
    | (false, out) => (false, out, true)
    | (true, out) =>
      let r := h265BufferAppend (alloc 3) out cache.currentGop.bytes
      (r.1, r.2, true)
  else if cache.lastIrap.hasData && decide (0 < cache.lastIrap.len) then
    match h265SnapshotAppendParams alloc cache out with
    | (false, out) => (false, out, false)
    | (true, out) =>
      let r := h265BufferAppend (alloc 3) out cache.lastIrap.bytes
      (r.1, r.2, false)
  else (false, out, false)

/-- `datafifo_snapshot_deinit`. -/
def datafifoSnapshotDeinit (w : World) : World := { w with gH265SnapshotCache := {} }

/-- One round of the pack loop of `datafifo_snapshot_process`: only a failing map leaves the loop;
a pack that does not parse is logged, and so is a failing unmap. -/
def snapshotPack (env : Env) (pack : MppNaluIpcPack) (s : H265SnapshotFrame × World) :
    Bool × H265SnapshotFrame × World :=
  match naluDatafifoMmapPack (env.snapshotMmap s.2.snapshotTick) (.snapshot s.2.snapshotTick) pack
      s.2.snapshotStep with
  | (none, w) => (false, s.1, w)
  | (some mapping, w) =>
    let s := (h265SnapshotFeedBuffer env pack.bytes (s.1, w)).2
    let u := naluDatafifoMunmapPack (env.snapshotMunmap s.2.snapshotTick) pack mapping
      s.2.snapshotStep
    (true, s.1, u.2)

/-- The update of `last_irap`. -/
def updateLastIrap (env : Env) (frame : H265SnapshotFrame) (msg : MppNaluIpcMsg) (w : World) :
    World :=
  if frame.hasIrap && decide (0 < frame.au.len) then
    let cache := w.gH265SnapshotCache
    match h265BufferReplace (env.snapshotAlloc w.snapshotTick) cache.lastIrap frame.au.bytes with
    | (true, irap) =>
      { w.snapshotStep with gH265SnapshotCache :=
        { cache with
          lastIrap := irap, lastIrapPts := msg.framePts, lastIrapSeq := msg.seq
          lastIrapHasVps := frame.hasVps, lastIrapHasSps := frame.hasSps
          lastIrapHasPps := frame.hasPps } }
    | (false, irap) => { w.snapshotStep with gH265SnapshotCache := { cache with lastIrap := irap } }
  else w

/-- The part of `datafifo_snapshot_process` behind the caches: the stream is built and handed
over. -/
def snapshotEnqueue (env : Env) (msg : MppNaluIpcMsg) (w : World) : Bool × World :=
  let tick := w.snapshotTick
  let cache := w.gH265SnapshotCache
  match h265SnapshotBuildOutput (fun n => env.snapshotAlloc (tick + n)) cache {} with
  | (ok, out, usedCachedGop) =>
    let w := { w with snapshotTick := tick + 4 }
    if !ok || out.len = 0 then (false, w)
    else
      let pts := if usedCachedGop then cache.currentGopPts else msg.framePts
      let ret := env.snapshotEnqueue w.snapshotTick
      (ret, w.snapshotStep.emit (.enqueue out.bytes pts ret))

def datafifoSnapshotProcess (env : Env) (msg : MppNaluIpcMsg) (w : World) : Bool × World :=
  if !msg.flagged then (true, w)
  else
    match forEach (snapshotPack env) msg.usedPacks ({ copyAu := true }, w) with
    | (false, _, w) => (false, w)
    | (true, frame, w) =>
      let w := h265SnapshotUpdateGopCache env frame msg w
      let w := updateLastIrap env frame msg w
      if !env.gSnapshotReady then (false, w)
      else snapshotEnqueue env msg w

/-! ### The frame of the snapshot path

Parsing and caching (`Feeds`) leave nothing behind but the snapshot cache and the step counter;
the whole path (`Snapshots`) also leaves its own events. Neither reads or writes anything that
playback uses. -/

/-- The events of the snapshot path. -/
def Event.IsSnapshot : Event → Prop
  | .mmap (.snapshot _) _ | .munmap (.snapshot _) _ | .mmapFailed | .enqueue .. => True
  | _ => False

namespace World

structure Feeds (w w' : World) : Prop where
  frame : w' = { w with
    gH265SnapshotCache := w'.gH265SnapshotCache, snapshotTick := w'.snapshotTick }
  tick_le : w.snapshotTick ≤ w'.snapshotTick

structure Snapshots (w w' : World) : Prop where
  grows : Grows Event.IsSnapshot w.trace w'.trace
  frame : w' = { w with
    gH265SnapshotCache := w'.gH265SnapshotCache, snapshotTick := w'.snapshotTick
    trace := w'.trace }
  tick_le : w.snapshotTick ≤ w'.snapshotTick

variable {w w' w'' : World}

theorem Feeds.refl (w : World) : Feeds w w := ⟨rfl, Nat.le_refl _⟩

theorem Feeds.trans (h₁ : Feeds w w') (h₂ : Feeds w' w'') : Feeds w w'' := by
  refine ⟨?_, Nat.le_trans h₁.tick_le h₂.tick_le⟩
  rw [h₂.frame, h₁.frame]

theorem Feeds.trace_eq (h : Feeds w w') : w'.trace = w.trace := by rw [h.frame]

theorem feeds_snapshotStep (w : World) : Feeds w w.snapshotStep := ⟨rfl, Nat.le_succ _⟩

theorem Snapshots.refl (w : World) : Snapshots w w := ⟨Grows.refl _ _, rfl, Nat.le_refl _⟩

theorem Snapshots.trans (h₁ : Snapshots w w') (h₂ : Snapshots w' w'') : Snapshots w w'' := by
  refine ⟨h₁.grows.trans h₂.grows, ?_, Nat.le_trans h₁.tick_le h₂.tick_le⟩
  rw [h₂.frame, h₁.frame]

theorem Snapshots.emit (e : Event) (h : e.IsSnapshot) (w : World) : Snapshots w (w.emit e) :=
  ⟨Grows.single h _, rfl, Nat.le_refl _⟩

theorem Feeds.snapshots (h : Feeds w w') : Snapshots w w' := by
  refine ⟨?_, ?_, h.tick_le⟩
  · rw [h.trace_eq]
    exact Grows.refl _ _
  · rw [h.frame]

end World

open World

theorem h265SnapshotUpdateParamSet_feeds (env : Env) (nalType : Option UInt8)
    (annexbNalu : List UInt8) (s : H265SnapshotFrame × World) :
    Feeds s.2 (h265SnapshotUpdateParamSet env nalType annexbNalu s).2 := by
  rw [h265SnapshotUpdateParamSet]
  split
  · exact .refl _
  · exact ⟨rfl, Nat.le_succ _⟩

theorem h265SnapshotFeedNalu_feeds (env : Env) (nalu : List UInt8)
    (s : H265SnapshotFrame × World) : Feeds s.2 (h265SnapshotFeedNalu env nalu s).2.2 := by
  have htwo : Feeds s.2 s.2.snapshotStep.snapshotStep :=
    (feeds_snapshotStep _).trans (feeds_snapshotStep _)
  rw [h265SnapshotFeedNalu]
  split
  · exact .refl _
  · dsimp only
    generalize (if h265NaluIsIrap (h265NaluType nalu) = true then _ else s.1) = frame
    split
    · exact .refl _
    · split
      · exact htwo
      · split <;> exact htwo.trans (h265SnapshotUpdateParamSet_feeds env _ _ (_, _))

theorem h265SnapshotFeedBuffer_feeds (env : Env) (buf : List UInt8)
    (s : H265SnapshotFrame × World) : Feeds s.2 (h265SnapshotFeedBuffer env buf s).2.2 := by
  rw [h265SnapshotFeedBuffer]
  split
  · exact .refl _
  · split
    · exact h265SnapshotFeedNalu_feeds env buf s
    · have h : Feeds s.2 (forEach (h265SnapshotFeedNalu env)
          ((annexbNalus h265FindStartCode buf).map Prod.fst) s).2.2 :=
        forEach_induct (R := fun (s t : H265SnapshotFrame × World) => Feeds s.2 t.2)
          (fun s => .refl s.2) (fun h₁ h₂ => h₁.trans h₂)
          (fun nalu _ t => h265SnapshotFeedNalu_feeds env nalu t) s
      dsimp only
      split <;> rename_i heq <;> rwa [heq] at h

theorem h265SnapshotUpdateGopCache_feeds (env : Env) (frame : H265SnapshotFrame)
    (msg : MppNaluIpcMsg) (w : World) :
    Feeds w (h265SnapshotUpdateGopCache env frame msg w) := by
  rw [h265SnapshotUpdateGopCache]
  split
  · exact .refl w
  · dsimp only
    split
    · exact .refl w
    · generalize (if frame.hasIrap = true then _ else w.gH265SnapshotCache) = cache
      split
      · exact ⟨rfl, Nat.le_refl _⟩
      · split <;> exact ⟨rfl, Nat.le_succ _⟩

theorem updateLastIrap_feeds (env : Env) (frame : H265SnapshotFrame) (msg : MppNaluIpcMsg)
    (w : World) : Feeds w (updateLastIrap env frame msg w) := by
  rw [updateLastIrap]
  split
  · dsimp only
    split <;> exact ⟨rfl, Nat.le_succ _⟩
  · exact .refl w

theorem snapshotEnqueue_snapshots (env : Env) (msg : MppNaluIpcMsg) (w : World) :
    Snapshots w (snapshotEnqueue env msg w).2 := by
  have hfour : Snapshots w { w with snapshotTick := w.snapshotTick + 4 } :=
    ⟨Grows.refl _ _, rfl, Nat.le_add_right _ _⟩
  rw [snapshotEnqueue]
  dsimp only
  split
  · exact hfour
  · exact (hfour.trans (feeds_snapshotStep _).snapshots).trans (.emit (.enqueue ..) trivial _)

theorem snapshotPack_snapshots (env : Env) (pack : MppNaluIpcPack)
    (s : H265SnapshotFrame × World) : Snapshots s.2 (snapshotPack env pack s).2.2 := by
  have hstep := (feeds_snapshotStep s.2).snapshots
  rw [snapshotPack, naluDatafifoMmapPack]
  split_ifs
  · exact hstep
  · have hmap := hstep.trans (.emit (.mmap (.snapshot s.2.snapshotTick) pack) trivial _)
    have hfeed := hmap.trans (h265SnapshotFeedBuffer_feeds env pack.bytes (s.1, _)).snapshots
    exact (hfeed.trans (feeds_snapshotStep _).snapshots).trans
      (.emit (.munmap (.snapshot _) _) trivial _)
  · exact hstep.trans (.emit .mmapFailed trivial _)

/-- **The snapshot path stays on its own side.** -/
theorem datafifoSnapshotProcess_snapshots (env : Env) (msg : MppNaluIpcMsg) (w : World) :
    Snapshots w (datafifoSnapshotProcess env msg w).2 := by
  rw [datafifoSnapshotProcess]
  split
  · exact .refl w
  · have h : Snapshots w (forEach (snapshotPack env) msg.usedPacks ({ copyAu := true }, w)).2.2 :=
      forEach_induct (R := fun (s t : H265SnapshotFrame × World) => Snapshots s.2 t.2)
        (fun s => .refl s.2) (fun h₁ h₂ => h₁.trans h₂)
        (fun pack _ s => snapshotPack_snapshots env pack s) ({ copyAu := true }, w)
    split
    · rename_i heq
      rwa [heq] at h
    · rename_i frame v heq
      rw [heq] at h
      have hcache := (h265SnapshotUpdateGopCache_feeds env frame msg v).trans
        (updateLastIrap_feeds env frame msg _)
      dsimp only
      split
      · exact h.trans hcache.snapshots
      · exact (h.trans hcache.snapshots).trans (snapshotEnqueue_snapshots env msg _)

end LittleCore

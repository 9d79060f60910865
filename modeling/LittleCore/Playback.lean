import LittleCore.Annexb
import LittleCore.Rtp.Packet
import Mathlib.Logic.Function.Basic

/-!
# The playback path of the DATAFIFO sender

What `RTSP_Create.c` does with the bytes of a message while it is sent: the parameter set caches,
the gate that holds a new client back until it has parameter sets and an IDR, and the walk over
the NALUs of a pack.

The functions write `Bool` for the C results `0` and `-1`, with `true` for `0`.
-/

namespace LittleCore

open Library

def h265NalIdrWRadl : UInt8 := 19

def h265NalIdrNLp : UInt8 := 20

def h265NalVps : UInt8 := 32

def h265NalSps : UInt8 := 33

def h265NalPps : UInt8 := 34

def h265ParamSetMaxSize : ℕ := 16 * 1024

def h265IsParameterSet (nalType : Option UInt8) : Bool :=
  nalType == some h265NalVps || nalType == some h265NalSps || nalType == some h265NalPps

def h265IsIdr (nalType : Option UInt8) : Bool :=
  nalType == some h265NalIdrWRadl || nalType == some h265NalIdrNLp

/-! ### The shared state -/

/-- `get_rtsp_target`: `playing`, `dest`, `dest_valid` and `need_parameter_sets`. -/
def getRtspTarget (env : Env) (w : World) : (Bool × SockAddrIn × Bool × Bool) × World :=
  let w := w.schedule env
  let dest := if w.rtsp.gClientAddrSet then w.rtsp.gClientAddr else ⟨0, 0⟩
  ((w.rtsp.gPlay, dest, w.rtsp.gClientAddrSet, w.rtsp.gNeedParameterSets),
    w.emit (.target (w.rtsp.gPlay && w.rtsp.gClientAddrSet) dest))

def rtspSessionNeedsParameterSets (env : Env) (w : World) : Bool × World :=
  let w := w.schedule env
  (w.rtsp.gNeedParameterSets, w.emit (.needs w.rtsp.gNeedParameterSets))

def rtspMarkParameterSetsSent (env : Env) (w : World) : World :=
  let w := w.schedule env
  { w with rtsp := { w.rtsp with gNeedParameterSets := false } }.emit .marked

/-! ### The parameter set caches -/

/-- `h265_param_cache_for_type`. -/
def h265ParamCacheForType (nalType : Option UInt8) : Option ParamSet :=
  if nalType = some h265NalVps then some .vps
  else if nalType = some h265NalSps then some .sps
  else if nalType = some h265NalPps then some .pps
  else none

namespace World

/-- The content of a cache. -/
def cache (w : World) : ParamSet → Option (List UInt8)
  | .vps => w.gVpsCache
  | .sps => w.gSpsCache
  | .pps => w.gPpsCache

def setCache (w : World) (nalu : List UInt8) : ParamSet → World
  | .vps => { w with gVpsCache := some nalu }
  | .sps => { w with gSpsCache := some nalu }
  | .pps => { w with gPpsCache := some nalu }

end World

theorem World.cache_congr {w w' : World} (hvps : w'.gVpsCache = w.gVpsCache)
    (hsps : w'.gSpsCache = w.gSpsCache) (hpps : w'.gPpsCache = w.gPpsCache) :
    w'.cache = w.cache := by
  funext kind
  rcases kind
  · exact hvps
  · exact hsps
  · exact hpps

theorem World.Sends.cache_eq {env : Env} {dest : SockAddrIn} {w w' : World}
    (h : World.Sends env dest w w') : w'.cache = w.cache := by
  rw [h.frame]
  exact World.cache_congr rfl rfl rfl

theorem World.cache_setCache (w : World) (nalu : List UInt8) (kind : ParamSet) :
    (w.setCache nalu kind).cache = Function.update w.cache kind (some nalu) := by
  funext kind'
  rcases kind <;> rcases kind' <;> simp [World.cache, World.setCache]

/-- `h265_have_all_parameter_sets`: all three caches are there and not empty. -/
def h265HaveAllParameterSets (w : World) : Bool :=
  w.gVpsCache.any (0 < ·.length) && w.gSpsCache.any (0 < ·.length) &&
    w.gPpsCache.any (0 < ·.length)

/-- `h265_cache_parameter_set`. Its result is ignored by the only caller, so only the state is
kept. A copy that is already there is not made again. -/
def h265CacheParameterSet (env : Env) (nalu : List UInt8) (w : World) : World :=
  if nalu.length < 2 then w
  else
    match h265ParamCacheForType (h265NaluType nalu) with
    | none => w
    | some kind =>
      if nalu.length > h265ParamSetMaxSize then w
      else if w.cache kind = some nalu then w
      else
        let copied := env.malloc w.tick
        let w := { w with tick := w.tick + 1 }
        if copied then (w.setCache nalu kind).emit (.cached kind nalu)
        else w.emit (.copyFailed kind)

/-- Only parameter sets have a cache, so the caller's test changes nothing. -/
theorem cacheIfParameterSet_eq (env : Env) (nalu : List UInt8) (w : World) :
    (if h265IsParameterSet (h265NaluType nalu) then h265CacheParameterSet env nalu w else w)
      = h265CacheParameterSet env nalu w := by
  split
  · rfl
  · rename_i hset
    have hnone : h265ParamCacheForType (h265NaluType nalu) = none := by
      simp only [h265IsParameterSet, Bool.or_eq_true, beq_iff_eq, not_or] at hset
      rw [h265ParamCacheForType, if_neg hset.1.1, if_neg hset.1.2, if_neg hset.2]
    rw [h265CacheParameterSet, hnone]
    split <;> rfl

/-! ### Sending -/

/-- One of the three calls in `send_cached_parameter_sets`. -/
def sendParameterSet (env : Env) (dest : SockAddrIn) (timestamp ssrc : UInt32) (kind : ParamSet)
    (w : World) : Bool × World :=
  let nalu := (w.cache kind).getD []
  let r := sendH265NaluRtp env dest nalu timestamp ssrc 0 w
  (r.1, r.2.emit (.parameterSet kind dest nalu r.1))

def sendCachedParameterSets (env : Env) (dest : SockAddrIn) (timestamp ssrc : UInt32)
    (w : World) : Bool × World :=
  if !h265HaveAllParameterSets w then (false, w)
  else forEach (sendParameterSet env dest timestamp ssrc) [.vps, .sps, .pps] w

/-- The end of `datafifo_process_nalu_for_playback`: the NALU itself is sent. -/
def sendNaluForPlayback (env : Env) (dest : SockAddrIn) (nalu : List UInt8)
    (timestamp ssrc : UInt32) (marker : UInt8) (w : World) : Bool × World :=
  let r := sendH265NaluRtp env dest nalu timestamp ssrc marker w
  (r.1, r.2.emit (.nalu dest nalu r.1))

/-- `datafifo_process_nalu_for_playback` from the test of `*wait_for_idr` on. -/
def passIdrGate (env : Env) (dest : SockAddrIn) (nalu : List UInt8) (timestamp ssrc : UInt32)
    (marker : UInt8) (w : World) : Bool × World :=
  if w.waitForIdr then
    if !h265IsIdr (h265NaluType nalu) then (true, w)
    else
      sendNaluForPlayback env dest nalu timestamp ssrc marker
        ({ w with waitForIdr := false }.emit .idrFound)
  else sendNaluForPlayback env dest nalu timestamp ssrc marker w

/-- `datafifo_process_nalu_for_playback` from `rtsp_session_needs_parameter_sets` on. -/
def judgeNalu (env : Env) (dest : SockAddrIn) (timestamp ssrc : UInt32) (nalu : List UInt8)
    (marker : UInt8) (w : World) : Bool × World :=
  match rtspSessionNeedsParameterSets env w with
  | (true, w) =>
    match sendCachedParameterSets env dest timestamp ssrc w with
    | (false, w) => (true, w)
    | (true, w) =>
      let w := rtspMarkParameterSetsSent env w
      passIdrGate env dest nalu timestamp ssrc marker { w with waitForIdr := true }
  | (false, w) => passIdrGate env dest nalu timestamp ssrc marker w

def datafifoProcessNaluForPlayback (env : Env) (dest : SockAddrIn) (timestamp ssrc : UInt32)
    (canSend : Bool) (nalu : List UInt8) (marker : UInt8) (w : World) : Bool × World :=
  if nalu.length < 2 then (true, w)
  else
    let w := w.emit (.received nalu)
    let w := if h265IsParameterSet (h265NaluType nalu) then h265CacheParameterSet env nalu w else w
    if !canSend then (true, w) else judgeNalu env dest timestamp ssrc nalu marker w

theorem datafifoProcessNaluForPlayback_eq (env : Env) (dest : SockAddrIn)
    (timestamp ssrc : UInt32) (canSend : Bool) {nalu : List UInt8} (hlen : 2 ≤ nalu.length)
    (marker : UInt8) (w : World) :
    datafifoProcessNaluForPlayback env dest timestamp ssrc canSend nalu marker w
      = if canSend then
          judgeNalu env dest timestamp ssrc nalu marker
            (h265CacheParameterSet env nalu (w.emit (.received nalu)))
        else (true, h265CacheParameterSet env nalu (w.emit (.received nalu))) := by
  rw [datafifoProcessNaluForPlayback, if_neg (by omega)]
  dsimp only
  rw [cacheIfParameterSet_eq]
  rcases canSend <;> rfl

/-! ### Buffers and packs -/

/-- The NALUs of a buffer with the marker each is processed with. -/
def playbackNalus (buf : List UInt8) (lastMarker : UInt8) : List (List UInt8 × UInt8) :=
  if buf.length < 2 then []
  else if !bufferStartsWithStartCode buf then [(buf, lastMarker)]
  else (annexbNalus h265FindStartCodeLocal buf).map fun p => (p.1, if p.2 then lastMarker else 0)

/-- The NALUs of a buffer, without their markers. -/
def bufferNalus (buf : List UInt8) : List (List UInt8) :=
  if buf.length < 2 then []
  else if !bufferStartsWithStartCode buf then [buf]
  else (annexbNalus h265FindStartCodeLocal buf).map Prod.fst

theorem map_fst_playbackNalus (buf : List UInt8) (lastMarker : UInt8) :
    (playbackNalus buf lastMarker).map Prod.fst = bufferNalus buf := by
  rw [playbackNalus, bufferNalus]
  split
  · rfl
  · split
    · rfl
    · rw [List.map_map]
      rfl

def datafifoProcessH265BufferForPlayback (env : Env) (dest : SockAddrIn) (buf : List UInt8)
    (timestamp ssrc : UInt32) (lastMarker : UInt8) (canSend : Bool) (w : World) : Bool × World :=
  forEach (fun p w => datafifoProcessNaluForPlayback env dest timestamp ssrc canSend p.1 p.2 w)
    (playbackNalus buf lastMarker) w

def datafifoProcessPackForPlayback (env : Env) (dest : SockAddrIn) (pack : MppNaluIpcPack)
    (timestamp ssrc : UInt32) (marker : UInt8) (canSend : Bool) (w : World) : Bool × World :=
  match naluDatafifoMmapPack (env.mmap w.tick) (.playback w.tick) pack
      { w with tick := w.tick + 1 } with
  | (none, w) => (false, w)
  | (some mapping, w) =>
    let r :=
      datafifoProcessH265BufferForPlayback env dest pack.bytes timestamp ssrc marker canSend w
    let u := naluDatafifoMunmapPack (env.munmap r.2.tick) pack mapping
      { r.2 with tick := r.2.tick + 1 }
    (r.1 && u.1, u.2)

/-! ### The frame of playback

`Plays nalus` relates the worlds before and after NALUs out of `nalus` are processed. It is what
`Sends` is to a single send: reflexive, transitive, and kept by every function up to the buffer
walk. -/

/-- The events of processing NALUs out of `nalus`. -/
def Event.IsPlayback (nalus : List (List UInt8)) : Event → Prop
  | .received n | .nalu _ n _ => n ∈ nalus
  | .rtsp .. | .sendto .. | .cached .. | .copyFailed _ | .needs _ | .parameterSet .. | .marked
  | .idrFound => True
  | _ => False

namespace World

structure Plays (nalus : List (List UInt8)) (w w' : World) : Prop where
  grows : Grows (Event.IsPlayback nalus) w.trace w'.trace
  frame : w' = { w with
    rtsp := w'.rtsp, gVpsCache := w'.gVpsCache, gSpsCache := w'.gSpsCache
    gPpsCache := w'.gPpsCache, seq := w'.seq, waitForIdr := w'.waitForIdr, tick := w'.tick
    trace := w'.trace }
  tick_le : w.tick ≤ w'.tick

namespace Plays

variable {nalus nalus' : List (List UInt8)} {w w' w'' : World}

theorem refl (nalus : List (List UInt8)) (w : World) : Plays nalus w w :=
  ⟨Grows.refl _ _, rfl, Nat.le_refl _⟩

theorem trans (h₁ : Plays nalus w w') (h₂ : Plays nalus w' w'') : Plays nalus w w'' := by
  refine ⟨h₁.grows.trans h₂.grows, ?_, Nat.le_trans h₁.tick_le h₂.tick_le⟩
  rw [h₂.frame, h₁.frame]

theorem emit (e : Event) (h : e.IsPlayback nalus) (w : World) : Plays nalus w (w.emit e) :=
  ⟨Grows.single h _, rfl, Nat.le_refl _⟩

theorem mono (h : Plays nalus w w') (hsub : ∀ n ∈ nalus, n ∈ nalus') : Plays nalus' w w' := by
  refine ⟨h.grows.mono fun e he => ?_, h.frame, h.tick_le⟩
  cases e <;> first | exact hsub _ he | exact he

end Plays

theorem Sends.plays {env : Env} {dest : SockAddrIn} {w w' : World} (h : Sends env dest w w')
    (nalus : List (List UInt8)) : Plays nalus w w' := by
  refine ⟨h.grows.mono fun e he => ?_, ?_, h.tick_le⟩
  · cases e <;> trivial
  · rw [h.frame]

end World

open World

theorem h265CacheParameterSet_plays (env : Env) (nalu : List UInt8) (w : World) :
    Plays [nalu] w (h265CacheParameterSet env nalu w) := by
  have htick : Plays [nalu] w { w with tick := w.tick + 1 } :=
    ⟨Grows.refl _ _, rfl, Nat.le_succ _⟩
  rw [h265CacheParameterSet]
  split
  · exact .refl _ w
  · split
    · exact .refl _ w
    · rename_i kind _
      split
      · exact .refl _ w
      · split
        · exact .refl _ w
        · have hset : ∀ v : World, Plays [nalu] v (v.setCache nalu kind) := by
            rcases kind <;> exact fun v => ⟨Grows.refl _ _, rfl, Nat.le_refl _⟩
          dsimp only
          split
          · exact (htick.trans (hset _)).trans (.emit (.cached ..) trivial _)
          · exact htick.trans (.emit (.copyFailed _) trivial _)

theorem schedule_plays (env : Env) (nalus : List (List UInt8)) (w : World) :
    Plays nalus w (w.schedule env) :=
  (sends_schedule env ⟨0, 0⟩ w).plays nalus

theorem rtspSessionNeedsParameterSets_plays (env : Env) (nalus : List (List UInt8)) (w : World) :
    Plays nalus w (rtspSessionNeedsParameterSets env w).2 :=
  (schedule_plays env nalus w).trans (.emit (.needs _) trivial _)

theorem rtspMarkParameterSetsSent_plays (env : Env) (nalus : List (List UInt8)) (w : World) :
    Plays nalus w (rtspMarkParameterSetsSent env w) := by
  have hclear : ∀ v : World,
      Plays nalus v { v with rtsp := { v.rtsp with gNeedParameterSets := false } } := fun v =>
    ⟨Grows.refl _ _, rfl, Nat.le_refl _⟩
  exact ((schedule_plays env nalus w).trans (hclear _)).trans (.emit .marked trivial _)

theorem sendCachedParameterSets_plays (env : Env) (dest : SockAddrIn) (timestamp ssrc : UInt32)
    (nalus : List (List UInt8)) (w : World) :
    Plays nalus w (sendCachedParameterSets env dest timestamp ssrc w).2 := by
  rw [sendCachedParameterSets]
  split
  · exact .refl _ w
  · refine forEach_induct (R := Plays nalus) (.refl nalus) .trans (fun kind _ v => ?_) w
    exact ((sendH265NaluRtp_sends ..).plays nalus).trans (.emit (.parameterSet ..) trivial _)

theorem sendNaluForPlayback_plays (env : Env) (dest : SockAddrIn) (nalu : List UInt8)
    (timestamp ssrc : UInt32) (marker : UInt8) (w : World) :
    Plays [nalu] w (sendNaluForPlayback env dest nalu timestamp ssrc marker w).2 :=
  ((sendH265NaluRtp_sends ..).plays [nalu]).trans (.emit (.nalu ..) (List.mem_singleton_self _) _)

theorem passIdrGate_plays (env : Env) (dest : SockAddrIn) (nalu : List UInt8)
    (timestamp ssrc : UInt32) (marker : UInt8) (w : World) :
    Plays [nalu] w (passIdrGate env dest nalu timestamp ssrc marker w).2 := by
  have hopen : Plays [nalu] w ({ w with waitForIdr := false }.emit .idrFound) :=
    ⟨Grows.single trivial _, rfl, Nat.le_refl _⟩
  rw [passIdrGate]
  split
  · split
    · exact .refl _ w
    · exact hopen.trans (sendNaluForPlayback_plays ..)
  · exact sendNaluForPlayback_plays ..

theorem judgeNalu_plays (env : Env) (dest : SockAddrIn) (timestamp ssrc : UInt32)
    (nalu : List UInt8) (marker : UInt8) (w : World) :
    Plays [nalu] w (judgeNalu env dest timestamp ssrc nalu marker w).2 := by
  have hneeds := rtspSessionNeedsParameterSets_plays env [nalu] w
  rw [judgeNalu]
  split
  · rename_i heq
    rw [heq] at hneeds
    have hsets := hneeds.trans (sendCachedParameterSets_plays env dest timestamp ssrc _ _)
    split
    · rename_i heq
      rwa [heq] at hsets
    · rename_i heq
      rw [heq] at hsets
      have hwait : ∀ v : World, Plays [nalu] v { v with waitForIdr := true } := fun v =>
        ⟨Grows.refl _ _, rfl, Nat.le_refl _⟩
      exact ((hsets.trans (rtspMarkParameterSetsSent_plays env _ _)).trans (hwait _)).trans
        (passIdrGate_plays ..)
  · rename_i heq
    rw [heq] at hneeds
    exact hneeds.trans (passIdrGate_plays ..)

theorem datafifoProcessNaluForPlayback_plays (env : Env) (dest : SockAddrIn)
    (timestamp ssrc : UInt32) (canSend : Bool) (nalu : List UInt8) (marker : UInt8) (w : World) :
    Plays [nalu] w
      (datafifoProcessNaluForPlayback env dest timestamp ssrc canSend nalu marker w).2 := by
  by_cases hlen : 2 ≤ nalu.length
  · have hcache : Plays [nalu] w (h265CacheParameterSet env nalu (w.emit (.received nalu))) :=
      (Plays.emit (.received nalu) (List.mem_singleton_self _) w).trans
        (h265CacheParameterSet_plays ..)
    rw [datafifoProcessNaluForPlayback_eq env dest timestamp ssrc canSend hlen]
    split
    · exact hcache.trans (judgeNalu_plays ..)
    · exact hcache
  · rw [datafifoProcessNaluForPlayback, if_pos (by omega)]
    exact .refl _ w

/-- **The buffer walk only processes the buffer's NALUs.** -/
theorem datafifoProcessH265BufferForPlayback_plays (env : Env) (dest : SockAddrIn)
    (buf : List UInt8) (timestamp ssrc : UInt32) (lastMarker : UInt8) (canSend : Bool)
    (w : World) :
    Plays (bufferNalus buf) w (datafifoProcessH265BufferForPlayback env dest buf timestamp ssrc
      lastMarker canSend w).2 := by
  refine forEach_induct (R := Plays (bufferNalus buf)) (.refl _) .trans (fun p hp v => ?_) w
  refine (datafifoProcessNaluForPlayback_plays ..).mono ?_
  intro n hn
  rw [List.mem_singleton.mp hn, ← map_fst_playbackNalus buf lastMarker]
  exact List.mem_map_of_mem hp

end LittleCore

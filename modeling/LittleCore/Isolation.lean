import LittleCore.Rounds

/-!
# The video path does not see the snapshot path

Two runs over the same items send the same packets to the same clients, whatever the snapshot path
does in either of them.

`World.muted` forgets everything that belongs to the snapshot path, and the line that
`log_datafifo_stats` prints, which mentions a failed snapshot. Code of the video path commutes with
it, and code of the snapshot path does not change what is left.

## Main results

* `playbackPacks_muted` — the video path commutes with forgetting
* `muted_datafifoSnapshotProcess` — the snapshot path is forgotten
* `snapshots_never_disturb` — two runs
-/

namespace LittleCore

open Library World

/-- What is left of a trace. A failing map is an event of both paths and does not say of which, and
the item that is read may be flagged. -/
def Event.isVideo : Event → Bool
  | .mmap (.snapshot _) _ | .munmap (.snapshot _) _ | .mmapFailed | .enqueue .. | .stats ..
  | .read _ => false
  | _ => true

/-- The answers to the video path. -/
def Env.muted (env : Env) : Env where
  control := env.control
  sendto := env.sendto
  malloc := env.malloc
  mmap := env.mmap
  munmap := env.munmap

namespace World

/-- The part of the world that belongs to the video path. -/
def muted (w : World) : World :=
  { w with gH265SnapshotCache := {}, snapshotTick := 0, trace := w.trace.filter Event.isVideo }

@[simp] theorem muted_muted (w : World) : w.muted.muted = w.muted := by
  simp [muted]

theorem muted_emit (w : World) {e : Event} (he : e.isVideo = true) :
    (w.emit e).muted = w.muted.emit e := by
  simp [muted, emit, he]

/-- An event of the snapshot path is forgotten. -/
theorem muted_emit_of_not (w : World) {e : Event} (he : e.isVideo = false) :
    (w.emit e).muted = w.muted := by
  simp [muted, emit, he]

theorem muted_rtspStep (w : World) (s : RtspStep) : (w.rtspStep s).muted = w.muted.rtspStep s := by
  simp [muted, rtspStep, Event.isVideo]

theorem muted_schedule (env : Env) (w : World) :
    w.muted.schedule env.muted = (w.schedule env).muted := by
  have hfold : ∀ (l : List RtspStep) (v : World),
      l.foldl rtspStep v.muted = (l.foldl rtspStep v).muted := by
    intro l
    induction l with
    | nil => exact fun v => rfl
    | cons s l ih =>
      intro v
      rw [List.foldl_cons, List.foldl_cons, ← ih, muted_rtspStep]
  exact hfold (env.control w.tick) { w with tick := w.tick + 1 }

end World

/-! ### Sending -/

theorem sendto_muted (env : Env) (dest : SockAddrIn) (packet : List UInt8) (w : World) :
    sendto env.muted dest packet w.muted
      = ((sendto env dest packet w).1, (sendto env dest packet w).2.muted) := by
  rw [sendto, sendto, muted_schedule, muted_emit _ rfl]
  rfl

theorem sendRtpPacket_muted (env : Env) (dest : SockAddrIn) (timestamp ssrc : UInt32)
    (payload : List UInt8) (marker : UInt8) (w : World) :
    sendRtpPacket env.muted dest timestamp ssrc payload marker w.muted
      = ((sendRtpPacket env dest timestamp ssrc payload marker w).1,
        (sendRtpPacket env dest timestamp ssrc payload marker w).2.muted) := by
  have hseq : w.muted.seq = w.seq := rfl
  rw [sendRtpPacket, sendRtpPacket, hseq]
  split
  · rfl
  · rw [sendto_muted]
    generalize sendto env dest _ w = r
    obtain ⟨_ | _, v⟩ := r <;> rfl

theorem sendH265NaluRtp_muted (env : Env) (dest : SockAddrIn) (nalu : List UInt8)
    (timestamp ssrc : UInt32) (marker : UInt8) (w : World) :
    sendH265NaluRtp env.muted dest nalu timestamp ssrc marker w.muted
      = ((sendH265NaluRtp env dest nalu timestamp ssrc marker w).1,
        (sendH265NaluRtp env dest nalu timestamp ssrc marker w).2.muted) := by
  by_cases hlen : 2 ≤ nalu.length
  · rw [sendH265NaluRtp_eq _ dest timestamp ssrc marker _ hlen,
      sendH265NaluRtp_eq _ dest timestamp ssrc marker _ hlen]
    exact forEach_semiconj (fun p _ v => sendRtpPacket_muted env dest timestamp ssrc p.1 p.2 v) w
  · rw [sendH265NaluRtp, sendH265NaluRtp, if_pos (by omega), if_pos (by omega)]

/-! ### One NALU -/

theorem h265CacheParameterSet_muted (env : Env) (nalu : List UInt8) (w : World) :
    h265CacheParameterSet env.muted nalu w.muted = (h265CacheParameterSet env nalu w).muted := by
  rw [h265CacheParameterSet, h265CacheParameterSet]
  split
  · rfl
  · split
    · rfl
    · rename_i kind _
      have hcache : w.muted.cache kind = w.cache kind := by rcases kind <;> rfl
      rw [hcache]
      split
      · rfl
      · split
        · rfl
        · have hcopied : env.muted.malloc w.muted.tick = env.malloc w.tick := rfl
          dsimp only
          rw [hcopied]
          split
          · rw [muted_emit _ rfl]
            rcases kind <;> rfl
          · rw [muted_emit _ rfl]
            rfl

theorem sendParameterSet_muted (env : Env) (dest : SockAddrIn) (timestamp ssrc : UInt32)
    (kind : ParamSet) (w : World) :
    sendParameterSet env.muted dest timestamp ssrc kind w.muted
      = ((sendParameterSet env dest timestamp ssrc kind w).1,
        (sendParameterSet env dest timestamp ssrc kind w).2.muted) := by
  have hcache : w.muted.cache kind = w.cache kind := by rcases kind <;> rfl
  rw [sendParameterSet, sendParameterSet, hcache, sendH265NaluRtp_muted, muted_emit _ rfl]

theorem sendCachedParameterSets_muted (env : Env) (dest : SockAddrIn) (timestamp ssrc : UInt32)
    (w : World) : sendCachedParameterSets env.muted dest timestamp ssrc w.muted
      = ((sendCachedParameterSets env dest timestamp ssrc w).1,
        (sendCachedParameterSets env dest timestamp ssrc w).2.muted) := by
  have hsets : h265HaveAllParameterSets w.muted = h265HaveAllParameterSets w := rfl
  rw [sendCachedParameterSets, sendCachedParameterSets, hsets]
  split
  · rfl
  · exact forEach_semiconj (fun kind _ v => sendParameterSet_muted env dest timestamp ssrc kind v) w

theorem sendNaluForPlayback_muted (env : Env) (dest : SockAddrIn) (nalu : List UInt8)
    (timestamp ssrc : UInt32) (marker : UInt8) (w : World) :
    sendNaluForPlayback env.muted dest nalu timestamp ssrc marker w.muted
      = ((sendNaluForPlayback env dest nalu timestamp ssrc marker w).1,
        (sendNaluForPlayback env dest nalu timestamp ssrc marker w).2.muted) := by
  rw [sendNaluForPlayback, sendNaluForPlayback, sendH265NaluRtp_muted, muted_emit _ rfl]

theorem passIdrGate_muted (env : Env) (dest : SockAddrIn) (nalu : List UInt8)
    (timestamp ssrc : UInt32) (marker : UInt8) (w : World) :
    passIdrGate env.muted dest nalu timestamp ssrc marker w.muted
      = ((passIdrGate env dest nalu timestamp ssrc marker w).1,
        (passIdrGate env dest nalu timestamp ssrc marker w).2.muted) := by
  have hwait : w.muted.waitForIdr = w.waitForIdr := rfl
  rw [passIdrGate, passIdrGate, hwait]
  split
  · split
    · rfl
    · rw [← sendNaluForPlayback_muted, muted_emit _ rfl]
      rfl
  · exact sendNaluForPlayback_muted ..

theorem judgeNalu_muted (env : Env) (dest : SockAddrIn) (timestamp ssrc : UInt32)
    (nalu : List UInt8) (marker : UInt8) (w : World) :
    judgeNalu env.muted dest timestamp ssrc nalu marker w.muted
      = ((judgeNalu env dest timestamp ssrc nalu marker w).1,
        (judgeNalu env dest timestamp ssrc nalu marker w).2.muted) := by
  have hneeds : rtspSessionNeedsParameterSets env.muted w.muted
      = ((rtspSessionNeedsParameterSets env w).1,
        (rtspSessionNeedsParameterSets env w).2.muted) := by
    rw [rtspSessionNeedsParameterSets, rtspSessionNeedsParameterSets, muted_schedule,
      muted_emit _ rfl]
    rfl
  have hmark : ∀ v : World, rtspMarkParameterSetsSent env.muted v.muted
      = (rtspMarkParameterSetsSent env v).muted := by
    intro v
    rw [rtspMarkParameterSetsSent, rtspMarkParameterSetsSent, muted_schedule, muted_emit _ rfl]
    rfl
  rw [judgeNalu, judgeNalu, hneeds]
  generalize rtspSessionNeedsParameterSets env w = r
  obtain ⟨_ | _, v⟩ := r <;> dsimp only
  · exact passIdrGate_muted ..
  · rw [sendCachedParameterSets_muted]
    generalize sendCachedParameterSets env dest timestamp ssrc v = r
    obtain ⟨_ | _, v⟩ := r <;> dsimp only
    rw [hmark, ← passIdrGate_muted]
    rfl

theorem datafifoProcessNaluForPlayback_muted (env : Env) (dest : SockAddrIn)
    (timestamp ssrc : UInt32) (canSend : Bool) (nalu : List UInt8) (marker : UInt8) (w : World) :
    datafifoProcessNaluForPlayback env.muted dest timestamp ssrc canSend nalu marker w.muted
      = ((datafifoProcessNaluForPlayback env dest timestamp ssrc canSend nalu marker w).1,
        (datafifoProcessNaluForPlayback env dest timestamp ssrc canSend nalu
          marker w).2.muted) := by
  by_cases hlen : 2 ≤ nalu.length
  · rw [datafifoProcessNaluForPlayback_eq _ dest timestamp ssrc canSend hlen,
      datafifoProcessNaluForPlayback_eq _ dest timestamp ssrc canSend hlen,
      ← muted_emit _ rfl, h265CacheParameterSet_muted, judgeNalu_muted]
    split <;> rfl
  · rw [datafifoProcessNaluForPlayback, datafifoProcessNaluForPlayback, if_pos (by omega),
      if_pos (by omega)]

/-! ### Packs and messages

From here on the two traces agree up to what is forgotten: a failing map leaves an event in both.
-/

/-- The same result, and the same world for the video path. -/
def Alike (r r' : Bool × World) : Prop := r.1 = r'.1 ∧ r.2.muted = r'.2.muted

theorem datafifoProcessPackForPlayback_muted (env : Env) (dest : SockAddrIn)
    (pack : MppNaluIpcPack) (timestamp ssrc : UInt32) (marker : UInt8) (canSend : Bool)
    (w : World) :
    Alike (datafifoProcessPackForPlayback env.muted dest pack timestamp ssrc marker canSend w.muted)
      (datafifoProcessPackForPlayback env dest pack timestamp ssrc marker canSend w) := by
  have hmaps : env.muted.mmap w.muted.tick = env.mmap w.tick := rfl
  have hnow : w.muted.tick = w.tick := rfl
  have htick : { w.muted with tick := w.tick + 1 }
      = ({ w with tick := w.tick + 1 } : World).muted := rfl
  have hbuf : ∀ v : World, datafifoProcessH265BufferForPlayback env.muted dest pack.bytes timestamp
      ssrc marker canSend v.muted
        = ((datafifoProcessH265BufferForPlayback env dest pack.bytes timestamp ssrc marker canSend
            v).1, (datafifoProcessH265BufferForPlayback env dest pack.bytes timestamp ssrc marker
            canSend v).2.muted) :=
    forEach_semiconj fun p _ v =>
      datafifoProcessNaluForPlayback_muted env dest timestamp ssrc canSend p.1 p.2 v
  have hunmap : ∀ (v : World) ok, naluDatafifoMunmapPack ok pack (.playback w.tick) v.muted
      = ((naluDatafifoMunmapPack ok pack (.playback w.tick) v).1,
        (naluDatafifoMunmapPack ok pack (.playback w.tick) v).2.muted) := by
    intro v ok
    rw [naluDatafifoMunmapPack, naluDatafifoMunmapPack, muted_emit _ rfl]
  rw [datafifoProcessPackForPlayback, datafifoProcessPackForPlayback, naluDatafifoMmapPack,
    naluDatafifoMmapPack, hmaps, hnow, htick]
  split_ifs
  · exact ⟨rfl, muted_muted _⟩
  · dsimp only
    rw [← muted_emit _ rfl, hbuf]
    generalize datafifoProcessH265BufferForPlayback env dest pack.bytes timestamp ssrc marker
      canSend _ = r
    have hafter : { r.2.muted with tick := r.2.muted.tick + 1 }
        = ({ r.2 with tick := r.2.tick + 1 } : World).muted := rfl
    have hanswer : env.muted.munmap r.2.muted.tick = env.munmap r.2.tick := rfl
    dsimp only
    rw [hanswer, hafter, hunmap]
    exact ⟨rfl, muted_muted _⟩
  · refine ⟨rfl, ?_⟩
    rw [muted_emit_of_not _ rfl, muted_emit_of_not _ rfl]
    exact muted_muted _

/-- **The video path commutes with forgetting.** -/
theorem playbackPacks_muted (env : Env) (dest : SockAddrIn) (canSend : Bool)
    (msg : MppNaluIpcMsg) (w : World) :
    Alike (playbackPacks env.muted dest canSend msg w.muted)
      (playbackPacks env dest canSend msg w) := by
  refine List.foldl_rel (r := Alike) ⟨rfl, muted_muted w⟩ ?_
  rintro pack - s s' ⟨hfailed, hworld⟩
  -- Both packs are compared with the pack in the world that is left of `s` and of `s'`.
  obtain ⟨hok, hnext⟩ := datafifoProcessPackForPlayback_muted env.muted dest pack.1 w.timestamp
    rtpSsrc (if pack.2 + 1 = msg.packCnt.toNat then 1 else 0) canSend s.2
  obtain ⟨hok', hnext'⟩ := datafifoProcessPackForPlayback_muted env dest pack.1 w.timestamp
    rtpSsrc (if pack.2 + 1 = msg.packCnt.toNat then 1 else 0) canSend s'.2
  rw [hworld] at hok hnext
  refine ⟨?_, hnext.symm.trans hnext'⟩
  exact congrArg₂ (fun failed ok => failed || !ok) hfailed (hok.symm.trans hok')

/-- **The snapshot path is forgotten.** -/
theorem muted_datafifoSnapshotProcess (env : Env) (msg : MppNaluIpcMsg) (w : World) :
    (datafifoSnapshotProcess env msg w).2.muted = w.muted := by
  have hsnap := datafifoSnapshotProcess_snapshots env msg w
  have htrace : (datafifoSnapshotProcess env msg w).2.trace.filter Event.isVideo
      = w.trace.filter Event.isVideo := hsnap.grows.filter_eq fun e he => by
    cases e with
    | mmap mapping pack => cases mapping <;> first | rfl | exact he.elim
    | munmap mapping ok => cases mapping <;> first | rfl | exact he.elim
    | mmapFailed => rfl
    | enqueue => rfl
    | _ => exact he.elim
  rw [muted, htrace, hsnap.frame]
  rfl

/-- Bit 0 of `reserved` cleared. -/
def MppNaluIpcMsg.unflag (msg : MppNaluIpcMsg) : MppNaluIpcMsg :=
  { msg with reserved := msg.reserved &&& ~~~mppNaluIpcFlagSnapshot }

theorem unflag_unflag (msg : MppNaluIpcMsg) : msg.unflag.unflag = msg.unflag := by
  rw [MppNaluIpcMsg.unflag, MppNaluIpcMsg.unflag, UInt32.and_assoc, UInt32.and_self]

theorem flagged_unflag (msg : MppNaluIpcMsg) : msg.unflag.flagged = false := by
  rw [MppNaluIpcMsg.flagged, MppNaluIpcMsg.unflag, UInt32.and_assoc]
  simp [mppNaluIpcFlagSnapshot]

theorem muted_logDatafifoStats (msg : MppNaluIpcMsg) (lastSeq : UInt64) (frameCount : UInt32)
    (force : Bool) (w : World) :
    (logDatafifoStats msg lastSeq frameCount force w).muted = w.muted :=
  muted_emit_of_not w rfl

theorem processMessage_muted (env : Env) (msg : MppNaluIpcMsg) (dest : SockAddrIn)
    (canSend needParameterSets : Bool) (w : World) :
    (processMessage env.muted msg.unflag dest canSend needParameterSets w.muted).muted
      = (processMessage env msg dest canSend needParameterSets w).muted := by
  have hsnap : (if msg.flagged then
      datafifoSnapshotProcess env msg w else (true, w)).2.muted = w.muted := by
    split
    · exact muted_datafifoSnapshotProcess env msg w
    · rfl
  rw [processMessage, processMessage, flagged_unflag, if_neg Bool.false_ne_true]
  dsimp only
  generalize (if msg.flagged then datafifoSnapshotProcess env msg w else (true, w)) = snapshot
    at hsnap
  obtain ⟨-, hpacks⟩ := playbackPacks_muted env dest canSend msg snapshot.2
  rw [hsnap] at hpacks
  have hunflag : playbackPacks env.muted dest canSend msg.unflag w.muted
      = playbackPacks env.muted dest canSend msg w.muted := rfl
  rw [hunflag, muted_logDatafifoStats, muted_logDatafifoStats]
  generalize playbackPacks env.muted dest canSend msg w.muted = packs at hpacks
  generalize playbackPacks env dest canSend msg snapshot.2 = packs' at hpacks
  have hcount : ∀ v v' : World, v.muted = v'.muted →
      ({ v with frameCount := v.frameCount + 1 } : World).muted
        = ({ v' with frameCount := v'.frameCount + 1 } : World).muted := fun v v' h =>
    congrArg (fun u : World => { u with frameCount := u.frameCount + 1 }) h
  refine hcount _ _ ?_
  split
  · exact congrArg (fun u : World =>
      { u with timestamp := u.timestamp + rtpTsStep, lastSentSeq := msg.seq }) hpacks
  · exact hpacks

/-! ### Runs -/

theorem handleMessage_muted (env : Env) (msg : MppNaluIpcMsg) (dest : SockAddrIn)
    (canSend needParameterSets : Bool) (w : World) :
    (handleMessage env.muted msg.unflag dest canSend needParameterSets w.muted).muted
      = (handleMessage env msg dest canSend needParameterSets w).muted := by
  have hvalid : naluDatafifoValidateMsg msg.unflag = naluDatafifoValidateMsg msg := rfl
  have hstale : staleFrame w.muted.lastReadSeq msg.unflag = staleFrame w.lastReadSeq msg := rfl
  rw [handleMessage, handleMessage, hvalid, hstale]
  split
  · split
    · exact muted_muted w
    · exact processMessage_muted env msg dest canSend needParameterSets
        { w with lastReadSeq := msg.seq }
  · exact muted_muted w

theorem getRtspTarget_muted (env : Env) (w : World) :
    getRtspTarget env.muted w.muted
      = ((getRtspTarget env w).1, (getRtspTarget env w).2.muted) := by
  rw [getRtspTarget, getRtspTarget, muted_schedule, muted_emit _ rfl]
  rfl

/-- The item with its message's flag cleared. -/
def Item.unflag (item : Item) : Item := { item with msg := item.msg.unflag }

def Input.unflag : Input → Input
  | .rtsp s => .rtsp s
  | .item i => .item i.unflag

theorem datafifoRound_muted (env : Env) (item : Item) {w w' : World} (h : w'.muted = w.muted) :
    (datafifoRound env.muted item.unflag w').muted = (datafifoRound env item w).muted := by
  have hread : (w'.emit (.read item.unflag)).muted = (w.emit (.read item)).muted := by
    rw [muted_emit_of_not _ rfl, muted_emit_of_not _ rfl, h]
  have htarget := getRtspTarget_muted env.muted (w'.emit (.read item.unflag))
  have htarget' := getRtspTarget_muted env (w.emit (.read item))
  rw [hread] at htarget
  have hsame := htarget'.symm.trans htarget
  rw [datafifoRound, datafifoRound]
  generalize getRtspTarget env.muted (w'.emit (.read item.unflag)) = target at hsame
  generalize getRtspTarget env (w.emit (.read item)) = target' at hsame
  obtain ⟨answer, v⟩ := target
  obtain ⟨answer', v'⟩ := target'
  obtain ⟨rfl, hworld⟩ := Prod.mk.inj hsame
  have hhandle := handleMessage_muted env.muted item.msg.unflag answer'.2.1
    (answer'.1 && answer'.2.2.1) answer'.2.2.2 v
  rw [unflag_unflag, ← hworld] at hhandle
  dsimp only
  rw [muted_emit _ rfl, muted_emit _ rfl, ← handleMessage_muted env item.msg]
  exact congrArg (World.emit · _) hhandle.symm

/-- **One run.** What is left of a run does not depend on what is forgotten. -/
theorem datafifoRtpSenderLoop_muted (env : Env) (inputs : List Input) {w w' : World}
    (h : w'.muted = w.muted) :
    (datafifoRtpSenderLoop env.muted (inputs.map Input.unflag) w').muted
      = (datafifoRtpSenderLoop env inputs w).muted := by
  induction inputs using List.reverseRecOn with
  | nil => exact h
  | append_singleton inputs input ih =>
    rw [List.map_append, List.map_singleton, datafifoRtpSenderLoop_concat,
      datafifoRtpSenderLoop_concat]
    rcases input with s | item
    · rw [World.input, Input.unflag, World.input, muted_rtspStep, muted_rtspStep, ih]
    · exact datafifoRound_muted env item ih

/-- The packets that were sent, each with where to. -/
def deliveries (trace : List Event) : List (SockAddrIn × List UInt8) :=
  trace.filterMap fun
    | .sendto dest packet true => some (dest, packet)
    | _ => none

/-- The items that were marked `READ_DONE`. -/
def readDones (trace : List Event) : List ℕ :=
  trace.filterMap fun
    | .readDone ptr => some ptr
    | _ => none

/-- A reading that skips what is forgotten. -/
theorem filterMap_muted {β : Type*} {f : Event → Option β}
    (hf : ∀ e, e.isVideo = false → f e = none) (w : World) :
    w.muted.trace.filterMap f = w.trace.filterMap f := by
  rw [muted, List.filterMap_filter]
  refine List.filterMap_congr ?_
  intro e _
  split
  · rfl
  · rename_i he
    exact (hf e (Bool.not_eq_true _ ▸ he)).symm

/-- **Snapshots never disturb the video.** -/
theorem snapshots_never_disturb (env₁ env₂ : Env) (hcontrol : env₁.control = env₂.control)
    (hsendto : env₁.sendto = env₂.sendto) (hmalloc : env₁.malloc = env₂.malloc)
    (hmmap : env₁.mmap = env₂.mmap) (hmunmap : env₁.munmap = env₂.munmap)
    (inputs₁ inputs₂ : List Input)
    (hinputs : inputs₁.map Input.unflag = inputs₂.map Input.unflag)
    (w : World) (cache₁ cache₂ : H265SnapshotCache) :
    let w₁ := datafifoRtpSenderLoop env₁ inputs₁ { w with gH265SnapshotCache := cache₁ }
    let w₂ := datafifoRtpSenderLoop env₂ inputs₂ { w with gH265SnapshotCache := cache₂ }
    deliveries w₁.trace = deliveries w₂.trace ∧ w₁.cache = w₂.cache ∧
      w₁.waitForIdr = w₂.waitForIdr ∧ readDones w₁.trace = readDones w₂.trace := by
  intro w₁ w₂
  have henv : env₁.muted = env₂.muted := by
    simp only [Env.muted, hcontrol, hsendto, hmalloc, hmmap, hmunmap]
  have hstart : ∀ cache, w.muted = ({ w with gH265SnapshotCache := cache } : World).muted :=
    fun _ => rfl
  have hmuted : w₁.muted = w₂.muted := by
    have hone := datafifoRtpSenderLoop_muted env₁ inputs₁
      ((muted_muted w).trans (hstart cache₁))
    have htwo := datafifoRtpSenderLoop_muted env₂ inputs₂
      ((muted_muted w).trans (hstart cache₂))
    rw [henv, hinputs] at hone
    exact hone.symm.trans htwo
  have hread : ∀ {β : Type} {f : Event → Option β}, (∀ e, e.isVideo = false → f e = none) →
      w₁.trace.filterMap f = w₂.trace.filterMap f := by
    intro β f hf
    rw [← filterMap_muted hf, hmuted, filterMap_muted hf]
  have hcache : w₁.muted.cache = w₂.muted.cache := by rw [hmuted]
  have hwait : w₁.muted.waitForIdr = w₂.muted.waitForIdr := by rw [hmuted]
  refine ⟨hread fun e he => ?_, hcache, hwait, hread fun e he => ?_⟩ <;>
    cases e <;> first | rfl | cases he

/-- A client that plays, and a message that may be flagged. -/
def sampleVideo (reserved : UInt32) : List Input :=
  [.rtsp (.setup ⟨7, 5000⟩), .rtsp .play,
    .item ⟨1, onePackMsg 1 reserved [0, 0, 1, 0x40, 1, 0, 0, 1, 0x42, 1, 0, 0, 1, 0x44, 1,
      0, 0, 1, 0x26, 1] (by decide)⟩]

theorem snapshots_never_disturb_sample :
    deliveries (datafifoRtpSenderLoop {} (sampleVideo 3) {}).trace
      = deliveries (datafifoRtpSenderLoop
        { snapshotMmap := fun _ => false, gSnapshotReady := false } (sampleVideo 2)
        { gH265SnapshotCache := { lastIrapPts := 9 } }).trace :=
  (snapshots_never_disturb {} { snapshotMmap := fun _ => false, gSnapshotReady := false }
    rfl rfl rfl rfl rfl (sampleVideo 3) (sampleVideo 2) (by decide) {} {}
    { lastIrapPts := 9 }).1

end LittleCore

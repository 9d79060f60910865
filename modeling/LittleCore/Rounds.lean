import LittleCore.Datafifo
import LittleCore.Library.Transducer

/-!
# The anatomy of a round

Between `nalu_datafifo_read` and `nalu_datafifo_read_done` the sender reads its target, and a
message that is valid and not stale goes through the snapshot path and the playback path and ends
with `log_datafifo_stats`. This module says so in terms of the trace, and gives a rule for what is
shown of the playback path by looking at its sends alone.

## Main results

* `PlaybackRule.playbackPacks` — the rule for the playback path
* `datafifoRound_inner` — what a round leaves behind
* `accounted_run` — the messages that a run handles
-/

namespace LittleCore

open Library World

/-! ### The rule for the playback path -/

/-- The events of the playback path, apart from the packets. -/
def Event.IsSilent : Event → Prop
  | .rtsp .. | .received _ | .cached .. | .copyFailed _ | .needs _ | .parameterSet .. | .marked
  | .idrFound | .nalu .. | .mmap (.playback _) _ | .mmapFailed | .munmap (.playback _) _ => True
  | _ => False

/-- Code of the playback path that sends nothing. -/
structure World.Silent (w w' : World) : Prop where
  grows : Grows Event.IsSilent w.trace w'.trace
  frame : w' = { w with
    rtsp := w'.rtsp, gVpsCache := w'.gVpsCache, gSpsCache := w'.gSpsCache
    gPpsCache := w'.gPpsCache, waitForIdr := w'.waitForIdr, tick := w'.tick, trace := w'.trace }
  tick_le : w.tick ≤ w'.tick

namespace World.Silent

variable {w w' w'' : World}

theorem refl (w : World) : Silent w w := ⟨Grows.refl _ _, rfl, Nat.le_refl _⟩

theorem trans (h₁ : Silent w w') (h₂ : Silent w' w'') : Silent w w'' := by
  refine ⟨h₁.grows.trans h₂.grows, ?_, Nat.le_trans h₁.tick_le h₂.tick_le⟩
  rw [h₂.frame, h₁.frame]

theorem emit (e : Event) (h : e.IsSilent) (w : World) : Silent w (w.emit e) :=
  ⟨Grows.single h _, rfl, Nat.le_refl _⟩

theorem tick (w : World) : Silent w { w with tick := w.tick + 1 } :=
  ⟨Grows.refl _ _, rfl, Nat.le_succ _⟩

theorem setCache (nalu : List UInt8) (kind : ParamSet) (w : World) :
    Silent w (w.setCache nalu kind) := by
  rcases kind <;> exact ⟨Grows.refl _ _, rfl, Nat.le_refl _⟩

theorem wait (wait : Bool) (w : World) : Silent w { w with waitForIdr := wait } :=
  ⟨Grows.refl _ _, rfl, Nat.le_refl _⟩

theorem served (w : World) :
    Silent w { w with rtsp := { w.rtsp with gNeedParameterSets := false } } :=
  ⟨Grows.refl _ _, rfl, Nat.le_refl _⟩

theorem schedule (env : Env) (w : World) : Silent w (w.schedule env) := by
  obtain ⟨hgrows, hframe⟩ := schedule_spec env w
  refine ⟨hgrows.mono fun e he => ?_, by rw [hframe], by rw [hframe]; exact Nat.le_succ _⟩
  cases e <;> trivial

end World.Silent

/-- What is needed to show that the playback path keeps a relation: it is a preorder, the calls of
`send_h265_nalu_rtp` keep it, and so does the code that sends nothing. -/
structure PlaybackRule (env : Env) (dest : SockAddrIn) (timestamp : UInt32)
    (R : World → World → Prop) : Prop where
  trans : ∀ {u v w}, R u v → R v w → R u w
  send : ∀ nalu marker w, R w (sendH265NaluRtp env dest nalu timestamp rtpSsrc marker w).2
  silent : ∀ {w w'}, Silent w w' → R w w'

namespace PlaybackRule

variable {env : Env} {dest : SockAddrIn} {timestamp : UInt32} {R : World → World → Prop}

theorem refl (h : PlaybackRule env dest timestamp R) (w : World) : R w w := h.silent (.refl w)

theorem h265CacheParameterSet (h : PlaybackRule env dest timestamp R) (nalu : List UInt8)
    (w : World) : R w (h265CacheParameterSet env nalu w) := by
  rw [LittleCore.h265CacheParameterSet]
  split
  · exact h.refl w
  · split
    · exact h.refl w
    · rename_i kind _
      split
      · exact h.refl w
      · split
        · exact h.refl w
        · refine h.silent ((Silent.tick w).trans ?_)
          dsimp only
          split
          · exact (Silent.setCache nalu kind _).trans (.emit (.cached ..) trivial _)
          · exact .emit (.copyFailed _) trivial _

theorem sendCachedParameterSets (h : PlaybackRule env dest timestamp R) (w : World) :
    R w (sendCachedParameterSets env dest timestamp rtpSsrc w).2 := by
  rw [LittleCore.sendCachedParameterSets]
  split
  · exact h.refl w
  · exact forEach_induct h.refl h.trans
      (fun kind _ v => h.trans (h.send _ _ v) (h.silent (.emit (.parameterSet ..) trivial _))) w

theorem sendNaluForPlayback (h : PlaybackRule env dest timestamp R) (nalu : List UInt8)
    (marker : UInt8) (w : World) :
    R w (sendNaluForPlayback env dest nalu timestamp rtpSsrc marker w).2 :=
  h.trans (h.send nalu marker w) (h.silent (.emit (.nalu ..) trivial _))

theorem passIdrGate (h : PlaybackRule env dest timestamp R) (nalu : List UInt8) (marker : UInt8)
    (w : World) : R w (passIdrGate env dest nalu timestamp rtpSsrc marker w).2 := by
  rw [LittleCore.passIdrGate]
  split
  · split
    · exact h.refl w
    · exact h.trans (h.silent ((Silent.wait false w).trans (.emit .idrFound trivial _)))
        (h.sendNaluForPlayback nalu marker _)
  · exact h.sendNaluForPlayback nalu marker w

theorem judgeNalu (h : PlaybackRule env dest timestamp R) (nalu : List UInt8) (marker : UInt8)
    (w : World) : R w (judgeNalu env dest timestamp rtpSsrc nalu marker w).2 := by
  have hneeds : R w (rtspSessionNeedsParameterSets env w).2 :=
    h.silent ((Silent.schedule env w).trans (.emit (.needs _) trivial _))
  rw [LittleCore.judgeNalu]
  split
  · rename_i v heq
    rw [heq] at hneeds
    have hsets := h.trans hneeds (h.sendCachedParameterSets v)
    split
    · rename_i heq
      rwa [heq] at hsets
    · rename_i v heq
      rw [heq] at hsets
      have hmarked : R v { rtspMarkParameterSetsSent env v with waitForIdr := true } :=
        h.silent ((((Silent.schedule env v).trans (.served _)).trans
          (.emit .marked trivial _)).trans (.wait true _))
      exact h.trans (h.trans hsets hmarked) (h.passIdrGate nalu marker _)
  · rename_i v heq
    rw [heq] at hneeds
    exact h.trans hneeds (h.passIdrGate nalu marker v)

theorem datafifoProcessNaluForPlayback (h : PlaybackRule env dest timestamp R) (canSend : Bool)
    (nalu : List UInt8) (marker : UInt8) (w : World) :
    R w (datafifoProcessNaluForPlayback env dest timestamp rtpSsrc canSend nalu marker w).2 := by
  by_cases hlen : 2 ≤ nalu.length
  · have hcache : R w (LittleCore.h265CacheParameterSet env nalu (w.emit (.received nalu))) :=
      h.trans (h.silent (.emit (.received nalu) trivial w)) (h.h265CacheParameterSet nalu _)
    rw [datafifoProcessNaluForPlayback_eq env dest timestamp rtpSsrc canSend hlen]
    split
    · exact h.trans hcache (h.judgeNalu nalu marker _)
    · exact hcache
  · rw [LittleCore.datafifoProcessNaluForPlayback, if_pos (by omega)]
    exact h.refl w

theorem datafifoProcessPackForPlayback (h : PlaybackRule env dest timestamp R) (canSend : Bool)
    (pack : MppNaluIpcPack) (marker : UInt8) (w : World) :
    R w (datafifoProcessPackForPlayback env dest pack timestamp rtpSsrc marker canSend w).2 := by
  rw [LittleCore.datafifoProcessPackForPlayback, naluDatafifoMmapPack]
  split_ifs
  · exact h.silent (.tick w)
  · have hmap := h.silent ((Silent.tick w).trans
      (.emit (.mmap (.playback w.tick) pack) trivial _))
    have hbuf := h.trans hmap (forEach_induct h.refl h.trans
      (fun p (_ : p ∈ playbackNalus pack.bytes marker) v =>
        h.datafifoProcessNaluForPlayback canSend p.1 p.2 v) _)
    exact h.trans hbuf (h.silent ((Silent.tick _).trans
      (.emit (.munmap (.playback w.tick) _) trivial _)))
  · exact h.silent ((Silent.tick w).trans (.emit .mmapFailed trivial _))

/-- **The rule for the playback path.** -/
theorem playbackPacks {w : World} (h : PlaybackRule env dest w.timestamp R) (canSend : Bool)
    (msg : MppNaluIpcMsg) : R w (playbackPacks env dest canSend msg w).2 :=
  List.foldlRecOn (motive := fun s : Bool × World => R w s.2) _ _ (h.refl w)
    fun _ hs _ _ => h.trans hs (h.datafifoProcessPackForPlayback canSend _ _ _)

end PlaybackRule

/-! ### Inside a round -/

/-- The events between `get_rtsp_target` and `log_datafifo_stats`. -/
def Event.IsInner : Event → Prop
  | .read _ | .readDone _ | .target .. | .stats .. => False
  | _ => True

/-- What the snapshot path and the playback path leave alone. -/
structure World.Inner (w w' : World) : Prop where
  grows : Grows Event.IsInner w.trace w'.trace
  timestamp : w'.timestamp = w.timestamp
  lastReadSeq : w'.lastReadSeq = w.lastReadSeq

namespace World.Inner

variable {env : Env} {w w' w'' : World}

theorem refl (w : World) : Inner w w := ⟨Grows.refl _ _, rfl, rfl⟩

theorem trans (h₁ : Inner w w') (h₂ : Inner w' w'') : Inner w w'' :=
  ⟨h₁.grows.trans h₂.grows, h₂.timestamp.trans h₁.timestamp,
    h₂.lastReadSeq.trans h₁.lastReadSeq⟩

theorem of_silent (h : Silent w w') : Inner w w' := by
  refine ⟨h.grows.mono fun e he => ?_, by rw [h.frame], by rw [h.frame]⟩
  rcases e <;> trivial

theorem of_sends {dest : SockAddrIn} (h : Sends env dest w w') : Inner w w' := by
  refine ⟨h.grows.mono fun e he => ?_, by rw [h.frame], by rw [h.frame]⟩
  rcases e <;> trivial

theorem of_snapshots (h : Snapshots w w') : Inner w w' := by
  refine ⟨h.grows.mono fun e he => ?_, by rw [h.frame], by rw [h.frame]⟩
  rcases e <;> trivial

theorem playbackPacks (env : Env) (dest : SockAddrIn) (canSend : Bool) (msg : MppNaluIpcMsg)
    (w : World) : Inner w (playbackPacks env dest canSend msg w).2 := by
  have hrule : PlaybackRule env dest w.timestamp Inner :=
    ⟨trans, fun _ _ _ => of_sends (sendH265NaluRtp_sends ..), of_silent⟩
  exact hrule.playbackPacks canSend msg

end World.Inner

/-- The gap that `log_datafifo_stats` computes. -/
def seqGap (lastSeq seq : UInt64) : UInt64 :=
  if lastSeq ≠ 0 ∧ seq > lastSeq + 1 then seq - lastSeq - 1 else 0

/-- What `log_datafifo_stats` computes for a message and prints. A message that could be sent is
the last one that was sent. -/
def Reported (msg : MppNaluIpcMsg) (canSend : Bool) (gap : UInt64) (logged : Bool) : Prop :=
  (canSend = true → gap = seqGap msg.seq msg.seq) ∧ (gap ≠ 0 → logged = true)

theorem logDatafifoStats_trace (msg : MppNaluIpcMsg) (lastSeq : UInt64) (frameCount : UInt32)
    (force : Bool) (w : World) : ∃ logged,
      (logDatafifoStats msg lastSeq frameCount force w).trace
        = w.trace ++ [.stats (seqGap lastSeq msg.seq) logged] ∧
      (seqGap lastSeq msg.seq ≠ 0 → logged = true) := by
  refine ⟨_, rfl, ?_⟩
  intro hgap
  have hne : (seqGap lastSeq msg.seq != 0) = true := bne_iff_ne.mpr hgap
  rw [seqGap] at hne
  rw [hne, Bool.or_true, Bool.true_or]

/-- What `processMessage` leaves behind. -/
theorem processMessage_inner (env : Env) (msg : MppNaluIpcMsg) (dest : SockAddrIn)
    (canSend needParameterSets : Bool) (w : World) :
    ∃ v gap logged, Inner w v ∧
      (processMessage env msg dest canSend needParameterSets w).trace
        = v.trace ++ [.stats gap logged] ∧
      (processMessage env msg dest canSend needParameterSets w).timestamp
        = (if canSend then w.timestamp + rtpTsStep else w.timestamp) ∧
      (processMessage env msg dest canSend needParameterSets w).lastReadSeq = w.lastReadSeq ∧
      Reported msg canSend gap logged := by
  have hsnap : Inner w (if msg.flagged then
      datafifoSnapshotProcess env msg w else (true, w)).2 := by
    split
    · exact .of_snapshots (datafifoSnapshotProcess_snapshots env msg w)
    · exact .refl w
  have hinner := hsnap.trans (.playbackPacks env dest canSend msg _)
  rw [processMessage]
  dsimp only
  generalize playbackPacks env dest canSend msg _ = packs at hinner
  have hcount : ∀ v : World, v.trace = packs.2.trace → v.lastReadSeq = w.lastReadSeq →
      ∀ lastSeq force, (canSend = true → lastSeq = msg.seq) → ∃ u gap logged, Inner w u ∧
        (logDatafifoStats msg lastSeq v.frameCount force v).trace = u.trace ++ [.stats gap logged] ∧
        (logDatafifoStats msg lastSeq v.frameCount force v).timestamp = v.timestamp ∧
        (logDatafifoStats msg lastSeq v.frameCount force v).lastReadSeq = w.lastReadSeq ∧
        Reported msg canSend gap logged := by
    intro v htrace hlast lastSeq force hsent
    obtain ⟨logged, hstats, hlogged⟩ := logDatafifoStats_trace msg lastSeq v.frameCount force v
    exact ⟨packs.2, _, logged, hinner, by rw [hstats, htrace], rfl, hlast,
      fun hsend => by rw [hsent hsend], hlogged⟩
  rcases canSend
  · rw [if_neg (by decide), if_neg (by decide), ← hinner.timestamp]
    exact hcount { packs.2 with frameCount := packs.2.frameCount + 1 } rfl hinner.lastReadSeq _ _
      (fun hsend => by cases hsend)
  · rw [if_pos rfl, if_pos rfl, ← hinner.timestamp]
    exact hcount { packs.2 with
      timestamp := packs.2.timestamp + rtpTsStep, lastSentSeq := msg.seq
      frameCount := packs.2.frameCount + 1 } rfl hinner.lastReadSeq _ _ (fun _ => rfl)

/-! ### A round -/

/-- The message is valid and not stale. -/
def accepts (lastReadSeq : UInt64) (msg : MppNaluIpcMsg) : Bool :=
  naluDatafifoValidateMsg msg && !staleFrame lastReadSeq msg

/-- What `get_rtsp_target` finds in the round of an item: whether there is a playing client. -/
def playingAt (env : Env) (item : Item) (w : World) : Bool :=
  ((w.emit (.read item)).schedule env).rtsp.canSend

theorem handleMessage_of_not_accepts (env : Env) (msg : MppNaluIpcMsg) (dest : SockAddrIn)
    (canSend needParameterSets : Bool) {w : World} (h : accepts w.lastReadSeq msg = false) :
    handleMessage env msg dest canSend needParameterSets w = w := by
  rw [handleMessage]
  split
  · rename_i hvalid
    rw [accepts, hvalid, Bool.true_and, Bool.not_eq_false'] at h
    exact if_pos h
  · rfl

/-- What `handleMessage` leaves behind. -/
theorem handleMessage_inner (env : Env) (msg : MppNaluIpcMsg) (dest : SockAddrIn)
    (canSend needParameterSets : Bool) (w : World) :
    ∃ post gap logged, (∀ e ∈ post, Event.IsInner e) ∧
      (handleMessage env msg dest canSend needParameterSets w).trace
        = w.trace ++ (post ++ if accepts w.lastReadSeq msg then [.stats gap logged] else []) ∧
      (handleMessage env msg dest canSend needParameterSets w).timestamp
        = (if accepts w.lastReadSeq msg && canSend then
            w.timestamp + rtpTsStep else w.timestamp) ∧
      (handleMessage env msg dest canSend needParameterSets w).lastReadSeq
        = (if accepts w.lastReadSeq msg then msg.seq else w.lastReadSeq) ∧
      (accepts w.lastReadSeq msg = true → Reported msg canSend gap logged) := by
  by_cases haccepts : accepts w.lastReadSeq msg
  · obtain ⟨hvalid, hfresh⟩ := Bool.and_eq_true_iff.mp haccepts
    obtain ⟨u, gap, logged, hinner, htrace, htime, hlast, hreport⟩ := processMessage_inner env msg
      dest canSend needParameterSets { w with lastReadSeq := msg.seq }
    obtain ⟨post, hpost, hpostInner⟩ := hinner.grows
    rw [handleMessage, if_pos hvalid, if_neg (by simpa using hfresh), haccepts, Bool.true_and]
    exact ⟨post, gap, logged, hpostInner, by rw [htrace, hpost, if_pos rfl, List.append_assoc],
      htime, hlast, fun _ => hreport⟩
  · rw [Bool.not_eq_true] at haccepts
    rw [handleMessage_of_not_accepts env msg dest canSend needParameterSets haccepts, haccepts]
    exact ⟨[], 0, false, by simp, by simp, rfl, rfl, fun h => by cases h⟩

/-- What a round leaves behind. -/
theorem datafifoRound_inner (env : Env) (item : Item) (w : World) :
    ∃ pre post dest gap logged, (∀ e ∈ pre, Event.IsInner e) ∧ (∀ e ∈ post, Event.IsInner e) ∧
      (datafifoRound env item w).trace = w.trace ++ (.read item :: (pre ++
        .target (playingAt env item w) dest :: (post ++
          ((if accepts w.lastReadSeq item.msg then [.stats gap logged] else []) ++
            [.readDone item.ptr])))) ∧
      (datafifoRound env item w).timestamp
        = (if accepts w.lastReadSeq item.msg && playingAt env item w then
            w.timestamp + rtpTsStep else w.timestamp) ∧
      (datafifoRound env item w).lastReadSeq
        = (if accepts w.lastReadSeq item.msg then item.msg.seq else w.lastReadSeq) ∧
      (accepts w.lastReadSeq item.msg = true →
        Reported item.msg (playingAt env item w) gap logged) := by
  have hsched : Inner (w.emit (.read item)) ((w.emit (.read item)).schedule env) :=
    .of_silent (.schedule env _)
  obtain ⟨pre, hpre, hpreInner⟩ := hsched.grows
  have htime : (getRtspTarget env (w.emit (.read item))).2.timestamp = w.timestamp :=
    hsched.timestamp
  have hlast : (getRtspTarget env (w.emit (.read item))).2.lastReadSeq = w.lastReadSeq :=
    hsched.lastReadSeq
  have htrace : (getRtspTarget env (w.emit (.read item))).2.trace
      = w.trace ++ (.read item :: (pre ++ [.target (playingAt env item w)
        (getRtspTarget env (w.emit (.read item))).1.2.1])) := by
    change ((w.emit (.read item)).schedule env).trace ++ [_] = _
    rw [hpre]
    simp only [World.emit, List.append_assoc, List.cons_append, List.nil_append]
    rfl
  have hplaying : ((getRtspTarget env (w.emit (.read item))).1.1 &&
      (getRtspTarget env (w.emit (.read item))).1.2.2.1) = playingAt env item w := rfl
  obtain ⟨post, gap, logged, hpost, htrace', htime', hlast', hreport⟩ := handleMessage_inner env
    item.msg
    (getRtspTarget env (w.emit (.read item))).1.2.1 (playingAt env item w)
    (getRtspTarget env (w.emit (.read item))).1.2.2.2 (getRtspTarget env (w.emit (.read item))).2
  rw [hlast] at htrace' htime' hlast' hreport
  rw [htime] at htime'
  refine ⟨pre, post, (getRtspTarget env (w.emit (.read item))).1.2.1, gap, logged, hpreInner,
    hpost, ?_, htime', hlast', hreport⟩
  rw [datafifoRound, hplaying, World.emit, htrace', htrace]
  simp only [List.append_assoc, List.cons_append, List.nil_append]

/-! ### What a run handles -/

/-- Reads off a trace the messages that `log_datafifo_stats` was called for, each with whether it
could be sent. -/
def handledStep (s : Option Item × Bool) : Event → List (Item × Bool) × Option Item × Bool
  | .read item => ([], some item, false)
  | .target canSend _ => ([], s.1, canSend)
  | .stats .. => (s.1.toList.map (·, s.2), s)
  | _ => ([], s)

/-- The messages that were handled. -/
def handled (trace : List Event) : List (Item × Bool) :=
  (transduce handledStep (none, false) trace).1

/-- Reads off a trace the items, each with whether its message can be sent. -/
def offeredStep (s : Option Item) : Event → List (Item × Bool) × Option Item
  | .read item => ([], some item)
  | .target canSend _ => (s.toList.map (·, canSend), none)
  | _ => ([], s)

/-- The items that were read. -/
def offered (trace : List Event) : List (Item × Bool) := (transduce offeredStep none trace).1

/-- Lets the messages through that are valid and not stale. -/
def freshStep (lastReadSeq : UInt64) (o : Item × Bool) : List (Item × Bool) × UInt64 :=
  if accepts lastReadSeq o.1.msg then ([o], o.1.msg.seq) else ([], lastReadSeq)

theorem handled_round (env : Env) (item : Item) (w : World) :
    handled (datafifoRound env item w).trace = handled w.trace ++
      if accepts w.lastReadSeq item.msg then [(item, playingAt env item w)] else [] := by
  obtain ⟨pre, post, dest, gap, logged, hpre, hpost, htrace, -⟩ :=
    datafifoRound_inner env item w
  have hinner : ∀ l : List Event, (∀ e ∈ l, e.IsInner) → ∀ s,
      transduce handledStep s l = ([], s) := fun l hl s =>
    transduce_of_silent fun e he => by
      have := hl e he
      rcases e <;> first | rfl | exact this.elim
  rw [handled, handled, htrace, transduce_append, transduce_cons, transduce_append,
    hinner pre hpre, transduce_cons, transduce_append, hinner post hpost, transduce_append]
  split <;> rfl

theorem offered_round (env : Env) (item : Item) (w : World) :
    offered (datafifoRound env item w).trace
      = offered w.trace ++ [(item, playingAt env item w)] := by
  obtain ⟨pre, post, dest, gap, logged, hpre, hpost, htrace, -⟩ :=
    datafifoRound_inner env item w
  have hinner : ∀ l : List Event, (∀ e ∈ l, e.IsInner) → ∀ s,
      transduce offeredStep s l = ([], s) := fun l hl s =>
    transduce_of_silent fun e he => by
      have := hl e he
      rcases e <;> first | rfl | exact this.elim
  rw [offered, offered, htrace, transduce_append, transduce_cons, transduce_append,
    hinner pre hpre, transduce_cons, transduce_append, hinner post hpost, transduce_append]
  split <;> rfl

theorem handled_rtspStep (w : World) (s : RtspStep) :
    handled (w.rtspStep s).trace = handled w.trace := by
  rw [handled, World.rtspStep, transduce_append]
  exact List.append_nil _

theorem offered_rtspStep (w : World) (s : RtspStep) :
    offered (w.rtspStep s).trace = offered w.trace := by
  rw [offered, World.rtspStep, transduce_append]
  exact List.append_nil _

/-- The account of a run: what was handled is what was offered, valid and not stale, and the
timestamp has moved once for each of these that could be sent. -/
structure Accounted (w : World) : Prop where
  handled : handled w.trace = (transduce freshStep 0 (offered w.trace)).1
  lastReadSeq : w.lastReadSeq = (transduce freshStep 0 (offered w.trace)).2
  timestamp : w.timestamp = 0x12345678 +
    rtpTsStep * UInt32.ofNat ((LittleCore.handled w.trace).countP (·.2))

theorem Accounted.rtspStep {w : World} (h : Accounted w) (s : RtspStep) :
    Accounted (w.rtspStep s) := by
  refine ⟨?_, ?_, ?_⟩
  · rw [handled_rtspStep, offered_rtspStep, h.handled]
  · rw [offered_rtspStep]
    exact h.lastReadSeq
  · rw [handled_rtspStep]
    exact h.timestamp

theorem Accounted.round {w : World} (h : Accounted w) (env : Env) (item : Item) :
    Accounted (datafifoRound env item w) := by
  obtain ⟨pre, post, dest, gap, logged, -, -, -, htime, hlast, -⟩ := datafifoRound_inner env item w
  have hhandled := handled_round env item w
  have hfresh : transduce freshStep 0 (offered (datafifoRound env item w).trace)
      = (LittleCore.handled w.trace ++
          (freshStep w.lastReadSeq (item, playingAt env item w)).1,
        (freshStep w.lastReadSeq (item, playingAt env item w)).2) := by
    rw [offered_round, transduce_append, transduce_singleton, ← h.handled, ← h.lastReadSeq]
  rw [freshStep] at hfresh
  refine ⟨?_, ?_, ?_⟩
  · rw [hhandled, hfresh]
    dsimp only
    split <;> rfl
  · rw [hlast, hfresh]
    dsimp only
    split <;> rfl
  · rw [htime, hhandled, h.timestamp, List.countP_append]
    cases accepts w.lastReadSeq item.msg <;> cases playingAt env item w <;>
      simp [UInt32.ofNat_add, UInt32.mul_add, UInt32.add_assoc]

theorem accounted_run (env : Env) (inputs : List Input) :
    Accounted (datafifoRtpSenderLoop env inputs {}) := by
  induction inputs using List.reverseRecOn with
  | nil => exact ⟨rfl, rfl, rfl⟩
  | append_singleton inputs input ih =>
    rw [datafifoRtpSenderLoop_concat]
    rcases input with s | item
    · exact ih.rtspStep s
    · exact ih.round env item

end LittleCore

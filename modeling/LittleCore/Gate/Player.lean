import LittleCore.Datafifo
import LittleCore.Library.Transducer

/-!
# The player

What the playback path is for, as a machine of its own: it reads the control thread's steps and
the NALUs of the stream, and writes the NALUs that go to the client. `Player.step` is the whole
gate on half a page; it knows no buffers, packs, packets or calls.

The sender refines it. As long as nothing fails and the control thread keeps to the time between
messages, the NALUs the sender sends are those the player writes, for every sequence of messages
and control steps. Messages that are refused are filtered out on the way in, by `accept`.

## Main results

* `datafifoRtpSenderLoop_player`
-/

namespace LittleCore

open Library World

/-! ### The machine -/

/-- What the player reads. -/
inductive PlayerStep where
  | rtsp (step : RtspStep)
  | nalu (bytes : List UInt8)
deriving DecidableEq

/-- The caches after a NALU. -/
def storeSet (cache : ParamSet → Option (List UInt8)) (nalu : List UInt8) :
    ParamSet → Option (List UInt8) :=
  match h265ParamCacheForType (h265NaluType nalu) with
  | none => cache
  | some kind =>
    if nalu.length > h265ParamSetMaxSize then cache else Function.update cache kind (some nalu)

/-- `VPS`, `SPS` and `PPS`, if all three are cached. -/
def cachedSets (cache : ParamSet → Option (List UInt8)) : Option (List (List UInt8)) :=
  match cache .vps, cache .sps, cache .pps with
  | some vps, some sps, some pps => some [vps, sps, pps]
  | _, _, _ => none

structure Player where
  rtsp : RtspState := {}
  cache : ParamSet → Option (List UInt8) := fun _ => none
  wait : Bool := false

namespace Player

/-- The gate for a client that has its parameter sets. -/
def pass (p : Player) (nalu : List UInt8) : List (List UInt8) × Player :=
  if p.wait then
    if h265IsIdr (h265NaluType nalu) then ([nalu], { p with wait := false }) else ([], p)
  else ([nalu], p)

/-- The parameter sets have been sent. -/
def served (p : Player) : Player :=
  { p with rtsp := { p.rtsp with gNeedParameterSets := false }, wait := true }

/-- The gate, after the caches have been seen to. -/
def judge (p : Player) (nalu : List UInt8) : List (List UInt8) × Player :=
  if p.rtsp.gNeedParameterSets then
    match cachedSets p.cache with
    | none => ([], p)
    | some sets => (sets ++ (p.served.pass nalu).1, (p.served.pass nalu).2)
  else p.pass nalu

/-- A NALU of the stream. -/
def nalu (p : Player) (nalu : List UInt8) : List (List UInt8) × Player :=
  let p := { p with cache := storeSet p.cache nalu }
  if p.rtsp.canSend then p.judge nalu else ([], p)

/-- Every NALU goes to the address of the last `SETUP`. -/
def step (p : Player) : PlayerStep → List (SockAddrIn × List UInt8) × Player
  | .rtsp s => ([], { p with rtsp := p.rtsp.apply s })
  | .nalu nalu => ((p.nalu nalu).1.map (p.rtsp.gClientAddr, ·), (p.nalu nalu).2)

end Player

/-! ### What the player is fed with -/

/-- The NALUs of a message. Those of less than two bytes are passed over. -/
def messageNalus (msg : MppNaluIpcMsg) : List (List UInt8) :=
  (msg.usedPacks.flatMap fun pack => bufferNalus pack.bytes).filter (2 ≤ ·.length)

/-- A message is accepted if it is valid and newer than the one before; the state is the sequence
number of the last message that was accepted. -/
def accept (lastReadSeq : UInt64) : Input → List PlayerStep × UInt64
  | .rtsp s => ([.rtsp s], lastReadSeq)
  | .item item =>
    if naluDatafifoValidateMsg item.msg && !staleFrame lastReadSeq item.msg then
      ((messageNalus item.msg).map .nalu, item.msg.seq)
    else ([], lastReadSeq)

def accepted (inputs : List Input) : List PlayerStep := (transduce accept 0 inputs).1

/-- The NALU that the event sent, and where to. -/
def Event.sentNalu? : Event → Option (SockAddrIn × List UInt8)
  | .parameterSet _ dest bytes true | .nalu dest bytes true => some (dest, bytes)
  | _ => none

/-- The NALUs that were sent completely, in order. -/
def sentNalus (trace : List Event) : List (SockAddrIn × List UInt8) :=
  trace.filterMap Event.sentNalu?

/-- Nothing fails, and the control thread takes its steps between messages only. -/
structure Env.Smooth (env : Env) : Prop where
  quiet : env.Quiet
  sendto : ∀ n, env.sendto n = true
  malloc : ∀ n, env.malloc n = true
  mmap : ∀ n, env.mmap n = true
  munmap : ∀ n, env.munmap n = true

/-! ### The refinement -/

/-- The world is where the player `p` is that has written `out`, and `last` is the sequence number
of the last message. -/
structure Tracks (p : Player) (last : UInt64) (out : List (SockAddrIn × List UInt8)) (w : World) :
    Prop where
  rtsp : w.rtsp = p.rtsp
  cache : w.cache = p.cache
  wait : w.waitForIdr = p.wait
  last : w.lastReadSeq = last
  /-- A cached parameter set has at least two bytes, so sending it cannot fail by itself. -/
  long : ∀ kind set, p.cache kind = some set → 2 ≤ set.length
  sent : sentNalus w.trace = out

namespace Tracks

variable {env : Env} {p : Player} {last : UInt64} {out : List (SockAddrIn × List UInt8)}
  {w w' : World} {dest : SockAddrIn}

/-- A step of the world that the player does not see. -/
theorem frame (h : Tracks p last out w) (hrtsp : w'.rtsp = w.rtsp) (hcache : w'.cache = w.cache)
    (hwait : w'.waitForIdr = w.waitForIdr) (hlast : w'.lastReadSeq = w.lastReadSeq)
    (htrace : w'.trace = w.trace) : Tracks p last out w' :=
  ⟨hrtsp.trans h.rtsp, hcache.trans h.cache, hwait.trans h.wait, hlast.trans h.last, h.long,
    by rw [htrace, h.sent]⟩

/-- The bookkeeping at the end of a message. -/
theorem count (h : Tracks p last out w) (timestamp : UInt32) (lastSentSeq : UInt64)
    (frameCount : UInt32) : Tracks p last out
      { w with timestamp := timestamp, lastSentSeq := lastSentSeq, frameCount := frameCount } :=
  h.frame rfl (cache_congr rfl rfl rfl) rfl rfl rfl

theorem emit (h : Tracks p last out w) {e : Event} (he : e.sentNalu? = none) :
    Tracks p last out (w.emit e) := by
  refine ⟨h.rtsp, h.cache, h.wait, h.last, h.long, ?_⟩
  rw [World.emit, sentNalus, List.filterMap_append, ← sentNalus, h.sent]
  simp [he]

theorem emit_sent (h : Tracks p last out w) {e : Event} {x : SockAddrIn × List UInt8}
    (he : e.sentNalu? = some x) : Tracks p last (out ++ [x]) (w.emit e) := by
  refine ⟨h.rtsp, h.cache, h.wait, h.last, h.long, ?_⟩
  rw [World.emit, sentNalus, List.filterMap_append, ← sentNalus, h.sent]
  simp [he]

theorem sends (h : Tracks p last out w) (hquiet : env.Quiet) (hs : Sends env dest w w') :
    Tracks p last out w' := by
  refine ⟨(hs.quiet hquiet).trans h.rtsp, hs.cache_eq.trans h.cache, ?_, ?_, h.long, ?_⟩
  · rw [hs.frame]
    exact h.wait
  · rw [hs.frame]
    exact h.last
  · rw [← h.sent]
    refine hs.grows.filterMap_eq ?_
    intro e he
    cases e <;> first | rfl | exact False.elim he

theorem feeds (h : Tracks p last out w) (hf : Feeds w w') : Tracks p last out w' := by
  have hframe := hf.frame
  refine h.frame (by rw [hframe]) ?_ (by rw [hframe]) (by rw [hframe]) hf.trace_eq
  rw [hframe]
  exact cache_congr rfl rfl rfl

theorem snapshots (h : Tracks p last out w) (hs : Snapshots w w') : Tracks p last out w' := by
  have hframe := hs.frame
  refine ⟨by rw [hframe]; exact h.rtsp, ?_, by rw [hframe]; exact h.wait,
    by rw [hframe]; exact h.last, h.long, ?_⟩
  · rw [← h.cache, hframe]
    exact cache_congr rfl rfl rfl
  · rw [← h.sent]
    refine hs.grows.filterMap_eq ?_
    intro e he
    cases e <;> first | rfl | exact False.elim he

/-! #### One NALU -/

theorem storeSet (h : Tracks p last out w) (henv : env.Smooth) {nalu : List UInt8}
    (hlen : 2 ≤ nalu.length) :
    Tracks { p with cache := storeSet p.cache nalu } last out
      (h265CacheParameterSet env nalu w) := by
  rw [h265CacheParameterSet, if_neg (by omega), LittleCore.storeSet]
  cases h265ParamCacheForType (h265NaluType nalu) with
  | none => exact h
  | some kind =>
    dsimp only
    split
    · exact h
    · have hlong : ∀ kind' set, Function.update p.cache kind (some nalu) kind' = some set →
          2 ≤ set.length := by
        intro kind' set hset
        by_cases hk : kind' = kind
        · rw [hk, Function.update_self, Option.some.injEq] at hset
          rwa [← hset]
        · rw [Function.update_of_ne hk] at hset
          exact h.long kind' set hset
      split
      · rename_i hsame
        refine ⟨h.rtsp, ?_, h.wait, h.last, hlong, h.sent⟩
        rw [h.cache] at hsame ⊢
        exact (Function.update_eq_self_iff.mpr hsame.symm).symm
      · rw [if_pos (henv.malloc _)]
        refine Tracks.emit ⟨?_, ?_, ?_, ?_, hlong, ?_⟩ rfl
        · rw [← h.rtsp]
          rcases kind <;> rfl
        · rw [cache_setCache, ← h.cache]
          rfl
        · rw [← h.wait]
          rcases kind <;> rfl
        · rw [← h.last]
          rcases kind <;> rfl
        · rw [← h.sent]
          rcases kind <;> rfl

theorem sendParameterSet (h : Tracks p last out w) (dest : SockAddrIn) (henv : env.Smooth)
    {kind : ParamSet} {set : List UInt8} (hset : p.cache kind = some set)
    (timestamp ssrc : UInt32) :
    (sendParameterSet env dest timestamp ssrc kind w).1 = true ∧
      Tracks p last (out ++ [(dest, set)]) (sendParameterSet env dest timestamp ssrc kind w).2 := by
  have hok := sendH265NaluRtp_ok henv.sendto dest (h.long kind set hset) timestamp ssrc 0 w
  have hsent := h.sends henv.quiet (sendH265NaluRtp_sends env dest set timestamp ssrc 0 w)
  rw [LittleCore.sendParameterSet, h.cache, hset]
  refine ⟨hok, hsent.emit_sent ?_⟩
  rw [Option.getD_some, hok]
  rfl

theorem h265HaveAllParameterSets (h : Tracks p last out w) :
    h265HaveAllParameterSets w = (cachedSets p.cache).isSome := by
  have hany : ∀ kind, (p.cache kind).any (0 < ·.length) = (p.cache kind).isSome := by
    intro kind
    cases hset : p.cache kind with
    | none => rfl
    | some set =>
      have hlen := h.long kind set hset
      simp only [Option.any_some, Option.isSome_some, decide_eq_true_eq]
      omega
  change ((w.cache .vps).any (0 < ·.length) && (w.cache .sps).any (0 < ·.length) &&
    (w.cache .pps).any (0 < ·.length)) = _
  rw [h.cache, hany, hany, hany, cachedSets]
  cases p.cache .vps <;> cases p.cache .sps <;> cases p.cache .pps <;> rfl

theorem sendCachedParameterSets (h : Tracks p last out w) (dest : SockAddrIn) (henv : env.Smooth)
    {sets : List (List UInt8)} (hsets : cachedSets p.cache = some sets)
    (timestamp ssrc : UInt32) :
    (sendCachedParameterSets env dest timestamp ssrc w).1 = true ∧
      Tracks p last (out ++ sets.map (dest, ·))
        (sendCachedParameterSets env dest timestamp ssrc w).2 := by
  rw [LittleCore.sendCachedParameterSets, h.h265HaveAllParameterSets, hsets]
  rw [cachedSets] at hsets
  split at hsets
  · rename_i vps sps pps hvps hsps hpps
    rw [← Option.some.inj hsets]
    obtain ⟨hok₁, h₁⟩ := h.sendParameterSet dest henv hvps timestamp ssrc
    obtain ⟨hok₂, h₂⟩ := h₁.sendParameterSet dest henv hsps timestamp ssrc
    obtain ⟨hok₃, h₃⟩ := h₂.sendParameterSet dest henv hpps timestamp ssrc
    simp only [Option.isSome_some, Bool.not_true, Bool.false_eq_true, if_false]
    rw [forEach_cons_of_ok hok₁, forEach_cons_of_ok hok₂, forEach_cons_of_ok hok₃]
    exact ⟨rfl, by simpa using h₃⟩
  · simp at hsets

theorem sendNaluForPlayback (h : Tracks p last out w) (henv : env.Smooth) {nalu : List UInt8}
    (hlen : 2 ≤ nalu.length) (timestamp ssrc : UInt32) (marker : UInt8) :
    (sendNaluForPlayback env dest nalu timestamp ssrc marker w).1 = true ∧
      Tracks p last (out ++ [(dest, nalu)])
        (sendNaluForPlayback env dest nalu timestamp ssrc marker w).2 := by
  have hok := sendH265NaluRtp_ok henv.sendto dest hlen timestamp ssrc marker w
  have hsent := h.sends henv.quiet (sendH265NaluRtp_sends env dest nalu timestamp ssrc marker w)
  refine ⟨hok, hsent.emit_sent ?_⟩
  rw [hok]
  rfl

theorem passIdrGate (h : Tracks p last out w) (henv : env.Smooth) {nalu : List UInt8}
    (hlen : 2 ≤ nalu.length) (timestamp ssrc : UInt32) (marker : UInt8) :
    (passIdrGate env dest nalu timestamp ssrc marker w).1 = true ∧
      Tracks (p.pass nalu).2 last (out ++ (p.pass nalu).1.map (dest, ·))
        (passIdrGate env dest nalu timestamp ssrc marker w).2 := by
  rw [LittleCore.passIdrGate, Player.pass, h.wait]
  by_cases hwait : p.wait = true
  · rw [if_pos hwait, if_pos hwait]
    by_cases hidr : h265IsIdr (h265NaluType nalu) = true
    · have hopen : Tracks { p with wait := false } last out { w with waitForIdr := false } :=
        ⟨h.rtsp, h.cache, rfl, h.last, h.long, h.sent⟩
      rw [if_pos hidr, if_neg (by simpa using hidr)]
      exact (hopen.emit (e := .idrFound) rfl).sendNaluForPlayback henv hlen timestamp ssrc marker
    · rw [if_neg hidr, if_pos (by simpa using hidr)]
      exact ⟨rfl, by rwa [List.map_nil, List.append_nil]⟩
  · rw [if_neg hwait, if_neg hwait]
    exact h.sendNaluForPlayback henv hlen timestamp ssrc marker

theorem rtspSessionNeedsParameterSets (h : Tracks p last out w) (henv : env.Smooth) :
    (rtspSessionNeedsParameterSets env w).1 = p.rtsp.gNeedParameterSets ∧
      Tracks p last out (rtspSessionNeedsParameterSets env w).2 := by
  have hsched := h.sends henv.quiet (sends_schedule env ⟨0, 0⟩ w)
  exact ⟨by rw [← hsched.rtsp]; rfl, hsched.emit rfl⟩

theorem rtspMarkParameterSetsSent (h : Tracks p last out w) (henv : env.Smooth) :
    Tracks { p with rtsp := { p.rtsp with gNeedParameterSets := false } } last out
      (rtspMarkParameterSetsSent env w) := by
  have hsched := h.sends henv.quiet (sends_schedule env ⟨0, 0⟩ w)
  have hclear : Tracks { p with rtsp := { p.rtsp with gNeedParameterSets := false } } last out
      { w.schedule env with
        rtsp := { (w.schedule env).rtsp with gNeedParameterSets := false } } :=
    ⟨by rw [hsched.rtsp], hsched.cache, hsched.wait, hsched.last, hsched.long, hsched.sent⟩
  exact hclear.emit (e := .marked) rfl

theorem judgeNalu (h : Tracks p last out w) (henv : env.Smooth) {nalu : List UInt8}
    (hlen : 2 ≤ nalu.length) (timestamp ssrc : UInt32) (marker : UInt8) :
    (judgeNalu env dest timestamp ssrc nalu marker w).1 = true ∧
      Tracks (p.judge nalu).2 last (out ++ (p.judge nalu).1.map (dest, ·))
        (judgeNalu env dest timestamp ssrc nalu marker w).2 := by
  obtain ⟨hneed, hneeds⟩ := h.rtspSessionNeedsParameterSets henv
  rw [LittleCore.judgeNalu, Player.judge]
  generalize LittleCore.rtspSessionNeedsParameterSets env w = r at hneed hneeds
  obtain ⟨need, v⟩ := r
  obtain rfl : need = p.rtsp.gNeedParameterSets := hneed
  cases p.rtsp.gNeedParameterSets with
  | false => exact hneeds.passIdrGate henv hlen timestamp ssrc marker
  | true =>
    dsimp only at hneeds ⊢
    rw [if_pos rfl]
    cases hsets : cachedSets p.cache with
    | none =>
      have hnone : LittleCore.sendCachedParameterSets env dest timestamp ssrc v = (false, v) := by
        rw [LittleCore.sendCachedParameterSets, hneeds.h265HaveAllParameterSets, hsets]
        rfl
      rw [hnone]
      exact ⟨rfl, by rwa [List.map_nil, List.append_nil]⟩
    | some sets =>
      obtain ⟨hok, hsent⟩ := hneeds.sendCachedParameterSets dest henv hsets timestamp ssrc
      generalize LittleCore.sendCachedParameterSets env dest timestamp ssrc v = r at hok hsent
      obtain ⟨ok, u⟩ := r
      obtain rfl : ok = true := hok
      dsimp only at hsent ⊢
      have hmarked := hsent.rtspMarkParameterSetsSent henv
      have hwait : Tracks p.served last (out ++ sets.map (dest, ·))
          { LittleCore.rtspMarkParameterSetsSent env u with waitForIdr := true } :=
        ⟨hmarked.rtsp, hmarked.cache, rfl, hmarked.last, hmarked.long, hmarked.sent⟩
      rw [List.map_append, ← List.append_assoc]
      exact hwait.passIdrGate henv hlen timestamp ssrc marker

/-- **One NALU.** -/
theorem datafifoProcessNaluForPlayback (h : Tracks p last out w) (dest : SockAddrIn)
    (henv : env.Smooth) {nalu : List UInt8} (hlen : 2 ≤ nalu.length) (timestamp ssrc : UInt32)
    (marker : UInt8) (hdest : p.rtsp.canSend → dest = p.rtsp.gClientAddr) :
    (datafifoProcessNaluForPlayback env dest timestamp ssrc p.rtsp.canSend nalu marker w).1 = true ∧
      Tracks (p.step (.nalu nalu)).2 last (out ++ (p.step (.nalu nalu)).1)
        (datafifoProcessNaluForPlayback env dest timestamp ssrc p.rtsp.canSend nalu
          marker w).2 := by
  have hstored := (h.emit (e := .received nalu) rfl).storeSet henv hlen
  rw [datafifoProcessNaluForPlayback_eq env dest timestamp ssrc _ hlen, Player.step, Player.nalu]
  cases hsend : p.rtsp.canSend with
  | false => exact ⟨rfl, by rwa [if_neg Bool.false_ne_true, List.map_nil, List.append_nil]⟩
  | true =>
    rw [← hdest hsend]
    exact hstored.judgeNalu henv hlen timestamp ssrc marker

end Tracks

/-! ### Buffers, packs and messages -/

namespace Player

/-- The NALUs of less than two bytes are passed over. -/
def feed (p : Player) (nalu : List UInt8) : List (SockAddrIn × List UInt8) × Player :=
  if nalu.length < 2 then ([], p) else p.step (.nalu nalu)

theorem transduce_step_eq (p : Player) (nalus : List (List UInt8)) :
    transduce step p ((nalus.filter (2 ≤ ·.length)).map .nalu) = transduce feed p nalus := by
  have hlong : transduce (fun s a => step s (.nalu a)) p (nalus.filter (2 ≤ ·.length))
      = transduce feed p (nalus.filter (2 ≤ ·.length)) := by
    induction nalus generalizing p with
    | nil => rfl
    | cons nalu nalus ih =>
      by_cases h : 2 ≤ nalu.length
      · rw [List.filter_cons_of_pos (by simpa using h), transduce_cons, transduce_cons, ih, feed,
          if_neg (by omega)]
      · rw [List.filter_cons_of_neg (by simpa using h), ih]
  rw [transduce_map, hlong]
  refine transduce_filter (fun p nalu h => ?_) p nalus
  have hshort : ¬ 2 ≤ nalu.length := by simpa using h
  rw [feed, if_pos (by omega)]

theorem rtsp_pass (p : Player) (nalu : List UInt8) : (p.pass nalu).2.rtsp = p.rtsp := by
  rw [pass]
  split
  · split <;> rfl
  · rfl

/-- A NALU can only clear the request for parameter sets. -/
theorem rtsp_step_nalu (p : Player) (nalu : List UInt8) : ∃ need,
    (p.step (.nalu nalu)).2.rtsp = { p.rtsp with gNeedParameterSets := need } := by
  rw [step, Player.nalu]
  dsimp only
  split
  · rw [judge]
    split
    · split
      · exact ⟨_, rfl⟩
      · exact ⟨false, rtsp_pass ..⟩
    · exact ⟨_, rtsp_pass ..⟩
  · exact ⟨_, rfl⟩

end Player

/-- The message at hand is sent to `dest`, or not at all. -/
structure Handles (canSend : Bool) (dest : SockAddrIn) (last : UInt64) (p : Player)
    (out : List (SockAddrIn × List UInt8)) (w : World) : Prop where
  tracks : Tracks p last out w
  canSend_eq : p.rtsp.canSend = canSend
  dest_eq : canSend → dest = p.rtsp.gClientAddr

namespace Handles

variable {env : Env} {p : Player} {last : UInt64} {out : List (SockAddrIn × List UInt8)} {w : World}
  {canSend : Bool} {dest : SockAddrIn}

theorem step_nalu (h : Handles canSend dest last p out w) (henv : env.Smooth) (nalu : List UInt8)
    (timestamp ssrc : UInt32) (marker : UInt8) :
    (datafifoProcessNaluForPlayback env dest timestamp ssrc canSend nalu marker w).1 = true ∧
      Handles canSend dest last (p.feed nalu).2 (out ++ (p.feed nalu).1)
        (datafifoProcessNaluForPlayback env dest timestamp ssrc canSend nalu marker w).2 := by
  rw [Player.feed]
  by_cases hlen : nalu.length < 2
  · rw [datafifoProcessNaluForPlayback, if_pos hlen, if_pos hlen]
    exact ⟨rfl, by rwa [List.append_nil]⟩
  · obtain ⟨hok, hnalu⟩ := h.tracks.datafifoProcessNaluForPlayback dest henv
      (Nat.le_of_not_lt hlen) timestamp ssrc marker fun hs => h.dest_eq (h.canSend_eq ▸ hs)
    rw [h.canSend_eq] at hok hnalu
    obtain ⟨need, hrtsp⟩ := p.rtsp_step_nalu nalu
    rw [if_neg hlen]
    refine ⟨hok, hnalu, ?_, ?_⟩
    · rw [hrtsp]
      exact h.canSend_eq
    · rw [hrtsp]
      exact h.dest_eq

theorem step_buffer (h : Handles canSend dest last p out w) (henv : env.Smooth)
    (buf : List UInt8) (timestamp ssrc : UInt32) (marker : UInt8) :
    (datafifoProcessH265BufferForPlayback env dest buf timestamp ssrc marker canSend w).1 = true ∧
      Handles canSend dest last (transduce Player.feed p (bufferNalus buf)).2
        (out ++ (transduce Player.feed p (bufferNalus buf)).1)
        (datafifoProcessH265BufferForPlayback env dest buf timestamp ssrc marker canSend w).2 := by
  rw [← map_fst_playbackNalus buf marker, transduce_map]
  exact forEach_transduce (S := Handles canSend dest last)
    (fun nalu _ p out w h => h.step_nalu henv nalu.1 timestamp ssrc nalu.2) h

theorem step_pack (h : Handles canSend dest last p out w) (henv : env.Smooth)
    {pack : MppNaluIpcPack} (hphys : pack.physAddr ≠ 0) (hlen : pack.len ≠ 0)
    (timestamp ssrc : UInt32) (marker : UInt8) :
    (datafifoProcessPackForPlayback env dest pack timestamp ssrc marker canSend w).1 = true ∧
      Handles canSend dest last (transduce Player.feed p (bufferNalus pack.bytes)).2
        (out ++ (transduce Player.feed p (bufferNalus pack.bytes)).1)
        (datafifoProcessPackForPlayback env dest pack timestamp ssrc marker canSend w).2 := by
  have hmap : Handles canSend dest last p out
      (World.emit { w with tick := w.tick + 1 } (.mmap (.playback w.tick) pack)) := by
    have hcount : Tracks p last out { w with tick := w.tick + 1 } :=
      h.tracks.frame rfl rfl rfl rfl rfl
    exact ⟨hcount.emit rfl, h.canSend_eq, h.dest_eq⟩
  obtain ⟨hok, hbuf⟩ := hmap.step_buffer henv pack.bytes timestamp ssrc marker
  rw [datafifoProcessPackForPlayback, naluDatafifoMmapPack, if_neg (by simp [hphys, hlen]),
    if_pos (henv.mmap _)]
  dsimp only
  generalize datafifoProcessH265BufferForPlayback env dest pack.bytes timestamp ssrc marker canSend
    _ = r at hok hbuf
  have hcount : Tracks _ last _ { r.2 with tick := r.2.tick + 1 } :=
    hbuf.tracks.frame rfl rfl rfl rfl rfl
  refine ⟨?_, hcount.emit rfl, hbuf.canSend_eq, hbuf.dest_eq⟩
  rw [hok, naluDatafifoMunmapPack, henv.munmap]
  simp [hlen]

theorem step_packs (h : Handles canSend dest last p out w) (henv : env.Smooth)
    {msg : MppNaluIpcMsg} (hvalid : naluDatafifoValidateMsg msg) :
    Handles canSend dest last (transduce Player.step p ((messageNalus msg).map .nalu)).2
      (out ++ (transduce Player.step p ((messageNalus msg).map .nalu)).1)
      (playbackPacks env dest canSend msg w).2 := by
  rw [messageNalus, Player.transduce_step_eq, transduce_flatMap,
    ← List.zipIdx_map_fst 0 msg.usedPacks, transduce_map]
  refine foldl_simulates (S := fun p out (s : Bool × World) => Handles canSend dest last p out s.2)
    (fun pack hmem p out s h => ?_) h
  obtain ⟨hphys, hlen⟩ := mappable_of_valid hvalid pack.1 (List.fst_mem_of_mem_zipIdx hmem)
  exact (h.step_pack henv hphys hlen _ _ _).2

theorem step_message (h : Handles canSend dest last p out w) (henv : env.Smooth)
    {msg : MppNaluIpcMsg} (hvalid : naluDatafifoValidateMsg msg) (needParameterSets : Bool) :
    Handles canSend dest last (transduce Player.step p ((messageNalus msg).map .nalu)).2
      (out ++ (transduce Player.step p ((messageNalus msg).map .nalu)).1)
      (processMessage env msg dest canSend needParameterSets w) := by
  have hsnap : Handles canSend dest last p out (if msg.flagged then
      datafifoSnapshotProcess env msg w else (true, w)).2 := by
    split
    · exact ⟨h.tracks.snapshots (datafifoSnapshotProcess_snapshots env msg w), h.canSend_eq,
        h.dest_eq⟩
    · exact h
  have hpacks := hsnap.step_packs henv hvalid
  rw [processMessage]
  dsimp only
  generalize playbackPacks env dest canSend msg _ = packs at hpacks
  refine ⟨Tracks.emit ?_ rfl, hpacks.canSend_eq, hpacks.dest_eq⟩
  split
  · exact hpacks.tracks.count ..
  · exact hpacks.tracks.count ..

theorem step_item (h : Handles canSend dest last p out w) (henv : env.Smooth) (item : Item)
    (needParameterSets : Bool) :
    Tracks (transduce Player.step p (accept last (.item item)).1).2 (accept last (.item item)).2
      (out ++ (transduce Player.step p (accept last (.item item)).1).1)
      (handleMessage env item.msg dest canSend needParameterSets w) := by
  rw [handleMessage, accept, h.tracks.last]
  by_cases hvalid : naluDatafifoValidateMsg item.msg = true
  · rw [if_pos hvalid, hvalid, Bool.true_and]
    cases hstale : staleFrame last item.msg with
    | true => simpa using h.tracks
    | false =>
      have hread : Tracks p item.msg.seq out { w with lastReadSeq := item.msg.seq } :=
        ⟨h.tracks.rtsp, h.tracks.cache, h.tracks.wait, rfl, h.tracks.long, h.tracks.sent⟩
      have hhandles : Handles canSend dest item.msg.seq p out _ :=
        ⟨hread, h.canSend_eq, h.dest_eq⟩
      exact (hhandles.step_message henv hvalid needParameterSets).tracks
  · rw [if_neg hvalid, if_neg (by simp [hvalid])]
    simpa using h.tracks

end Handles

/-! ### Rounds and runs -/

/-- **One round.** -/
theorem datafifoRound_tracks {env : Env} (henv : env.Smooth) {p : Player} {last : UInt64}
    {out : List (SockAddrIn × List UInt8)} {w : World} (h : Tracks p last out w) (item : Item) :
    Tracks (transduce Player.step p (accept last (.item item)).1).2 (accept last (.item item)).2
      (out ++ (transduce Player.step p (accept last (.item item)).1).1)
      (datafifoRound env item w) := by
  have hsched := (h.emit (e := .read item) rfl).sends henv.quiet
    (sends_schedule env ⟨0, 0⟩ (w.emit (.read item)))
  have htarget : Handles ((w.emit (.read item)).schedule env).rtsp.canSend
      (if ((w.emit (.read item)).schedule env).rtsp.gClientAddrSet
        then ((w.emit (.read item)).schedule env).rtsp.gClientAddr else ⟨0, 0⟩)
      last p out (getRtspTarget env (w.emit (.read item))).2 := by
    refine ⟨hsched.emit rfl, by rw [hsched.rtsp], fun hsend => ?_⟩
    rw [if_pos (Bool.and_eq_true_iff.mp hsend).2, hsched.rtsp]
  exact (htarget.step_item henv item _).emit rfl

/-- **The refinement.** If nothing fails and the control thread keeps to the time between messages,
the sender sends what the player writes. -/
theorem datafifoRtpSenderLoop_player {env : Env} (henv : env.Smooth) (inputs : List Input) :
    Tracks (transduce Player.step {} (accepted inputs)).2 (transduce accept 0 inputs).2
      (transduce Player.step {} (accepted inputs)).1 (datafifoRtpSenderLoop env inputs {}) := by
  induction inputs using List.reverseRecOn with
  | nil =>
    refine ⟨rfl, ?_, rfl, rfl, by simp [accepted], rfl⟩
    funext kind
    rcases kind <;> rfl
  | append_singleton inputs input ih =>
    rw [datafifoRtpSenderLoop_concat, accepted, transduce_append, transduce_singleton,
      ← accepted, transduce_append]
    rcases input with s | item
    · refine ⟨?_, ih.cache, ih.wait, ih.last, ih.long, ?_⟩
      · change (World.rtsp _).apply s = _
        rw [ih.rtsp]
        rfl
      · rw [← ih.sent]
        simp [sentNalus, World.input, World.rtspStep, accept, Player.step, Event.sentNalu?]
    · exact datafifoRound_tracks henv ih item

end LittleCore

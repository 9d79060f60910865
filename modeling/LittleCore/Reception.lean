import LittleCore.FileSource
import LittleCore.Gate.Player
import LittleCore.Gate.Runs
import LittleCore.Wire

/-!
# What a receiver gets out of a run

The round trip of one list of `send_h265_nalu_rtp` calls, carried up to the sender loops. A receiver
at an address sees only the packets for that address, and it has to make do without knowing which
call a packet belongs to. The calls that go elsewhere leave it alone, and the calls to it are trains
of the reassembly library, some of them abandoned, so what it outputs are the NALUs whose call
returned 0.

`Receives` relates the worlds before and after code of the sender: the receiver has been sent
trains, and the trains that are whole are the NALUs that the trace says were sent. It composes, and
every function of the playback path is walked once. The parameter sets come out of the caches, so
that what is cached has to be readable is part of the relation.

## Main results

* `receiver_outputs` — a receiver of the DATAFIFO loop
* `receiver_outputs_player` — the same against the abstract player
* `file_receiver_outputs` — a receiver of the file loop
-/

namespace LittleCore

open Library World

/-! ### The receiver at an address -/

/-- The packets that `sendto` accepted for `addr`. -/
def packetsFor (addr : SockAddrIn) (trace : List Event) : List (List UInt8) :=
  trace.filterMap fun
    | .sendto dest packet true => if dest = addr then some packet else none
    | _ => none

/-- The NALUs that were sent completely to `addr`. -/
def nalusFor (addr : SockAddrIn) (trace : List Event) : List (List UInt8) :=
  (sentNalus trace).filterMap fun p => if p.1 = addr then some p.2 else none

/-- The packets for `addr` as the receiver reads them. -/
def piecesFor (addr : SockAddrIn) (trace : List Event) : List (Piece UInt8) :=
  (packetsFor addr trace).filterMap fun p => parsePayload (p.drop rtpHeaderSize)

/-- RFC 7798 gives the types from 48 on a meaning of their own. -/
def Readable (nalu : List UInt8) : Prop := naluTypeBits (nalu.getD 0 0) < 48

instance (nalu : List UInt8) : Decidable (Readable nalu) :=
  inferInstanceAs (Decidable (naluTypeBits (nalu.getD 0 0) < 48))

theorem packetsFor_append (addr : SockAddrIn) (l r : List Event) :
    packetsFor addr (l ++ r) = packetsFor addr l ++ packetsFor addr r :=
  List.filterMap_append

theorem nalusFor_append (addr : SockAddrIn) (l r : List Event) :
    nalusFor addr (l ++ r) = nalusFor addr l ++ nalusFor addr r := by
  rw [nalusFor, sentNalus, List.filterMap_append, List.filterMap_append]
  rfl

theorem piecesFor_append (addr : SockAddrIn) (l r : List Event) :
    piecesFor addr (l ++ r) = piecesFor addr l ++ piecesFor addr r := by
  rw [piecesFor, packetsFor_append, List.filterMap_append]
  rfl

/-- Trains, each with the number of its pieces that were sent. -/
structure Trains (l : List (Outgoing UInt8 × ℕ)) : Prop where
  proper : ∀ x ∈ l, x.1.Proper
  sent_le : ∀ x ∈ l, x.2 ≤ x.1.pieces.length

/-- The pieces that were sent. -/
def sentPieces (l : List (Outgoing UInt8 × ℕ)) : List (Piece UInt8) :=
  l.flatMap fun x => x.1.pieces.take x.2

/-- The messages of the trains that were sent to the end. -/
def wholeContents (l : List (Outgoing UInt8 × ℕ)) : List (List UInt8) :=
  (l.filter fun x => x.2 == x.1.pieces.length).map fun x => x.1.content

/-- Between the two traces `addr` is sent trains, and `nalus` are the ones sent to the end. -/
def Brings (addr : SockAddrIn) (nalus : List (List UInt8)) (l l' : List Event) : Prop :=
  ∃ trains, Trains trains ∧ piecesFor addr l' = piecesFor addr l ++ sentPieces trains ∧
    wholeContents trains = nalus

namespace Brings

variable {addr : SockAddrIn} {nalus nalus' : List (List UInt8)} {l l' l'' : List Event}

theorem nil (h : piecesFor addr l' = piecesFor addr l) : Brings addr [] l l' :=
  ⟨[], ⟨by simp, by simp⟩, by simp [h, sentPieces], rfl⟩

theorem trans (h : Brings addr nalus l l') (h' : Brings addr nalus' l' l'') :
    Brings addr (nalus ++ nalus') l l'' := by
  obtain ⟨t, ht, hpieces, rfl⟩ := h
  obtain ⟨t', ht', hpieces', rfl⟩ := h'
  refine ⟨t ++ t', ⟨?_, ?_⟩, ?_, by simp [wholeContents]⟩
  · intro x hx
    exact (List.mem_append.mp hx).elim (ht.proper x) (ht'.proper x)
  · intro x hx
    exact (List.mem_append.mp hx).elim (ht.sent_le x) (ht'.sent_le x)
  · rw [hpieces', hpieces, List.append_assoc, sentPieces, sentPieces, sentPieces,
      List.flatMap_append]

/-- **A receiver outputs the trains that were sent to the end.** -/
theorem depacketize_eq (h : Brings addr nalus [] l) :
    depacketize (packetsFor addr l) = nalus := by
  obtain ⟨t, ht, hpieces, rfl⟩ := h
  have hnone : piecesFor addr [] = [] := rfl
  rw [hnone, List.nil_append] at hpieces
  rw [depacketize, ← piecesFor, hpieces, sentPieces, reassemble_sent t ht.proper ht.sent_le none]
  rfl

end Brings

/-! ### One call -/

/-- Of the packets of a call the receiver at another address sees nothing. -/
theorem packetsFor_of_isWire {env : Env} {dest : SockAddrIn} {d : List Event}
    (hd : ∀ e ∈ d, Event.IsWire env dest e) (addr : SockAddrIn) :
    packetsFor addr d = if dest = addr then sentPackets d else [] := by
  induction d with
  | nil => split <;> rfl
  | cons e d ih =>
    have ih := ih fun e he => hd e (List.mem_cons_of_mem _ he)
    have hwire := hd e (List.mem_cons_self ..)
    rw [← List.singleton_append, packetsFor_append, ih]
    have hone : packetsFor addr [e] = if dest = addr then sentPackets [e] else [] := by
      cases e with
      | sendto d packet ok =>
        obtain ⟨rfl, -⟩ := hwire
        cases ok <;> by_cases hdest : d = addr <;> simp [packetsFor, sentPackets, hdest]
      | rtsp s after => split <;> rfl
      | _ => exact hwire.elim
    rw [hone]
    split
    · rw [sentPackets, sentPackets, sentPackets, ← List.filterMap_append]
    · rfl

/-- **A call brings one train.** The train is whole if the call returns 0, and it is for the
receiver if the call's target is. -/
theorem sendH265NaluRtp_brings (env : Env) (dest addr : SockAddrIn) {nalu : List UInt8}
    (hread : Readable nalu) (timestamp ssrc : UInt32) (marker : UInt8) (w : World) :
    Brings addr
      (if dest = addr ∧ (sendH265NaluRtp env dest nalu timestamp ssrc marker w).1 then [nalu]
        else [])
      w.trace (sendH265NaluRtp env dest nalu timestamp ssrc marker w).2.trace := by
  by_cases hlen : 2 ≤ nalu.length
  · obtain ⟨d, htrace, hwire⟩ := (sendH265NaluRtp_sends env dest nalu timestamp ssrc marker w).grows
    by_cases hdest : dest = addr
    · obtain ⟨o, hproper, hcontent, hpieces⟩ := exists_outgoing hlen hread marker
      obtain ⟨k, hk, hsent, hiff⟩ := sendH265NaluRtp_payloads env dest hlen timestamp ssrc marker w
      have hcount : (payloads nalu marker).length = o.pieces.length := by
        simpa using congrArg List.length hpieces
      -- What the trace has grown by are the first `k` packets of the call.
      have hnew : (sentPackets d).map (List.drop rtpHeaderSize)
          = ((payloads nalu marker).take k).map Prod.fst := by
        rw [sentPayloads, sentPayloads, htrace, sentPackets, List.filterMap_append, List.map_append,
          ← sentPackets, ← sentPackets] at hsent
        exact List.append_cancel_left hsent
      have hparse : piecesFor addr d = o.pieces.take k := by
        have hmap : (((payloads nalu marker).take k).map Prod.fst).map parsePayload
            = (o.pieces.take k).map some := by
          rw [List.map_map, List.map_take, List.map_take, ← hpieces]
          rfl
        rw [piecesFor, packetsFor_of_isWire hwire, if_pos hdest,
          show (fun p : List UInt8 => parsePayload (p.drop rtpHeaderSize))
            = parsePayload ∘ List.drop rtpHeaderSize from rfl, ← List.filterMap_map, hnew]
        have hid := congrArg (List.filterMap id) hmap
        rw [List.filterMap_map, Function.id_comp] at hid
        exact hid.trans (by simp)
      refine ⟨[(o, k)], ⟨by simpa using hproper, by simpa using hcount ▸ hk⟩, ?_, ?_⟩
      · rw [htrace, piecesFor_append, hparse]
        simp [sentPieces]
      · have hwhole : (k == o.pieces.length) = true ↔
            (sendH265NaluRtp env dest nalu timestamp ssrc marker w).1 = true := by
          rw [hiff, hcount, beq_iff_eq]
        rw [wholeContents, List.filter_cons, List.filter_nil]
        cases hok : (sendH265NaluRtp env dest nalu timestamp ssrc marker w).1 <;>
          rw [hok] at hwhole
        · simp [hwhole]
        · simp [hwhole, hdest, hcontent]
    · rw [if_neg (fun h => hdest h.1)]
      refine .nil ?_
      rw [htrace, piecesFor_append, piecesFor, piecesFor, packetsFor_of_isWire hwire, if_neg hdest]
      exact List.append_nil _
  · have hshort : nalu.length < 2 := Nat.not_le.mp hlen
    rw [sendH265NaluRtp, if_pos hshort, if_neg (by simp)]
    exact .nil rfl

/-! ### The playback path -/

/-- What is cached can be read. -/
def World.CachesReadable (w : World) : Prop := ∀ kind set, w.cache kind = some set → Readable set

/-- The receiver at `addr` has been sent trains, and the whole ones are the NALUs that were sent. -/
def World.Receives (addr : SockAddrIn) (w w' : World) : Prop :=
  w.CachesReadable → w'.CachesReadable ∧
    ∃ nalus, Brings addr nalus w.trace w'.trace ∧
      nalusFor addr w'.trace = nalusFor addr w.trace ++ nalus

/-- A parameter set is a NALU of its own. -/
theorem readable_of_cache {nalu : List UInt8} {kind : ParamSet}
    (h : h265ParamCacheForType (h265NaluType nalu) = some kind) : Readable nalu := by
  have htype : ∀ t, h265NaluType nalu = some t → t < 48 → Readable nalu := by
    intro t ht hlt
    rw [h265NaluType] at ht
    split at ht
    · cases ht
    · rw [Readable, Option.some.inj ht]
      exact hlt
  rw [h265ParamCacheForType] at h
  split_ifs at h with hvps hsps hpps
  · exact htype _ hvps (by decide)
  · exact htype _ hsps (by decide)
  · exact htype _ hpps (by decide)

/-- The events that are about neither a packet nor a NALU. -/
def Event.IsMute : Event → Prop
  | .sendto .. | .nalu .. | .parameterSet .. => False
  | _ => True

namespace World.Receives

variable {addr : SockAddrIn} {w w' w'' : World}

theorem trans (h : Receives addr w w') (h' : Receives addr w' w'') : Receives addr w w'' := by
  intro hw
  obtain ⟨hw', nalus, hbrings, hnalus⟩ := h hw
  obtain ⟨hw'', nalus', hbrings', hnalus'⟩ := h' hw'
  refine ⟨hw'', nalus ++ nalus', hbrings.trans hbrings', ?_⟩
  rw [hnalus', hnalus, List.append_assoc]

/-- Code that neither sends nor caches. -/
theorem of_grows (hgrows : Grows Event.IsMute w.trace w'.trace) (hcache : w'.cache = w.cache) :
    Receives addr w w' := by
  obtain ⟨d, htrace, hd⟩ := hgrows
  have hpackets : packetsFor addr d = [] := List.filterMap_eq_nil_iff.mpr fun e he => by
    have hmute := hd e he
    cases e <;> first | rfl | exact hmute.elim
  have hnalus : nalusFor addr d = [] := by
    have hsent : sentNalus d = [] := List.filterMap_eq_nil_iff.mpr fun e he => by
      have hmute := hd e he
      cases e <;> first | rfl | exact hmute.elim
    rw [nalusFor, hsent]
    rfl
  intro hw
  refine ⟨?_, [], .nil ?_, ?_⟩
  · rwa [CachesReadable, hcache]
  · rw [htrace, piecesFor_append, piecesFor, piecesFor, hpackets]
    exact List.append_nil _
  · rw [htrace, nalusFor_append, hnalus]

theorem refl (addr : SockAddrIn) (w : World) : Receives addr w w :=
  of_grows (.refl _ _) rfl

theorem emit (e : Event) (he : e.IsMute) (w : World) : Receives addr w (w.emit e) :=
  of_grows (.single he _) rfl

theorem schedule (env : Env) (w : World) : Receives addr w (w.schedule env) := by
  obtain ⟨hgrows, hframe⟩ := schedule_spec env w
  refine of_grows (hgrows.mono fun e he => ?_) ?_
  · cases e <;> trivial
  · rw [hframe]
    exact cache_congr rfl rfl rfl

/-- A call and the event that reports it. -/
theorem call (env : Env) (dest : SockAddrIn) {nalu : List UInt8} (hread : w.CachesReadable →
    Readable nalu) (timestamp ssrc : UInt32) (marker : UInt8) {e : Event}
    (he : e.sentNalu? = if (sendH265NaluRtp env dest nalu timestamp ssrc marker w).1 then
      some (dest, nalu) else none) (hpacket : packetsFor addr [e] = []) :
    Receives addr w ((sendH265NaluRtp env dest nalu timestamp ssrc marker w).2.emit e) := by
  intro hw
  have hsends := sendH265NaluRtp_sends env dest nalu timestamp ssrc marker w
  have hbrings := sendH265NaluRtp_brings env dest addr (hread hw) timestamp ssrc marker w
  -- The call itself reports nothing.
  have hquiet : nalusFor addr (sendH265NaluRtp env dest nalu timestamp ssrc marker w).2.trace
      = nalusFor addr w.trace := by
    rw [nalusFor, nalusFor, sentNalus, sentNalus, hsends.grows.filterMap_eq]
    intro e' he'
    cases e' <;> first | rfl | exact he'.elim
  generalize sendH265NaluRtp env dest nalu timestamp ssrc marker w = r at *
  refine ⟨?_, _, hbrings.trans (.nil ?_), ?_⟩
  · have hcache : (r.2.emit e).cache = w.cache :=
      (cache_congr rfl rfl rfl).trans hsends.cache_eq
    rwa [CachesReadable, hcache]
  · rw [World.emit, piecesFor_append, piecesFor, piecesFor, hpacket]
    exact List.append_nil _
  · have hone : nalusFor addr [e] = if dest = addr ∧ r.1 then [nalu] else [] := by
      rw [nalusFor, sentNalus, List.filterMap_cons, he]
      cases r.1 <;> by_cases hdest : dest = addr <;> simp [hdest]
    rw [World.emit, nalusFor_append, hquiet, hone, List.append_nil]

/-- A copy of a NALU that has a cache can be read. -/
theorem h265CacheParameterSet (env : Env) (nalu : List UInt8) (w : World) :
    Receives addr w (h265CacheParameterSet env nalu w) := by
  have htick : Receives addr w { w with tick := w.tick + 1 } :=
    of_grows (.refl _ _) (cache_congr rfl rfl rfl)
  rw [LittleCore.h265CacheParameterSet]
  split
  · exact .refl addr w
  · split
    · exact .refl addr w
    · rename_i kind hkind
      split
      · exact .refl addr w
      · split
        · exact .refl addr w
        · refine htick.trans ?_
          dsimp only
          split
          · suffices hset : Receives addr { w with tick := w.tick + 1 }
                ({ w with tick := w.tick + 1 }.setCache nalu kind) from
              hset.trans (emit (.cached kind nalu) trivial _)
            intro hw
            refine ⟨fun kind' set hset => ?_, [], .nil (by rcases kind <;> rfl),
              by rcases kind <;> simp [World.setCache]⟩
            rw [cache_setCache] at hset
            by_cases hk : kind' = kind
            · rw [hk, Function.update_self] at hset
              rw [← Option.some.inj hset]
              exact readable_of_cache hkind
            · rw [Function.update_of_ne hk] at hset
              exact hw kind' set hset
          · exact emit (.copyFailed kind) trivial _

theorem sendCachedParameterSets (env : Env) (dest : SockAddrIn) (timestamp ssrc : UInt32)
    (w : World) : Receives addr w (sendCachedParameterSets env dest timestamp ssrc w).2 := by
  rw [LittleCore.sendCachedParameterSets]
  split
  · exact .refl addr w
  · refine forEach_induct (R := Receives addr) (.refl addr) .trans (fun kind _ v => ?_) w
    rw [sendParameterSet]
    refine call env dest (fun hv => ?_) timestamp ssrc 0 ?_ rfl
    · cases hcache : v.cache kind with
      | none => exact (by decide : LittleCore.Readable [])
      | some set => exact hv kind set hcache
    · cases (sendH265NaluRtp env dest ((v.cache kind).getD []) timestamp ssrc 0 v).1 <;> rfl

theorem sendNaluForPlayback (env : Env) (dest : SockAddrIn) {nalu : List UInt8}
    (hread : Readable nalu) (timestamp ssrc : UInt32) (marker : UInt8) (w : World) :
    Receives addr w (sendNaluForPlayback env dest nalu timestamp ssrc marker w).2 := by
  rw [LittleCore.sendNaluForPlayback]
  refine call env dest (fun _ => hread) timestamp ssrc marker ?_ rfl
  cases (sendH265NaluRtp env dest nalu timestamp ssrc marker w).1 <;> rfl

theorem passIdrGate (env : Env) (dest : SockAddrIn) {nalu : List UInt8} (hread : Readable nalu)
    (timestamp ssrc : UInt32) (marker : UInt8) (w : World) :
    Receives addr w (passIdrGate env dest nalu timestamp ssrc marker w).2 := by
  have hopen : Receives addr w ({ w with waitForIdr := false }.emit .idrFound) :=
    of_grows (.single trivial _) rfl
  rw [LittleCore.passIdrGate]
  split
  · split
    · exact .refl addr w
    · exact hopen.trans (sendNaluForPlayback env dest hread timestamp ssrc marker _)
  · exact sendNaluForPlayback env dest hread timestamp ssrc marker w

theorem judgeNalu (env : Env) (dest : SockAddrIn) (timestamp ssrc : UInt32) {nalu : List UInt8}
    (hread : Readable nalu) (marker : UInt8) (w : World) :
    Receives addr w (judgeNalu env dest timestamp ssrc nalu marker w).2 := by
  have hneeds : Receives addr w (rtspSessionNeedsParameterSets env w).2 :=
    (schedule env w).trans (emit (.needs _) trivial _)
  rw [LittleCore.judgeNalu]
  split
  · rename_i v heq
    rw [heq] at hneeds
    have hsets := hneeds.trans (sendCachedParameterSets env dest timestamp ssrc v)
    split
    · rename_i heq
      rwa [heq] at hsets
    · rename_i v heq
      rw [heq] at hsets
      have hmarked : Receives addr v
          { rtspMarkParameterSetsSent env v with waitForIdr := true } :=
        (schedule env v).trans (of_grows (.single trivial _) rfl)
      exact (hsets.trans hmarked).trans (passIdrGate env dest hread timestamp ssrc marker _)
  · rename_i v heq
    rw [heq] at hneeds
    exact hneeds.trans (passIdrGate env dest hread timestamp ssrc marker v)

theorem datafifoProcessNaluForPlayback (env : Env) (dest : SockAddrIn) (timestamp ssrc : UInt32)
    (canSend : Bool) {nalu : List UInt8} (hread : Readable nalu) (marker : UInt8) (w : World) :
    Receives addr w
      (datafifoProcessNaluForPlayback env dest timestamp ssrc canSend nalu marker w).2 := by
  by_cases hlen : 2 ≤ nalu.length
  · have hcache : Receives addr w
        (LittleCore.h265CacheParameterSet env nalu (w.emit (.received nalu))) :=
      (emit (.received nalu) trivial w).trans (h265CacheParameterSet env nalu _)
    rw [datafifoProcessNaluForPlayback_eq env dest timestamp ssrc canSend hlen]
    split
    · exact hcache.trans (judgeNalu env dest timestamp ssrc hread marker _)
    · exact hcache
  · rw [LittleCore.datafifoProcessNaluForPlayback, if_pos (Nat.not_le.mp hlen)]
    exact .refl addr w

theorem datafifoProcessPackForPlayback (env : Env) (dest : SockAddrIn) {pack : MppNaluIpcPack}
    (hread : ∀ nalu ∈ bufferNalus pack.bytes, Readable nalu) (timestamp ssrc : UInt32)
    (marker : UInt8) (canSend : Bool) (w : World) : Receives addr w
      (datafifoProcessPackForPlayback env dest pack timestamp ssrc marker canSend w).2 := by
  have htick : ∀ v : World, Receives addr v { v with tick := v.tick + 1 } := fun v =>
    of_grows (.refl _ _) (cache_congr rfl rfl rfl)
  have hbuffer : ∀ v : World, Receives addr v (datafifoProcessH265BufferForPlayback env dest
      pack.bytes timestamp ssrc marker canSend v).2 := by
    refine forEach_induct (.refl addr) .trans fun p hp v => ?_
    refine datafifoProcessNaluForPlayback env dest timestamp ssrc canSend (hread _ ?_) p.2 v
    rw [← map_fst_playbackNalus pack.bytes marker]
    exact List.mem_map_of_mem hp
  rw [LittleCore.datafifoProcessPackForPlayback, naluDatafifoMmapPack]
  split_ifs
  · exact htick w
  · have hmap := (htick w).trans (emit (.mmap (.playback w.tick) pack) trivial _)
    exact ((hmap.trans (hbuffer _)).trans (htick _)).trans (emit (.munmap _ _) trivial _)
  · exact (htick w).trans (emit .mmapFailed trivial _)

end World.Receives

/-! ### The DATAFIFO loop -/

/-- Every NALU of the message can be read. -/
def MppNaluIpcMsg.Readable (msg : MppNaluIpcMsg) : Prop :=
  ∀ pack ∈ msg.usedPacks, ∀ nalu ∈ bufferNalus pack.bytes, LittleCore.Readable nalu

instance (msg : MppNaluIpcMsg) : Decidable msg.Readable :=
  inferInstanceAs (Decidable (∀ pack ∈ msg.usedPacks, ∀ nalu ∈ bufferNalus pack.bytes,
    LittleCore.Readable nalu))

theorem playbackPacks_receives (env : Env) (dest : SockAddrIn) (canSend : Bool)
    {msg : MppNaluIpcMsg} (hread : msg.Readable) (addr : SockAddrIn) (w : World) :
    Receives addr w (playbackPacks env dest canSend msg w).2 := by
  rw [playbackPacks]
  refine List.foldlRecOn (motive := fun s : Bool × World => Receives addr w s.2) _ _ (.refl addr w)
    fun s hs pack hpack => hs.trans ?_
  refine Receives.datafifoProcessPackForPlayback env dest (hread pack.1 ?_) _ _ _ _ _
  exact List.fst_mem_of_mem_zipIdx hpack

theorem processMessage_receives (env : Env) {msg : MppNaluIpcMsg} (hread : msg.Readable)
    (dest : SockAddrIn) (canSend needParameterSets : Bool) (addr : SockAddrIn) (w : World) :
    Receives addr w (processMessage env msg dest canSend needParameterSets w) := by
  have hsnap : Receives addr w
      (if msg.flagged then datafifoSnapshotProcess env msg w else (true, w)).2 := by
    split
    · have h := datafifoSnapshotProcess_snapshots env msg w
      refine .of_grows (h.grows.mono fun e he => ?_) ?_
      · cases e <;> trivial
      · rw [h.frame]
        exact cache_congr rfl rfl rfl
    · exact .refl addr w
  have hpacks := hsnap.trans (playbackPacks_receives env dest canSend hread addr _)
  rw [processMessage]
  dsimp only
  generalize playbackPacks env dest canSend msg _ = packs at hpacks
  have hsent : Receives addr packs.2 (if canSend then
      { packs.2 with timestamp := packs.2.timestamp + rtpTsStep, lastSentSeq := msg.seq }
    else packs.2) := by
    split
    · exact .of_grows (.refl _ _) (cache_congr rfl rfl rfl)
    · exact .refl addr _
  have hlog : ∀ (v : World) lastSeq force, Receives addr v
      (logDatafifoStats msg lastSeq (v.frameCount + 1) force
        { v with frameCount := v.frameCount + 1 }) := by
    intro v lastSeq force
    have hcount : Receives addr v { v with frameCount := v.frameCount + 1 } :=
      .of_grows (.refl _ _) (cache_congr rfl rfl rfl)
    rw [logDatafifoStats]
    exact hcount.trans (.emit (.stats _ _) trivial _)
  exact (hpacks.trans hsent).trans (hlog _ _ _)

theorem handleMessage_receives (env : Env) {msg : MppNaluIpcMsg} (hread : msg.Readable)
    (dest : SockAddrIn) (canSend needParameterSets : Bool) (addr : SockAddrIn) (w : World) :
    Receives addr w (handleMessage env msg dest canSend needParameterSets w) := by
  rw [handleMessage]
  split
  · split
    · exact .refl addr w
    · have hlast : Receives addr w { w with lastReadSeq := msg.seq } :=
        .of_grows (.refl _ _) (cache_congr rfl rfl rfl)
      exact hlast.trans (processMessage_receives env hread _ _ _ addr _)
  · exact .refl addr w

theorem datafifoRound_receives (env : Env) {item : Item} (hread : item.msg.Readable)
    (addr : SockAddrIn) (w : World) : Receives addr w (datafifoRound env item w) := by
  have hlook : Receives addr w ((w.emit (.read item)).schedule env) :=
    (Receives.emit (.read item) trivial w).trans (.schedule env _)
  have htarget : Receives addr w (getRtspTarget env (w.emit (.read item))).2 :=
    hlook.trans (.emit (.target _ _) trivial _)
  rw [datafifoRound]
  generalize getRtspTarget env _ = target at htarget
  exact (htarget.trans (handleMessage_receives env hread _ _ _ addr _)).trans
    (.emit (.readDone item.ptr) trivial _)

theorem datafifoRtpSenderLoop_receives (env : Env) (inputs : List Input)
    (hread : ∀ item ∈ itemsOf inputs, item.msg.Readable) (addr : SockAddrIn) :
    Receives addr {} (datafifoRtpSenderLoop env inputs {}) := by
  induction inputs using List.reverseRecOn with
  | nil => exact .refl addr _
  | append_singleton inputs input ih =>
    rw [itemsOf_concat] at hread
    have hbefore := ih fun item hitem => hread item (List.mem_append_left _ hitem)
    rw [datafifoRtpSenderLoop_concat]
    rcases input with s | item
    · exact hbefore.trans (.of_grows (.single trivial _) (cache_congr rfl rfl rfl))
    · refine hbefore.trans (datafifoRound_receives env (hread item ?_) addr _)
      exact List.mem_append_right _ (List.mem_singleton_self _)

theorem depacketize_of_receives {addr : SockAddrIn} {w : World} (h : Receives addr {} w) :
    depacketize (packetsFor addr w.trace) = nalusFor addr w.trace := by
  have hcaches : World.CachesReadable {} := fun kind set hset => by
    cases kind <;> cases hset
  obtain ⟨-, nalus, hbrings, hnalus⟩ := h hcaches
  rw [hbrings.depacketize_eq, hnalus]
  rfl

/-- **What a receiver gets.** Whatever the control thread, the network and the system do, an
RFC 7798 receiver at an address that is fed with the packets sent there outputs the NALUs and the
parameter sets whose sending to that address succeeded, byte for byte and in order. -/
theorem receiver_outputs (env : Env) (inputs : List Input)
    (hread : ∀ item ∈ itemsOf inputs, item.msg.Readable) (addr : SockAddrIn) :
    depacketize (packetsFor addr (datafifoRtpSenderLoop env inputs {}).trace)
      = nalusFor addr (datafifoRtpSenderLoop env inputs {}).trace :=
  depacketize_of_receives (datafifoRtpSenderLoop_receives env inputs hread addr)

/-- A slice that does not fit in one packet. -/
def fragmentedSlice : List UInt8 := [0, 0, 1, 0x02, 1] ++ List.replicate 1300 0x07

theorem length_fragmentedSlice : fragmentedSlice.length < 2 ^ 32 := by decide +kernel

/-- An IDR, and the slice twice. -/
def fragmentedRun : List Input :=
  sampleRun sampleIdr fragmentedSlice (by decide) length_fragmentedSlice ++
    [.item ⟨4, onePackMsg 4 0 fragmentedSlice length_fragmentedSlice⟩]

/-- The SPS is lost, and all three sets are sent again in front of the next NALU. And where the
second fragment of a slice is lost, the receiver drops the first one and outputs the next slice. -/
theorem receiver_outputs_sample :
    depacketize (packetsFor ⟨1, 5000⟩
        (datafifoRtpSenderLoop { sendto := (· != 10) } (sampleRun sampleIdr sampleSlice) {}).trace)
      = [[0x40, 1], [0x40, 1], [0x42, 1], [0x44, 1]] ∧
    (packetsFor ⟨1, 5000⟩
        (datafifoRtpSenderLoop { sendto := (· != 19) } fragmentedRun {}).trace).map List.length
      = [14, 14, 14, 14, 1212, 1212, 118] ∧
    depacketize (packetsFor ⟨1, 5000⟩
        (datafifoRtpSenderLoop { sendto := (· != 19) } fragmentedRun {}).trace)
      = [[0x40, 1], [0x42, 1], [0x44, 1], [0x26, 1], [0x02, 1] ++ List.replicate 1300 0x07] :=
  ⟨(receiver_outputs _ _ (by decide) _).trans (by decide), by decide +kernel,
    (receiver_outputs _ _ (by decide +kernel) _).trans (by decide +kernel)⟩

/-- **The sender and the receiver together are the player.** If nothing fails and the control thread
keeps to the time between messages, what a receiver at an address outputs is what the abstract
player writes to that address. -/
theorem receiver_outputs_player {env : Env} (henv : env.Smooth) (inputs : List Input)
    (hread : ∀ item ∈ itemsOf inputs, item.msg.Readable) (addr : SockAddrIn) :
    depacketize (packetsFor addr (datafifoRtpSenderLoop env inputs {}).trace)
      = (transduce Player.step {} (accepted inputs)).1.filterMap fun p =>
          if p.1 = addr then some p.2 else none := by
  rw [depacketize_of_receives (datafifoRtpSenderLoop_receives env inputs hread addr), nalusFor,
    (datafifoRtpSenderLoop_player henv inputs).sent]

theorem receiver_outputs_player_sample :
    depacketize (packetsFor ⟨1, 5000⟩
        (datafifoRtpSenderLoop {} (sampleRun sampleIdr sampleSlice) {}).trace)
      = [[0x40, 1], [0x42, 1], [0x44, 1], [0x26, 1], [0x02, 1]] := by
  have henv : Env.Smooth {} :=
    ⟨fun _ => rfl, fun _ => rfl, fun _ => rfl, fun _ => rfl, fun _ => rfl⟩
  rw [receiver_outputs_player henv (sampleRun sampleIdr sampleSlice) (by decide)]
  decide

/-! ### The file loop -/

/-- The target of a round that has sent its NALU completely. -/
def filePass (env : Env) (gNalus : List (List UInt8)) (s : ℕ × World) : Option SockAddrIn :=
  let w := s.2.schedule env
  let dest := w.rtsp.gClientAddr
  if w.rtsp.canSend ∧ gNalus.length ≠ 0 ∧
      (sendH265NaluRtp env dest (gNalus.getD s.1 []) w.timestamp rtpSsrc 1 w).1 then some dest
  else none

/-- The targets of the first rounds, of those that have sent their NALU completely. -/
def filePasses (env : Env) (gNalus : List (List UInt8)) : ℕ → List SockAddrIn
  | 0 => []
  | rounds + 1 => filePasses env gNalus rounds
      ++ (filePass env gNalus (fileRtpSenderLoop env gNalus rounds)).toList

/-- The NALUs of the passes to `addr`, if pass `i` is at NALU `i mod N`. -/
def inTurn (gNalus : List (List UInt8)) (addr : SockAddrIn) (passes : List SockAddrIn) :
    List (List UInt8) :=
  passes.zipIdx.filterMap fun p =>
    if p.1 = addr then some (gNalus.getD (p.2 % gNalus.length) []) else none

theorem inTurn_concat (gNalus : List (List UInt8)) (addr dest : SockAddrIn)
    (passes : List SockAddrIn) : inTurn gNalus addr (passes ++ [dest])
      = inTurn gNalus addr passes ++
        if dest = addr then [gNalus.getD (passes.length % gNalus.length) []] else [] := by
  rw [inTurn, List.zipIdx_append, List.filterMap_append, ← inTurn]
  by_cases h : dest = addr <;> simp [h]

/-- What a round does, by whether it has sent its NALU. -/
theorem fileRound_brings (env : Env) {gNalus : List (List UInt8)}
    (hread : ∀ nalu ∈ gNalus, Readable nalu) (s : ℕ × World) (addr : SockAddrIn) :
    Brings addr (if filePass env gNalus s = some addr then [gNalus.getD s.1 []] else [])
        s.2.trace (fileRound env gNalus s).2.trace ∧
      (fileRound env gNalus s).1 = (if (filePass env gNalus s).isSome then
        if s.1 + 1 ≥ gNalus.length then 0 else s.1 + 1 else s.1) ∧
      (fileRound env gNalus s).2.timestamp
        = if (filePass env gNalus s).isSome then s.2.timestamp + rtpTsStep else s.2.timestamp := by
  have hsched : Brings addr [] s.2.trace (s.2.schedule env).trace := by
    refine .nil ?_
    obtain ⟨d, htrace, hd⟩ := (schedule_spec env s.2).1
    have hnone : packetsFor addr d = [] := List.filterMap_eq_nil_iff.mpr fun e he => by
      have hcritical := hd e he
      cases e <;> first | rfl | exact hcritical.elim
    rw [htrace, piecesFor_append, piecesFor, piecesFor, hnone]
    exact List.append_nil _
  have htime : (s.2.schedule env).timestamp = s.2.timestamp := by
    rw [(schedule_spec env s.2).2]
  cases hplay : (s.2.schedule env).rtsp.canSend with
  | false =>
    have hpass : filePass env gNalus s = none := by
      rw [filePass]
      exact if_neg fun h => absurd (hplay.symm.trans h.1) Bool.false_ne_true
    have hround : fileRound env gNalus s = (s.1, s.2.schedule env) := by
      rw [fileRound]
      exact if_pos (by rw [hplay]; rfl)
    rw [hpass, hround]
    exact ⟨hsched, rfl, htime⟩
  | true =>
    by_cases hnone : gNalus.length = 0
    · have hpass : filePass env gNalus s = none := by
        rw [filePass]
        exact if_neg fun h => h.2.1 hnone
      have hround : fileRound env gNalus s = (s.1, s.2.schedule env) := by
        simp only [fileRound, hplay, if_pos hnone, Bool.not_true, Bool.false_eq_true, if_false]
      rw [hpass, hround]
      exact ⟨hsched, rfl, htime⟩
    · have hnalu : Readable (gNalus.getD s.1 []) := by
        rcases Nat.lt_or_ge s.1 gNalus.length with hlt | hge
        · rw [List.getD_eq_getElem _ _ hlt]
          exact hread _ (List.getElem_mem _)
        · rw [List.getD_eq_default _ _ hge]
          decide
      have hcall := hsched.trans (sendH265NaluRtp_brings env
        (s.2.schedule env).rtsp.gClientAddr addr hnalu (s.2.schedule env).timestamp rtpSsrc 1
        (s.2.schedule env))
      have hframe : (sendH265NaluRtp env (s.2.schedule env).rtsp.gClientAddr (gNalus.getD s.1 [])
          (s.2.schedule env).timestamp rtpSsrc 1 (s.2.schedule env)).2.timestamp
            = s.2.timestamp := by
        rw [(sendH265NaluRtp_sends ..).frame, htime]
      simp only [fileRound, filePass, hplay, if_neg hnone, Bool.not_true, Bool.false_eq_true,
        if_false]
      generalize sendH265NaluRtp env (s.2.schedule env).rtsp.gClientAddr (gNalus.getD s.1 [])
        (s.2.schedule env).timestamp rtpSsrc 1 (s.2.schedule env) = r at hcall hframe
      obtain ⟨ok, w⟩ := r
      cases ok with
      | false => exact ⟨by simpa using hcall, by simp, by simpa using hframe⟩
      | true =>
        exact ⟨by simpa [hnone] using hcall, by simp [hnone], by simpa [hnone] using hframe⟩

/-- Along the rounds: what a receiver has been brought, the index and the timestamp. -/
theorem fileRtpSenderLoop_brings (env : Env) {gNalus : List (List UInt8)}
    (hread : ∀ nalu ∈ gNalus, Readable nalu) (rounds : ℕ) :
    (∀ addr, Brings addr (inTurn gNalus addr (filePasses env gNalus rounds)) []
      (fileRtpSenderLoop env gNalus rounds).2.trace) ∧
    (fileRtpSenderLoop env gNalus rounds).1
      = (if gNalus.length = 0 then 0 else (filePasses env gNalus rounds).length % gNalus.length) ∧
    (fileRtpSenderLoop env gNalus rounds).2.timestamp
      = passTimestamp (filePasses env gNalus rounds).length := by
  induction rounds with
  | zero => exact ⟨fun addr => .nil rfl, by split <;> simp [fileRtpSenderLoop, filePasses], rfl⟩
  | succ rounds ih =>
    obtain ⟨hbrings, hindex, htime⟩ := ih
    have hround := fun addr =>
      fileRound_brings env hread (fileRtpSenderLoop env gNalus rounds) addr
    rw [fileRtpSenderLoop, filePasses]
    generalize fileRtpSenderLoop env gNalus rounds = s at *
    cases hpass : filePass env gNalus s with
    | none =>
      rw [hpass] at hround
      simp only [Option.toList_none, List.append_nil]
      refine ⟨fun addr => ?_, (hround ⟨0, 0⟩).2.1.trans hindex, (hround ⟨0, 0⟩).2.2.trans htime⟩
      simpa using (hbrings addr).trans (hround addr).1
    | some dest =>
      rw [hpass] at hround
      have hne : gNalus.length ≠ 0 := by
        rw [filePass] at hpass
        exact (Option.ite_none_right_eq_some.mp hpass).1.2.1
      rw [if_neg hne] at hindex ⊢
      rw [Option.toList_some, List.length_append, List.length_singleton]
      refine ⟨fun addr => ?_, ?_, ?_⟩
      · rw [inTurn_concat, ← hindex]
        simpa using (hbrings addr).trans (hround addr).1
      · rw [(hround ⟨0, 0⟩).2.1, Option.isSome_some, if_pos rfl, hindex]
        exact succ_mod_eq (Nat.pos_of_ne_zero hne) _
      · rw [(hround ⟨0, 0⟩).2.2, Option.isSome_some, if_pos rfl, htime, passTimestamp_succ]

/-- **A receiver in file mode.** Whatever is lost and whenever clients come and go, the completed
passes go through the NALUs of the file in turn, and a receiver outputs those of the passes that
went to it: none is left out, none is output twice, and a client that takes over goes on where the
one before has stopped. -/
theorem file_receiver_outputs (env : Env) {gNalus : List (List UInt8)}
    (hread : ∀ nalu ∈ gNalus, Readable nalu) (rounds : ℕ) :
    (∀ addr, depacketize (packetsFor addr (fileRtpSenderLoop env gNalus rounds).2.trace)
      = inTurn gNalus addr (filePasses env gNalus rounds)) ∧
    (fileRtpSenderLoop env gNalus rounds).1
      = (if gNalus.length = 0 then 0 else (filePasses env gNalus rounds).length % gNalus.length) ∧
    (fileRtpSenderLoop env gNalus rounds).2.timestamp
      = passTimestamp (filePasses env gNalus rounds).length := by
  obtain ⟨hbrings, hcounts⟩ := fileRtpSenderLoop_brings env hread rounds
  exact ⟨fun addr => (hbrings addr).depacketize_eq, hcounts⟩

/-- A client that plays from the start, and one lost packet. -/
def lossyPlayingEnv : Env where
  control n := if n = 0 then [.setup ⟨7, 5000⟩, .play] else []
  sendto n := n != 1

theorem file_receiver_outputs_sample :
    depacketize (packetsFor ⟨7, 5000⟩
      (fileRtpSenderLoop lossyPlayingEnv [[0x40, 1], [0x26, 1]] 4).2.trace)
        = [[0x40, 1], [0x26, 1], [0x40, 1]] :=
  ((file_receiver_outputs lossyPlayingEnv (by decide) 4).1 _).trans (by decide)

end LittleCore

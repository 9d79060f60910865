import LittleCore.Layouts
import LittleCore.Lifecycle
import LittleCore.Reception
import LittleCore.ShortNalus

/-!
# The sender of `little_app`

`little_app` is a smaller build of the program. Its `rtp.c` and its RTSP server are those of `src`
but for `g_need_parameter_sets`, and its `datafifo_rtp_sender_loop` is a short one: no snapshots, no
caches, no gate, no look at sequence numbers. A client gets every NALU that comes while it plays.

The functions have the names that they have in `src`, and a namespace of their own. What the loop
has in common with the one of `src` is taken from there.

## Main results

* `LittleApp.sender_safe` — items, mappings, packets and what a receiver gets, in every run
* `LittleApp.gate_holds_back` — what `src` sends of the stream is part of what `little_app` sends
-/

namespace LittleCore

open Library World

namespace LittleApp

/-- `RTP_TS_STEP`: here `VIDEO_FPS` is 30. -/
def rtpTsStep : UInt32 := 90000 / 30

/-- `nalu_datafifo_validate_msg(msg) == 0`, on a message in memory. -/
def naluDatafifoValidateMsg (msg : MppNaluIpcMsg) : Bool :=
  if msg.magic ≠ mppNaluIpcMagic then false
  else if msg.version ≠ mppNaluIpcVersion then false
  else if msg.packCnt = 0 ∨ msg.packCnt.toNat > mppNaluIpcMaxPacks then false
  else msg.usedPacks.all fun pack => !(pack.physAddr = 0 ∨ pack.len = 0)

/-- `send_datafifo_pack`. Whether the pack can be unmapped makes no difference here. -/
def sendDatafifoPack (env : Env) (dest : SockAddrIn) (pack : MppNaluIpcPack)
    (timestamp ssrc : UInt32) (marker : UInt8) (w : World) : Bool × World :=
  match naluDatafifoMmapPack (env.mmap w.tick) (.playback w.tick) pack
      { w with tick := w.tick + 1 } with
  | (none, w) => (false, w)
  | (some mapping, w) =>
    let r := sendH265BufferRtp env dest pack.bytes timestamp ssrc marker w
    let u := naluDatafifoMunmapPack (env.munmap r.2.tick) pack mapping
      { r.2 with tick := r.2.tick + 1 }
    (r.1, u.2)

/-- The pack loop. A pack that fails is only reported. -/
def sendPacks (env : Env) (dest : SockAddrIn) (msg : MppNaluIpcMsg) (w : World) : World :=
  msg.usedPacks.zipIdx.foldl (fun v pack =>
    (sendDatafifoPack env dest pack.1 w.timestamp rtpSsrc
      (if pack.2 + 1 = msg.packCnt.toNat then 1 else 0) v).2) w

/-- The round between `get_rtsp_target` and `nalu_datafifo_read_done`. -/
def handleMessage (env : Env) (msg : MppNaluIpcMsg) (dest : SockAddrIn) (canSend : Bool)
    (w : World) : World :=
  if naluDatafifoValidateMsg msg && canSend then
    let w := sendPacks env dest msg w
    { w with timestamp := w.timestamp + rtpTsStep }
  else w

/-- One round of `datafifo_rtp_sender_loop`, from a successful `nalu_datafifo_read` to
`nalu_datafifo_read_done`. -/
def datafifoRound (env : Env) (item : Item) (w : World) : World :=
  let target := getRtspTarget env (w.emit (.read item))
  (handleMessage env item.msg target.1.2.1 (target.1.1 && target.1.2.2.1) target.2).emit
    (.readDone item.ptr)

def input (env : Env) (w : World) : Input → World
  | .rtsp s => w.rtspStep s
  | .item item => datafifoRound env item w

/-- A run of `datafifo_rtp_sender_loop`. -/
def datafifoRtpSenderLoop (env : Env) (inputs : List Input) (w : World) : World :=
  inputs.foldl (input env) w

/-- The message of `little_app`'s layout, as the sender works on it. -/
def inMemory (memory : UInt64 → UInt8) (msg : LittleAppMsg) : MppNaluIpcMsg where
  magic := msg.magic
  version := msg.version
  packCnt := msg.packCnt
  seq := msg.seq
  framePts := msg.framePts
  totalLen := msg.totalLen
  reserved := msg.reserved
  packs := msg.packs.map (·.inMemory memory)
  length_packs := by rw [List.length_map, msg.length_packs]

/-- The validator reads the fields alone. -/
theorem naluDatafifoValidateMsg_inMemory (memory : UInt64 → UInt8) (msg : LittleAppMsg) :
    naluDatafifoValidateMsg (inMemory memory msg) = littleAppValidateMsg msg := by
  have hpacks : (inMemory memory msg).usedPacks = msg.usedPacks.map (·.inMemory memory) :=
    List.map_take.symm
  rw [naluDatafifoValidateMsg, littleAppValidateMsg, hpacks, List.all_map]
  rfl

/-- What `src` takes for valid is valid here. -/
theorem validate_of_src {msg : MppNaluIpcMsg} (h : LittleCore.naluDatafifoValidateMsg msg) :
    naluDatafifoValidateMsg msg = true := by
  have hpacks := mappable_of_valid h
  rw [LittleCore.naluDatafifoValidateMsg] at h
  split_ifs at h with hmagic hversion hcount
  rw [naluDatafifoValidateMsg, if_neg hmagic, if_neg hversion, if_neg hcount, List.all_eq_true]
  intro pack hpack
  simpa [not_or] using hpacks pack hpack

theorem mappable_of_valid {msg : MppNaluIpcMsg} (h : naluDatafifoValidateMsg msg = true) :
    ∀ pack ∈ msg.usedPacks, pack.physAddr ≠ 0 ∧ pack.len ≠ 0 := by
  rw [naluDatafifoValidateMsg] at h
  split_ifs at h
  intro pack hpack
  simpa [not_or] using List.all_eq_true.mp h pack hpack

/-- **The rule for a buffer.** What the sending of each NALU keeps, `send_h265_buffer_rtp` keeps. -/
theorem sendH265BufferRtp_induct {env : Env} {dest : SockAddrIn} {buf : List UInt8}
    {timestamp ssrc : UInt32} {R : World → World → Prop} (hrefl : ∀ w, R w w)
    (htrans : ∀ {u v w}, R u v → R v w → R u w)
    (hstep : ∀ nalu ∈ bufferNalus buf, ∀ marker w,
      R w (sendNaluForPlayback env dest nalu timestamp ssrc marker w).2) (marker : UInt8)
    (w : World) : R w (sendH265BufferRtp env dest buf timestamp ssrc marker w).2 := by
  rw [sendH265BufferRtp]
  rw [bufferNalus] at hstep
  split
  · exact hrefl w
  · rename_i hlen
    rw [if_neg hlen] at hstep
    split
    · rename_i hstart
      rw [if_pos hstart] at hstep
      exact hstep buf (List.mem_singleton_self _) marker w
    · rename_i hstart
      rw [if_neg hstart] at hstep
      have hloop := forEach_induct (R := R)
        (f := fun p w =>
          sendNaluForPlayback env dest p.1 timestamp ssrc (if p.2 then marker else 0) w)
        hrefl htrans (l := annexbNalus findStartCode buf)
        (fun p hp v => hstep p.1 (List.mem_map_of_mem hp) _ v) w
      dsimp only
      split <;> rename_i heq <;> rw [heq] at hloop <;> exact hloop

/-! ### Every run is safe -/

theorem sendDatafifoPack_tracked {answered : List Item} {item : Item} {w : World}
    (h : Tracked answered (some item) none w) {pack : MppNaluIpcPack}
    (hpack : pack ∈ item.msg.usedPacks) (env : Env) (dest : SockAddrIn)
    (timestamp ssrc : UInt32) (marker : UInt8) :
    Tracked answered (some item) none
      (sendDatafifoPack env dest pack timestamp ssrc marker w).2 := by
  have hcount : Tracked answered (some item) none { w with tick := w.tick + 1 } :=
    h.quiet rfl (Nat.le_succ _) (Nat.le_refl _)
  rw [sendDatafifoPack, naluDatafifoMmapPack]
  split_ifs
  · exact hcount
  · have hplays : ∀ v, Plays (bufferNalus pack.bytes) v
        (sendH265BufferRtp env dest pack.bytes timestamp ssrc marker v).2 :=
      sendH265BufferRtp_induct (.refl _) .trans (fun nalu hnalu marker v =>
        (sendNaluForPlayback_plays env dest nalu timestamp ssrc marker v).mono fun n hn => by
          rwa [List.mem_singleton.mp hn]) marker
    have hbuf := (h.mmap_playback hpack).plays (hplays _)
    dsimp only
    generalize sendH265BufferRtp env dest pack.bytes timestamp ssrc marker _ = r at hbuf
    have hcounted : Tracked answered (some item) (some (.playback w.tick, pack))
        { r.2 with tick := r.2.tick + 1 } := hbuf.quiet rfl (Nat.le_succ _) (Nat.le_refl _)
    exact hcounted.munmap _
  · exact hcount.emit fun _ _ => rfl

theorem handleMessage_tracked {answered : List Item} {item : Item} {w : World}
    (h : Tracked answered (some item) none w) (env : Env) (dest : SockAddrIn) (canSend : Bool) :
    Tracked answered (some item) none (handleMessage env item.msg dest canSend w) := by
  rw [handleMessage]
  split
  · have hpacks : Tracked answered (some item) none (sendPacks env dest item.msg w) :=
      List.foldlRecOn _ _ h fun v hv pack hpack =>
        sendDatafifoPack_tracked hv (List.fst_mem_of_mem_zipIdx hpack) env dest _ _ _
    exact hpacks.quiet rfl (Nat.le_refl _) (Nat.le_refl _)
  · exact h

theorem datafifoRtpSenderLoop_concat (env : Env) (inputs : List Input) (i : Input) (w : World) :
    datafifoRtpSenderLoop env (inputs ++ [i]) w
      = input env (datafifoRtpSenderLoop env inputs w) i := by
  rw [datafifoRtpSenderLoop, datafifoRtpSenderLoop, List.foldl_concat]

theorem datafifoRtpSenderLoop_tracked (env : Env) (inputs : List Input) :
    Tracked (itemsOf inputs) none none (datafifoRtpSenderLoop env inputs {}) := by
  induction inputs using List.reverseRecOn with
  | nil => exact ⟨0, 0, rfl, Nat.le_refl _, Nat.le_refl _⟩
  | append_singleton inputs i ih =>
    rw [datafifoRtpSenderLoop_concat, itemsOf_concat]
    rcases i with s | item
    · rw [Input.item?, Option.toList_none, List.append_nil]
      exact ih.rtspStep s
    · have htarget : Tracked (itemsOf inputs) (some item) none
          (getRtspTarget env ((datafifoRtpSenderLoop env inputs {}).emit (.read item))).2 :=
        ((ih.read item).schedule env).emit fun _ _ => rfl
      exact (handleMessage_tracked htarget env _ _).readDone

theorem sendDatafifoPack_receives (env : Env) (dest : SockAddrIn) {pack : MppNaluIpcPack}
    (hread : ∀ nalu ∈ bufferNalus pack.bytes, Readable nalu) (timestamp ssrc : UInt32)
    (marker : UInt8) (addr : SockAddrIn) (w : World) :
    Receives addr w (sendDatafifoPack env dest pack timestamp ssrc marker w).2 := by
  have htick : ∀ v : World, Receives addr v { v with tick := v.tick + 1 } := fun v =>
    .of_grows (.refl _ _) (cache_congr rfl rfl rfl)
  have hbuffer : ∀ v : World, Receives addr v
      (sendH265BufferRtp env dest pack.bytes timestamp ssrc marker v).2 :=
    sendH265BufferRtp_induct (.refl addr) .trans (fun nalu hnalu marker v =>
      Receives.sendNaluForPlayback env dest (hread nalu hnalu) timestamp ssrc marker v) marker
  rw [sendDatafifoPack, naluDatafifoMmapPack]
  split_ifs
  · exact htick w
  · have hmap := (htick w).trans (.emit (.mmap (.playback w.tick) pack) trivial _)
    exact ((hmap.trans (hbuffer _)).trans (htick _)).trans (.emit (.munmap _ _) trivial _)
  · exact (htick w).trans (.emit .mmapFailed trivial _)

theorem datafifoRound_receives (env : Env) {item : Item} (hread : item.msg.Readable)
    (addr : SockAddrIn) (w : World) : Receives addr w (datafifoRound env item w) := by
  have hlook : Receives addr w ((w.emit (.read item)).schedule env) :=
    (Receives.emit (.read item) trivial w).trans (.schedule env _)
  have htarget : Receives addr w (getRtspTarget env (w.emit (.read item))).2 :=
    hlook.trans (.emit (.target _ _) trivial _)
  rw [datafifoRound]
  generalize getRtspTarget env _ = target at htarget
  refine (htarget.trans ?_).trans (.emit (.readDone item.ptr) trivial _)
  rw [handleMessage]
  split
  · have hpacks : Receives addr target.2 (sendPacks env target.1.2.1 item.msg target.2) :=
      List.foldlRecOn (motive := Receives addr target.2) _ _ (.refl addr _)
        fun v hv pack hpack => hv.trans (sendDatafifoPack_receives env _
          (hread pack.1 (List.fst_mem_of_mem_zipIdx hpack)) _ _ _ addr v)
    exact hpacks.trans (.of_grows (.refl _ _) (cache_congr rfl rfl rfl))
  · exact .refl addr _

theorem datafifoRtpSenderLoop_receives (env : Env) (inputs : List Input)
    (hread : ∀ item ∈ itemsOf inputs, item.msg.Readable) (addr : SockAddrIn) :
    Receives addr {} (datafifoRtpSenderLoop env inputs {}) := by
  induction inputs using List.reverseRecOn with
  | nil => exact .refl addr _
  | append_singleton inputs i ih =>
    rw [itemsOf_concat] at hread
    have hbefore := ih fun item hitem => hread item (List.mem_append_left _ hitem)
    rw [datafifoRtpSenderLoop_concat]
    rcases i with s | item
    · exact hbefore.trans (.of_grows (.single trivial _) (cache_congr rfl rfl rfl))
    · refine hbefore.trans (datafifoRound_receives env (hread item ?_) addr _)
      exact List.mem_append_right _ (List.mem_singleton_self _)

/-- **The short sender is as safe.** Whatever the environment does, items and mappings have their
lifecycle, and a receiver outputs the NALUs whose sending succeeded. -/
theorem sender_safe (env : Env) (inputs : List Input) :
    Lifecycle (itemsOf inputs) (datafifoRtpSenderLoop env inputs {}).trace ∧
      ((∀ item ∈ itemsOf inputs, item.msg.Readable) → ∀ addr,
        depacketize (packetsFor addr (datafifoRtpSenderLoop env inputs {}).trace)
          = nalusFor addr (datafifoRtpSenderLoop env inputs {}).trace) := by
  constructor
  · obtain ⟨p, q, hrun, -, -⟩ := datafifoRtpSenderLoop_tracked env inputs
    exact lifecycle_of_run hrun rfl rfl
  · intro hread addr
    exact depacketize_of_receives (datafifoRtpSenderLoop_receives env inputs hread addr)

/-! ### What is sent if nothing fails -/

/-- The NALUs of a message that get through: a buffer is left at the first short one. -/
def messageNalus (msg : MppNaluIpcMsg) : List (List UInt8) :=
  msg.usedPacks.flatMap fun pack => (bufferNalus pack.bytes).takeWhile (2 ≤ ·.length)

/-- Every valid message is taken, whatever its sequence number. -/
def accept : Input → List PlayerStep
  | .rtsp s => [.rtsp s]
  | .item item =>
    if naluDatafifoValidateMsg item.msg then (messageNalus item.msg).map .nalu else []

/-- A player without a gate: a playing client gets whatever comes. -/
def step (rtsp : RtspState) : PlayerStep → List (SockAddrIn × List UInt8) × RtspState
  | .rtsp s => ([], rtsp.apply s)
  | .nalu nalu => (if rtsp.canSend then [(rtsp.gClientAddr, nalu)] else [], rtsp)

theorem transduce_step_nalus (rtsp : RtspState) (nalus : List (List UInt8)) :
    transduce step rtsp (nalus.map .nalu)
      = (if rtsp.canSend then nalus.map (rtsp.gClientAddr, ·) else [], rtsp) := by
  have hstill : ∀ nalu ∈ nalus, step rtsp (.nalu nalu)
      = (if rtsp.canSend then [(rtsp.gClientAddr, nalu)] else [], rtsp) := fun _ _ => rfl
  rw [transduce_map, transduce_of_still hstill]
  cases rtsp.canSend with
  | false => simp
  | true => simp [List.map_eq_flatMap]

section Smooth

variable {env : Env} {p : Player} {last : UInt64} {out : List (SockAddrIn × List UInt8)} {w : World}

/-- Refusing a short NALU leaves no more than the event that says so. -/
theorem sendNaluForPlayback_short_tracks (h : Tracks p last out w) (dest : SockAddrIn)
    {nalu : List UInt8} (hshort : nalu.length < 2) (timestamp ssrc : UInt32) (marker : UInt8) :
    (sendNaluForPlayback env dest nalu timestamp ssrc marker w).1 = false ∧
      Tracks p last out (sendNaluForPlayback env dest nalu timestamp ssrc marker w).2 := by
  rw [sendNaluForPlayback, sendH265NaluRtp, if_pos hshort]
  exact ⟨rfl, h.emit rfl⟩

theorem sendNalus_tracks (h : Tracks p last out w) (henv : env.Smooth) (dest : SockAddrIn)
    (timestamp ssrc : UInt32) (marker : UInt8) (nalus : List (List UInt8 × Bool)) :
    Tracks p last (out ++ ((nalus.map Prod.fst).takeWhile (2 ≤ ·.length)).map (dest, ·))
      (forEach (fun a w =>
        sendNaluForPlayback env dest a.1 timestamp ssrc (if a.2 then marker else 0) w) nalus w).2
          := by
  induction nalus generalizing out w with
  | nil => simpa using h
  | cons a nalus ih =>
    rw [List.map_cons, List.takeWhile_cons, forEach]
    by_cases hlong : 2 ≤ a.1.length
    · have hcall : (sendNaluForPlayback env dest a.1 timestamp ssrc
            (if a.2 then marker else 0) w).1 = true ∧
          Tracks p last (out ++ [(dest, a.1)])
            (sendNaluForPlayback env dest a.1 timestamp ssrc (if a.2 then marker else 0) w).2 :=
        h.sendNaluForPlayback henv hlong timestamp ssrc _
      obtain ⟨hok, hsent⟩ := hcall
      generalize sendNaluForPlayback env dest a.1 timestamp ssrc _ w = r at hok hsent
      obtain ⟨ok, v⟩ := r
      cases hok
      rw [if_pos (decide_eq_true hlong), List.map_cons, List.append_cons]
      exact ih hsent
    · obtain ⟨hok, hsent⟩ := @sendNaluForPlayback_short_tracks env _ _ _ _ h dest _
        (Nat.lt_of_not_le hlong) timestamp ssrc (if a.2 then marker else 0)
      generalize sendNaluForPlayback env dest a.1 timestamp ssrc _ w = r at hok hsent
      obtain ⟨ok, v⟩ := r
      cases hok
      rw [if_neg (by simpa using hlong), List.map_nil, List.append_nil]
      exact hsent

theorem sendH265BufferRtp_tracks (h : Tracks p last out w) (henv : env.Smooth) (dest : SockAddrIn)
    (buf : List UInt8) (timestamp ssrc : UInt32) (marker : UInt8) :
    Tracks p last (out ++ ((bufferNalus buf).takeWhile (2 ≤ ·.length)).map (dest, ·))
      (sendH265BufferRtp env dest buf timestamp ssrc marker w).2 := by
  rw [sendH265BufferRtp, bufferNalus]
  split
  · simpa using h
  · rename_i hlen
    have hlong : 2 ≤ buf.length := Nat.le_of_not_lt hlen
    split
    · rw [List.takeWhile_cons, if_pos (decide_eq_true hlong), List.takeWhile_nil]
      exact (h.sendNaluForPlayback henv hlong timestamp ssrc marker).2
    · have hloop := sendNalus_tracks h henv dest timestamp ssrc marker
        (annexbNalus findStartCode buf)
      dsimp only
      split <;> rename_i heq <;> rw [heq] at hloop <;> exact hloop

theorem sendDatafifoPack_tracks (h : Tracks p last out w) (henv : env.Smooth) (dest : SockAddrIn)
    {pack : MppNaluIpcPack} (hphys : pack.physAddr ≠ 0) (hlen : pack.len ≠ 0)
    (timestamp ssrc : UInt32) (marker : UInt8) :
    Tracks p last (out ++ ((bufferNalus pack.bytes).takeWhile (2 ≤ ·.length)).map (dest, ·))
      (sendDatafifoPack env dest pack timestamp ssrc marker w).2 := by
  have hcount : Tracks p last out { w with tick := w.tick + 1 } := h.frame rfl rfl rfl rfl rfl
  have hbuf := sendH265BufferRtp_tracks (hcount.emit (e := .mmap (.playback w.tick) pack) rfl) henv
    dest pack.bytes timestamp ssrc marker
  rw [sendDatafifoPack, naluDatafifoMmapPack, if_neg (by simp [hphys, hlen]), if_pos (henv.mmap _)]
  dsimp only
  generalize sendH265BufferRtp env dest pack.bytes timestamp ssrc marker _ = r at hbuf
  have hcounted : Tracks p last _ { r.2 with tick := r.2.tick + 1 } :=
    hbuf.frame rfl rfl rfl rfl rfl
  exact hcounted.emit rfl

theorem sendPacks_tracks (h : Tracks p last out w) (henv : env.Smooth) (dest : SockAddrIn)
    {msg : MppNaluIpcMsg} (hvalid : naluDatafifoValidateMsg msg = true) :
    Tracks p last (out ++ (messageNalus msg).map (dest, ·)) (sendPacks env dest msg w) := by
  let write (u : Unit) (pack : MppNaluIpcPack × ℕ) :=
    (((bufferNalus pack.1.bytes).takeWhile (2 ≤ ·.length)).map (dest, ·), u)
  have hstep : ∀ pack ∈ msg.usedPacks.zipIdx, ∀ (u : Unit) out v, Tracks p last out v →
      Tracks p last (out ++ (write u pack).1) (sendDatafifoPack env dest pack.1 w.timestamp rtpSsrc
        (if pack.2 + 1 = msg.packCnt.toNat then 1 else 0) v).2 := by
    intro pack hmem u out v hv
    obtain ⟨hphys, hlen⟩ := mappable_of_valid hvalid pack.1 (List.fst_mem_of_mem_zipIdx hmem)
    exact sendDatafifoPack_tracks hv henv dest hphys hlen _ _ _
  have hloop := foldl_simulates (S := fun (_ : Unit) out w => Tracks p last out w) hstep
    (s := ()) h
  rw [transduce_of_still fun _ _ => rfl] at hloop
  have hpacks : (messageNalus msg).map (dest, ·) = msg.usedPacks.zipIdx.flatMap fun pack =>
      ((bufferNalus pack.1.bytes).takeWhile (2 ≤ ·.length)).map (dest, ·) := by
    conv_lhs => rw [messageNalus, List.map_flatMap, ← List.zipIdx_map_fst 0 msg.usedPacks,
      List.flatMap_map]
  rw [hpacks]
  exact hloop

theorem handleMessage_tracks (h : Tracks p last out w) (henv : env.Smooth) (item : Item)
    {dest : SockAddrIn} (hdest : p.rtsp.canSend → dest = p.rtsp.gClientAddr) :
    Tracks p last (out ++ (transduce step p.rtsp (accept (.item item))).1)
      (handleMessage env item.msg dest p.rtsp.canSend w) := by
  rw [handleMessage, accept]
  by_cases hvalid : naluDatafifoValidateMsg item.msg = true
  · rw [if_pos hvalid, transduce_step_nalus, hvalid, Bool.true_and]
    cases hsend : p.rtsp.canSend with
    | false => simpa using h
    | true =>
      rw [← hdest hsend, if_pos rfl, if_pos rfl]
      exact (sendPacks_tracks h henv dest hvalid).count ..
  · rw [if_neg hvalid, if_neg (by simp [hvalid])]
    simpa using h

/-- **A round.** -/
theorem datafifoRound_tracks (h : Tracks p last out w) (henv : env.Smooth) (item : Item) :
    Tracks p last (out ++ (transduce step p.rtsp (accept (.item item))).1)
      (datafifoRound env item w) := by
  have hsched := (h.emit (e := .read item) rfl).sends henv.quiet
    (sends_schedule env ⟨0, 0⟩ (w.emit (.read item)))
  have hcan : ((w.emit (.read item)).schedule env).rtsp.canSend = p.rtsp.canSend := by
    rw [hsched.rtsp]
  have htarget : Tracks p last out (getRtspTarget env (w.emit (.read item))).2 :=
    hsched.emit rfl
  have hdest : p.rtsp.canSend →
      (getRtspTarget env (w.emit (.read item))).1.2.1 = p.rtsp.gClientAddr := by
    intro hsend
    rw [← hcan] at hsend
    refine (if_pos (Bool.and_eq_true_iff.mp hsend).2).trans ?_
    rw [hsched.rtsp]
  have hhandle := handleMessage_tracks htarget henv item hdest
  rw [← hcan] at hhandle
  exact hhandle.emit rfl

end Smooth

theorem accept_state (rtsp : RtspState) (item : Item) :
    (transduce step rtsp (accept (.item item))).2 = rtsp := by
  rw [accept]
  split
  · rw [transduce_step_nalus]
  · rfl

/-- **No gate.** If nothing fails and the control thread keeps to the time between messages, every
NALU that comes while a client plays goes to that client, and no others. -/
theorem datafifoRtpSenderLoop_step {env : Env} (henv : env.Smooth) (inputs : List Input) :
    Tracks { rtsp := (transduce step {} (inputs.flatMap accept)).2 } 0
      (transduce step {} (inputs.flatMap accept)).1 (datafifoRtpSenderLoop env inputs {}) := by
  induction inputs using List.reverseRecOn with
  | nil =>
    refine ⟨rfl, ?_, rfl, rfl, by simp, rfl⟩
    funext kind
    rcases kind <;> rfl
  | append_singleton inputs i ih =>
    rw [datafifoRtpSenderLoop_concat, List.flatMap_append, List.flatMap_singleton, transduce_append]
    rcases i with s | item
    · refine ⟨?_, ih.cache, ih.wait, ih.last, ih.long, ?_⟩
      · change (World.rtsp _).apply s = _
        rw [ih.rtsp]
        rfl
      · rw [← ih.sent]
        simp [sentNalus, input, World.rtspStep, accept, step, Event.sentNalu?]
    · rw [accept_state]
      exact datafifoRound_tracks ih henv item

/-! ### The two senders -/

/-- Not one of the three parameter sets. -/
def isPicture (p : SockAddrIn × List UInt8) : Bool := !h265IsParameterSet (h265NaluType p.2)

/-- The player and the gateless one have the same client, and what the player has cached is sent
in front of a stream and never for its own sake. -/
structure Beside (p : Player) (rtsp : RtspState) : Prop where
  rtsp : ∃ need, p.rtsp = { rtsp with gNeedParameterSets := need }
  cache : ∀ kind set, p.cache kind = some set → h265IsParameterSet (h265NaluType set)

namespace Beside

variable {p : Player} {rtsp : RtspState}

theorem canSend (h : Beside p rtsp) : p.rtsp.canSend = rtsp.canSend := by
  obtain ⟨need, hrtsp⟩ := h.rtsp
  rw [hrtsp]
  rfl

theorem gClientAddr (h : Beside p rtsp) : p.rtsp.gClientAddr = rtsp.gClientAddr := by
  obtain ⟨need, hrtsp⟩ := h.rtsp
  rw [hrtsp]

theorem apply (h : Beside p rtsp) (s : RtspStep) :
    Beside { p with rtsp := p.rtsp.apply s } (rtsp.apply s) := by
  refine ⟨?_, h.cache⟩
  obtain ⟨need, hrtsp⟩ := h.rtsp
  rw [hrtsp]
  rcases s <;> exact ⟨_, rfl⟩

end Beside

theorem isParameterSet_of_kind {nalu : List UInt8} {kind : ParamSet}
    (h : h265ParamCacheForType (h265NaluType nalu) = some kind) :
    h265IsParameterSet (h265NaluType nalu) := by
  rw [h265ParamCacheForType] at h
  split_ifs at h with hvps hsps hpps
  · rw [hvps]; rfl
  · rw [hsps]; rfl
  · rw [hpps]; rfl

theorem storeSet_cached {cache : ParamSet → Option (List UInt8)}
    (h : ∀ kind set, cache kind = some set → h265IsParameterSet (h265NaluType set))
    (nalu : List UInt8) :
    ∀ kind set, storeSet cache nalu kind = some set → h265IsParameterSet (h265NaluType set) := by
  intro kind set hset
  rw [storeSet] at hset
  cases hkind : h265ParamCacheForType (h265NaluType nalu) with
  | none =>
    rw [hkind] at hset
    exact h kind set hset
  | some kind' =>
    rw [hkind] at hset
    dsimp only at hset
    by_cases hfits : nalu.length > h265ParamSetMaxSize
    · rw [if_pos hfits] at hset
      exact h kind set hset
    · rw [if_neg hfits] at hset
      by_cases hk : kind = kind'
      · rw [hk, Function.update_self] at hset
        rw [← Option.some.inj hset]
        exact isParameterSet_of_kind hkind
      · rw [Function.update_of_ne hk] at hset
        exact h kind set hset

namespace Beside

variable {p : Player} {rtsp : RtspState}

theorem pass (h : Beside p rtsp) (nalu : List UInt8) :
    (p.pass nalu).1.Sublist [nalu] ∧ Beside (p.pass nalu).2 rtsp := by
  rw [Player.pass]
  split
  · split
    · exact ⟨List.Sublist.refl _, h.rtsp, h.cache⟩
    · exact ⟨List.nil_sublist _, h⟩
  · exact ⟨List.Sublist.refl _, h⟩

theorem served (h : Beside p rtsp) : Beside p.served rtsp := by
  obtain ⟨need, hrtsp⟩ := h.rtsp
  exact ⟨⟨false, by rw [Player.served, hrtsp]⟩, h.cache⟩

/-- The sets in front of a NALU are no pictures. -/
theorem cachedSets (h : Beside p rtsp) {sets : List (List UInt8)}
    (hsets : cachedSets p.cache = some sets) (dest : SockAddrIn) :
    (sets.map (dest, ·)).filter isPicture = [] := by
  rw [LittleCore.cachedSets] at hsets
  split at hsets
  · rename_i vps sps pps hvps hsps hpps
    rw [← Option.some.inj hsets]
    simp [isPicture, h.cache _ _ hvps, h.cache _ _ hsps, h.cache _ _ hpps]
  · simp at hsets

theorem judge (h : Beside p rtsp) (nalu : List UInt8) (dest : SockAddrIn) :
    (((p.judge nalu).1.map (dest, ·)).filter isPicture).Sublist ([(dest, nalu)].filter isPicture) ∧
      Beside (p.judge nalu).2 rtsp := by
  rw [Player.judge]
  split
  · split
    · exact ⟨List.nil_sublist _, h⟩
    · rename_i sets hsets
      obtain ⟨hsub, hbeside⟩ := h.served.pass nalu
      rw [List.map_append, List.filter_append, h.cachedSets hsets, List.nil_append]
      exact ⟨(hsub.map _).filter _, hbeside⟩
  · obtain ⟨hsub, hbeside⟩ := h.pass nalu
    exact ⟨(hsub.map _).filter _, hbeside⟩

/-- **One step side by side.** -/
theorem step (h : Beside p rtsp) (s : PlayerStep) :
    ((p.step s).1.filter isPicture).Sublist ((step rtsp s).1.filter isPicture) ∧
      Beside (p.step s).2 (LittleApp.step rtsp s).2 := by
  rcases s with s | nalu
  · exact ⟨List.Sublist.refl _, h.apply s⟩
  · have hstored : Beside { p with cache := storeSet p.cache nalu } rtsp :=
      ⟨h.rtsp, storeSet_cached h.cache nalu⟩
    rw [Player.step, Player.nalu, LittleApp.step, ← h.canSend, ← h.gClientAddr]
    dsimp only
    cases p.rtsp.canSend with
    | true => exact hstored.judge nalu _
    | false => exact ⟨List.nil_sublist _, hstored⟩

end Beside

/-- A NALU is lost behind a short one here, and only there. -/
theorem messageNalus_eq {msg : MppNaluIpcMsg}
    (hlast : ∀ pack ∈ msg.usedPacks, ShortNalusLast pack.bytes) :
    messageNalus msg = LittleCore.messageNalus msg := by
  rw [messageNalus, LittleCore.messageNalus, List.filter_flatMap]
  refine List.flatMap_congr fun pack hpack => ?_
  rw [bufferNalus]
  split
  · rfl
  · split
    · rename_i hlen _
      simp [Nat.le_of_not_lt hlen]
    · exact (shortNalusLast_iff pack.bytes).mpr (hlast pack hpack)

/-- What `src` makes of an item, `little_app` is given as well. -/
theorem accept_sublist {p : Player} {rtsp : RtspState} (h : Beside p rtsp) (last : UInt64)
    {item : Item} (hlast : ∀ pack ∈ item.msg.usedPacks, ShortNalusLast pack.bytes) :
    ((transduce Player.step p (LittleCore.accept last (.item item)).1).1.filter isPicture).Sublist
        ((transduce step rtsp (accept (.item item))).1.filter isPicture) ∧
      Beside (transduce Player.step p (LittleCore.accept last (.item item)).1).2
        (transduce step rtsp (accept (.item item))).2 := by
  rw [LittleCore.accept]
  split
  · rename_i hvalid
    rw [accept, if_pos (validate_of_src (Bool.and_eq_true_iff.mp hvalid).1), messageNalus_eq hlast]
    exact transduce_sublist (fun p rtsp s h => h.step s) h _
  · rw [accept_state]
    exact ⟨List.nil_sublist _, h⟩

theorem beside_run (inputs : List Input)
    (hlast : ∀ item ∈ itemsOf inputs, ∀ pack ∈ item.msg.usedPacks, ShortNalusLast pack.bytes) :
    ((transduce Player.step {} (LittleCore.accepted inputs)).1.filter isPicture).Sublist
        ((transduce step {} (inputs.flatMap accept)).1.filter isPicture) ∧
      Beside (transduce Player.step {} (LittleCore.accepted inputs)).2
        (transduce step {} (inputs.flatMap accept)).2 := by
  induction inputs using List.reverseRecOn with
  | nil => exact ⟨List.Sublist.refl _, ⟨false, rfl⟩, by simp [LittleCore.accepted]⟩
  | append_singleton inputs i ih =>
    rw [itemsOf_concat] at hlast
    obtain ⟨hsub, hbeside⟩ := ih fun item hitem => hlast item (List.mem_append_left _ hitem)
    rw [LittleCore.accepted, transduce_append, transduce_singleton, ← LittleCore.accepted,
      List.flatMap_append, List.flatMap_singleton, transduce_append, transduce_append,
      List.filter_append, List.filter_append]
    rcases i with s | item
    · obtain ⟨hone, hstep⟩ := hbeside.step (.rtsp s)
      rw [LittleCore.accept, accept, transduce_singleton, transduce_singleton]
      exact ⟨hsub.append hone, hstep⟩
    · obtain ⟨hitem, hbeside'⟩ := accept_sublist hbeside (transduce LittleCore.accept 0 inputs).2
        (hlast item (List.mem_append_right _ (List.mem_singleton_self _)))
      exact ⟨hsub.append hitem, hbeside'⟩

/-- **The gate only holds back.** On the same messages and the same requests, the pictures that
`src` sends are among those that `little_app` sends, to the same clients and in the same order. -/
theorem gate_holds_back {env : Env} (henv : env.Smooth) (inputs : List Input)
    (hlast : ∀ item ∈ itemsOf inputs, ∀ pack ∈ item.msg.usedPacks, ShortNalusLast pack.bytes) :
    ((sentNalus (LittleCore.datafifoRtpSenderLoop env inputs {}).trace).filter isPicture).Sublist
      ((sentNalus (datafifoRtpSenderLoop env inputs {}).trace).filter isPicture) := by
  rw [(datafifoRtpSenderLoop_player henv inputs).sent,
    (datafifoRtpSenderLoop_step henv inputs).sent]
  exact (beside_run inputs hlast).1

/-- A slice comes before the IDR: `little_app` sends it, and `src` waits. -/
theorem gate_holds_back_sample :
    ((sentNalus (LittleCore.datafifoRtpSenderLoop {}
      (sampleRun sampleSlice sampleIdr) {}).trace).filter isPicture).Sublist
      [(⟨1, 5000⟩, [0x02, 1]), (⟨1, 5000⟩, [0x26, 1])] := by
  have henv : Env.Smooth {} :=
    ⟨fun _ => rfl, fun _ => rfl, fun _ => rfl, fun _ => rfl, fun _ => rfl⟩
  have hsent : (sentNalus (datafifoRtpSenderLoop {}
      (sampleRun sampleSlice sampleIdr) {}).trace).filter isPicture =
        [(⟨1, 5000⟩, [0x02, 1]), (⟨1, 5000⟩, [0x26, 1])] := by
    decide +kernel
  rw [← hsent]
  exact gate_holds_back henv _ (by decide +kernel)

end LittleApp

end LittleCore

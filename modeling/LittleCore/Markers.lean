import LittleCore.Gate.Player
import LittleCore.Splitters
import LittleCore.Wire

/-!
# One marker for an access unit

`datafifo_rtp_sender_loop` marks the last pack, the playback path marks what stands behind the last
start code of it, and `send_h265_nalu_rtp` marks the last fragment. Each of them decides before it
is known whether anything will be sent there: a pack that ends in a start code, in zeros or in a
NALU of a single byte takes the marker with it.

## Main results

* `onlyLast_flatMap` — a flag at the end of every block is a flag at the end of the whole
* `datafifoRound_forwards` — the NALUs and markers of a round
* `markedOnce_iff` — exactly which messages have their marker
-/

namespace LittleCore

open Library World

/-! ### Flags -/

/-- The last one is set, and no other. -/
def OnlyLast (flags : List Bool) : Prop :=
  ∀ before flag after, flags = before ++ flag :: after → (flag = true ↔ after = [])

theorem onlyLast_nil : OnlyLast [] := by
  intro before flag after h
  simp at h

theorem onlyLast_append {l r : List Bool} (hr : r ≠ []) :
    OnlyLast (l ++ r) ↔ (∀ b ∈ l, b = false) ∧ OnlyLast r := by
  constructor
  · intro h
    constructor
    · intro b hb
      obtain ⟨s, t, rfl⟩ := List.append_of_mem hb
      have hflag := h s b (t ++ r) (by simp)
      rw [List.append_eq_nil_iff, and_iff_right_of_imp fun hnil => absurd hnil hr] at hflag
      simpa [hr] using hflag
    · intro before flag after heq
      exact h (l ++ before) flag after (by rw [heq, List.append_assoc])
  · rintro ⟨hl, hlast⟩ before flag after heq
    rcases List.append_eq_append_iff.mp heq with ⟨s, -, hr'⟩ | ⟨s, hl', hr'⟩
    · exact hlast s flag after hr'
    · rcases s with _ | ⟨b, s⟩
      · exact hlast [] flag after hr'.symm
      · obtain ⟨rfl, rfl⟩ := List.cons.inj hr'
        have hfalse := hl flag (by rw [hl']; simp)
        simp [hfalse, hr]

theorem onlyLast_of_false {l : List Bool} (h : ∀ b ∈ l, b = false) : OnlyLast l ↔ l = [] := by
  constructor
  · intro hlast
    rcases List.eq_nil_or_concat l with rfl | ⟨l, b, rfl⟩
    · rfl
    · have hb := h b (by simp)
      have hb' := (hlast l b [] (by simp)).mpr rfl
      rw [hb] at hb'
      cases hb'
  · rintro rfl
    exact onlyLast_nil

/-- Where every block has its flag at the end, the blocks count as their flags. -/
theorem onlyLast_flatMap {α : Type*} {g : α → List Bool} {m : α → Bool} {l : List α}
    (hg : ∀ a ∈ l, ∃ k, g a = List.replicate k false ++ [m a]) :
    OnlyLast (l.flatMap g) ↔ OnlyLast (l.map m) := by
  induction l with
  | nil => rfl
  | cons a l ih =>
    obtain ⟨k, hk⟩ := hg a (List.mem_cons_self ..)
    have hrest := ih fun b hb => hg b (List.mem_cons_of_mem _ hb)
    have hzeros : ∀ b ∈ List.replicate k false, b = false := fun b hb => List.eq_of_mem_replicate hb
    rw [List.flatMap_cons, hk, List.append_assoc, onlyLast_append (by simp), and_iff_right hzeros,
      List.map_cons, ← List.singleton_append (l := l.map m)]
    rcases l with _ | ⟨b, l⟩
    · rfl
    · have hne : (b :: l).flatMap g ≠ [] := by
        obtain ⟨j, hj⟩ := hg b (by simp)
        rw [List.flatMap_cons, hj]
        simp
      rw [onlyLast_append hne, onlyLast_append (by simp), hrest]

/-- The marker of a payload or of a NALU. -/
def markerFlag (p : List UInt8 × UInt8) : Bool := p.2 != 0

/-- The last payload of a NALU has its marker. -/
theorem markerFlag_payloads (nalu : List UInt8) (marker : UInt8) :
    ∃ k, (payloads nalu marker).map markerFlag
      = List.replicate k false ++ [markerFlag (nalu, marker)] := by
  by_cases h : nalu.length ≤ rtpMaxPayload
  · rw [payloads, if_pos h]
    exact ⟨0, rfl⟩
  · obtain ⟨hfragments, htwo, -⟩ := @fragments_eq nalu marker (by omega)
    obtain ⟨k, hk⟩ : ∃ k, fragmentCount nalu = k + 1 := ⟨_, (Nat.sub_add_cancel (by omega)).symm⟩
    rw [payloads, if_neg h, hfragments, hk, List.range_succ, List.map_append, List.map_append,
      List.map_map]
    refine ⟨k, congrArg₂ (· ++ ·) (List.eq_replicate_iff.mpr ⟨by simp, fun b hb => ?_⟩) ?_⟩
    · obtain ⟨i, hi, rfl⟩ := List.mem_map.mp hb
      have hlt := List.mem_range.mp hi
      simp only [Function.comp_apply, markerFlag, fragment]
      rw [if_neg (by omega)]
      rfl
    · simp [markerFlag, fragment]

/-! ### What a buffer has at its end -/

/-- What stands behind the start codes, without zeros at the end; the whole buffer if it does not
begin with a start code. -/
def bufferParts (buf : List UInt8) : List (List UInt8) :=
  if bufferStartsWithStartCode buf then (startCodeParts buf).map stripTrailingZeros else [buf]

theorem trimParts_concat (ps : List (List UInt8)) (p : List UInt8) :
    trimParts (ps ++ [p]) = ((ps.map stripTrailingZeros).filter (· ≠ [])).map (·, false) ++
      [(stripTrailingZeros p, true)].filter (·.1 ≠ []) := by
  induction ps with
  | nil =>
    rw [List.nil_append, trimParts, List.filter_cons]
    split <;> simp_all [trimParts]
  | cons q ps ih =>
    rw [List.cons_append, trimParts, ih, List.map_cons, List.filter_cons]
    split <;> simp_all

/-- What playback sends of a buffer: the last part has the marker, if it is long enough to be
sent. -/
theorem filter_playbackNalus {buf : List UInt8} {ps : List (List UInt8)} {p : List UInt8}
    (h : bufferParts buf = ps ++ [p]) (marker : UInt8) :
    (playbackNalus buf marker).filter (2 ≤ ·.1.length)
      = (ps.filter (2 ≤ ·.length)).map (·, 0) ++ [(p, marker)].filter (2 ≤ ·.1.length) := by
  rw [bufferParts] at h
  rw [playbackNalus]
  by_cases hstart : bufferStartsWithStartCode buf
  · have hthree := length_of_bufferStartsWithStartCode hstart
    rw [if_pos hstart] at h
    obtain ⟨qs, rest, hparts, rfl, hlast⟩ := List.map_eq_append_iff.mp h
    obtain ⟨q, rfl, rfl⟩ := List.map_eq_singleton_iff.mp hlast
    have hnalus : annexbNalus h265FindStartCodeLocal buf = trimParts (qs ++ [q]) := by
      rw [← hparts, ← annexbNalus_eq]
      rfl
    rw [if_neg (by omega), if_neg (by simp [hstart]), hnalus, trimParts_concat, List.map_append,
      List.filter_append]
    congr 1
    · rw [List.map_map, List.filter_map, List.filter_filter]
      refine congrArg₂ List.map rfl (List.filter_congr fun l _ => ?_)
      rcases l with _ | ⟨b, l⟩ <;> simp
    · by_cases hq : stripTrailingZeros q = []
      · simp [hq]
      · simp [hq]
  · rw [if_neg hstart] at h
    obtain ⟨rfl, hbuf⟩ : ps = [] ∧ buf = p := by
      rcases ps with _ | ⟨q, ps⟩
      · exact ⟨rfl, by simpa using h⟩
      · simp at h
    rw [hbuf]
    by_cases hlen : p.length < 2
    · rw [if_pos hlen, List.filter_cons_of_neg (by simpa using hlen)]
      rfl
    · rw [if_neg hlen, ← hbuf, if_pos (by simp [hstart])]
      rfl

theorem bufferParts_ne_nil (buf : List UInt8) : bufferParts buf ≠ [] := by
  rw [bufferParts]
  split
  · rename_i hstart
    have hinf : shortStartCode <:+: buf := by
      rcases buf with _ | ⟨b₀, _ | ⟨b₁, _ | ⟨b₂, _ | ⟨b₃, rest⟩⟩⟩⟩
      · cases hstart
      · cases hstart
      · cases hstart
      · obtain ⟨⟨rfl, rfl⟩, rfl⟩ : (b₀ = 0 ∧ b₁ = 0) ∧ b₂ = 1 := by
          simpa [bufferStartsWithStartCode] using hstart
        exact List.infix_rfl
      · have hcases : ((b₀ = 0 ∧ b₁ = 0) ∧ b₂ = 1) ∨ ((b₀ = 0 ∧ b₁ = 0) ∧ b₂ = 0) ∧ b₃ = 1 := by
          simpa [bufferStartsWithStartCode] using hstart
        rcases hcases with ⟨⟨rfl, rfl⟩, rfl⟩ | ⟨⟨⟨rfl, rfl⟩, rfl⟩, rfl⟩
        · exact ⟨[], b₃ :: rest, rfl⟩
        · exact ⟨[0x00], rest, rfl⟩
    rw [Ne, List.map_eq_nil_iff, startCodeParts, cutAt_snd_eq_nil_iff unbordered_shortStartCode,
      not_not]
    exact hinf
  · simp

/-! ### Around the sends -/

/-- Steps that send nothing and leave the gate open. -/
structure World.Idles (w w' : World) : Prop where
  gate : w.GateOpen → w'.GateOpen
  calls : naluCalls w' = naluCalls w
  packets : wirePackets w'.trace = wirePackets w.trace
  seq : w'.seq = w.seq

namespace World.Idles

variable {env : Env} {w w' w'' : World}

theorem refl (w : World) : Idles w w := ⟨id, rfl, rfl, rfl⟩

theorem trans (h₁ : Idles w w') (h₂ : Idles w' w'') : Idles w w'' :=
  ⟨h₂.gate ∘ h₁.gate, h₂.calls.trans h₁.calls, h₂.packets.trans h₁.packets, h₂.seq.trans h₁.seq⟩

theorem of_grows {R : Event → Prop} (hgrows : Grows R w.trace w'.trace)
    (hR : ∀ e, R e → e.naluCall? = none ∧ e.packet? = none) (hgate : w.GateOpen → w'.GateOpen)
    (hseq : w'.seq = w.seq) : Idles w w' :=
  ⟨hgate, hgrows.filterMap_eq fun e he => (hR e he).1,
    hgrows.filterMap_eq fun e he => (hR e he).2, hseq⟩

theorem emit (e : Event) (h : e.naluCall? = none ∧ e.packet? = none) (w : World) :
    Idles w (w.emit e) :=
  of_grows (Grows.single (P := (· = e)) rfl _) (by rintro _ rfl; exact h)
    (fun hopen => ⟨hopen.needs, hopen.wait⟩) rfl

theorem of_eq (htrace : w'.trace = w.trace) (hrtsp : w'.rtsp = w.rtsp)
    (hwait : w'.waitForIdr = w.waitForIdr) (hseq : w'.seq = w.seq) : Idles w w' := by
  refine ⟨fun hopen => ⟨?_, hwait.trans hopen.wait⟩, ?_, by rw [htrace], hseq⟩
  · rw [hrtsp]
    exact hopen.needs
  · rw [naluCalls, htrace, naluCalls]

theorem tick (w : World) : Idles w { w with tick := w.tick + 1 } := of_eq rfl rfl rfl rfl

theorem schedule (hkeeps : env.KeepsGate) (w : World) : Idles w (w.schedule env) := by
  obtain ⟨hgrows, hframe⟩ := schedule_spec env w
  refine of_grows hgrows (fun e he => ?_) (fun hopen => ⟨?_, ?_⟩) (seq_schedule env w)
  · cases e <;> first | exact ⟨rfl, rfl⟩ | exact he.elim
  · exact needs_schedule hkeeps hopen.needs
  · rw [hframe]
    exact hopen.wait

theorem of_snapshots (h : Snapshots w w') : Idles w w' := by
  have hrtsp : w'.rtsp = w.rtsp := by rw [h.frame]
  have hwait : w'.waitForIdr = w.waitForIdr := by rw [h.frame]
  refine of_grows h.grows (fun e he => ?_) (fun hopen => ⟨?_, ?_⟩) (by rw [h.frame])
  · cases e <;> first | exact ⟨rfl, rfl⟩ | exact he.elim
  · rw [hrtsp]
    exact hopen.needs
  · exact hwait.trans hopen.wait

theorem forwards (h : Idles w w') (hopen : w.GateOpen) (dest : SockAddrIn)
    (timestamp ssrc : UInt32) : Forwards dest timestamp ssrc [] w w' :=
  .of_eq (h.gate hopen) h.calls h.packets h.seq

end World.Idles

/-- While nothing may be sent, a NALU is cached at most. -/
theorem datafifoProcessNalu_idles (env : Env) (dest : SockAddrIn) (timestamp ssrc : UInt32)
    (nalu : List UInt8) (marker : UInt8) (w : World) :
    Idles w (datafifoProcessNaluForPlayback env dest timestamp ssrc false nalu marker w).2 := by
  by_cases hlen : 2 ≤ nalu.length
  · obtain ⟨hrtsp, hlead⟩ := h265CacheParameterSet_leadsUp env nalu (w.emit (.received nalu))
    rw [datafifoProcessNaluForPlayback_eq env dest timestamp ssrc false hlen, if_neg (by decide)]
    refine (Idles.emit (.received nalu) ⟨rfl, rfl⟩ w).trans
      (.of_grows hlead.grows (fun e he => ?_) (fun hopen => ⟨?_, ?_⟩) hlead.seq)
    · cases e <;> first | exact ⟨rfl, rfl⟩ | exact he.elim
    · rw [hrtsp]
      exact hopen.needs
    · exact hlead.wait.trans hopen.wait
  · rw [datafifoProcessNaluForPlayback, if_pos (by omega)]
    exact .refl w

/-- The NALUs that a pack sends, with their markers. -/
def markedPackNalus (packCnt : ℕ) (pack : MppNaluIpcPack × ℕ) : List (List UInt8 × UInt8) :=
  (playbackNalus pack.1.bytes (if pack.2 + 1 = packCnt then 1 else 0)).filter (2 ≤ ·.1.length)

/-- The NALUs that a message sends, with their markers. -/
def markedNalus (msg : MppNaluIpcMsg) : List (List UInt8 × UInt8) :=
  msg.usedPacks.zipIdx.flatMap (markedPackNalus msg.packCnt.toNat)

section Packs

variable {env : Env} (hkeeps : env.KeepsGate) (hsend : ∀ n, env.sendto n = true)
  (hmmap : ∀ n, env.mmap n = true) (dest : SockAddrIn) (timestamp : UInt32)

include hkeeps hsend hmmap

/-- A pack forwards its NALUs. -/
theorem World.GateOpen.processPack {w : World} (h : w.GateOpen) {pack : MppNaluIpcPack}
    (hpack : pack.physAddr ≠ 0 ∧ pack.len ≠ 0) (marker : UInt8) :
    Forwards dest timestamp rtpSsrc ((playbackNalus pack.bytes marker).filter (2 ≤ ·.1.length)) w
      (datafifoProcessPackForPlayback env dest pack timestamp rtpSsrc marker true w).2 := by
  rw [datafifoProcessPackForPlayback, naluDatafifoMmapPack, if_neg (by simpa using hpack), hmmap,
    if_pos rfl]
  have hmap := (Idles.tick w).trans (.emit (.mmap (.playback w.tick) pack) ⟨rfl, rfl⟩ _)
  have hbuf := ((hmap.gate h).processBuffer hkeeps hsend dest pack.bytes timestamp rtpSsrc
    marker).2
  dsimp only
  generalize datafifoProcessH265BufferForPlayback env dest pack.bytes timestamp rtpSsrc marker true
    _ = r at hbuf
  have hunmap : Idles r.2 (naluDatafifoMunmapPack (env.munmap r.2.tick) pack (.playback w.tick)
      { r.2 with tick := r.2.tick + 1 }).2 :=
    (Idles.tick r.2).trans (.emit (.munmap (.playback w.tick) _) ⟨rfl, rfl⟩ _)
  have hall := ((hmap.forwards h dest timestamp rtpSsrc).trans hbuf).trans
    (hunmap.forwards hbuf.gate dest timestamp rtpSsrc)
  rw [List.nil_append, List.append_nil] at hall
  exact hall

/-- So do the packs of a message. -/
theorem World.GateOpen.playbackPacks {w : World} (h : w.GateOpen) {msg : MppNaluIpcMsg}
    (hvalid : naluDatafifoValidateMsg msg) :
    Forwards dest w.timestamp rtpSsrc (markedNalus msg) w
      (playbackPacks env dest true msg w).2 := by
  have hfold : ∀ (l : List (MppNaluIpcPack × ℕ)),
      (∀ p ∈ l, p.1.physAddr ≠ 0 ∧ p.1.len ≠ 0) → ∀ s : Bool × World, s.2.GateOpen →
        Forwards dest w.timestamp rtpSsrc (l.flatMap (markedPackNalus msg.packCnt.toNat)) s.2
          (l.foldl (playbackPack env dest w.timestamp true msg.packCnt.toNat) s).2 := by
    intro l
    induction l with
    | nil => exact fun _ s hs => (Idles.refl s.2).forwards hs dest _ _
    | cons p l ih =>
      intro hl s hs
      have hpack := hs.processPack hkeeps hsend hmmap dest w.timestamp
        (hl p (List.mem_cons_self ..)) (if p.2 + 1 = msg.packCnt.toNat then 1 else 0)
      rw [List.foldl_cons, List.flatMap_cons]
      exact hpack.trans (ih (fun q hq => hl q (List.mem_cons_of_mem _ hq))
        (playbackPack env dest w.timestamp true msg.packCnt.toNat s p) hpack.gate)
  exact hfold _ (fun p hp => mappable_of_valid hvalid p.1 (List.fst_mem_of_mem_zipIdx hp))
    (false, w) h

end Packs

/-- While nothing may be sent, a pack sends nothing. -/
theorem datafifoProcessPack_idles (env : Env) (dest : SockAddrIn) (pack : MppNaluIpcPack)
    (timestamp : UInt32) (marker : UInt8) (w : World) :
    Idles w (datafifoProcessPackForPlayback env dest pack timestamp rtpSsrc marker false w).2 := by
  rw [datafifoProcessPackForPlayback, naluDatafifoMmapPack]
  split_ifs
  · exact .tick w
  · have hmap := (Idles.tick w).trans (.emit (.mmap (.playback w.tick) pack) ⟨rfl, rfl⟩ _)
    have hbuf := hmap.trans (forEach_induct Idles.refl .trans
      (fun p (_ : p ∈ playbackNalus pack.bytes marker) v =>
        datafifoProcessNalu_idles env dest timestamp rtpSsrc p.1 p.2 v) _)
    rw [← datafifoProcessH265BufferForPlayback] at hbuf
    dsimp only
    generalize datafifoProcessH265BufferForPlayback env dest pack.bytes timestamp rtpSsrc marker
      false _ = r at hbuf
    exact hbuf.trans ((Idles.tick r.2).trans (.emit (.munmap (.playback w.tick) _) ⟨rfl, rfl⟩ _))
  · exact (Idles.tick w).trans (.emit .mmapFailed ⟨rfl, rfl⟩ _)

theorem playbackPacks_idles (env : Env) (dest : SockAddrIn) (msg : MppNaluIpcMsg) (w : World) :
    Idles w (playbackPacks env dest false msg w).2 :=
  List.foldlRecOn (motive := fun s : Bool × World => Idles w s.2) _ _ (.refl w)
    fun _ hs _ _ => hs.trans (datafifoProcessPack_idles ..)

/-! ### A round -/

theorem getRtspTarget_idles {env : Env} (hkeeps : env.KeepsGate) (w : World) :
    Idles w (getRtspTarget env w).2 := by
  rw [getRtspTarget]
  exact (Idles.schedule hkeeps w).trans (.emit _ ⟨rfl, rfl⟩ _)

theorem logDatafifoStats_idles (msg : MppNaluIpcMsg) (lastSeq : UInt64) (frameCount : UInt32)
    (force : Bool) (w : World) : Idles w (logDatafifoStats msg lastSeq frameCount force w) := by
  rw [logDatafifoStats]
  exact .emit _ ⟨rfl, rfl⟩ w

/-- A message is processed by its packs; what is around them sends nothing. -/
theorem processMessage_packs (env : Env) (msg : MppNaluIpcMsg) (dest : SockAddrIn)
    (canSend needParameterSets : Bool) (w : World) : ∃ u, Idles w u ∧ u.timestamp = w.timestamp ∧
      Idles (playbackPacks env dest canSend msg u).2
        (processMessage env msg dest canSend needParameterSets w) := by
  have hsnap : Snapshots w (if msg.flagged then
      datafifoSnapshotProcess env msg w else (true, w)).2 := by
    split
    · exact datafifoSnapshotProcess_snapshots env msg w
    · exact .refl w
  have htime : (if msg.flagged then datafifoSnapshotProcess env msg w else (true, w)).2.timestamp
      = w.timestamp := by rw [hsnap.frame]
  refine ⟨_, .of_snapshots hsnap, htime, ?_⟩
  rw [processMessage]
  dsimp only
  generalize playbackPacks env dest canSend msg _ = packs
  refine (Idles.of_eq ?_ ?_ ?_ ?_).trans (logDatafifoStats_idles ..) <;> split <;> rfl

/-- **A round of a message that is accepted.** -/
theorem datafifoRound_packs {env : Env} (hkeeps : env.KeepsGate) {item : Item} {w : World}
    (h : accepts w.lastReadSeq item.msg = true) : ∃ u dest, Idles w u ∧
      u.timestamp = w.timestamp ∧
      Idles (playbackPacks env dest (playingAt env item w) item.msg u).2
        (datafifoRound env item w) := by
  obtain ⟨hvalid, hfresh⟩ := Bool.and_eq_true_iff.mp h
  have hframe := (schedule_spec env (w.emit (.read item))).2
  have hread := (Idles.emit (.read item) ⟨rfl, rfl⟩ w).trans (getRtspTarget_idles hkeeps _)
  have htarget : Idles w { (getRtspTarget env (w.emit (.read item))).2 with
      lastReadSeq := item.msg.seq } := hread.trans (.of_eq rfl rfl rfl rfl)
  have htime : (getRtspTarget env (w.emit (.read item))).2.timestamp = w.timestamp := by
    change ((w.emit (.read item)).schedule env).timestamp = _
    rw [hframe]
    rfl
  have hlast : (getRtspTarget env (w.emit (.read item))).2.lastReadSeq = w.lastReadSeq := by
    change ((w.emit (.read item)).schedule env).lastReadSeq = _
    rw [hframe]
    rfl
  obtain ⟨u, hu, hutime, hpacks⟩ := processMessage_packs env item.msg
    (getRtspTarget env (w.emit (.read item))).1.2.1 (playingAt env item w)
    (getRtspTarget env (w.emit (.read item))).1.2.2.2
    { (getRtspTarget env (w.emit (.read item))).2 with lastReadSeq := item.msg.seq }
  refine ⟨u, (getRtspTarget env (w.emit (.read item))).1.2.1, htarget.trans hu,
    hutime.trans htime, ?_⟩
  have hplaying : ((getRtspTarget env (w.emit (.read item))).1.1 &&
      (getRtspTarget env (w.emit (.read item))).1.2.2.1) = playingAt env item w := rfl
  rw [datafifoRound, hplaying, handleMessage, if_pos hvalid, hlast,
    if_neg (by simpa using hfresh)]
  exact hpacks.trans (.emit (.readDone _) ⟨rfl, rfl⟩ _)

/-- What a round gives to `sendto`. -/
def roundPackets (env : Env) (item : Item) (w : World) : List (SockAddrIn × List UInt8) :=
  (wirePackets (datafifoRound env item w).trace).drop (wirePackets w.trace).length

/-- The marker bits of packets. -/
def markerBits (packets : List (SockAddrIn × List UInt8)) : List Bool :=
  packets.map fun p => (parseRtpHeader p.2).any RtpHeader.marker

theorem markerBits_packetsFrom (dest : SockAddrIn) (timestamp ssrc : UInt32) (seq : UInt16)
    (ps : List (List UInt8 × UInt8)) :
    markerBits ((packetsFrom timestamp ssrc seq ps).map (dest, ·)) = ps.map markerFlag := by
  induction ps generalizing seq with
  | nil => rfl
  | cons p ps ih =>
    rw [packetsFrom, List.map_cons, markerBits, List.map_cons, parseRtpHeader_buildRtpHeader,
      ← markerBits, ih]
    rfl

theorem roundPackets_of_playing {env : Env} (hkeeps : env.KeepsGate)
    (hsend : ∀ n, env.sendto n = true) (hmmap : ∀ n, env.mmap n = true) {item : Item} {w : World}
    (hopen : w.GateOpen) (h : accepts w.lastReadSeq item.msg = true)
    (hplaying : playingAt env item w = true) :
    markerBits (roundPackets env item w)
      = (markedNalus item.msg).flatMap fun p => (payloads p.1 p.2).map markerFlag := by
  obtain ⟨u, dest, hu, -, hafter⟩ := datafifoRound_packs hkeeps h
  rw [hplaying] at hafter
  have hpacks := (hu.gate hopen).playbackPacks hkeeps hsend hmmap dest
    (Bool.and_eq_true_iff.mp h).1
  rw [roundPackets, hafter.packets, hpacks.puts.packets, hu.packets, List.drop_left,
    markerBits_packetsFrom, List.map_flatMap]

theorem roundPackets_of_not_playing {env : Env} (hkeeps : env.KeepsGate) {item : Item} {w : World}
    (h : accepts w.lastReadSeq item.msg = true) (hplaying : playingAt env item w = false) :
    roundPackets env item w = [] := by
  obtain ⟨u, dest, hu, -, hafter⟩ := datafifoRound_packs hkeeps h
  rw [hplaying] at hafter
  rw [roundPackets, hafter.packets, (playbackPacks_idles env dest item.msg u).packets, hu.packets,
    List.drop_length]

/-! ### Which messages have their marker -/

/-- The last pack ends in a NALU of at least two bytes, or there is no such NALU in the message. -/
def MarkerLands (msg : MppNaluIpcMsg) : Prop :=
  (∀ pack ∈ msg.usedPacks, ∀ p ∈ bufferParts pack.bytes, p.length < 2) ∨
    ∃ pack ∈ msg.usedPacks.getLast?, ∃ p ∈ (bufferParts pack.bytes).getLast?, 2 ≤ p.length

theorem filter_playbackNalus_eq_nil_iff (buf : List UInt8) (marker : UInt8) :
    (playbackNalus buf marker).filter (2 ≤ ·.1.length) = []
      ↔ ∀ p ∈ bufferParts buf, p.length < 2 := by
  obtain ⟨ps, p, h⟩ := (List.eq_nil_or_concat' _).resolve_left (bufferParts_ne_nil buf)
  rw [filter_playbackNalus h, h, List.append_eq_nil_iff, List.map_eq_nil_iff,
    List.filter_eq_nil_iff, List.filter_eq_nil_iff]
  simp only [decide_eq_true_eq, not_le, List.mem_singleton, forall_eq, List.mem_append, or_imp,
    forall_and]

theorem marker_of_mem_playbackNalus {buf : List UInt8} {p : List UInt8 × UInt8}
    (h : p ∈ playbackNalus buf 0) : p.2 = 0 := by
  rw [playbackNalus] at h
  split at h
  · cases h
  · split at h
    · rw [List.mem_singleton.mp h]
    · obtain ⟨q, -, rfl⟩ := List.mem_map.mp h
      exact ite_self 0

/-- The packs of a valid message: all of them in use, and the last one behind the others. -/
theorem usedPacks_of_valid {msg : MppNaluIpcMsg} (h : naluDatafifoValidateMsg msg) :
    ∃ front last, msg.usedPacks = front ++ [last] ∧ front.length + 1 = msg.packCnt.toNat := by
  have hcnt : msg.packCnt.toNat ≠ 0 ∧ msg.packCnt.toNat ≤ mppNaluIpcMaxPacks := by
    rw [naluDatafifoValidateMsg] at h
    split_ifs at h with h₁ h₂ h₃
    rw [not_or, not_lt] at h₃
    exact ⟨fun hzero => h₃.1 (UInt32.toNat.inj (by simpa using hzero)), h₃.2⟩
  have hlen : msg.usedPacks.length = msg.packCnt.toNat := by
    rw [MppNaluIpcMsg.usedPacks, List.length_take, msg.length_packs, Nat.min_eq_left hcnt.2]
  have hne : msg.usedPacks ≠ [] := by
    intro hnil
    rw [hnil] at hlen
    exact hcnt.1 hlen.symm
  obtain ⟨front, last, heq⟩ := (List.eq_nil_or_concat' _).resolve_left hne
  exact ⟨front, last, heq, by rw [← hlen, heq, List.length_append, List.length_singleton]⟩

/-- The marker is for the last pack. -/
theorem markedNalus_eq {msg : MppNaluIpcMsg} {front : List MppNaluIpcPack} {last : MppNaluIpcPack}
    (hpacks : msg.usedPacks = front ++ [last]) (hcnt : front.length + 1 = msg.packCnt.toNat) :
    ∃ l, (∀ p ∈ l, p.2 = 0) ∧
      markedNalus msg = l ++ (playbackNalus last.bytes 1).filter (2 ≤ ·.1.length) := by
  refine ⟨front.zipIdx.flatMap (markedPackNalus msg.packCnt.toNat), fun p hp => ?_, ?_⟩
  · obtain ⟨pack, hpack, hp⟩ := List.mem_flatMap.mp hp
    have hlt := List.snd_lt_of_mem_zipIdx hpack
    rw [markedPackNalus, if_neg (by omega)] at hp
    exact marker_of_mem_playbackNalus (List.mem_of_mem_filter hp)
  · rw [markedNalus, hpacks, List.zipIdx_append, List.flatMap_append, List.zipIdx_singleton,
      List.flatMap_singleton, markedPackNalus, if_pos (by simpa using hcnt)]

/-- The NALUs of a message have their marker at the end exactly when it lands. -/
theorem onlyLast_markedNalus {msg : MppNaluIpcMsg} (h : naluDatafifoValidateMsg msg) :
    OnlyLast ((markedNalus msg).map markerFlag) ↔ MarkerLands msg := by
  obtain ⟨front, last, hpacks, hcnt⟩ := usedPacks_of_valid h
  obtain ⟨ps, p, hparts⟩ :=
    (List.eq_nil_or_concat' _).resolve_left (bufferParts_ne_nil last.bytes)
  have hlands : MarkerLands msg ↔
      (∀ pack ∈ msg.usedPacks, ∀ p ∈ bufferParts pack.bytes, p.length < 2) ∨ 2 ≤ p.length := by
    rw [MarkerLands, hpacks, List.getLast?_concat]
    simp [hparts]
  obtain ⟨l, hl, heq⟩ := markedNalus_eq hpacks hcnt
  rw [filter_playbackNalus hparts, ← List.append_assoc] at heq
  have hfront : ∀ q ∈ l ++ (ps.filter (2 ≤ ·.length)).map (·, (0 : UInt8)), q.2 = 0 := by
    intro q hq
    refine (List.mem_append.mp hq).elim (hl q) ?_
    intro hq
    obtain ⟨r, -, rfl⟩ := List.mem_map.mp hq
    rfl
  generalize l ++ (ps.filter (2 ≤ ·.length)).map (·, (0 : UInt8)) = unmarked at heq hfront
  have hfalse : ∀ b ∈ unmarked.map markerFlag, b = false := by
    intro b hb
    obtain ⟨q, hq, rfl⟩ := List.mem_map.mp hb
    rw [markerFlag, hfront q hq]
    rfl
  by_cases hlong : 2 ≤ p.length
  · -- The last part is sent, and it has the marker.
    have hlast : (markedNalus msg).map markerFlag = unmarked.map markerFlag ++ [true] := by
      rw [heq, List.filter_cons_of_pos (by simpa using hlong), List.map_append]
      rfl
    rw [hlast, onlyLast_append (by simp), hlands]
    refine iff_of_true ⟨hfalse, fun before flag after hsplit => ?_⟩ (.inr hlong)
    rcases before with _ | ⟨b, before⟩
    · obtain ⟨rfl, rfl⟩ := List.cons.inj hsplit
      exact iff_of_true rfl rfl
    · simp at hsplit
  · -- The marker was meant for a part that is not sent.
    have hall : (markedNalus msg).map markerFlag = unmarked.map markerFlag := by
      rw [heq, List.filter_cons_of_neg (by simpa using hlong), List.filter_nil, List.append_nil]
    rw [onlyLast_of_false (by rwa [hall]), List.map_eq_nil_iff, hlands, or_iff_left hlong,
      markedNalus, List.flatMap_eq_nil_iff]
    simp only [markedPackNalus, filter_playbackNalus_eq_nil_iff]
    constructor
    · intro hnone pack hpack
      rw [← List.zipIdx_map_fst 0 msg.usedPacks] at hpack
      obtain ⟨q, hq, rfl⟩ := List.mem_map.mp hpack
      exact hnone q hq
    · exact fun hnone pack hpack => hnone pack.1 (List.fst_mem_of_mem_zipIdx hpack)

/-- The packets of a message have one marker, on the last of them. -/
def MarkedOnce (packets : List (SockAddrIn × List UInt8)) : Prop := OnlyLast (markerBits packets)

/-- **A message has its one marker exactly when there is something at its end that is sent.** -/
theorem markedOnce_iff {env : Env} (hkeeps : env.KeepsGate) (hsend : ∀ n, env.sendto n = true)
    (hmmap : ∀ n, env.mmap n = true) {item : Item} {w : World} (hopen : w.GateOpen)
    (h : accepts w.lastReadSeq item.msg = true) :
    MarkedOnce (roundPackets env item w)
      ↔ (playingAt env item w = true → MarkerLands item.msg) := by
  rw [MarkedOnce]
  by_cases hplaying : playingAt env item w = true
  · rw [roundPackets_of_playing hkeeps hsend hmmap hopen h hplaying,
      onlyLast_flatMap (fun p _ => markerFlag_payloads p.1 p.2),
      onlyLast_markedNalus (Bool.and_eq_true_iff.mp h).1]
    exact ⟨fun hlands _ => hlands, fun hlands => hlands hplaying⟩
  · rw [Bool.not_eq_true] at hplaying
    rw [roundPackets_of_not_playing hkeeps h hplaying, hplaying]
    exact iff_of_true onlyLast_nil (by simp)

/-- A pack with a NALU at its end. -/
def markedBytes : List UInt8 := [0x00, 0x00, 0x01, 0x26, 0x01]

/-- A pack with a start code behind its NALU. -/
def unmarkedBytes : List UInt8 := [0x00, 0x00, 0x01, 0x26, 0x01, 0x00, 0x00, 0x01]

theorem length_markedBytes : markedBytes.length < 2 ^ 32 := by decide

theorem length_unmarkedBytes : unmarkedBytes.length < 2 ^ 32 := by decide

/-- The world of a sender with a client that plays. -/
def playingWorld : World where
  rtsp := { gPlay := true, gClientAddr := ⟨7, 5000⟩, gClientAddrSet := true }

theorem markedOnce_sample :
    MarkedOnce (roundPackets {} ⟨1, onePackMsg 1 0 markedBytes length_markedBytes⟩
      playingWorld) := by
  have hlands : MarkerLands (onePackMsg 1 0 markedBytes length_markedBytes) :=
    .inr ⟨onePack markedBytes length_markedBytes, rfl, [0x26, 0x01], rfl, by decide⟩
  exact (markedOnce_iff (fun n s hs => absurd hs (by simp)) (fun _ => rfl) (fun _ => rfl)
    ⟨rfl, rfl⟩ (by decide)).mpr fun _ => hlands

/-- **A start code at the end of the pack.** The message is valid, the gate is open, and the only
packet has no marker. -/
theorem markedOnce_fails :
    accepts playingWorld.lastReadSeq (onePackMsg 1 0 unmarkedBytes length_unmarkedBytes) = true ∧
    playingWorld.GateOpen ∧
    markerBits (roundPackets {} ⟨1, onePackMsg 1 0 unmarkedBytes length_unmarkedBytes⟩
      playingWorld) = [false] :=
  ⟨by decide, ⟨rfl, rfl⟩, by decide⟩

end LittleCore

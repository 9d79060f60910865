import LittleCore.Library.Reassembly
import LittleCore.Rtp.Packet

/-!
# The RTP round trip under send failures

A receiver built to RFC 7798 is `depacketize`: it drops the fixed header, hands over single NALUs
and reassembles fragmentation units. Fed with the packets that `sendto` accepted, it outputs the
NALUs whose `send_h265_nalu_rtp` returned 0.

The proof has two halves. What a NALU is sent as (`exists_outgoing`) is a message of the
reassembly library, whole or cut into a train, and is a fact about bytes alone. How much of it is
sent is a prefix (`sendH265NaluRtp_payloads`), because the send loops stop at the first failure.
`reassemble_sent` puts the two together.
-/

namespace LittleCore

open Library

/-! ### The receiver -/

/-- An RTP payload as RFC 7798 reads it: a single NALU, or a fragmentation unit, from which the
NALU header is rebuilt out of the payload header and the type in the FU header. -/
def parsePayload : List UInt8 → Option (Piece UInt8)
  | b₀ :: b₁ :: rest =>
    if naluTypeBits b₀ = h265FuType then
      match rest with
      | [] => none
      | fu :: data =>
        some (.part (fu &&& (0x80 : UInt8) != 0) (fu &&& (0x40 : UInt8) != 0)
          [(b₀ &&& (0x81 : UInt8)) ||| ((fu &&& (0x3f : UInt8)) <<< 1), b₁] data)
    else if naluTypeBits b₀ < 48 then some (.whole (b₀ :: b₁ :: rest)) else none
  | _ => none

/-- The NALUs an RFC 7798 receiver outputs for a sequence of RTP packets. -/
def depacketize (packets : List (List UInt8)) : List (List UInt8) :=
  reassemble none (packets.filterMap fun p => parsePayload (p.drop rtpHeaderSize))

/-! ### The FU header bits -/

theorem forall_uint8 {p : UInt8 → Prop} (h : ∀ v : BitVec 8, p ⟨v⟩) (b : UInt8) : p b :=
  h b.toBitVec

theorem naluTypeBits_fuIndicator (b : UInt8) :
    naluTypeBits ((b &&& (0x81 : UInt8)) ||| (h265FuType <<< 1)) = h265FuType := by
  revert b
  exact forall_uint8 (by decide)

/-- The FU header byte of `send_h265_nalu_rtp`. -/
def fuHeader (b : UInt8) (first last : Bool) : UInt8 :=
  (if first then 0x80 else 0x00) ||| (if last then 0x40 else 0x00) |||
    (naluTypeBits b &&& (0x3f : UInt8))

theorem fuHeader_first (b : UInt8) (first last : Bool) :
    (fuHeader b first last &&& (0x80 : UInt8) != 0) = first := by
  revert b
  cases first <;> cases last <;> exact forall_uint8 (by decide)

theorem fuHeader_last (b : UInt8) (first last : Bool) :
    (fuHeader b first last &&& (0x40 : UInt8) != 0) = last := by
  revert b
  cases first <;> cases last <;> exact forall_uint8 (by decide)

/-- The receiver rebuilds the first byte of the NALU. -/
theorem rebuild_fuHeader (b : UInt8) (first last : Bool) :
    (((b &&& (0x81 : UInt8)) ||| (h265FuType <<< 1)) &&& (0x81 : UInt8)) |||
      ((fuHeader b first last &&& (0x3f : UInt8)) <<< 1) = b := by
  revert b
  cases first <;> cases last <;> exact forall_uint8 (by decide)

/-- One fragmentation unit, read back. -/
theorem parsePayload_fuPayload {nalu : List UInt8} {b₀ b₁ : UInt8} {rest : List UInt8}
    (hn : nalu = b₀ :: b₁ :: rest) (first last : Bool) (offset size : ℕ) :
    parsePayload (fuPayload nalu first last offset size)
      = some (.part first last [b₀, b₁] ((nalu.drop offset).take size)) := by
  have h₀ : nalu.getD 0 0 = b₀ := by rw [hn]; rfl
  have h₁ : nalu.getD 1 0 = b₁ := by rw [hn]; rfl
  rw [fuPayload, h₀, h₁]
  change parsePayload (((b₀ &&& (0x81 : UInt8)) ||| (h265FuType <<< 1)) :: b₁ ::
    fuHeader b₀ first last :: (nalu.drop offset).take size) = _
  rw [parsePayload, if_pos (naluTypeBits_fuIndicator b₀)]
  simp only [fuHeader_first, fuHeader_last, rebuild_fuHeader]

/-! ### What a NALU is sent as -/

/-- The fragments from `offset` on are a train over some chunks of the rest of the NALU. -/
theorem exists_chunks_fragments {nalu : List UInt8} {b₀ b₁ : UInt8} {rest : List UInt8}
    (hn : nalu = b₀ :: b₁ :: rest) (marker : UInt8) (offset : ℕ) (first : Bool)
    (h : offset < nalu.length) :
    ∃ cs : List (List UInt8), cs ≠ [] ∧ cs.flatten = nalu.drop offset ∧
      (fragments nalu marker offset first).map (fun p => parsePayload p.1)
        = (cutTrain [b₀, b₁] first cs).map some := by
  induction hm : nalu.length - offset using Nat.strongRecOn generalizing offset first with
  | ind n ih =>
    have hpos := fragmentSize_pos h
    rw [fragments]
    simp only [dif_pos h, List.map_cons, parsePayload_fuPayload hn]
    by_cases hlast : offset + fragmentSize nalu offset ≥ nalu.length
    · -- the last fragment: nothing is left behind it
      refine ⟨[(nalu.drop offset).take (fragmentSize nalu offset)], by simp, ?_, ?_⟩
      · have : (nalu.drop offset).length ≤ fragmentSize nalu offset := by
          rw [List.length_drop]
          omega
        simp [List.take_of_length_le this]
      · rw [fragments, dif_neg (by omega)]
        simp [cutTrain, hlast]
    · obtain ⟨cs, hcs, hflat, hmap⟩ := ih _ (by omega) (offset + fragmentSize nalu offset) false
        (by omega) rfl
      obtain ⟨c, cs, rfl⟩ := List.exists_cons_of_ne_nil hcs
      refine ⟨(nalu.drop offset).take (fragmentSize nalu offset) :: c :: cs, by simp, ?_, ?_⟩
      · rw [List.flatten_cons, hflat, ← List.drop_drop]
        exact List.take_append_drop _ _
      · rw [hmap]
        simp [cutTrain, hlast]

/-- **A NALU on the wire is a message of the reassembly library**, whole or cut. -/
theorem exists_outgoing {nalu : List UInt8} (h : 2 ≤ nalu.length)
    (htype : naluTypeBits (nalu.getD 0 0) < 48) (marker : UInt8) :
    ∃ o : Outgoing UInt8, o.Proper ∧ o.content = nalu ∧
      (payloads nalu marker).map (fun p => parsePayload p.1) = o.pieces.map some := by
  obtain ⟨b₀, b₁, rest, hn⟩ : ∃ b₀ b₁ rest, nalu = b₀ :: b₁ :: rest := by
    match nalu, h with
    | b₀ :: b₁ :: rest, _ => exact ⟨b₀, b₁, rest, rfl⟩
  have h₀ : naluTypeBits b₀ < 48 := by simpa [hn] using htype
  rw [payloads]
  split
  · refine ⟨.whole nalu, trivial, rfl, ?_⟩
    have hne : naluTypeBits b₀ ≠ h265FuType := by
      intro he
      rw [he] at h₀
      exact absurd h₀ (by decide)
    simp [hn, parsePayload, Outgoing.pieces, hne, h₀]
  · rename_i hlong
    obtain ⟨cs, hcs, hflat, hmap⟩ := exists_chunks_fragments hn marker 2 true
      (by simp only [rtpMaxPayload] at hlong; omega)
    refine ⟨.cut [b₀, b₁] cs, hcs, ?_, hmap⟩
    rw [Outgoing.content, hflat, hn]
    rfl

/-! ### How much of it is sent -/

/-- The packets that `sendto` accepted. -/
def sentPackets (trace : List Event) : List (List UInt8) :=
  trace.filterMap fun
    | .sendto _ packet true => some packet
    | _ => none

/-- The payloads on the wire, the fixed header dropped. -/
def sentPayloads (w : World) : List (List UInt8) :=
  (sentPackets w.trace).map (List.drop rtpHeaderSize)

/-- The control thread puts nothing on the wire. -/
theorem sentPackets_schedule (env : Env) (w : World) :
    sentPackets (w.schedule env).trace = sentPackets w.trace :=
  (World.schedule_spec env w).1.filterMap_eq fun e he => by cases e <;> first | rfl | exact he.elim

theorem sentPayloads_sendRtpPacket (env : Env) (dest : SockAddrIn) (timestamp ssrc : UInt32)
    (payload : List UInt8) (marker : UInt8) (w : World) :
    sentPayloads (sendRtpPacket env dest timestamp ssrc payload marker w).2
      = sentPayloads w ++
        if (sendRtpPacket env dest timestamp ssrc payload marker w).1 then [payload] else [] := by
  have hsched := sentPackets_schedule env w
  simp only [sendRtpPacket, sendto]
  split
  · simp
  · cases env.sendto w.tick <;>
      simp only [sentPayloads, sentPackets, World.emit, List.filterMap_append,
        List.map_append] at * <;>
      simp [hsched, buildRtpHeader, rtpHeaderSize]

/-- **The packets of a send are a prefix**, all of them exactly if the send returns 0. -/
theorem sendH265NaluRtp_payloads (env : Env) (dest : SockAddrIn) {nalu : List UInt8}
    (h : 2 ≤ nalu.length) (timestamp ssrc : UInt32) (marker : UInt8) (w : World) :
    ∃ k ≤ (payloads nalu marker).length,
      sentPayloads (sendH265NaluRtp env dest nalu timestamp ssrc marker w).2
        = sentPayloads w ++ ((payloads nalu marker).take k).map Prod.fst ∧
      ((sendH265NaluRtp env dest nalu timestamp ssrc marker w).1 = true ↔
        k = (payloads nalu marker).length) := by
  rw [sendH265NaluRtp_eq env dest timestamp ssrc marker w h]
  refine forEach_prefix (fun p _ v hok => ?_) (fun p _ v hfail => ?_) w
  · have := sentPayloads_sendRtpPacket env dest timestamp ssrc p.1 p.2 v
    rw [sendPayload] at hok ⊢
    simpa [hok] using this
  · have := sentPayloads_sendRtpPacket env dest timestamp ssrc p.1 p.2 v
    rw [sendPayload] at hfail ⊢
    simpa [hfail] using this

/-! ### A run of sends -/

/-- The arguments of one call of `send_h265_nalu_rtp`. -/
structure NaluSend where
  dest : SockAddrIn
  nalu : List UInt8
  timestamp : UInt32
  ssrc : UInt32
  marker : UInt8

/-- Calls of `send_h265_nalu_rtp` one after the other, the sequence counter threaded through,
with their results. -/
def sendNalus (env : Env) : List NaluSend → World → List Bool × World
  | [], w => ([], w)
  | s :: sends, w =>
    let r := sendH265NaluRtp env s.dest s.nalu s.timestamp s.ssrc s.marker w
    let rs := sendNalus env sends r.2
    (r.1 :: rs.1, rs.2)

/-- The NALUs whose call returned 0. -/
def delivered (sends : List NaluSend) (results : List Bool) : List (List UInt8) :=
  ((sends.zip results).filter fun x => x.2).map fun x => x.1.nalu

private theorem filterMap_eq_of_map_eq_some {α β : Type*} {f : α → Option β} {l : List α}
    {l' : List β} (h : l.map f = l'.map some) : l.filterMap f = l' := by
  have hid := congrArg (List.filterMap id) h
  rw [List.filterMap_map, List.filterMap_map] at hid
  simpa using hid

/-- What a run of sends puts on the wire, as messages of the reassembly library with the number
of pieces that got through. -/
theorem exists_sent_outgoing (env : Env) (sends : List NaluSend) (w : World)
    (hlen : ∀ s ∈ sends, 2 ≤ s.nalu.length)
    (htype : ∀ s ∈ sends, naluTypeBits (s.nalu.getD 0 0) < 48) :
    ∃ l : List (Outgoing UInt8 × ℕ), (∀ x ∈ l, x.1.Proper) ∧
      (∀ x ∈ l, x.2 ≤ x.1.pieces.length) ∧
      (sentPayloads (sendNalus env sends w).2).filterMap parsePayload
        = (sentPayloads w).filterMap parsePayload ++ (l.flatMap fun x => x.1.pieces.take x.2) ∧
      (l.filter fun x => x.2 == x.1.pieces.length).map (fun x => x.1.content)
        = delivered sends (sendNalus env sends w).1 := by
  induction sends generalizing w with
  | nil => exact ⟨[], by simp, by simp, by simp [sendNalus], rfl⟩
  | cons s sends ih =>
    have hs := hlen s (List.mem_cons_self ..)
    obtain ⟨o, hproper, hcontent, hpieces⟩ :=
      exists_outgoing hs (htype s (List.mem_cons_self ..)) s.marker
    obtain ⟨k, hk, hsent, hiff⟩ :=
      sendH265NaluRtp_payloads env s.dest hs s.timestamp s.ssrc s.marker w
    obtain ⟨l, hl₁, hl₂, hl₃, hl₄⟩ := ih
      (sendH265NaluRtp env s.dest s.nalu s.timestamp s.ssrc s.marker w).2
      (fun t ht => hlen t (List.mem_cons_of_mem _ ht))
      (fun t ht => htype t (List.mem_cons_of_mem _ ht))
    have hcount : (payloads s.nalu s.marker).length = o.pieces.length := by
      simpa using congrArg List.length hpieces
    have hparse : (((payloads s.nalu s.marker).take k).map Prod.fst).filterMap parsePayload
        = o.pieces.take k := by
      have : (((payloads s.nalu s.marker).take k).map Prod.fst).map parsePayload
          = (o.pieces.take k).map some := by
        rw [List.map_map, List.map_take, List.map_take, ← hpieces]
        rfl
      exact filterMap_eq_of_map_eq_some this
    refine ⟨(o, k) :: l, ?_, ?_, ?_, ?_⟩
    · simpa using ⟨hproper, fun o' k' h' => hl₁ (o', k') h'⟩
    · intro x hx
      rcases List.mem_cons.mp hx with rfl | hx
      · exact hcount ▸ hk
      · exact hl₂ x hx
    · rw [sendNalus, hl₃, hsent, List.filterMap_append, hparse, List.flatMap_cons,
        List.append_assoc]
    · rw [sendNalus, delivered, List.zip_cons_cons]
      cases hr : (sendH265NaluRtp env s.dest s.nalu s.timestamp s.ssrc s.marker w).1 with
      | true =>
        have hfull : k = o.pieces.length := hcount ▸ hiff.mp hr
        rw [List.filter_cons_of_pos (by simpa using hfull), List.filter_cons_of_pos rfl,
          List.map_cons, List.map_cons, hl₄, hcontent]
        rfl
      | false =>
        have hpart : k ≠ o.pieces.length := fun he => by
          rw [← hcount] at he
          simp [hiff.mpr he] at hr
        rw [List.filter_cons_of_neg (by simpa using hpart), List.filter_cons_of_neg (by simp), hl₄]
        rfl

/-- **The round trip.** Whatever `sendto` does, an RFC 7798 receiver that is fed with the packets
sent by a run of `send_h265_nalu_rtp` calls outputs the NALUs whose call returned 0, byte for byte
and in order. -/
theorem depacketize_sendNalus (env : Env) (sends : List NaluSend) (w : World)
    (hlen : ∀ s ∈ sends, 2 ≤ s.nalu.length)
    (htype : ∀ s ∈ sends, naluTypeBits (s.nalu.getD 0 0) < 48) (hw : w.trace = []) :
    depacketize (sentPackets (sendNalus env sends w).2.trace)
      = delivered sends (sendNalus env sends w).1 := by
  obtain ⟨l, hproper, hle, hsent, hdelivered⟩ := exists_sent_outgoing env sends w hlen htype
  have hnone : sentPayloads w = [] := by simp [sentPayloads, sentPackets, hw]
  rw [hnone, List.filterMap_nil, List.nil_append] at hsent
  rw [depacketize, ← hdelivered, ← reassemble_sent l hproper hle none, ← hsent, sentPayloads,
    List.filterMap_map]
  rfl

/-- The first of two sends fails; the receiver outputs the second NALU. -/
theorem depacketize_sendNalus_second :
    depacketize (sentPackets (sendNalus { sendto := fun n => n != 0 }
      [⟨⟨0x0A000001, 5000⟩, [0x40, 0x01], 0, 0, 0⟩,
        ⟨⟨0x0A000001, 5000⟩, [0x26, 0x01, 0x07], 0, 0, 1⟩]
      {}).2.trace) = [[0x26, 0x01, 0x07]] :=
  (depacketize_sendNalus _ _ _ (by decide) (by decide) rfl).trans (by decide)

end LittleCore

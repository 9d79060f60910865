import LittleCore.Rtp.RoundTrip

/-!
# The shape of the fragments

A NALU of more than 1200 bytes is sent in fragments of 1197 data bytes, and what is left over in
one more. With the two bytes of the NALU header gone there is always a second fragment, so none is
the first and the last at the same time, and the last one is never empty.

## Main results

* `sendH265NaluRtp_puts` — the packets of a send while `sendto` succeeds
* `fragments_eq` — the fragments, one for each multiple of 1197
* `sendH265NaluRtp_fragments` — their shape, for every size
-/

namespace LittleCore

open Library

/-! ### The packets of a send -/

/-- The target and the bytes of a packet given to `sendto`. -/
def Event.packet? : Event → Option (SockAddrIn × List UInt8)
  | .sendto dest packet _ => some (dest, packet)
  | _ => none

/-- The packets given to `sendto`. -/
def wirePackets (trace : List Event) : List (SockAddrIn × List UInt8) :=
  trace.filterMap Event.packet?

/-- The packets for payloads and their markers, numbered from `seq` on. -/
def packetsFrom (timestamp ssrc : UInt32) : UInt16 → List (List UInt8 × UInt8) → List (List UInt8)
  | _, [] => []
  | seq, p :: ps =>
    (buildRtpHeader seq timestamp ssrc p.2 ++ p.1) :: packetsFrom timestamp ssrc (seq + 1) ps

theorem length_packetsFrom (timestamp ssrc : UInt32) (seq : UInt16)
    (ps : List (List UInt8 × UInt8)) :
    (packetsFrom timestamp ssrc seq ps).length = ps.length := by
  induction ps generalizing seq with
  | nil => rfl
  | cons p ps ih => rw [packetsFrom, List.length_cons, ih, List.length_cons]

theorem packetsFrom_append (timestamp ssrc : UInt32) (seq : UInt16)
    (l r : List (List UInt8 × UInt8)) :
    packetsFrom timestamp ssrc seq (l ++ r) = packetsFrom timestamp ssrc seq l ++
      packetsFrom timestamp ssrc (seq + .ofNat l.length) r := by
  induction l generalizing seq with
  | nil => exact congrArg (packetsFrom timestamp ssrc · r) (UInt16.add_zero seq).symm
  | cons p l ih =>
    rw [List.cons_append, packetsFrom, packetsFrom, ih, List.length_cons, Nat.add_comm,
      UInt16.ofNat_add, UInt16.add_assoc]
    rfl

theorem getElem?_packetsFrom (timestamp ssrc : UInt32) (seq : UInt16)
    (ps : List (List UInt8 × UInt8)) (i : ℕ) :
    (packetsFrom timestamp ssrc seq ps)[i]? = ps[i]?.map fun p =>
      buildRtpHeader (seq + .ofNat i) timestamp ssrc p.2 ++ p.1 := by
  induction ps generalizing seq i with
  | nil => rfl
  | cons p ps ih =>
    rw [packetsFrom]
    rcases i with _ | i
    · simp
    · rw [List.getElem?_cons_succ, List.getElem?_cons_succ, ih, Nat.add_comm i 1,
        UInt16.ofNat_add, UInt16.add_assoc]
      rfl

theorem wirePackets_schedule (env : Env) (w : World) :
    wirePackets (w.schedule env).trace = wirePackets w.trace :=
  (World.schedule_spec env w).1.filterMap_eq fun e he => by cases e <;> first | rfl | exact he.elim

/-- What a send that goes well does: its packets are on the wire and have used up their numbers. -/
structure World.Puts (dest : SockAddrIn) (timestamp ssrc : UInt32) (ps : List (List UInt8 × UInt8))
    (w w' : World) : Prop where
  packets : wirePackets w'.trace
    = wirePackets w.trace ++ (packetsFrom timestamp ssrc w.seq ps).map (dest, ·)
  seq : w'.seq = w.seq + .ofNat ps.length

namespace World.Puts

variable {dest : SockAddrIn} {timestamp ssrc : UInt32} {l r : List (List UInt8 × UInt8)}
  {w w' w'' : World}

theorem of_eq (hpackets : wirePackets w'.trace = wirePackets w.trace) (hseq : w'.seq = w.seq) :
    Puts dest timestamp ssrc [] w w' :=
  ⟨by rw [hpackets]; exact (List.append_nil _).symm, by rw [hseq]; exact (UInt16.add_zero _).symm⟩

theorem trans (h₁ : Puts dest timestamp ssrc l w w') (h₂ : Puts dest timestamp ssrc r w' w'') :
    Puts dest timestamp ssrc (l ++ r) w w'' := by
  constructor
  · rw [h₂.packets, h₁.packets, h₁.seq, packetsFrom_append, List.map_append, List.append_assoc]
  · rw [h₂.seq, h₁.seq, List.length_append, UInt16.ofNat_add, UInt16.add_assoc]

end World.Puts

/-- One packet that gets out. -/
theorem sendRtpPacket_puts {env : Env} (hsend : ∀ n, env.sendto n = true) (dest : SockAddrIn)
    (timestamp ssrc : UInt32) {payload : List UInt8} (hfit : payload.length ≤ rtpMaxPayload)
    (marker : UInt8) (w : World) :
    (sendRtpPacket env dest timestamp ssrc payload marker w).1 = true ∧
      World.Puts dest timestamp ssrc [(payload, marker)] w
        (sendRtpPacket env dest timestamp ssrc payload marker w).2 := by
  have hsmall : ¬ rtpHeaderSize + payload.length > rtpPacketMaxSize := by
    simp only [rtpHeaderSize, rtpPacketMaxSize, rtpMaxPayload] at *
    omega
  have hpackets : ∀ packet, wirePackets ((w.schedule env).emit (.sendto dest packet true)).trace
      = wirePackets w.trace ++ [(dest, packet)] := by
    intro packet
    rw [← wirePackets_schedule env w, World.emit, wirePackets, List.filterMap_append]
    rfl
  have hseq : (w.schedule env).seq + 1 = w.seq + 1 := by rw [World.seq_schedule]
  simp only [sendRtpPacket, if_neg hsmall, sendto, hsend]
  exact ⟨trivial, hpackets _, hseq⟩

/-- The send loop while `sendto` succeeds. -/
theorem forEach_puts {env : Env} (hsend : ∀ n, env.sendto n = true) (dest : SockAddrIn)
    (timestamp ssrc : UInt32) {ps : List (List UInt8 × UInt8)}
    (hfit : ∀ p ∈ ps, p.1.length ≤ rtpMaxPayload) (w : World) :
    (forEach (sendPayload env dest timestamp ssrc) ps w).1 = true ∧
      World.Puts dest timestamp ssrc ps w
        (forEach (sendPayload env dest timestamp ssrc) ps w).2 := by
  obtain ⟨hok, -, hputs⟩ := forEach_collects (I := fun _ => True) (g := fun p => [p])
    (R := World.Puts dest timestamp ssrc) (fun v _ => .of_eq rfl rfl) .trans
    (fun p hp v _ => by
      obtain ⟨hok, hputs⟩ := sendRtpPacket_puts hsend dest timestamp ssrc (hfit p hp) p.2 v
      exact ⟨hok, trivial, hputs⟩) (s := w) trivial
  rw [List.flatMap_singleton'] at hputs
  exact ⟨hok, hputs⟩

/-- **The packets of a send.** -/
theorem sendH265NaluRtp_puts {env : Env} (hsend : ∀ n, env.sendto n = true) (dest : SockAddrIn)
    {nalu : List UInt8} (h : 2 ≤ nalu.length) (timestamp ssrc : UInt32) (marker : UInt8)
    (w : World) :
    (sendH265NaluRtp env dest nalu timestamp ssrc marker w).1 = true ∧
      World.Puts dest timestamp ssrc (payloads nalu marker) w
        (sendH265NaluRtp env dest nalu timestamp ssrc marker w).2 := by
  rw [sendH265NaluRtp_eq env dest timestamp ssrc marker w h]
  exact forEach_puts hsend dest timestamp ssrc length_le_of_mem_payloads w

/-! ### The fragments -/

/-- How many fragments of at most 1197 bytes the NALU is cut into, without its header. -/
def fragmentCount (nalu : List UInt8) : ℕ :=
  (nalu.length - 2 + (maxFragmentData - 1)) / maxFragmentData

/-- Fragment number `i` out of `k`. -/
def fragment (nalu : List UInt8) (marker : UInt8) (k i : ℕ) : List UInt8 × UInt8 :=
  (fuPayload nalu (i == 0) (i + 1 == k) (2 + maxFragmentData * i) maxFragmentData,
    if i + 1 = k then marker else 0)

theorem fragments_of_le {nalu : List UInt8} {marker : UInt8} {offset : ℕ} {first : Bool}
    (h : nalu.length ≤ offset) : fragments nalu marker offset first = [] := by
  rw [fragments, dif_neg (by omega)]

/-- A fragment takes `fragment_size` bytes, and there are no more than that left. -/
theorem fuPayload_fragmentSize (nalu : List UInt8) (first last : Bool) (offset : ℕ) :
    fuPayload nalu first last offset (fragmentSize nalu offset)
      = fuPayload nalu first last offset maxFragmentData := by
  have htake : (nalu.drop offset).take (fragmentSize nalu offset)
      = (nalu.drop offset).take maxFragmentData := by
    rw [fragmentSize]
    split
    · rfl
    · rw [List.take_of_length_le (by simp), List.take_of_length_le (by simp; omega)]
  rw [fuPayload, htake, fuPayload]

/-- The loop from fragment `i` on. -/
theorem fragments_from {nalu : List UInt8} (marker : UInt8) {k : ℕ}
    (hlo : 2 + maxFragmentData * k < nalu.length + maxFragmentData)
    (hhi : nalu.length ≤ 2 + maxFragmentData * k) (j : ℕ) {i : ℕ} (hk : i + j = k) :
    fragments nalu marker (2 + maxFragmentData * i) (i == 0)
      = (List.range' i j).map (fragment nalu marker k) := by
  have hsize : maxFragmentData = 1197 := rfl
  rw [hsize] at hlo hhi
  induction j generalizing i with
  | zero =>
    obtain rfl : i = k := hk
    exact fragments_of_le hhi
  | succ j ih =>
    have hlt : 2 + maxFragmentData * i < nalu.length := by
      rw [hsize]
      omega
    have hlast : (2 + maxFragmentData * i + fragmentSize nalu (2 + maxFragmentData * i)
        ≥ nalu.length) ↔ i + 1 = k := by
      rw [fragmentSize, hsize]
      split <;> omega
    have hnext : fragments nalu marker
        (2 + maxFragmentData * i + fragmentSize nalu (2 + maxFragmentData * i)) false
        = (List.range' (i + 1) j).map (fragment nalu marker k) := by
      rcases j with _ | j
      · exact fragments_of_le (hlast.mpr hk)
      · have hfull : fragmentSize nalu (2 + maxFragmentData * i) = maxFragmentData :=
          if_pos (by rw [hsize]; omega)
        rw [hfull, ← ih (by omega), Nat.mul_add, Nat.mul_one, Nat.add_assoc]
        rfl
    rw [fragments, dif_pos hlt, List.range'_succ, List.map_cons, ← hnext]
    dsimp only
    rw [fuPayload_fragmentSize, fragment]
    simp only [hlast, decide_eq_true_eq]
    rfl

/-! ### Their shape -/

/-- The payload of fragment `i` out of `k`, as RFC 7798 has it. -/
structure IsFragment (nalu : List UInt8) (k i : ℕ) (payload : List UInt8) : Prop where
  type : naluTypeBits (payload.getD 0 0) = 49
  /-- The F bit, and the upper bit of the layer id. -/
  kept : payload.getD 0 0 &&& (0x81 : UInt8) = nalu.getD 0 0 &&& (0x81 : UInt8)
  /-- The rest of the layer id, and the TID. -/
  second : payload.getD 1 0 = nalu.getD 1 0
  start : (payload.getD 2 0 &&& (0x80 : UInt8) != 0) = (i == 0)
  stop : (payload.getD 2 0 &&& (0x40 : UInt8) != 0) = (i + 1 == k)
  naluType : payload.getD 2 0 &&& (0x3f : UInt8) = naluTypeBits (nalu.getD 0 0)
  data : payload.drop 3 = (nalu.drop (2 + 1197 * i)).take 1197
  length_le : payload.length ≤ 1200
  full : i + 1 < k → (payload.drop 3).length = 1197
  pos : 1 ≤ (payload.drop 3).length

theorem fuIndicator_kept (b : UInt8) :
    ((b &&& (0x81 : UInt8)) ||| (h265FuType <<< 1)) &&& (0x81 : UInt8) = b &&& (0x81 : UInt8) := by
  revert b
  exact forall_uint8 (by decide)

theorem fuHeader_type (b : UInt8) (first last : Bool) :
    fuHeader b first last &&& (0x3f : UInt8) = naluTypeBits b := by
  revert b
  cases first <;> cases last <;> exact forall_uint8 (by decide)

theorem fragment_isFragment {nalu : List UInt8} (marker : UInt8) {k i : ℕ}
    (hlo : 2 + maxFragmentData * k < nalu.length + maxFragmentData)
    (hhi : nalu.length ≤ 2 + maxFragmentData * k) (hi : i < k) :
    IsFragment nalu k i (fragment nalu marker k i).1 := by
  have hsize : maxFragmentData = 1197 := rfl
  have hdata : (fragment nalu marker k i).1.drop 3 = (nalu.drop (2 + 1197 * i)).take 1197 := rfl
  have hlen : ((nalu.drop (2 + 1197 * i)).take 1197).length
      = min 1197 (nalu.length - (2 + 1197 * i)) := by
    rw [List.length_take, List.length_drop]
  rw [hsize] at hlo hhi
  exact {
    type := naluTypeBits_fuIndicator _
    kept := fuIndicator_kept _
    second := rfl
    start := fuHeader_first ..
    stop := fuHeader_last ..
    naluType := fuHeader_type ..
    data := hdata
    length_le := by
      have hdrop := congrArg List.length hdata
      rw [List.length_drop, hlen] at hdrop
      omega
    full := fun hlast => by
      rw [hdata, hlen]
      omega
    pos := by
      rw [hdata, hlen]
      omega }

/-- The fragments of a NALU that does not fit one packet. -/
theorem fragments_eq {nalu : List UInt8} (marker : UInt8) (h : rtpMaxPayload < nalu.length) :
    fragments nalu marker 2 true
        = (List.range (fragmentCount nalu)).map (fragment nalu marker (fragmentCount nalu)) ∧
      2 ≤ fragmentCount nalu ∧
      ∀ i < fragmentCount nalu,
        IsFragment nalu (fragmentCount nalu) i (fragment nalu marker (fragmentCount nalu) i).1 := by
  have hsize : maxFragmentData = 1197 := rfl
  have hcount : fragmentCount nalu = (nalu.length - 2 + 1196) / 1197 := rfl
  have hmax : rtpMaxPayload = 1200 := rfl
  have hlo : 2 + maxFragmentData * fragmentCount nalu < nalu.length + maxFragmentData := by
    rw [hsize]
    omega
  have hhi : nalu.length ≤ 2 + maxFragmentData * fragmentCount nalu := by
    rw [hsize]
    omega
  refine ⟨?_, by omega, fun i hi => fragment_isFragment marker hlo hhi hi⟩
  rw [List.range_eq_range']
  exact fragments_from marker hlo hhi (fragmentCount nalu) (Nat.zero_add _)

/-- **The fragments are well formed for every size.** -/
theorem sendH265NaluRtp_fragments {env : Env} (hsend : ∀ n, env.sendto n = true)
    (dest : SockAddrIn) {nalu : List UInt8} (h : 2 ≤ nalu.length) (timestamp ssrc : UInt32)
    (marker : UInt8) (w : World) :
    (sendH265NaluRtp env dest nalu timestamp ssrc marker w).1 = true ∧
      (∃ packets : List (List UInt8),
        wirePackets (sendH265NaluRtp env dest nalu timestamp ssrc marker w).2.trace
          = wirePackets w.trace ++ packets.map (dest, ·) ∧
        (nalu.length ≤ 1200 → packets = [buildRtpHeader w.seq timestamp ssrc marker ++ nalu]) ∧
        (1200 < nalu.length → packets.length = fragmentCount nalu ∧ 2 ≤ packets.length ∧
          ∀ i packet, packets[i]? = some packet → ∃ payload,
            packet = buildRtpHeader (w.seq + .ofNat i) timestamp ssrc
              (if i + 1 = packets.length then marker else 0) ++ payload ∧
            IsFragment nalu packets.length i payload)) ∧
      (∀ (env : Env) (w : World), sendH265NaluRtp env dest nalu timestamp ssrc marker w
        = forEach (sendPayload env dest timestamp ssrc) (payloads nalu marker) w) ∧
      ∀ p ∈ payloads nalu marker, rtpHeaderSize + p.1.length ≤ rtpPacketMaxSize := by
  obtain ⟨hok, hputs⟩ := sendH265NaluRtp_puts hsend dest h timestamp ssrc marker w
  refine ⟨hok, ⟨_, hputs.packets, fun hsmall => ?_, fun hlarge => ?_⟩,
    fun env w => sendH265NaluRtp_eq env dest timestamp ssrc marker w h, fun p hp => ?_⟩
  · have hpayloads : payloads nalu marker = [(nalu, marker)] := if_pos hsmall
    rw [hpayloads]
    rfl
  · obtain ⟨hfragments, htwo, hshape⟩ := @fragments_eq nalu marker hlarge
    have hpayloads : payloads nalu marker = fragments nalu marker 2 true :=
      if_neg (Nat.not_le.mpr hlarge)
    have hcount : (packetsFrom timestamp ssrc w.seq (payloads nalu marker)).length
        = fragmentCount nalu := by
      rw [length_packetsFrom, hpayloads, hfragments, List.length_map, List.length_range]
    refine ⟨hcount, by omega, fun i packet hpacket => ?_⟩
    have hi : i < fragmentCount nalu := by
      rw [← hcount]
      exact (List.getElem?_eq_some_iff.mp hpacket).1
    rw [getElem?_packetsFrom, hpayloads, hfragments, List.getElem?_map,
      List.getElem?_range hi] at hpacket
    rw [hcount, ← Option.some.inj hpacket]
    exact ⟨_, rfl, hshape i hi⟩
  · have hle := length_le_of_mem_payloads p hp
    simp only [rtpHeaderSize, rtpPacketMaxSize, rtpMaxPayload] at hle ⊢
    omega

/-- One byte more than fits a packet makes a second one. -/
theorem sendH265NaluRtp_fragments_two : ∃ packets : List (List UInt8),
    wirePackets (sendH265NaluRtp {} ⟨7, 5000⟩ (List.replicate 1201 0x26) 0 0 1 {}).2.trace
      = packets.map (⟨7, 5000⟩, ·) ∧ packets.length = 2 := by
  have hlen : (List.replicate 1201 (0x26 : UInt8)).length = 1201 := List.length_replicate
  obtain ⟨-, ⟨packets, hpackets, -, hlarge⟩, -⟩ := @sendH265NaluRtp_fragments {}
    (fun _ => rfl) ⟨7, 5000⟩ (List.replicate 1201 0x26) (by omega) 0 0 1 {}
  refine ⟨packets, hpackets, (hlarge (by omega)).1.trans ?_⟩
  rw [fragmentCount, hlen]
  rfl

end LittleCore

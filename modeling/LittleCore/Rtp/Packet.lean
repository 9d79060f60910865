import LittleCore.Library.Fallible
import LittleCore.World
import Mathlib.Data.List.Basic

/-!
# RTP packets and H.265 fragmentation

`build_rtp_header`, `send_rtp_packet` and `send_h265_nalu_rtp` of `rtp.c`.

The fragment loop of `send_h265_nalu_rtp` is `sendFragments`, which carries the loop's `offset`
and `first`. What it would send is a pure function of the NALU, `fragments`, and
`sendFragments_eq` says that the loop is `forEach` over that list. From there on everything about
a send is a statement about a list of payloads and the rule for loops that stop at the first
failure.

## Main results

* `sendH265NaluRtp_eq` — a send is `forEach` over `payloads`
* `sendH265NaluRtp_sends` — a send lets the control thread run and puts packets on the wire, and
  does nothing else
* `sendH265NaluRtp_ok` — a send of a NALU of two bytes or more succeeds if `sendto` does
-/

namespace LittleCore

open Library

def rtpPayloadType : UInt8 := 96

def rtpHeaderSize : ℕ := 12

def rtpPacketMaxSize : ℕ := 1500

def rtpMaxPayload : ℕ := 1200

def h265FuHeaderSize : ℕ := 3

def h265FuType : UInt8 := 49

/-- `RTP_CLOCK_RATE / VIDEO_FPS`. -/
def rtpTsStep : UInt32 := 90000 / 15

def buildRtpHeader (seq : UInt16) (timestamp ssrc : UInt32) (marker : UInt8) : List UInt8 :=
  [0x80, (if marker ≠ 0 then 0x80 else 0x00) ||| (rtpPayloadType &&& 0x7f),
    ((seq >>> 8) &&& 0xff).toUInt8, (seq &&& 0xff).toUInt8,
    ((timestamp >>> 24) &&& 0xff).toUInt8, ((timestamp >>> 16) &&& 0xff).toUInt8,
    ((timestamp >>> 8) &&& 0xff).toUInt8, (timestamp &&& 0xff).toUInt8,
    ((ssrc >>> 24) &&& 0xff).toUInt8, ((ssrc >>> 16) &&& 0xff).toUInt8,
    ((ssrc >>> 8) &&& 0xff).toUInt8, (ssrc &&& 0xff).toUInt8]

/-- The six type bits of a NALU's first byte. -/
def naluTypeBits (b : UInt8) : UInt8 := (b >>> 1) &&& (0x3f : UInt8)

/-- `h265_nalu_type`, `none` where it returns `-1`. -/
def h265NaluType (nalu : List UInt8) : Option UInt8 :=
  if nalu.length < 2 then none else some (naluTypeBits (nalu.getD 0 0))

/-! ### Sending one packet -/

/-- The `sendto` call, before which the control thread may run. -/
def sendto (env : Env) (dest : SockAddrIn) (packet : List UInt8) (w : World) : Bool × World :=
  let ok := env.sendto w.tick
  (ok, (w.schedule env).emit (.sendto dest packet ok))

def sendRtpPacket (env : Env) (dest : SockAddrIn) (timestamp ssrc : UInt32)
    (payload : List UInt8) (marker : UInt8) (w : World) : Bool × World :=
  if rtpHeaderSize + payload.length > rtpPacketMaxSize then (false, w)
  else
    match sendto env dest (buildRtpHeader w.seq timestamp ssrc marker ++ payload) w with
    | (false, w) => (false, w)
    | (true, w) => (true, { w with seq := w.seq + 1 })

/-! ### Fragmentation -/

/-- `max_fragment_data`. -/
def maxFragmentData : ℕ := rtpMaxPayload - h265FuHeaderSize

/-- The payload of one fragmentation unit: the two payload header bytes, the FU header, and the
`fragmentSize` bytes of the NALU from `offset` on. -/
def fuPayload (nalu : List UInt8) (first last : Bool) (offset fragmentSize : ℕ) : List UInt8 :=
  [(nalu.getD 0 0 &&& (0x81 : UInt8)) ||| (h265FuType <<< 1),
    nalu.getD 1 0,
    (if first then 0x80 else 0x00) ||| (if last then 0x40 else 0x00) |||
      (naluTypeBits (nalu.getD 0 0) &&& (0x3f : UInt8))]
    ++ (nalu.drop offset).take fragmentSize

/-- The size of the fragment at `offset`. -/
def fragmentSize (nalu : List UInt8) (offset : ℕ) : ℕ :=
  if nalu.length - offset > maxFragmentData then maxFragmentData else nalu.length - offset

theorem fragmentSize_pos {nalu : List UInt8} {offset : ℕ} (h : offset < nalu.length) :
    0 < fragmentSize nalu offset := by
  rw [fragmentSize]
  split
  · decide
  · omega

/-- The fragment loop of `send_h265_nalu_rtp`. -/
def sendFragments (env : Env) (dest : SockAddrIn) (nalu : List UInt8) (timestamp ssrc : UInt32)
    (marker : UInt8) (offset : ℕ) (first : Bool) (w : World) : Bool × World :=
  if _h : offset < nalu.length then
    let size := fragmentSize nalu offset
    let last := decide (offset + size ≥ nalu.length)
    match sendRtpPacket env dest timestamp ssrc (fuPayload nalu first last offset size)
        (if last then marker else 0) w with
    | (false, w) => (false, w)
    | (true, w) =>
      sendFragments env dest nalu timestamp ssrc marker (offset + size) false w
  else (true, w)
termination_by nalu.length - offset
decreasing_by
  have := fragmentSize_pos _h
  omega

def sendH265NaluRtp (env : Env) (dest : SockAddrIn) (nalu : List UInt8)
    (timestamp ssrc : UInt32) (marker : UInt8) (w : World) : Bool × World :=
  if nalu.length < 2 then (false, w)
  else if nalu.length ≤ rtpMaxPayload then
    sendRtpPacket env dest timestamp ssrc nalu marker w
  else sendFragments env dest nalu timestamp ssrc marker 2 true w

/-! ### What a send puts on the wire

The fragment loop only chooses payloads and markers; it never looks at what the network did
except to stop. -/

/-- The payloads of the fragment loop from `offset` on, each with its marker. -/
def fragments (nalu : List UInt8) (marker : UInt8) (offset : ℕ) (first : Bool) :
    List (List UInt8 × UInt8) :=
  if _h : offset < nalu.length then
    let size := fragmentSize nalu offset
    let last := decide (offset + size ≥ nalu.length)
    (fuPayload nalu first last offset size, if last then marker else 0) ::
      fragments nalu marker (offset + size) false
  else []
termination_by nalu.length - offset
decreasing_by
  have := fragmentSize_pos _h
  omega

/-- The payloads a NALU of at least two bytes is sent as. -/
def payloads (nalu : List UInt8) (marker : UInt8) : List (List UInt8 × UInt8) :=
  if nalu.length ≤ rtpMaxPayload then [(nalu, marker)] else fragments nalu marker 2 true

/-- The body of the send loops: one payload, one packet. -/
def sendPayload (env : Env) (dest : SockAddrIn) (timestamp ssrc : UInt32)
    (p : List UInt8 × UInt8) (w : World) : Bool × World :=
  sendRtpPacket env dest timestamp ssrc p.1 p.2 w

theorem sendFragments_eq (env : Env) (dest : SockAddrIn) (nalu : List UInt8)
    (timestamp ssrc : UInt32) (marker : UInt8) (offset : ℕ) (first : Bool) (w : World) :
    sendFragments env dest nalu timestamp ssrc marker offset first w
      = forEach (sendPayload env dest timestamp ssrc) (fragments nalu marker offset first) w := by
  induction hn : nalu.length - offset using Nat.strongRecOn generalizing offset first w with
  | ind n ih =>
    rw [sendFragments, fragments]
    by_cases h : offset < nalu.length
    · have hpos := fragmentSize_pos h
      simp only [dif_pos h, forEach, sendPayload]
      split
      · rename_i heq
        rw [heq]
      · rename_i heq
        rw [heq]
        exact ih _ (by omega) _ _ _ rfl
    · simp [dif_neg h]

theorem sendH265NaluRtp_eq (env : Env) (dest : SockAddrIn) {nalu : List UInt8}
    (timestamp ssrc : UInt32) (marker : UInt8) (w : World) (h : 2 ≤ nalu.length) :
    sendH265NaluRtp env dest nalu timestamp ssrc marker w
      = forEach (sendPayload env dest timestamp ssrc) (payloads nalu marker) w := by
  rw [sendH265NaluRtp, if_neg (by omega), payloads]
  split
  · simp only [forEach, sendPayload]
    split <;> simp_all
  · exact sendFragments_eq ..

/-! ### The frame of a send -/

theorem sendto_sends (env : Env) (dest : SockAddrIn) (packet : List UInt8) (w : World) :
    World.Sends env dest w (sendto env dest packet w).2 := by
  refine (World.sends_schedule env dest w).trans ⟨?_, rfl, Nat.le_refl _, fun _ => rfl⟩
  exact Grows.single ⟨rfl, w.tick, rfl⟩ _

theorem sendRtpPacket_sends (env : Env) (dest : SockAddrIn) (timestamp ssrc : UInt32)
    (payload : List UInt8) (marker : UInt8) (w : World) :
    World.Sends env dest w (sendRtpPacket env dest timestamp ssrc payload marker w).2 := by
  rw [sendRtpPacket]
  split
  · exact .refl env dest w
  · have h := sendto_sends env dest (buildRtpHeader w.seq timestamp ssrc marker ++ payload) w
    split
    · rename_i heq
      rwa [heq] at h
    · rename_i heq
      rw [heq] at h
      exact h.trans ⟨Grows.refl _ _, rfl, Nat.le_refl _, fun _ => rfl⟩

/-- **A send reaches the wire only.** -/
theorem sendH265NaluRtp_sends (env : Env) (dest : SockAddrIn) (nalu : List UInt8)
    (timestamp ssrc : UInt32) (marker : UInt8) (w : World) :
    World.Sends env dest w (sendH265NaluRtp env dest nalu timestamp ssrc marker w).2 := by
  by_cases h : 2 ≤ nalu.length
  · rw [sendH265NaluRtp_eq env dest timestamp ssrc marker w h]
    exact forEach_induct (.refl env dest) .trans
      (fun p _ v => sendRtpPacket_sends env dest timestamp ssrc p.1 p.2 v) w
  · rw [sendH265NaluRtp, if_pos (by omega)]
    exact .refl env dest w

/-- What the control thread, a `sendto` and the sequence number leave alone, a send does. -/
theorem sendH265NaluRtp_keeps {env : Env} {I : World → Prop}
    (hschedule : ∀ w, I w → I (w.schedule env))
    (hsendto : ∀ w dest packet ok, I w → I (w.emit (.sendto dest packet ok)))
    (hseq : ∀ (w : World) seq, I w → I { w with seq := seq }) (dest : SockAddrIn)
    (nalu : List UInt8) (timestamp ssrc : UInt32) (marker : UInt8) {w : World} (h : I w) :
    I (sendH265NaluRtp env dest nalu timestamp ssrc marker w).2 := by
  by_cases hlen : 2 ≤ nalu.length
  · rw [sendH265NaluRtp_eq env dest timestamp ssrc marker w hlen]
    refine forEach_inv (I := fun _ v => I v) (fun p _ v hv => ?_) h
    have hsent := fun packet ok => hsendto _ dest packet ok (hschedule v hv)
    rw [sendPayload, sendRtpPacket]
    split
    · exact hv
    · split <;> rename_i heq <;> rw [sendto, Prod.mk.injEq] at heq <;> rw [← heq.2]
      · exact hsent _ _
      · exact hseq _ _ (hsent _ _)
  · rw [sendH265NaluRtp, if_pos (by omega)]
    exact h

/-! ### Payload sizes

Every payload fits a packet, so `RTP packet too large` is never the reason for a failure. -/

theorem length_fuPayload (nalu : List UInt8) (first last : Bool) (offset : ℕ) :
    (fuPayload nalu first last offset (fragmentSize nalu offset)).length ≤ rtpMaxPayload := by
  have : fragmentSize nalu offset ≤ maxFragmentData := by
    rw [fragmentSize]
    split <;> omega
  simp only [fuPayload, List.length_append, List.length_cons, List.length_nil, List.length_take]
  simp only [maxFragmentData, rtpMaxPayload, h265FuHeaderSize] at *
  omega

theorem length_le_of_mem_fragments {nalu : List UInt8} {marker : UInt8} {offset : ℕ}
    {first : Bool} : ∀ p ∈ fragments nalu marker offset first, p.1.length ≤ rtpMaxPayload := by
  induction hn : nalu.length - offset using Nat.strongRecOn generalizing offset first with
  | ind n ih =>
    intro p hp
    rw [fragments] at hp
    by_cases h : offset < nalu.length
    · have hpos := fragmentSize_pos h
      simp only [dif_pos h, List.mem_cons] at hp
      rcases hp with rfl | hp
      · exact length_fuPayload ..
      · exact ih _ (by omega) rfl p hp
    · simp [dif_neg h] at hp

theorem length_le_of_mem_payloads {nalu : List UInt8} {marker : UInt8} :
    ∀ p ∈ payloads nalu marker, p.1.length ≤ rtpMaxPayload := by
  intro p hp
  rw [payloads] at hp
  split at hp
  · rw [List.mem_singleton.mp hp]
    assumption
  · exact length_le_of_mem_fragments p hp

/-- With a payload that fits, the result of a packet is the result of `sendto`. -/
theorem sendRtpPacket_fst {payload : List UInt8} (h : payload.length ≤ rtpMaxPayload) (env : Env)
    (dest : SockAddrIn) (timestamp ssrc : UInt32) (marker : UInt8) (w : World) :
    (sendRtpPacket env dest timestamp ssrc payload marker w).1 = env.sendto w.tick := by
  have : ¬ rtpHeaderSize + payload.length > rtpPacketMaxSize := by
    simp only [rtpHeaderSize, rtpPacketMaxSize, rtpMaxPayload] at *
    omega
  rw [sendRtpPacket, if_neg this]
  split <;> rename_i heq <;> rw [sendto, Prod.mk.injEq] at heq <;> exact heq.1.symm

/-- A send succeeds when `sendto` does. -/
theorem sendH265NaluRtp_ok {env : Env} (hsend : ∀ n, env.sendto n = true) (dest : SockAddrIn)
    {nalu : List UInt8} (h : 2 ≤ nalu.length) (timestamp ssrc : UInt32) (marker : UInt8)
    (w : World) : (sendH265NaluRtp env dest nalu timestamp ssrc marker w).1 = true := by
  have hok : ∀ p ∈ payloads nalu marker, ∀ v,
      (sendPayload env dest timestamp ssrc p v).1 = true := by
    intro p hp v
    rw [sendPayload, sendRtpPacket_fst (length_le_of_mem_payloads p hp), hsend]
  rw [sendH265NaluRtp_eq env dest timestamp ssrc marker w h, forEach_eq_foldl hok]

end LittleCore

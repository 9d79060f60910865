import LittleCore.Datafifo

/-!
# The file sender loop

`file_rtp_sender_loop` of `RTSP_Create.c`: once a client plays, the NALUs of the file are sent one
after the other and over again. A NALU whose send fails is sent again from its beginning.

The loop waits in `wait_for_rtsp_play` until there is a playing client. A round here is one look at
the shared state and, if there is such a client, one call of `send_h265_nalu_rtp`; the sleeps are
left out. The RTP sequence number and the timestamp are those of the `World`.
-/

namespace LittleCore

open World

/-- One round; `s.1` is the index `idx`. -/
def fileRound (env : Env) (gNalus : List (List UInt8)) (s : ℕ × World) : ℕ × World :=
  let w := s.2.schedule env
  if !w.rtsp.canSend then (s.1, w)
  else if gNalus.length = 0 then (s.1, w)
  else
    let nalu := gNalus.getD s.1 []
    match sendH265NaluRtp env w.rtsp.gClientAddr nalu w.timestamp rtpSsrc 1 w with
    | (false, w) => (s.1, w)
    | (true, w) =>
      (if s.1 + 1 ≥ gNalus.length then 0 else s.1 + 1,
        { w with timestamp := w.timestamp + rtpTsStep })

/-- The first `rounds` rounds of `file_rtp_sender_loop`. -/
def fileRtpSenderLoop (env : Env) (gNalus : List (List UInt8)) : ℕ → ℕ × World
  | 0 => (0, {})
  | rounds + 1 => fileRound env gNalus (fileRtpSenderLoop env gNalus rounds)

/-- The rule for the loop: what holds at the start, and is left alone by the control thread, by a
`sendto` and by the two counters, holds after every round. -/
theorem fileRtpSenderLoop_keeps {env : Env} {I : World → Prop} (hstart : I {})
    (hschedule : ∀ w, I w → I (w.schedule env))
    (hsendto : ∀ w dest packet ok, I w → I (w.emit (.sendto dest packet ok)))
    (hcount : ∀ (w : World) seq timestamp, I w → I { w with seq := seq, timestamp := timestamp })
    (gNalus : List (List UInt8)) (rounds : ℕ) : I (fileRtpSenderLoop env gNalus rounds).2 := by
  induction rounds with
  | zero => exact hstart
  | succ rounds ih =>
    rw [fileRtpSenderLoop, fileRound]
    generalize fileRtpSenderLoop env gNalus rounds = s at ih
    have hsched := hschedule _ ih
    have hsend := sendH265NaluRtp_keeps hschedule hsendto
      (fun w seq h => hcount w seq w.timestamp h) (s.2.schedule env).rtsp.gClientAddr
      (gNalus.getD s.1 []) (s.2.schedule env).timestamp rtpSsrc 1 hsched
    dsimp only
    split
    · exact hsched
    · split
      · exact hsched
      · split <;> rename_i heq <;> rw [heq] at hsend
        · exact hsend
        · exact hcount _ _ _ hsend

/-- Two NALUs, of which the first is sent again behind the second. -/
example : ((fileRtpSenderLoop
    { control := fun n => if n = 0 then [.setup ⟨7, 5000⟩, .play] else [] }
    [[0x26, 1], [0x02, 1]] 3).2.seq, (fileRtpSenderLoop {} [[0x26, 1]] 3).2.seq) = (3, 0) := by
  decide

end LittleCore

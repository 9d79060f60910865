import LittleCore.Snapshot.Process

/-!
# The DATAFIFO sender loop

`datafifo_rtp_sender_loop` of `RTSP_Create.c`, one round at a time, and its runs.

A run is over a list of inputs: items that `nalu_datafifo_read` returned, and critical sections of
the control thread that fall between two rounds. A read that returns nothing only counts and logs,
so idle rounds are not inputs. The loop never ends by itself, so what holds of every list of
inputs holds at every point of an endless run.
-/

namespace LittleCore

open Library World

def rtpSsrc : UInt32 := 0x22334455

def datafifoLogInterval : UInt32 := 30

/-- `1000U / VIDEO_FPS`. -/
def slowSendMs : UInt64 := 1000 / 15

/-- `log_datafifo_stats`, whose `dropped_count` is always 0. -/
def logDatafifoStats (msg : MppNaluIpcMsg) (lastSeq : UInt64) (frameCount : UInt32) (force : Bool)
    (w : World) : World :=
  let seqGap := if lastSeq ≠ 0 ∧ msg.seq > lastSeq + 1 then msg.seq - lastSeq - 1 else 0
  w.emit (.stats seqGap (force || seqGap != 0 || frameCount % datafifoLogInterval == 0))

/-- One round of the pack loop; `s.1` is `send_failed`. -/
def playbackPack (env : Env) (dest : SockAddrIn) (timestamp : UInt32) (canSend : Bool)
    (packCnt : ℕ) (s : Bool × World) (pack : MppNaluIpcPack × ℕ) : Bool × World :=
  let marker : UInt8 := if pack.2 + 1 = packCnt then 1 else 0
  let r := datafifoProcessPackForPlayback env dest pack.1 timestamp rtpSsrc marker canSend s.2
  (s.1 || !r.1, r.2)

/-- The pack loop: `send_failed` and the world. -/
def playbackPacks (env : Env) (dest : SockAddrIn) (canSend : Bool) (msg : MppNaluIpcMsg)
    (w : World) : Bool × World :=
  msg.usedPacks.zipIdx.foldl
    (playbackPack env dest w.timestamp canSend msg.packCnt.toNat) (false, w)

/-- The test for a stale message. -/
def staleFrame (lastReadSeq : UInt64) (msg : MppNaluIpcMsg) : Bool :=
  lastReadSeq != 0 && decide (msg.seq ≤ lastReadSeq)

/-- The round from the snapshot call on, for a message that is not stale. -/
def processMessage (env : Env) (msg : MppNaluIpcMsg) (dest : SockAddrIn)
    (canSend needParameterSets : Bool) (w : World) : World :=
  let snapshot := if msg.flagged then datafifoSnapshotProcess env msg w else (true, w)
  let sendCostMs := if canSend then env.sendCostMs snapshot.2.tick else 0
  let packs := playbackPacks env dest canSend msg snapshot.2
  let w := packs.2
  let w := if canSend then
      { w with timestamp := w.timestamp + rtpTsStep, lastSentSeq := msg.seq }
    else w
  let w := { w with frameCount := w.frameCount + 1 }
  logDatafifoStats msg w.lastSentSeq w.frameCount
    (needParameterSets || decide (sendCostMs > slowSendMs) || packs.1 || !snapshot.1) w

/-- The round between `get_rtsp_target` and `nalu_datafifo_read_done`. -/
def handleMessage (env : Env) (msg : MppNaluIpcMsg) (dest : SockAddrIn)
    (canSend needParameterSets : Bool) (w : World) : World :=
  if naluDatafifoValidateMsg msg then
    if staleFrame w.lastReadSeq msg then w
    else processMessage env msg dest canSend needParameterSets { w with lastReadSeq := msg.seq }
  else w

/-- One round of `datafifo_rtp_sender_loop`, from a successful `nalu_datafifo_read` to
`nalu_datafifo_read_done`. -/
def datafifoRound (env : Env) (item : Item) (w : World) : World :=
  let target := getRtspTarget env (w.emit (.read item))
  let canSend := target.1.1 && target.1.2.2.1
  (handleMessage env item.msg target.1.2.1 canSend target.1.2.2.2 target.2).emit
    (.readDone item.ptr)

/-- What happens next to the sender: a critical section of the control thread, or an item. -/
inductive Input where
  | rtsp (step : RtspStep)
  | item (item : Item)
deriving DecidableEq

def World.input (env : Env) (w : World) : Input → World
  | .rtsp s => w.rtspStep s
  | .item item => datafifoRound env item w

/-- A run of `datafifo_rtp_sender_loop`. -/
def datafifoRtpSenderLoop (env : Env) (inputs : List Input) (w : World) : World :=
  inputs.foldl (World.input env) w

def Input.item? : Input → Option Item
  | .item i => some i
  | .rtsp _ => none

/-- The items of a run. -/
def itemsOf (inputs : List Input) : List Item := inputs.filterMap Input.item?

theorem datafifoRtpSenderLoop_concat (env : Env) (inputs : List Input) (input : Input)
    (w : World) : datafifoRtpSenderLoop env (inputs ++ [input]) w
      = (datafifoRtpSenderLoop env inputs w).input env input := by
  rw [datafifoRtpSenderLoop, datafifoRtpSenderLoop, List.foldl_concat]

theorem itemsOf_concat (inputs : List Input) (input : Input) :
    itemsOf (inputs ++ [input]) = itemsOf inputs ++ input.item?.toList := by
  rw [itemsOf, itemsOf, List.filterMap_append]
  rcases input with s | item <;> rfl

/-! ### Messages with one pack -/

def onePack (bytes : List UInt8) (h : bytes.length < 2 ^ 32) : MppNaluIpcPack where
  physAddr := 0x1000
  len := .ofNat bytes.length
  bytes := bytes
  length_bytes := by simpa using (Nat.mod_eq_of_lt h).symm

/-- The unused entries repeat the one in use. -/
def onePackMsg (seq : UInt64) (reserved : UInt32) (bytes : List UInt8)
    (h : bytes.length < 2 ^ 32) : MppNaluIpcMsg where
  magic := mppNaluIpcMagic
  version := mppNaluIpcVersion
  packCnt := 1
  seq := seq
  framePts := 0
  totalLen := 0
  reserved := reserved
  packs := List.replicate mppNaluIpcMaxPacks (onePack bytes h)
  length_packs := List.length_replicate

end LittleCore

import Mathlib.Data.Nat.Notation
import Mathlib.Tactic.Common

/-!
# The shared RTSP state and its critical sections

The four globals that the RTSP control thread and the RTP sender share under `g_mutex`, and the
critical sections in which the control thread writes them. A request that is not one of these
touches none of the four.
-/

namespace LittleCore

/-- `struct sockaddr_in`: the address and the port, in host order. -/
structure SockAddrIn where
  sinAddr : UInt32
  sinPort : UInt16
deriving DecidableEq, Repr, Inhabited

/-- `g_play`, `g_client_addr_set`, `g_need_parameter_sets` and `g_client_addr`. -/
structure RtspState where
  gPlay : Bool := false
  gClientAddrSet : Bool := false
  gNeedParameterSets : Bool := false
  gClientAddr : SockAddrIn := ⟨0, 0⟩
deriving DecidableEq, Repr

/-- The critical sections of `handle_rtsp_client`: an accepted `SETUP`, a `PLAY`, a `TEARDOWN`,
and the one behind the request loop that every connection ends with. -/
inductive RtspStep where
  | setup (addr : SockAddrIn)
  | play
  | teardown
  | disconnect
deriving DecidableEq, Repr

namespace RtspState

/-- One critical section of the control thread. -/
def apply (s : RtspState) : RtspStep → RtspState
  | .setup addr =>
    { s with gClientAddr := addr, gClientAddrSet := true, gPlay := false
             gNeedParameterSets := true }
  | .play => { s with gPlay := true, gNeedParameterSets := true }
  | .teardown => { s with gPlay := false }
  | .disconnect => { s with gPlay := false }

/-- The sender may send: it has a playing client with an address. -/
def canSend (s : RtspState) : Bool := s.gPlay && s.gClientAddrSet

end RtspState

end LittleCore

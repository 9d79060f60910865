import LittleCore.Datafifo
import LittleCore.Library.Monitor

/-!
# The playback gate as a protocol

What the sender may do next, said once. `Gate` is what the gate knows between two events: the
shared RTSP state, the parameter set caches, `wait_for_idr`, the target of the message at hand, and
how far the NALU at hand has come. `Gate.step` says for every event whether it may come now and
what it changes; it knows nothing of functions, loops or the order of the control thread's steps.

The sender refines the protocol: whatever the environment does, its trace is accepted. Safety
properties of the gate are then properties of accepted traces, and no proof of one looks at the
code again.

The protocol comes in two versions. In the one that `interferes`, the control thread may take its
steps anywhere; in the other one it takes them between messages only.

## Main results

* `datafifoProcessNaluForPlayback_settled` — a NALU is processed by the rules, from any point at
  which the last one was done with
* `datafifoRtpSenderLoop_accepted` — every run is accepted
-/

namespace LittleCore

open Library World

/-! ### The protocol -/

/-- The events that the gate has no rule of its own for. -/
def Event.isOther : Event → Bool
  | .mmap .. | .mmapFailed | .munmap .. | .enqueue .. | .stats .. => true
  | _ => false

/-- How far the NALU at hand has come. -/
inductive Phase where
  /-- There is none. -/
  | rest
  | received (nalu : List UInt8)
  /-- An attempt to copy it into a cache was made. -/
  | stored (nalu : List UInt8)
  /-- `g_need_parameter_sets` was read as set; these sets are still to be sent. -/
  | sets (nalu : List UInt8) (todo : List ParamSet)
  /-- The flag was read as clear, or has just been cleared. -/
  | gate (nalu : List UInt8)
  /-- The NALU is the IDR that cleared `wait_for_idr`. -/
  | idr (nalu : List UInt8)
deriving DecidableEq

/-- What the gate knows. -/
structure Gate where
  rtsp : RtspState := {}
  cache : ParamSet → Option (List UInt8) := fun _ => none
  wait : Bool := false
  /-- There is a message at hand, and it may be sent to `dest`. -/
  canSend : Bool := false
  dest : SockAddrIn := ⟨0, 0⟩
  phase : Phase := .rest
  /-- A packet of the send at hand was lost. -/
  lost : Bool := false

/-- The order in which the parameter sets are sent. -/
def allSets : List ParamSet := [.vps, .sps, .pps]

namespace Gate

def haveAll (g : Gate) : Bool :=
  (g.cache .vps).any (0 < ·.length) && (g.cache .sps).any (0 < ·.length) &&
    (g.cache .pps).any (0 < ·.length)

/-- The cache into which a NALU is to be copied. -/
def due (g : Gate) (nalu : List UInt8) : Option ParamSet :=
  (h265ParamCacheForType (h265NaluType nalu)).filter fun kind =>
    nalu.length ≤ h265ParamSetMaxSize && g.cache kind != some nalu

/-- The NALU about which the gate has to decide next. -/
def judging (g : Gate) : Option (List UInt8) :=
  match g.phase with
  | .received nalu => if g.due nalu = none then some nalu else none
  | .stored nalu => some nalu
  | _ => none

/-- The NALU at hand is done with. -/
def settled (g : Gate) : Bool :=
  match g.phase with
  | .rest => true
  | .received nalu => g.due nalu == none && !g.canSend
  | .stored _ => !g.canSend
  | .sets _ todo => todo == allSets && !g.haveAll
  | .gate nalu => g.wait && !h265IsIdr (h265NaluType nalu)
  | .idr _ => false

/-- A packet may go out. -/
def sending (g : Gate) : Bool :=
  !g.lost &&
    match g.phase with
    | .sets _ todo => todo != [] && g.haveAll
    | .gate _ => !g.wait
    | .idr _ => true
    | _ => false

def step (interferes : Bool) (g : Gate) : Event → Option Gate
  | .rtsp s after =>
    if after = g.rtsp.apply s ∧ (interferes ∨ g.canSend = false) then
      some { g with rtsp := after }
    else none
  | .read _ | .readDone _ =>
    if g.settled then some { g with canSend := false, phase := .rest } else none
  | .target canSend dest =>
    if g.settled ∧ canSend = g.rtsp.canSend ∧
        dest = (if g.rtsp.gClientAddrSet then g.rtsp.gClientAddr else ⟨0, 0⟩) then
      some { g with canSend := canSend, dest := dest, phase := .rest }
    else none
  | .received nalu => if g.settled then some { g with phase := .received nalu } else none
  | .cached kind nalu =>
    if g.phase = .received nalu ∧ g.due nalu = some kind then
      some { g with cache := Function.update g.cache kind (some nalu), phase := .stored nalu }
    else none
  | .copyFailed kind =>
    match g.phase with
    | .received nalu =>
      if g.due nalu = some kind then some { g with phase := .stored nalu } else none
    | _ => none
  | .needs need =>
    match g.judging with
    | some nalu =>
      if g.canSend ∧ need = g.rtsp.gNeedParameterSets then
        some { g with phase := if need then .sets nalu allSets else .gate nalu }
      else none
    | none => none
  | .parameterSet kind dest set ok =>
    match g.phase with
    | .sets nalu (kind' :: todo) =>
      if kind = kind' ∧ g.haveAll ∧ dest = g.dest ∧ g.cache kind = some set ∧ ok = !g.lost then
        some { g with phase := if ok then .sets nalu todo else .rest, lost := false }
      else none
    | _ => none
  | .marked =>
    match g.phase with
    | .sets nalu [] =>
      some { g with
        rtsp := { g.rtsp with gNeedParameterSets := false }, wait := true, phase := .gate nalu }
    | _ => none
  | .idrFound =>
    match g.phase with
    | .gate nalu =>
      if g.wait ∧ h265IsIdr (h265NaluType nalu) then
        some { g with wait := false, phase := .idr nalu, lost := false }
      else none
    | _ => none
  | .nalu dest nalu ok =>
    if (g.phase = .gate nalu ∧ g.wait = false ∨ g.phase = .idr nalu) ∧ dest = g.dest ∧
        ok = !g.lost then
      some { g with phase := .rest, lost := false }
    else none
  | .sendto dest _ ok =>
    if g.sending ∧ dest = g.dest then some { g with lost := !ok } else none
  | _ => if g.settled then some { g with phase := .rest } else none

/-- What an accepted event is and does, one case for each rule. -/
inductive Move (interferes : Bool) (g : Gate) : Event → Gate → Prop
  | rtsp (s : RtspStep) (hallowed : interferes ∨ g.canSend = false) :
    Move interferes g (.rtsp s (g.rtsp.apply s)) { g with rtsp := g.rtsp.apply s }
  | item {e : Event} (hitem : e.isItemStep) (hsettled : g.settled) :
    Move interferes g e { g with canSend := false, phase := .rest }
  | target {dest : SockAddrIn}
    (hdest : dest = (if g.rtsp.gClientAddrSet then g.rtsp.gClientAddr else ⟨0, 0⟩))
    (hsettled : g.settled) :
    Move interferes g (.target g.rtsp.canSend dest)
      { g with canSend := g.rtsp.canSend, dest := dest, phase := .rest }
  | received (nalu : List UInt8) (hsettled : g.settled) :
    Move interferes g (.received nalu) { g with phase := .received nalu }
  | cached {nalu : List UInt8} {kind : ParamSet} (hphase : g.phase = .received nalu)
    (hdue : g.due nalu = some kind) :
    Move interferes g (.cached kind nalu)
      { g with cache := Function.update g.cache kind (some nalu), phase := .stored nalu }
  | copyFailed {nalu : List UInt8} {kind : ParamSet} (hphase : g.phase = .received nalu)
    (hdue : g.due nalu = some kind) :
    Move interferes g (.copyFailed kind) { g with phase := .stored nalu }
  | needs {nalu : List UInt8} (hnalu : g.judging = some nalu) (hsend : g.canSend) :
    Move interferes g (.needs g.rtsp.gNeedParameterSets)
      { g with phase := if g.rtsp.gNeedParameterSets then .sets nalu allSets else .gate nalu }
  | parameterSet {nalu : List UInt8} {kind : ParamSet} {todo : List ParamSet} {set : List UInt8}
    (hphase : g.phase = .sets nalu (kind :: todo)) (hset : g.cache kind = some set) :
    Move interferes g (.parameterSet kind g.dest set (!g.lost))
      { g with phase := if !g.lost then .sets nalu todo else .rest, lost := false }
  | marked {nalu : List UInt8} (hphase : g.phase = .sets nalu []) :
    Move interferes g .marked { g with
      rtsp := { g.rtsp with gNeedParameterSets := false }, wait := true, phase := .gate nalu }
  | idrFound {nalu : List UInt8} (hphase : g.phase = .gate nalu) (hwait : g.wait)
    (hidr : h265IsIdr (h265NaluType nalu)) :
    Move interferes g .idrFound { g with wait := false, phase := .idr nalu, lost := false }
  | nalu {nalu : List UInt8}
      (hphase : g.phase = .gate nalu ∧ g.wait = false ∨ g.phase = .idr nalu) :
    Move interferes g (.nalu g.dest nalu (!g.lost)) { g with phase := .rest, lost := false }
  | sendto (packet : List UInt8) (ok : Bool) (hsending : g.sending) :
    Move interferes g (.sendto g.dest packet ok) { g with lost := !ok }
  | other {e : Event} (hother : e.isOther) (hsettled : g.settled) :
    Move interferes g e { g with phase := .rest }

theorem move_of_step {interferes : Bool} {g g' : Gate} {e : Event}
    (h : g.step interferes e = some g') : Move interferes g e g' := by
  rcases e <;> simp only [step, Option.ite_none_right_eq_some, Option.some.injEq] at h
  case rtsp =>
    obtain ⟨⟨rfl, hallowed⟩, rfl⟩ := h
    exact .rtsp _ hallowed
  case read | readDone =>
    obtain ⟨hsettled, rfl⟩ := h
    exact .item rfl hsettled
  case target =>
    obtain ⟨⟨hsettled, rfl, hdest⟩, rfl⟩ := h
    exact .target hdest hsettled
  case received =>
    obtain ⟨hsettled, rfl⟩ := h
    exact .received _ hsettled
  case cached =>
    obtain ⟨⟨hphase, hdue⟩, rfl⟩ := h
    exact .cached hphase hdue
  case copyFailed =>
    split at h
    · rename_i hphase
      rw [Option.ite_none_right_eq_some, Option.some.injEq] at h
      obtain ⟨hdue, rfl⟩ := h
      exact .copyFailed hphase hdue
    · simp at h
  case needs =>
    split at h
    · rename_i hnalu
      rw [Option.ite_none_right_eq_some, Option.some.injEq] at h
      obtain ⟨⟨hsend, rfl⟩, rfl⟩ := h
      exact .needs hnalu hsend
    · simp at h
  case parameterSet =>
    split at h
    · rename_i hphase
      rw [Option.ite_none_right_eq_some, Option.some.injEq] at h
      obtain ⟨⟨rfl, -, rfl, hset, rfl⟩, rfl⟩ := h
      exact .parameterSet hphase hset
    · simp at h
  case marked =>
    split at h
    · rename_i hphase
      rw [Option.some.injEq] at h
      rw [← h]
      exact .marked hphase
    · simp at h
  case idrFound =>
    split at h
    · rename_i hphase
      rw [Option.ite_none_right_eq_some, Option.some.injEq] at h
      obtain ⟨⟨hwait, hidr⟩, rfl⟩ := h
      exact .idrFound hphase hwait hidr
    · simp at h
  case nalu =>
    obtain ⟨⟨hphase, rfl, rfl⟩, rfl⟩ := h
    exact .nalu hphase
  case sendto =>
    obtain ⟨⟨hsending, rfl⟩, rfl⟩ := h
    exact .sendto _ _ hsending
  all_goals
    obtain ⟨hsettled, rfl⟩ := h
    exact .other rfl hsettled

/-- A NALU about which nothing can be decided is done with. -/
theorem settled_of_judging {g : Gate} {nalu : List UInt8} (h : g.judging = some nalu)
    (hsend : g.canSend = false) : g.settled := by
  rw [judging] at h
  rw [settled]
  split at h <;> rename_i hphase
  · rw [Option.ite_none_right_eq_some] at h
    simp [hphase, h.1, hsend]
  · simp [hphase, hsend]
  · simp at h

end Gate

def gateProtocol (interferes : Bool) : Monitor Gate Event := ⟨{}, Gate.step interferes⟩

/-! #### What the caches hold -/

/-- The parameter set that the event copied into a cache. -/
def Event.cachedAs (kind : ParamSet) : Event → Option (List UInt8)
  | .cached kind' set => if kind' = kind then some set else none
  | _ => none

/-- The parameter set that was copied into a cache last. -/
def lastCached (kind : ParamSet) (l : List Event) : Option (List UInt8) :=
  lastValue (Event.cachedAs kind) l

theorem cache_of_run {interferes : Bool} {l : List Event} {g : Gate}
    (h : (gateProtocol interferes).run l = some g) (kind : ParamSet) :
    g.cache kind = lastCached kind l := by
  refine Monitor.invariant (I := fun l g => g.cache kind = lastCached kind l) rfl
    (fun l g e g' hI he => ?_) h
  have hmove : g.Move interferes e g' := Gate.move_of_step he
  have hskip : e.cachedAs kind = none → lastCached kind (l ++ [e]) = lastCached kind l := by
    intro hnone
    rw [lastCached, lastValue_concat, hnone]
    rfl
  cases hmove with
  | @cached nalu kind' =>
    by_cases hk : kind' = kind
    · rw [lastCached, lastValue_concat, Event.cachedAs, if_pos hk]
      simp [hk]
    · rw [hskip (if_neg hk)]
      exact (Function.update_of_ne (Ne.symm hk) ..).trans hI
  | item hitem =>
    rw [hskip (by cases e <;> simp [Event.isItemStep] at hitem <;> rfl)]
    exact hI
  | other hother =>
    rw [hskip (by cases e <;> simp [Event.isOther] at hother <;> rfl)]
    exact hI
  | _ =>
    rw [hskip rfl]
    exact hI

/-! #### The environment -/

/-- The environment can have had the answer that the event carries. -/
def Event.Possible (env : Env) : Event → Prop
  | .sendto _ _ ok => ∃ n, ok = env.sendto n
  | .copyFailed _ => ∃ n, env.malloc n = false
  | _ => True

/-! ### The sender keeps to the protocol -/

/-- The world's trace is accepted, and the gate is where it leads to: the state that lives in the
world is the world's, the rest is as given. -/
structure Follows (env : Env) (interferes canSend : Bool) (dest : SockAddrIn) (phase : Phase)
    (lost : Bool) (w : World) : Prop where
  run : (gateProtocol interferes).run w.trace
    = some ⟨w.rtsp, w.cache, w.waitForIdr, canSend, dest, phase, lost⟩
  possible : ∀ e ∈ w.trace, e.Possible env
  /-- A cached parameter set has at least two bytes, so sending it cannot fail by itself. -/
  long : ∀ kind set, w.cache kind = some set → 2 ≤ set.length
  quiet : interferes = false → env.Quiet

namespace Follows

variable {env : Env} {interferes canSend canSend' : Bool} {dest dest' : SockAddrIn}
  {phase phase' : Phase} {lost lost' : Bool} {w w' : World}

/-- A step of the world that leaves one event and does what the protocol says. -/
theorem emit {e : Event} (h : Follows env interferes canSend dest phase lost w)
    (hcache : ∀ kind set, w'.cache kind = some set → 2 ≤ set.length)
    (htrace : w'.trace = w.trace ++ [e])
    (hstep : Gate.step interferes ⟨w.rtsp, w.cache, w.waitForIdr, canSend, dest, phase, lost⟩ e
      = some ⟨w'.rtsp, w'.cache, w'.waitForIdr, canSend', dest', phase', lost'⟩)
    (hpossible : e.Possible env) :
    Follows env interferes canSend' dest' phase' lost' w' := by
  refine ⟨?_, fun e' he' => ?_, hcache, h.quiet⟩
  · rw [htrace, Monitor.run_concat, h.run]
    exact hstep
  · rw [htrace, List.mem_append, List.mem_singleton] at he'
    rcases he' with he' | rfl
    · exact h.possible e' he'
    · exact hpossible

/-- A step of the world that the protocol does not see. -/
theorem frame (h : Follows env interferes canSend dest phase lost w)
    (htrace : w'.trace = w.trace) (hrtsp : w'.rtsp = w.rtsp) (hcache : w'.cache = w.cache)
    (hwait : w'.waitForIdr = w.waitForIdr) :
    Follows env interferes canSend dest phase lost w' := by
  refine ⟨?_, ?_, ?_, h.quiet⟩
  · rw [htrace, hrtsp, hcache, hwait]
    exact h.run
  · rw [htrace]
    exact h.possible
  · rw [hcache]
    exact h.long

theorem rtspStep (h : Follows env interferes canSend dest phase lost w) (s : RtspStep)
    (hallowed : interferes ∨ canSend = false) :
    Follows env interferes canSend dest phase lost (w.rtspStep s) :=
  h.emit h.long rfl (if_pos ⟨rfl, hallowed⟩) trivial

theorem schedule (h : Follows env interferes canSend dest phase lost w) :
    Follows env interferes canSend dest phase lost (w.schedule env) := by
  have hcount : Follows env interferes canSend dest phase lost { w with tick := w.tick + 1 } :=
    h.frame rfl rfl rfl rfl
  rcases hint : interferes with _ | _
  · rw [World.schedule, h.quiet hint, List.foldl_nil, ← hint]
    exact hcount
  · rw [← hint]
    exact List.foldlRecOn _ _ hcount fun v hv s _ => hv.rtspStep s (.inl hint)

end Follows

/-! #### A send -/

/-- While a packet may go out, whatever the control thread does to the shared state. -/
def Sending (phase : Phase) (w : World) : Prop :=
  ∀ rtsp canSend dest, Gate.sending ⟨rtsp, w.cache, w.waitForIdr, canSend, dest, phase, false⟩

namespace Follows

variable {env : Env} {interferes canSend : Bool} {dest : SockAddrIn} {phase : Phase} {w : World}
  {nalu : List UInt8}

theorem sendto (h : Follows env interferes canSend dest phase false w) (hs : Sending phase w)
    (packet : List UInt8) :
    Follows env interferes canSend dest phase (!(sendto env dest packet w).1)
      (sendto env dest packet w).2 := by
  refine h.schedule.emit h.schedule.long rfl (if_pos ⟨?_, rfl⟩) ⟨w.tick, rfl⟩
  rw [(sends_schedule env dest w).cache_eq, (sends_schedule env dest w).frame]
  exact hs _ _ _

theorem sendRtpPacket (h : Follows env interferes canSend dest phase false w)
    (hs : Sending phase w) (timestamp ssrc : UInt32) {payload : List UInt8}
    (hlen : payload.length ≤ rtpMaxPayload) (marker : UInt8) :
    Follows env interferes canSend dest phase
      (!(sendRtpPacket env dest timestamp ssrc payload marker w).1)
      (sendRtpPacket env dest timestamp ssrc payload marker w).2 := by
  have hfits : ¬ rtpHeaderSize + payload.length > rtpPacketMaxSize := by
    simp only [rtpHeaderSize, rtpPacketMaxSize, rtpMaxPayload] at *
    omega
  have hsend := h.sendto hs (buildRtpHeader w.seq timestamp ssrc marker ++ payload)
  rw [LittleCore.sendRtpPacket, if_neg hfits]
  split <;> rename_i heq <;> rw [heq] at hsend
  · exact hsend
  · exact hsend.frame rfl rfl rfl rfl

/-- **A send.** It fails exactly if a packet was lost, and apart from that the gate stays where it
is. -/
theorem sendH265NaluRtp (h : Follows env interferes canSend dest phase false w)
    (hs : Sending phase w) (hlen : 2 ≤ nalu.length) (timestamp ssrc : UInt32) (marker : UInt8) :
    Follows env interferes canSend dest phase
      (!(sendH265NaluRtp env dest nalu timestamp ssrc marker w).1)
      (sendH265NaluRtp env dest nalu timestamp ssrc marker w).2 := by
  rw [sendH265NaluRtp_eq env dest timestamp ssrc marker w hlen]
  refine (forEach_inv (I := fun ok v =>
    Follows env interferes canSend dest phase (!ok) v ∧ Sending phase v)
    (fun p hp v hv => ⟨?_, ?_⟩) ⟨h, hs⟩).1
  · exact hv.1.sendRtpPacket hv.2 timestamp ssrc (length_le_of_mem_payloads p hp) p.2
  · have hframe := (sendRtpPacket_sends env dest timestamp ssrc p.1 p.2 v).frame
    intro rtsp c d
    have := hv.2 rtsp c d
    rw [sendPayload, hframe]
    exact this

end Follows

/-! #### A NALU -/

theorem haveAll_world (w : World) (rtsp : RtspState) (wait canSend : Bool) (dest : SockAddrIn)
    (phase : Phase) (lost : Bool) :
    Gate.haveAll ⟨rtsp, w.cache, wait, canSend, dest, phase, lost⟩
      = h265HaveAllParameterSets w := rfl

/-- The world follows the protocol and is done with the NALU at hand. -/
def Settled (env : Env) (interferes canSend : Bool) (dest : SockAddrIn) (w : World) : Prop :=
  ∃ phase, Follows env interferes canSend dest phase false w ∧
    Gate.settled ⟨w.rtsp, w.cache, w.waitForIdr, canSend, dest, phase, false⟩

namespace Follows

variable {env : Env} {interferes canSend : Bool} {dest : SockAddrIn} {phase : Phase} {w : World}
  {nalu : List UInt8}

theorem sendParameterSet {kind : ParamSet} {todo : List ParamSet}
    (h : Follows env interferes canSend dest (.sets nalu (kind :: todo)) false w)
    (hall : h265HaveAllParameterSets w) (timestamp ssrc : UInt32) :
    Follows env interferes canSend dest
      (if (sendParameterSet env dest timestamp ssrc kind w).1 then .sets nalu todo else .rest) false
      (sendParameterSet env dest timestamp ssrc kind w).2 := by
  obtain ⟨set, hset⟩ : ∃ set, w.cache kind = some set := by
    simp only [h265HaveAllParameterSets, Bool.and_eq_true, Option.any_eq_true] at hall
    obtain ⟨⟨⟨v, hv, -⟩, s, hs, -⟩, p, hp, -⟩ := hall
    rcases kind
    · exact ⟨v, hv⟩
    · exact ⟨s, hs⟩
    · exact ⟨p, hp⟩
  have hs : Sending (.sets nalu (kind :: todo)) w := fun _ _ _ => by
    simp [Gate.sending, haveAll_world, hall]
  have hsend := h.sendH265NaluRtp hs (h.long kind set hset) timestamp ssrc 0
  have hcache := (sendH265NaluRtp_sends env dest set timestamp ssrc 0 w).cache_eq
  rw [LittleCore.sendParameterSet, hset, Option.getD_some]
  refine hsend.emit hsend.long rfl (if_pos ⟨rfl, ?_, rfl, ?_, by simp⟩) trivial
  · rw [hcache]
    exact hall
  · rw [hcache]
    exact hset

theorem sendParameterSets {todo : List ParamSet} (timestamp ssrc : UInt32)
    (h : Follows env interferes canSend dest (.sets nalu todo) false w)
    (hall : h265HaveAllParameterSets w) :
    Follows env interferes canSend dest
      (if (forEach (LittleCore.sendParameterSet env dest timestamp ssrc) todo w).1
        then .sets nalu [] else .rest) false
      (forEach (LittleCore.sendParameterSet env dest timestamp ssrc) todo w).2 := by
  induction todo generalizing w with
  | nil => exact h
  | cons kind todo ih =>
    have hset := h.sendParameterSet hall timestamp ssrc
    cases hok : (LittleCore.sendParameterSet env dest timestamp ssrc kind w).1 with
    | true =>
      rw [hok, if_pos rfl] at hset
      rw [forEach_cons_of_ok hok]
      refine ih hset ?_
      have hcache := (sendH265NaluRtp_sends env dest ((w.cache kind).getD []) timestamp ssrc 0
        w).cache_eq
      exact (congrArg (fun c => Gate.haveAll ⟨{}, c, false, false, dest, .rest, false⟩)
        hcache).trans hall
    | false =>
      rw [hok] at hset
      rw [forEach_cons_of_fail hok]
      exact hset

theorem sendCachedParameterSets (timestamp ssrc : UInt32)
    (h : Follows env interferes canSend dest (.sets nalu allSets) false w) :
    ((sendCachedParameterSets env dest timestamp ssrc w).1 = true →
      Follows env interferes canSend dest (.sets nalu []) false
        (sendCachedParameterSets env dest timestamp ssrc w).2) ∧
    ((sendCachedParameterSets env dest timestamp ssrc w).1 = false →
      Settled env interferes canSend dest
        (sendCachedParameterSets env dest timestamp ssrc w).2) := by
  rw [LittleCore.sendCachedParameterSets]
  by_cases hall : h265HaveAllParameterSets w
  · have hsets := h.sendParameterSets timestamp ssrc hall
    rw [if_neg (by simpa using hall)]
    refine ⟨fun hok => ?_, fun hfail => ⟨.rest, ?_, rfl⟩⟩
    · rwa [allSets, hok, if_pos rfl] at hsets
    · rwa [allSets, hfail, if_neg Bool.false_ne_true] at hsets
  · rw [if_pos (by simpa using hall)]
    refine ⟨fun hok => by simp at hok, fun _ => ⟨_, h, ?_⟩⟩
    rw [Bool.not_eq_true] at hall
    simp [Gate.settled, haveAll_world, hall]

theorem rtspMarkParameterSetsSent
    (h : Follows env interferes canSend dest (.sets nalu []) false w) :
    Follows env interferes canSend dest (.gate nalu) false
      { rtspMarkParameterSetsSent env w with waitForIdr := true } :=
  h.schedule.emit h.schedule.long rfl rfl trivial

theorem sendNaluForPlayback (h : Follows env interferes canSend dest phase false w)
    (hphase : phase = .gate nalu ∧ w.waitForIdr = false ∨ phase = .idr nalu)
    (hlen : 2 ≤ nalu.length) (timestamp ssrc : UInt32) (marker : UInt8) :
    Follows env interferes canSend dest .rest false
      (sendNaluForPlayback env dest nalu timestamp ssrc marker w).2 := by
  have hs : Sending phase w := fun _ _ _ => by
    rcases hphase with ⟨rfl, hwait⟩ | rfl
    · simpa [Gate.sending] using hwait
    · rfl
  have hsend := h.sendH265NaluRtp hs hlen timestamp ssrc marker
  have hframe := (sendH265NaluRtp_sends env dest nalu timestamp ssrc marker w).frame
  refine hsend.emit hsend.long rfl (if_pos ⟨?_, rfl, by simp⟩) trivial
  rcases hphase with ⟨hgate, hwait⟩ | hidr
  · refine .inl ⟨hgate, ?_⟩
    rw [hframe]
    exact hwait
  · exact .inr hidr

theorem passIdrGate (h : Follows env interferes canSend dest (.gate nalu) false w)
    (hlen : 2 ≤ nalu.length) (timestamp ssrc : UInt32) (marker : UInt8) :
    Settled env interferes canSend dest
      (passIdrGate env dest nalu timestamp ssrc marker w).2 := by
  rw [LittleCore.passIdrGate]
  by_cases hwait : w.waitForIdr = true
  · rw [if_pos hwait]
    by_cases hidr : h265IsIdr (h265NaluType nalu) = true
    · have hfound : Follows env interferes canSend dest (.idr nalu) false
          ({ w with waitForIdr := false }.emit .idrFound) :=
        h.emit h.long rfl (if_pos ⟨hwait, hidr⟩) trivial
      rw [if_neg (by simpa using hidr)]
      exact ⟨.rest, hfound.sendNaluForPlayback (.inr rfl) hlen timestamp ssrc marker, rfl⟩
    · rw [if_pos (by simpa using hidr)]
      exact ⟨_, h, by simp [Gate.settled, hwait, hidr]⟩
  · rw [if_neg hwait]
    rw [Bool.not_eq_true] at hwait
    exact ⟨.rest, h.sendNaluForPlayback (.inl ⟨rfl, hwait⟩) hlen timestamp ssrc marker, rfl⟩

/-- After the caches have been seen to, the gate decides about the NALU. -/
theorem h265CacheParameterSet (h : Follows env interferes canSend dest (.received nalu) false w)
    (hlen : 2 ≤ nalu.length) :
    ∃ phase, Follows env interferes canSend dest phase false (h265CacheParameterSet env nalu w) ∧
      ∀ rtsp wait, Gate.judging ⟨rtsp, (LittleCore.h265CacheParameterSet env nalu w).cache, wait,
        canSend, dest, phase, false⟩ = some nalu := by
  have hskip : (∀ rtsp wait, Gate.due ⟨rtsp, w.cache, wait, canSend, dest, .received nalu, false⟩
        nalu = none) → ∃ phase, Follows env interferes canSend dest phase false w ∧
      ∀ rtsp wait, Gate.judging ⟨rtsp, w.cache, wait, canSend, dest, phase, false⟩ = some nalu :=
    fun hdue => ⟨.received nalu, h, fun rtsp wait => if_pos (hdue rtsp wait)⟩
  rw [LittleCore.h265CacheParameterSet, if_neg (by omega)]
  cases hkind : h265ParamCacheForType (h265NaluType nalu) with
  | none => exact hskip fun _ _ => by simp [Gate.due, hkind]
  | some kind =>
    dsimp only
    split
    · exact hskip fun _ _ => by simp [Gate.due, hkind]; omega
    · split
      · rename_i hsame
        exact hskip fun _ _ => by simp [Gate.due, hkind, hsame]
      · rename_i hsize hnew
        have hdue : ∀ rtsp wait lost, Gate.due ⟨rtsp, w.cache, wait, canSend, dest,
            .received nalu, lost⟩ nalu = some kind := fun _ _ _ => by
          simp only [Gate.due, hkind]
          exact Option.filter_eq_some_iff.mpr ⟨rfl, by simp [hnew]; omega⟩
        refine ⟨.stored nalu, ?_, fun _ _ => rfl⟩
        split
        · have hcache : World.cache (({ w with tick := w.tick + 1 }.setCache nalu kind).emit
              (.cached kind nalu)) = Function.update w.cache kind (some nalu) :=
            cache_setCache { w with tick := w.tick + 1 } nalu kind
          refine h.emit (e := .cached kind nalu) (fun kind' set hset => ?_)
            (by rcases kind <;> rfl) ?_ trivial
          · rw [hcache] at hset
            by_cases hk : kind' = kind
            · rw [hk, Function.update_self, Option.some.injEq] at hset
              rwa [← hset]
            · rw [Function.update_of_ne hk] at hset
              exact h.long kind' set hset
          · rw [hcache]
            refine (if_pos ⟨rfl, hdue ..⟩).trans ?_
            rcases kind <;> rfl
        · rename_i hmalloc
          exact h.emit h.long rfl (if_pos (hdue ..)) ⟨w.tick, by simpa using hmalloc⟩

theorem judgeNalu (h : Follows env interferes true dest phase false w)
    (hnalu : ∀ rtsp wait, Gate.judging ⟨rtsp, w.cache, wait, true, dest, phase, false⟩ = some nalu)
    (hlen : 2 ≤ nalu.length) (timestamp ssrc : UInt32) (marker : UInt8) :
    Settled env interferes true dest
      (judgeNalu env dest timestamp ssrc nalu marker w).2 := by
  have hneeds : Follows env interferes true dest
      (if (rtspSessionNeedsParameterSets env w).1 then .sets nalu allSets else .gate nalu) false
      (rtspSessionNeedsParameterSets env w).2 := by
    refine h.schedule.emit h.schedule.long rfl ?_ trivial
    have hjudging := hnalu (w.schedule env).rtsp (w.schedule env).waitForIdr
    rw [← (sends_schedule env dest w).cache_eq] at hjudging
    rw [Gate.step, hjudging]
    exact if_pos ⟨rfl, rfl⟩
  rw [LittleCore.judgeNalu]
  split
  · rename_i heq
    rw [heq, if_pos rfl] at hneeds
    obtain ⟨hok, hfail⟩ := hneeds.sendCachedParameterSets timestamp ssrc
    split
    · rename_i heq
      rw [heq] at hfail
      exact hfail rfl
    · rename_i heq
      rw [heq] at hok
      exact (hok rfl).rtspMarkParameterSetsSent.passIdrGate hlen timestamp ssrc marker
  · rename_i heq
    rw [heq, if_neg Bool.false_ne_true] at hneeds
    exact hneeds.passIdrGate hlen timestamp ssrc marker

end Follows

/-- **One NALU.** From any point at which the last NALU was done with, the next one is processed
by the rules. -/
theorem datafifoProcessNaluForPlayback_settled {env : Env} {interferes canSend : Bool}
    {dest : SockAddrIn} {w : World} (h : Settled env interferes canSend dest w)
    (timestamp ssrc : UInt32) (nalu : List UInt8) (marker : UInt8) :
    Settled env interferes canSend dest
      (datafifoProcessNaluForPlayback env dest timestamp ssrc canSend nalu marker w).2 := by
  by_cases hlen : 2 ≤ nalu.length
  · obtain ⟨phase, hfollows, hsettled⟩ := h
    have hreceived : Follows env interferes canSend dest (.received nalu) false
        (w.emit (.received nalu)) :=
      hfollows.emit hfollows.long rfl (if_pos hsettled) trivial
    obtain ⟨phase, hjudging, hnalu⟩ := hreceived.h265CacheParameterSet hlen
    rw [datafifoProcessNaluForPlayback_eq env dest timestamp ssrc canSend hlen]
    split
    · rename_i hsend
      rw [hsend] at hjudging hnalu ⊢
      exact hjudging.judgeNalu hnalu hlen timestamp ssrc marker
    · rename_i hsend
      exact ⟨phase, hjudging, Gate.settled_of_judging (hnalu ..) (by simpa using hsend)⟩
  · rw [datafifoProcessNaluForPlayback, if_pos (by omega)]
    exact h

/-! #### Packs, messages and runs -/

namespace Settled

variable {env : Env} {interferes canSend : Bool} {dest : SockAddrIn} {w w' : World}

theorem frame (h : Settled env interferes canSend dest w) (htrace : w'.trace = w.trace)
    (hrtsp : w'.rtsp = w.rtsp) (hcache : w'.cache = w.cache)
    (hwait : w'.waitForIdr = w.waitForIdr) : Settled env interferes canSend dest w' := by
  obtain ⟨phase, hfollows, hsettled⟩ := h
  refine ⟨phase, hfollows.frame htrace hrtsp hcache hwait, ?_⟩
  rwa [hrtsp, hcache, hwait]

theorem feeds (h : Settled env interferes canSend dest w) (hf : Feeds w w') :
    Settled env interferes canSend dest w' := by
  have hframe := hf.frame
  refine h.frame hf.trace_eq (by rw [hframe]) ?_ (by rw [hframe])
  rw [hframe]
  exact cache_congr rfl rfl rfl

/-- An event that is none of the gate's. -/
theorem emit {e : Event} (h : Settled env interferes canSend dest w)
    (hother : ∀ g : Gate, g.step interferes e
      = if g.settled then some { g with phase := .rest } else none)
    (hpossible : e.Possible env) : Settled env interferes canSend dest (w.emit e) := by
  obtain ⟨phase, hfollows, hsettled⟩ := h
  refine ⟨.rest, hfollows.emit hfollows.long rfl ?_ hpossible, rfl⟩
  rw [hother]
  exact if_pos hsettled

theorem itemStep {e : Event} (h : Settled env interferes canSend dest w)
    (hitem : e.isItemStep) : Settled env interferes false dest (w.emit e) := by
  obtain ⟨phase, hfollows, hsettled⟩ := h
  rcases e <;> simp only [Event.isItemStep, Bool.false_eq_true] at hitem <;>
    exact ⟨.rest, hfollows.emit hfollows.long rfl (if_pos hsettled) trivial, rfl⟩

theorem schedule (h : Settled env interferes canSend dest w) :
    Settled env interferes canSend dest (w.schedule env) := by
  obtain ⟨phase, hfollows, hsettled⟩ := h
  refine ⟨phase, hfollows.schedule, ?_⟩
  rw [(sends_schedule env dest w).cache_eq, (sends_schedule env dest w).frame]
  exact hsettled

theorem datafifoProcessPackForPlayback (h : Settled env interferes canSend dest w)
    (pack : MppNaluIpcPack) (timestamp ssrc : UInt32) (marker : UInt8) :
    Settled env interferes canSend dest
      (datafifoProcessPackForPlayback env dest pack timestamp ssrc marker canSend w).2 := by
  have hcount : Settled env interferes canSend dest { w with tick := w.tick + 1 } :=
    h.frame rfl rfl rfl rfl
  rw [LittleCore.datafifoProcessPackForPlayback, naluDatafifoMmapPack]
  split_ifs
  · exact hcount
  · have hbuf := forEach_induct (R := fun v v' =>
        Settled env interferes canSend dest v → Settled env interferes canSend dest v')
      (fun _ hv => hv) (fun h₁ h₂ hv => h₂ (h₁ hv))
      (fun p (_ : p ∈ playbackNalus pack.bytes marker) v hv =>
        datafifoProcessNaluForPlayback_settled hv timestamp ssrc p.1 p.2) _
      (hcount.emit (e := .mmap (.playback w.tick) pack) (fun _ => rfl) trivial)
    rw [← datafifoProcessH265BufferForPlayback] at hbuf
    dsimp only
    generalize datafifoProcessH265BufferForPlayback env dest pack.bytes timestamp ssrc marker
      canSend _ = r at hbuf
    have hcounted : Settled env interferes canSend dest { r.2 with tick := r.2.tick + 1 } :=
      hbuf.frame rfl rfl rfl rfl
    exact hcounted.emit (fun _ => rfl) trivial
  · exact hcount.emit (fun _ => rfl) trivial

theorem snapshotPack (h : Settled env interferes canSend dest w) (pack : MppNaluIpcPack)
    (frame : H265SnapshotFrame) :
    Settled env interferes canSend dest (snapshotPack env pack (frame, w)).2.2 := by
  rw [LittleCore.snapshotPack, naluDatafifoMmapPack]
  split_ifs
  · exact h.feeds (feeds_snapshotStep w)
  · have hmap := (h.feeds (feeds_snapshotStep w)).emit
      (e := .mmap (.snapshot w.snapshotTick) pack) (fun _ => rfl) trivial
    have hfeed := hmap.feeds (h265SnapshotFeedBuffer_feeds env pack.bytes (frame, _))
    exact (hfeed.feeds (feeds_snapshotStep _)).emit (fun _ => rfl) trivial
  · exact (h.feeds (feeds_snapshotStep w)).emit (fun _ => rfl) trivial

theorem snapshotEnqueue (h : Settled env interferes canSend dest w) (msg : MppNaluIpcMsg) :
    Settled env interferes canSend dest (snapshotEnqueue env msg w).2 := by
  have hcount : Settled env interferes canSend dest
      { w with snapshotTick := w.snapshotTick + 4 } := h.feeds ⟨rfl, Nat.le_add_right _ _⟩
  rw [LittleCore.snapshotEnqueue]
  dsimp only
  split
  · exact hcount
  · exact (hcount.feeds (feeds_snapshotStep _)).emit (fun _ => rfl) trivial

theorem datafifoSnapshotProcess (h : Settled env interferes canSend dest w)
    (msg : MppNaluIpcMsg) :
    Settled env interferes canSend dest (datafifoSnapshotProcess env msg w).2 := by
  rw [LittleCore.datafifoSnapshotProcess]
  split
  · exact h
  · have hloop := forEach_induct
      (R := fun (s t : H265SnapshotFrame × World) =>
        Settled env interferes canSend dest s.2 → Settled env interferes canSend dest t.2)
      (fun _ hs => hs) (fun h₁ h₂ hs => h₂ (h₁ hs))
      (fun pack (_ : pack ∈ msg.usedPacks) s hs => hs.snapshotPack pack s.1)
      ({ copyAu := true }, w) h
    split
    · rename_i heq
      rwa [heq] at hloop
    · rename_i frame v heq
      rw [heq] at hloop
      have hcache := hloop.feeds ((h265SnapshotUpdateGopCache_feeds env frame msg v).trans
        (updateLastIrap_feeds env frame msg _))
      dsimp only
      split
      · exact hcache
      · exact hcache.snapshotEnqueue msg

theorem processMessage (h : Settled env interferes canSend dest w) (msg : MppNaluIpcMsg)
    (needParameterSets : Bool) :
    Settled env interferes canSend dest
      (processMessage env msg dest canSend needParameterSets w) := by
  have hsnap : Settled env interferes canSend dest (if msg.flagged then
      LittleCore.datafifoSnapshotProcess env msg w else (true, w)).2 := by
    split
    · exact h.datafifoSnapshotProcess msg
    · exact h
  have hpacks : ∀ v, Settled env interferes canSend dest v →
      Settled env interferes canSend dest (playbackPacks env dest canSend msg v).2 := fun v hv =>
    List.foldlRecOn (motive := fun s : Bool × World => Settled env interferes canSend dest s.2)
      _ _ hv fun s hs pack _ => hs.datafifoProcessPackForPlayback pack.1 _ _ _
  have h' := hpacks _ hsnap
  rw [LittleCore.processMessage]
  dsimp only
  generalize playbackPacks env dest canSend msg _ = packs at h'
  have hsent : Settled env interferes canSend dest (if canSend then
      { packs.2 with timestamp := packs.2.timestamp + rtpTsStep, lastSentSeq := msg.seq }
      else packs.2) := by
    split
    · exact h'.frame rfl rfl (cache_congr rfl rfl rfl) rfl
    · exact h'
  generalize (if canSend then _ else packs.2) = v at hsent
  have hcount : Settled env interferes canSend dest { v with frameCount := v.frameCount + 1 } :=
    hsent.frame rfl rfl (cache_congr rfl rfl rfl) rfl
  exact hcount.emit (fun _ => rfl) trivial

theorem handleMessage (h : Settled env interferes canSend dest w) (msg : MppNaluIpcMsg)
    (needParameterSets : Bool) :
    Settled env interferes canSend dest
      (handleMessage env msg dest canSend needParameterSets w) := by
  rw [LittleCore.handleMessage]
  split
  · split
    · exact h
    · have hread : Settled env interferes canSend dest { w with lastReadSeq := msg.seq } :=
        h.frame rfl rfl rfl rfl
      exact hread.processMessage msg _
  · exact h

end Settled

/-- **One round.** -/
theorem datafifoRound_settled {env : Env} {interferes canSend : Bool} {dest : SockAddrIn}
    {w : World} (h : Settled env interferes canSend dest w) (item : Item) :
    ∃ dest, Settled env interferes false dest (datafifoRound env item w) := by
  obtain ⟨phase, hfollows, hsettled⟩ := (h.itemStep (e := .read item) rfl).schedule
  have htarget : Settled env interferes ((w.emit (.read item)).schedule env).rtsp.canSend
      (if ((w.emit (.read item)).schedule env).rtsp.gClientAddrSet
        then ((w.emit (.read item)).schedule env).rtsp.gClientAddr else ⟨0, 0⟩)
      (getRtspTarget env (w.emit (.read item))).2 :=
    ⟨.rest, hfollows.emit hfollows.long rfl (if_pos ⟨hsettled, rfl, rfl⟩) trivial, rfl⟩
  exact ⟨_, (htarget.handleMessage item.msg _).itemStep rfl⟩

/-- **The refinement.** Every run keeps to the protocol, and between two rounds the state that the
gate and the world share is the same. -/
theorem datafifoRtpSenderLoop_accepted {env : Env} {interferes : Bool}
    (hquiet : interferes = false → env.Quiet) (inputs : List Input) :
    ∃ dest, Settled env interferes false dest (datafifoRtpSenderLoop env inputs {}) := by
  induction inputs using List.reverseRecOn with
  | nil =>
    rw [datafifoRtpSenderLoop, List.foldl_nil]
    refine ⟨⟨0, 0⟩, .rest, ⟨?_, by simp, fun kind set hset => ?_, hquiet⟩, rfl⟩
    · have hcache : World.cache {} = fun _ => none := by
        funext kind
        rcases kind <;> rfl
      rw [hcache]
      rfl
    · rcases kind <;> simp [World.cache] at hset
  | append_singleton inputs input ih =>
    obtain ⟨dest, h⟩ := ih
    rw [datafifoRtpSenderLoop_concat]
    rcases input with s | item
    · obtain ⟨phase, hfollows, hsettled⟩ := h
      exact ⟨dest, phase, hfollows.rtspStep s (.inr rfl), hsettled⟩
    · exact datafifoRound_settled h item

end LittleCore

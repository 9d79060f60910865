import LittleCore.FileSender
import LittleCore.Gate.Start
import LittleCore.Rounds

/-!
# Packets follow the target

Both sender loops copy the target under `g_mutex` and then send with the copy, while the control
thread may tear down, set up and play again. What holds all the same is said here of the rounds:
`look k` is the world at the point of round `k` where the target is copied, and `done k` the world
after `k` rounds.

A round is a DATAFIFO item, or one pass of the file loop, which reads the target anew for every
call of `send_h265_nalu_rtp`.

## Main results

* `followsTarget_of_rounds` — what is shown of one round is enough
* `packets_follow_target` — both loops, whatever the control thread does
-/

namespace LittleCore

open Library World

/-! ### The shared state along a trace -/

/-- What an event does to the shared state. -/
def Event.applyTo (rtsp : RtspState) : Event → RtspState
  | .rtsp s _ => rtsp.apply s
  | .marked => { rtsp with gNeedParameterSets := false }
  | _ => rtsp

/-- The shared state that a trace leads to. -/
def rtspAt (trace : List Event) : RtspState := trace.foldl Event.applyTo {}

theorem rtspAt_concat (l : List Event) (e : Event) : rtspAt (l ++ [e]) = e.applyTo (rtspAt l) := by
  rw [rtspAt, List.foldl_append]
  rfl

/-- Only a `PLAY` sets `g_play`. -/
theorem gPlay_rtspAt_append {l m : List Event} (hl : (rtspAt l).gPlay = false)
    (hm : ∀ after, Event.rtsp .play after ∉ m) : (rtspAt (l ++ m)).gPlay = false := by
  induction m using List.reverseRecOn with
  | nil => rwa [List.append_nil]
  | append_singleton m e ih =>
    have hrest := ih fun after hmem => hm after (List.mem_append_left _ hmem)
    rw [← List.append_assoc, rtspAt_concat]
    cases e with
    | rtsp s after =>
      cases s with
      | play => exact absurd (by simp) (hm after)
      | setup | teardown | disconnect => rfl
    | _ => exact hrest

/-- The shared state of the world is the one that its trace leads to. -/
def World.Traced (w : World) : Prop := w.rtsp = rtspAt w.trace

theorem World.Traced.schedule {w : World} (h : w.Traced) (env : Env) : (w.schedule env).Traced := by
  refine List.foldlRecOn (motive := World.Traced) _ _ h ?_
  intro v hv s _
  rw [World.Traced, World.rtspStep, rtspAt_concat, ← hv]
  rfl

/-! ### Rounds -/

/-- With the trace at `l`, round `k` gives a packet for `dest` to `sendto`. -/
def PacketAt (done : ℕ → World) (k : ℕ) (l : List Event) (dest : SockAddrIn) : Prop :=
  (done k).trace <+: l ∧ ∃ packet ok, l ++ [.sendto dest packet ok] <+: (done (k + 1)).trace

/-- `done k` is the world after `k` rounds, `look k` the world at the look of round `k`. All packets
of the round go to the address that the look found, with a client playing, and a step that clears
`g_play` stops every round but the one whose look was before it. -/
structure FollowsTarget (look done : ℕ → World) : Prop where
  start : (done 0).trace = []
  rounds : ∀ k, (done k).trace <+: (look k).trace ∧ (look k).trace <+: (done (k + 1)).trace
  address : ∀ k l dest, PacketAt done k l dest → (look k).trace <+: l ∧
    (look k).rtsp.gPlay = true ∧ (look k).rtsp.gClientAddrSet = true ∧
    dest = (look k).rtsp.gClientAddr
  stops : ∀ l s after, (∀ rtsp : RtspState, (rtsp.apply s).gPlay = false) →
    ∀ j k m m' dest dest', (∀ after', .rtsp .play after' ∉ m) →
    (∀ after', .rtsp .play after' ∉ m') → PacketAt done j (l ++ .rtsp s after :: m) dest →
    PacketAt done k (l ++ .rtsp s after :: m') dest' → j = k ∧ (look k).trace <+: l

/-- It is no packet. -/
def Event.IsOffWire : Event → Prop
  | .sendto .. => False
  | _ => True

/-- If it is a packet, there is a client playing and it goes to its address. -/
def Event.GoesTo (rtsp : RtspState) : Event → Prop
  | .sendto dest _ _ => rtsp.canSend = true ∧ dest = rtsp.gClientAddr
  | _ => True

section Rounds

variable {look done : ℕ → World}

/-- A packet of a round is behind its look. -/
theorem PacketAt.behind {k : ℕ} {l : List Event} {dest : SockAddrIn} (h : PacketAt done k l dest)
    (hpre : Grows Event.IsOffWire (done k).trace (look k).trace)
    (hpost : (look k).trace <+: (done (k + 1)).trace) : (look k).trace <+: l := by
  obtain ⟨hdone, packet, ok, hl⟩ := h
  refine (before_or_within hpost hl).resolve_right ?_
  intro hpacket
  -- The packet would be one of the events before the look.
  obtain ⟨d, hd, hquiet⟩ := hpre
  obtain ⟨c, rfl⟩ := hdone
  rw [hd, List.append_assoc, List.prefix_append_right_inj] at hpacket
  have hmem : Event.sendto dest packet ok ∈ d := hpacket.subset (by simp)
  exact hquiet _ hmem

/-- A look that found a client playing, with no `PLAY` behind the step, was before the step. -/
theorem look_before {w : World} (htraced : w.Traced) (hplay : w.rtsp.gPlay = true)
    {l m : List Event} {s : RtspStep} {after : RtspState}
    (hclear : ∀ rtsp : RtspState, (rtsp.apply s).gPlay = false)
    (hm : ∀ after', Event.rtsp .play after' ∉ m) (hlook : w.trace <+: l ++ .rtsp s after :: m) :
    w.trace <+: l := by
  rw [List.append_cons] at hlook
  refine (before_or_within hlook (List.prefix_append _ m)).resolve_right ?_
  rintro ⟨t, ht⟩
  rw [← ht, List.prefix_append_right_inj] at hlook
  have hstep : (rtspAt (l ++ [.rtsp s after])).gPlay = false := by
    rw [rtspAt_concat]
    exact hclear _
  rw [htraced, ← ht,
    gPlay_rtspAt_append hstep fun after' hmem => hm after' (hlook.subset hmem)] at hplay
  cases hplay

section Order

variable (h : ∀ k, (done k).trace <+: (look k).trace ∧ (look k).trace <+: (done (k + 1)).trace)

include h

theorem prefix_of_rounds {j k : ℕ} (hjk : j ≤ k) : (done j).trace <+: (done k).trace := by
  induction k, hjk using Nat.le_induction with
  | base => exact List.prefix_rfl
  | succ k _ ih => exact ih.trans ((h k).1.trans (h k).2)

/-- A packet belongs to no earlier round than a look before it. -/
theorem PacketAt.le {j k : ℕ} {l m : List Event} {dest : SockAddrIn}
    (hpacket : PacketAt done j (l ++ m) dest) (hlook : (look k).trace <+: l) : k ≤ j := by
  obtain ⟨-, packet, ok, hl⟩ := hpacket
  by_contra hlt
  have hlen := ((hl.trans (prefix_of_rounds h (show j + 1 ≤ k by omega))).trans
    ((h k).1.trans hlook)).length_le
  simp only [List.length_append, List.length_singleton] at hlen
  omega

end Order

/-- **What is shown of one round is enough.** -/
theorem followsTarget_of_rounds (hstart : (done 0).trace = []) (hlook : ∀ k, (look k).Traced)
    (hpre : ∀ k, Grows Event.IsOffWire (done k).trace (look k).trace)
    (hpost : ∀ k, Grows (Event.GoesTo (look k).rtsp) (look k).trace (done (k + 1)).trace) :
    FollowsTarget look done := by
  have hrounds : ∀ k, (done k).trace <+: (look k).trace ∧
      (look k).trace <+: (done (k + 1)).trace := by
    intro k
    obtain ⟨d, hd, -⟩ := hpre k
    obtain ⟨d', hd', -⟩ := hpost k
    exact ⟨⟨d, hd.symm⟩, ⟨d', hd'.symm⟩⟩
  have haddress : ∀ k l dest, PacketAt done k l dest → (look k).trace <+: l ∧
      (look k).rtsp.gPlay = true ∧ (look k).rtsp.gClientAddrSet = true ∧
      dest = (look k).rtsp.gClientAddr := by
    intro k l dest hpacket
    have hbehind := hpacket.behind (hpre k) (hrounds k).2
    obtain ⟨-, packet, ok, hl⟩ := hpacket
    obtain ⟨d, hd, hgoes⟩ := hpost k
    obtain ⟨c, rfl⟩ := hbehind
    rw [hd, List.append_assoc, List.prefix_append_right_inj] at hl
    have hmem : Event.sendto dest packet ok ∈ d := hl.subset (by simp)
    obtain ⟨hsend, hdest⟩ := hgoes _ hmem
    obtain ⟨hplay, hset⟩ := Bool.and_eq_true_iff.mp hsend
    exact ⟨⟨c, rfl⟩, hplay, hset, hdest⟩
  refine ⟨hstart, hrounds, haddress,
    fun l s after hclear j k m m' dest dest' hm hm' hj hk => ?_⟩
  obtain ⟨hlookj, hplayj, -⟩ := haddress j _ dest hj
  obtain ⟨hlookk, hplayk, -⟩ := haddress k _ dest' hk
  have hbeforej := look_before (hlook j) hplayj hclear hm hlookj
  have hbeforek := look_before (hlook k) hplayk hclear hm' hlookk
  exact ⟨Nat.le_antisymm (hk.le hrounds hbeforej) (hj.le hrounds hbeforek), hbeforek⟩

end Rounds

/-! ### The DATAFIFO loop -/

/-- What `get_rtsp_target` found. -/
def Event.target? : Event → Option (Bool × SockAddrIn)
  | .target canSend dest => some (canSend, dest)
  | _ => none

/-- The gate knows the shared state, and who the message at hand goes to. -/
structure Targeted (l : List Event) (g : Gate) : Prop where
  rtsp : g.rtsp = rtspAt l
  target : g.canSend → lastValue Event.target? l = some (true, g.dest)
  busy : g.phase.busy → g.canSend

/-- An event that is no look. -/
theorem Targeted.skip {l : List Event} {g g' : Gate} {e : Event} (h : Targeted l g)
    (hbusy : g'.phase.busy → g'.canSend) (he : e.target? = none)
    (hrtsp : g'.rtsp = e.applyTo g.rtsp) (hdest : g'.dest = g.dest)
    (hsend : g'.canSend → g.canSend) : Targeted (l ++ [e]) g' := by
  refine ⟨by rw [rtspAt_concat, ← h.rtsp, hrtsp], ?_, hbusy⟩
  intro hc
  rw [lastValue_concat, he, hdest]
  exact h.target (hsend hc)

theorem targeted_move {l : List Event} {g g' : Gate} {e : Event} (h : Targeted l g)
    (hmove : g.Move true e g') : Targeted (l ++ [e]) g' := by
  have hbusy := hmove.busy h.busy
  cases hmove with
  | target hdest =>
    refine ⟨by rw [rtspAt_concat, ← h.rtsp]; rfl, ?_, hbusy⟩
    intro hc
    rw [lastValue_concat, Event.target?]
    exact congrArg (fun c => some (c, _)) hc
  | item hitem =>
    cases e <;> simp only [Event.isItemStep, Bool.false_eq_true] at hitem <;>
      exact h.skip hbusy rfl rfl rfl (by simp)
  | other hother =>
    cases e <;> simp only [Event.isOther, Bool.false_eq_true] at hother <;>
      exact h.skip hbusy rfl rfl rfl id
  | _ => exact h.skip hbusy rfl rfl rfl id

theorem targeted_of_run {l : List Event} {g : Gate} (h : (gateProtocol true).run l = some g) :
    Targeted l g :=
  Monitor.invariant (I := Targeted)
    ⟨rfl, by simp [gateProtocol], by simp [gateProtocol, Phase.busy]⟩
    (fun _ _ _ _ hI he => targeted_move hI (Gate.move_of_step he)) h

/-- A packet goes to the target that was looked up last. -/
theorem target_of_sendto {l r : List Event} {g : Gate} {dest : SockAddrIn} {packet : List UInt8}
    {ok : Bool} (h : (gateProtocol true).run (l ++ .sendto dest packet ok :: r) = some g) :
    lastValue Event.target? l = some (true, dest) := by
  obtain ⟨g₀, g₁, hg₀, hstep⟩ := Monitor.exists_step_of_run h
  have htargeted := targeted_of_run hg₀
  have hmove : g₀.Move true (.sendto dest packet ok) g₁ := Gate.move_of_step hstep
  cases hmove with
  | sendto _ _ hsending => exact htargeted.target (htargeted.busy (Gate.busy_of_sending hsending))
  | item hitem => simp [Event.isItemStep] at hitem
  | other hother => simp [Event.isOther] at hother

/-- The run over the first `k` inputs. -/
def datafifoRun (env : Env) (inputs : ℕ → Input) (k : ℕ) : World :=
  datafifoRtpSenderLoop env ((List.range k).map inputs) {}

theorem datafifoRun_succ (env : Env) (inputs : ℕ → Input) (k : ℕ) :
    datafifoRun env inputs (k + 1) = (datafifoRun env inputs k).input env (inputs k) := by
  rw [datafifoRun, List.range_succ, List.map_append, List.map_singleton,
    datafifoRtpSenderLoop_concat]
  rfl

theorem datafifoRun_accepted (env : Env) (inputs : ℕ → Input) (k : ℕ) :
    ∃ g, (gateProtocol true).run (datafifoRun env inputs k).trace = some g ∧
      g.rtsp = (datafifoRun env inputs k).rtsp := by
  obtain ⟨dest, phase, hfollows, -⟩ := datafifoRtpSenderLoop_accepted
    (fun h : true = false => absurd h (by decide)) ((List.range k).map inputs)
  exact ⟨_, hfollows.run, rfl⟩

theorem datafifoRun_traced (env : Env) (inputs : ℕ → Input) (k : ℕ) :
    (datafifoRun env inputs k).Traced := by
  obtain ⟨g, hrun, hrtsp⟩ := datafifoRun_accepted env inputs k
  rw [World.Traced, ← hrtsp]
  exact (targeted_of_run hrun).rtsp

/-- The world at the look of the round: right before `get_rtsp_target` takes the lock, or, where
the control thread comes between two rounds, behind its step. -/
def World.look (env : Env) (w : World) : Input → World
  | .rtsp s => w.rtspStep s
  | .item item => (w.emit (.read item)).schedule env

theorem World.Traced.look {w : World} (h : w.Traced) (env : Env) (input : Input) :
    (w.look env input).Traced := by
  cases input with
  | rtsp s =>
    rw [World.Traced, World.look, World.rtspStep, rtspAt_concat, ← h]
    rfl
  | item item =>
    refine World.Traced.schedule ?_ env
    rw [World.Traced, World.emit, rtspAt_concat]
    exact h

/-- What `get_rtsp_target` reads off the shared state. -/
def RtspState.target (s : RtspState) : Bool × SockAddrIn :=
  (s.canSend, if s.gClientAddrSet then s.gClientAddr else ⟨0, 0⟩)

/-- What comes behind the look: the target, and no second one. -/
theorem datafifoRound_look (env : Env) (item : Item) (w : World) :
    ∃ post, (datafifoRound env item w).trace = (w.look env (.item item)).trace ++
        .target (w.look env (.item item)).rtsp.target.1
          (w.look env (.item item)).rtsp.target.2 :: post ∧
      ∀ e ∈ post, e.target? = none := by
  have htarget : (getRtspTarget env (w.emit (.read item))).2.trace
      = (w.look env (.item item)).trace ++ [.target (w.look env (.item item)).rtsp.target.1
        (w.look env (.item item)).rtsp.target.2] := rfl
  rw [datafifoRound]
  generalize getRtspTarget env (w.emit (.read item)) = target at htarget
  obtain ⟨inner, gap, logged, hinner, htrace, -⟩ := handleMessage_inner env item.msg target.1.2.1
    (target.1.1 && target.1.2.2.1) target.1.2.2.2 target.2
  refine ⟨inner ++ (if accepts target.2.lastReadSeq item.msg then [.stats gap logged] else []) ++
    [.readDone item.ptr], ?_, fun e he => ?_⟩
  · rw [World.emit, htrace, htarget]
    simp only [List.append_assoc, List.cons_append, List.nil_append]
  · rcases List.mem_append.mp he with he | he
    · rcases List.mem_append.mp he with he | he
      · have := hinner e he
        cases e <;> first | rfl | exact this.elim
      · split at he
        · rw [List.mem_singleton.mp he]
          rfl
        · cases he
    · rw [List.mem_singleton.mp he]
      rfl

theorem goesTo_of_target {l : List Event} {rtsp : RtspState} {dest : SockAddrIn}
    {packet : List UInt8} {ok : Bool}
    (h : lastValue Event.target? l = some rtsp.target)
    (hsent : lastValue Event.target? l = some (true, dest)) :
    (Event.sendto dest packet ok).GoesTo rtsp := by
  rw [h, Option.some.injEq, RtspState.target, Prod.mk.injEq] at hsent
  obtain ⟨hsend, hdest⟩ := hsent
  rw [if_pos (Bool.and_eq_true_iff.mp hsend).2] at hdest
  exact ⟨hsend, hdest.symm⟩

theorem followsTarget_datafifo (env : Env) (inputs : ℕ → Input) :
    FollowsTarget (fun k => (datafifoRun env inputs k).look env (inputs k))
      (datafifoRun env inputs) := by
  refine followsTarget_of_rounds rfl (fun k => (datafifoRun_traced env inputs k).look env _)
    (fun k => ?_) (fun k => ?_)
  · cases inputs k with
    | rtsp s => exact Grows.single trivial _
    | item item =>
      refine (Grows.single (e := .read item) trivial _).trans
        ((schedule_spec env ((datafifoRun env inputs k).emit (.read item))).1.mono fun e he => ?_)
      cases e <;> trivial
  · obtain ⟨g, hrun, -⟩ := datafifoRun_accepted env inputs (k + 1)
    rw [datafifoRun_succ] at hrun ⊢
    cases hinput : inputs k with
    | rtsp s => exact Grows.refl _ _
    | item item =>
      obtain ⟨post, htrace, hpost⟩ := datafifoRound_look env item (datafifoRun env inputs k)
      rw [hinput, World.input, htrace] at hrun
      refine ⟨_, htrace, fun e he => ?_⟩
      rcases List.mem_cons.mp he with rfl | he
      · trivial
      · cases e with
        | sendto dest packet ok =>
          obtain ⟨a, b, rfl⟩ := List.append_of_mem he
          rw [List.append_cons, ← List.append_assoc] at hrun
          refine goesTo_of_target (lastValue_append_of_forall ?_ fun e' he' v hv => ?_)
            (target_of_sendto hrun)
          · rw [lastValue_concat]
            rfl
          · rw [hpost e' (List.mem_append_left _ he')] at hv
            cases hv
        | _ => trivial

/-! ### The file loop -/

/-- The world at the look of pass `k`: `wait_for_rtsp_play` has the lock. -/
def fileLook (env : Env) (gNalus : List (List UInt8)) (k : ℕ) : World :=
  (fileRtpSenderLoop env gNalus k).2.schedule env

theorem fileRtpSenderLoop_traced (env : Env) (gNalus : List (List UInt8)) (rounds : ℕ) :
    (fileRtpSenderLoop env gNalus rounds).2.Traced := by
  refine fileRtpSenderLoop_keeps (I := World.Traced) rfl (fun _ h => h.schedule env)
    (fun w dest packet ok h => ?_) (fun _ _ _ h => h) gNalus rounds
  rw [World.Traced, World.emit, rtspAt_concat]
  exact h

theorem fileRound_goesTo (env : Env) (gNalus : List (List UInt8)) (s : ℕ × World) :
    Grows (Event.GoesTo (s.2.schedule env).rtsp) (s.2.schedule env).trace
      (fileRound env gNalus s).2.trace := by
  rw [fileRound]
  dsimp only
  split
  · exact Grows.refl _ _
  · rename_i hplay
    split
    · exact Grows.refl _ _
    · have hsend := (sendH265NaluRtp_sends env (s.2.schedule env).rtsp.gClientAddr
        (gNalus.getD s.1 []) (s.2.schedule env).timestamp rtpSsrc 1 (s.2.schedule env)).grows.mono
        (Q := Event.GoesTo (s.2.schedule env).rtsp) fun e he => by
          cases e <;> first | trivial | exact ⟨by simpa using hplay, he.1⟩
      split <;> rename_i heq <;> rw [heq] at hsend <;> exact hsend

theorem followsTarget_file (env : Env) (gNalus : List (List UInt8)) :
    FollowsTarget (fileLook env gNalus) (fun k => (fileRtpSenderLoop env gNalus k).2) := by
  refine followsTarget_of_rounds rfl
    (fun k => (fileRtpSenderLoop_traced env gNalus k).schedule env) (fun k => ?_)
    (fun k => fileRound_goesTo env gNalus _)
  refine (schedule_spec env _).1.mono ?_
  intro e he
  cases e <;> trivial

/-- **Packets follow the target read with the message**, whatever the control thread does and
wherever it does it. -/
theorem packets_follow_target (env : Env) :
    (∀ inputs : ℕ → Input,
      FollowsTarget (fun k => (datafifoRun env inputs k).look env (inputs k))
        (datafifoRun env inputs)) ∧
    ∀ gNalus : List (List UInt8),
      FollowsTarget (fileLook env gNalus) (fun k => (fileRtpSenderLoop env gNalus k).2) :=
  ⟨followsTarget_datafifo env, followsTarget_file env⟩

end LittleCore

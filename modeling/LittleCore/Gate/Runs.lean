import LittleCore.Gate.Start

/-!
# How a client's stream starts, run by run

The two results about accepted traces, for the runs of `datafifo_rtp_sender_loop`.

With the control thread's steps anywhere, the request for parameter sets that a `PLAY` makes can be
lost: `newClient_loses_request` is a run in which another client sets up and plays while the
sets are on their way to the first one. `newClient_starts` says that nothing else can go wrong.

With the control thread's steps between messages, it cannot be lost, but the IDR that opens the
gate can: the gate is open even if the send fails, see `gate_opens_for_lost_idr`. Again
`gate_under_sendFailures` says that nothing else can go wrong.

## Main results

* `newClient_starts`, `gate_under_sendFailures`
* `marksSafe_of_run` — without interference the sets are always sent for the `PLAY` whose request
  is cleared
-/

namespace LittleCore

open Library World

/-! ### The conditions -/

/-- If no `sendto` fails, no packet of an IDR is lost. -/
theorem idrSendsKept_of_sendto {env : Env} (hsend : ∀ n, env.sendto n = true)
    (inputs : List Input) : IdrSendsKept (datafifoRtpSenderLoop env inputs {}).trace := by
  have haccepted : ∃ dest, Settled env true false dest (datafifoRtpSenderLoop env inputs {}) :=
    datafifoRtpSenderLoop_accepted (by simp) inputs
  obtain ⟨dest, phase, hfollows, -⟩ := haccepted
  intro pre mid dest packet post htrace
  obtain ⟨n, hn⟩ := hfollows.possible (.sendto dest packet false) (by simp [htrace])
  rw [hsend n] at hn
  simp at hn

/-- The last entry with a property is where two splittings at it agree. -/
theorem append_cons_inj_of_last {ε : Type*} {p : ε → Bool} {a b c d : List ε} {x y : ε}
    (h : a ++ x :: b = c ++ y :: d) (hx : p x) (hy : p y) (hb : ∀ e ∈ b, p e = false)
    (hd : ∀ e ∈ d, p e = false) : a = c ∧ x = y ∧ b = d := by
  rcases List.append_eq_append_iff.mp h with ⟨t, rfl, ht⟩ | ⟨t, rfl, ht⟩
  · rcases t with _ | ⟨z, t⟩
    · simpa using ht
    · rw [List.cons_append, List.cons.injEq] at ht
      rw [hb y (by simp [ht.2])] at hy
      simp at hy
  · rcases t with _ | ⟨z, t⟩
    · simpa [eq_comm] using ht
    · rw [List.cons_append, List.cons.injEq] at ht
      rw [hd x (by simp [ht.2])] at hx
      simp at hx

/-- Between messages the control thread cannot come between the sets and the flag. -/
theorem marksSafe_of_run {trace : List Event} {g : Gate}
    (h : (gateProtocol false).run trace = some g) : MarksSafe trace := by
  rintro pre dest set mid post rfl hmid
  obtain ⟨g₀, g₁, hg₀, hstep⟩ := Monitor.exists_step_of_run h
  have hkept := kept_of_run hg₀ (by simp)
  have hmove : g₀.Move false .marked g₁ := Gate.move_of_step hstep
  cases hmove with
  | marked hphase =>
    obtain ⟨a, t, sent, hl, hsent, ht⟩ := hkept.attempt _ [] hphase
    rw [List.append_nil] at hsent
    rw [hsent] at ht
    obtain ⟨s, set', r, rfl, -, hr⟩ := ht
    rw [← List.append_assoc] at hl
    obtain ⟨rfl, hset, rfl⟩ := append_cons_inj_of_last (p := Event.isVps) hl rfl rfl hmid
      (hr.isVps_eq_false (by simp))
    refine ⟨hr.isPlay_eq_false, fun a' after c ha hc => ?_⟩
    have hs : session (a ++ s ++ .parameterSet .vps dest set true :: mid)
        = some (after.gClientAddr, c ++ .parameterSet .vps dest set true :: mid) := by
      rw [ha, List.append_assoc, List.cons_append]
      refine session_of_play (fun e he => ?_) a' after
      rcases List.mem_append.mp he with he | he
      · exact hc e he
      · rcases List.mem_cons.mp he with rfl | he
        · rfl
        · exact hr.isPlay_eq_false e he
    rw [hkept.target (hkept.busy (by rw [hphase]; rfl)) (.inl rfl) _ _ hs]
    exact (Event.parameterSet.inj hset).2.1.symm
  | item hitem => simp [Event.isItemStep] at hitem
  | other hother => simp [Event.isOther] at hother

theorem marksSafe_of_quiet {env : Env} (hquiet : env.Quiet) (inputs : List Input) :
    MarksSafe (datafifoRtpSenderLoop env inputs {}).trace := by
  obtain ⟨dest, phase, hfollows, -⟩ :=
    datafifoRtpSenderLoop_accepted (fun _ : false = false => hquiet) inputs
  exact marksSafe_of_run hfollows.run

/-! ### Steps anywhere -/

/-- **A new client's start.** With the control thread's steps anywhere and `sendto` succeeding,
every NALU of a message whose target was read after a `PLAY` follows VPS, SPS and PPS sent after
that `PLAY` and is, or follows, an IDR sent after these, if no clearing of the flag ever takes a
`PLAY` with it that its sets were not sent for. -/
theorem newClient_starts {env : Env} (hsend : ∀ n, env.sendto n = true) (inputs : List Input)
    (hsafe : MarksSafe (datafifoRtpSenderLoop env inputs {}).trace) :
    SetsAfterPlay true (datafifoRtpSenderLoop env inputs {}).trace ∧
      IdrAfterPlay true (datafifoRtpSenderLoop env inputs {}).trace := by
  have haccepted : ∃ dest, Settled env true false dest (datafifoRtpSenderLoop env inputs {}) :=
    datafifoRtpSenderLoop_accepted (by simp) inputs
  obtain ⟨dest, phase, hfollows, -⟩ := haccepted
  exact ⟨setsAfterPlay_of_run hfollows.run fun _ => hsafe,
    idrAfterPlay_of_run hfollows.run (fun _ => hsafe) (idrSendsKept_of_sendto hsend inputs)⟩

/-- A VPS, an SPS and a PPS. -/
def sampleSets : List UInt8 := [0, 0, 1, 0x40, 1, 0, 0, 1, 0x42, 1, 0, 0, 1, 0x44, 1]

theorem length_sampleSets : sampleSets.length < 2 ^ 32 := by decide

def sampleSlice : List UInt8 := [0, 0, 1, 0x02, 1]

def sampleIdr : List UInt8 := [0, 0, 1, 0x26, 1]

/-- The sets come while nobody plays; then a client sets up and plays, and two messages follow. -/
def sampleRun (first second : List UInt8) (h₁ : first.length < 2 ^ 32 := by decide)
    (h₂ : second.length < 2 ^ 32 := by decide) : List Input :=
  [.item ⟨1, onePackMsg 1 0 sampleSets length_sampleSets⟩, .rtsp (.setup ⟨1, 5000⟩), .rtsp .play,
    .item ⟨2, onePackMsg 2 0 first h₁⟩, .item ⟨3, onePackMsg 3 0 second h₂⟩]

/-- A second client takes over while the first one's IDR is on its way. -/
def takeOverEnv : Env where
  control n := if n = 13 then [.disconnect, .setup ⟨2, 6000⟩, .play] else []

/-- The flag has already been cleared for the first client, so the second one's request stays. -/
theorem newClient_starts_sample :
    ¬ takeOverEnv.Quiet ∧
      SetsAfterPlay true
        (datafifoRtpSenderLoop takeOverEnv (sampleRun sampleIdr sampleIdr) {}).trace ∧
      IdrAfterPlay true
        (datafifoRtpSenderLoop takeOverEnv (sampleRun sampleIdr sampleIdr) {}).trace :=
  ⟨fun hquiet => absurd (hquiet 13) (by decide),
    newClient_starts (fun _ => rfl) _ (by decide +kernel)⟩

/-- The first client leaves, and a second one sets up and plays, just before the flag is cleared
for the first one. -/
def raceEnv : Env where
  control n := if n = 12 then [.disconnect, .setup ⟨2, 6000⟩, .play] else []

/-- **A request that is lost.** The second client gets the IDR and has never been sent a parameter
set. -/
theorem newClient_loses_request :
    (∀ n, raceEnv.sendto n = true) ∧
      ¬ SetsAfterPlay true
        (datafifoRtpSenderLoop raceEnv (sampleRun sampleSlice sampleIdr) {}).trace := by
  refine ⟨fun _ => rfl, fun h => ?_⟩
  generalize htrace : (datafifoRtpSenderLoop raceEnv (sampleRun sampleSlice sampleIdr) {}).trace
    = trace at h
  have hsplit : trace = trace.take 27 ++ .rtsp .play ⟨true, true, true, ⟨2, 6000⟩⟩ ::
      (trace.drop 28).take 11 ++ .nalu ⟨2, 6000⟩ [0x26, 1] true :: trace.drop 40 := by
    rw [← htrace]
    decide
  have htarget : .target true ⟨2, 6000⟩ ∈ (trace.drop 28).take 11 := by
    rw [← htrace]
    decide
  have hnone : ∀ e ∈ (trace.drop 28).take 11, e.isVps = false := by
    rw [← htrace]
    decide
  obtain ⟨set, hset⟩ := (h _ _ _ _ _ _ _ hsplit ⟨_, _, htarget⟩).vps_mem
  simpa [Event.isVps] using hnone _ hset

/-! ### Any failures of `sendto`, steps between messages -/

/-- Between messages, the target of a message at hand was read after all the control thread did. -/
theorem target_of_run {l : List Event} {g : Gate} (h : (gateProtocol false).run l = some g) :
    g.canSend → ∀ a s after c, l = a ++ .rtsp s after :: c →
      ∃ canSend dest, .target canSend dest ∈ c := by
  refine Monitor.invariant (I := fun l g => g.canSend → ∀ a s after c,
    l = a ++ .rtsp s after :: c → ∃ canSend dest, .target canSend dest ∈ c) (by simp)
    (fun l g e g' hI he hsend a s after c hl => ?_) h
  have hmove : g.Move false e g' := Gate.move_of_step he
  have hold : (∀ canSend dest, e ≠ .target canSend dest) → g.canSend := by
    intro hne
    cases hmove with
    | target => exact absurd rfl (hne _ _)
    | item => simp at hsend
    | _ => exact hsend
  rcases concat_eq_append_cons hl with ⟨rfl, rfl, rfl⟩ | ⟨c₀, rfl, rfl⟩
  · have hsend' := hold (by simp)
    cases hmove with
    | rtsp _ hallowed => simp [hsend'] at hallowed
    | item hitem => simp [Event.isItemStep] at hitem
    | other hother => simp [Event.isOther] at hother
  · by_cases htarget : ∃ canSend dest, e = .target canSend dest
    · obtain ⟨canSend, dest, rfl⟩ := htarget
      exact ⟨canSend, dest, by simp⟩
    · obtain ⟨canSend, dest, hmem⟩ := hI (hold fun canSend dest he => htarget ⟨_, _, he⟩) a s
        after c₀ rfl
      exact ⟨canSend, dest, List.mem_append_left _ hmem⟩

/-- What the gate promises a client for every `PLAY`. -/
structure GateKept (trace : List Event) : Prop where
  /-- A parameter set that is sent is the one in the cache. -/
  cached : ∀ pre kind dest set ok post, trace = pre ++ .parameterSet kind dest set ok :: post →
    lastCached kind pre = some set
  /-- Before any NALU of the stream, VPS, SPS and PPS are sent completely in one attempt. -/
  sets : ∀ pre after mid dest nalu ok post,
    trace = pre ++ .rtsp .play after :: mid ++ .nalu dest nalu ok :: post →
    SetsSent false dest mid
  /-- After that, before any NALU that is not an IDR, an IDR is sent completely. -/
  idr : ∀ pre after mid dest nalu ok post,
    trace = pre ++ .rtsp .play after :: mid ++ .nalu dest nalu ok :: post →
    h265IsIdr (h265NaluType nalu) ∨ Started false dest mid

/-- The target of a message that something was sent of was read after the last `PLAY`. -/
theorem target_mem_of_nalu {pre mid post : List Event} {after : RtspState} {dest : SockAddrIn}
    {nalu : List UInt8} {ok : Bool} {g : Gate}
    (h : (gateProtocol false).run
      (pre ++ .rtsp .play after :: mid ++ .nalu dest nalu ok :: post) = some g) :
    ∃ canSend dest', .target canSend dest' ∈ mid := by
  obtain ⟨g₀, g₁, hg₀, hstep⟩ := Monitor.exists_step_of_run h
  have hmove : g₀.Move false (.nalu dest nalu ok) g₁ := Gate.move_of_step hstep
  cases hmove with
  | nalu hphase =>
    refine target_of_run hg₀ ((kept_of_run hg₀ (by simp)).busy ?_) pre .play after mid rfl
    rcases hphase with ⟨hgate, -⟩ | hidr
    · rw [hgate]
      rfl
    · rw [hidr]
      rfl
  | item hitem => simp [Event.isItemStep] at hitem
  | other hother => simp [Event.isOther] at hother

/-- **The sets come first**, whatever `sendto` does. -/
theorem setsSent_of_sendFailures {env : Env} (hquiet : env.Quiet) (inputs : List Input)
    {pre mid post : List Event} {after : RtspState} {dest : SockAddrIn} {nalu : List UInt8}
    {ok : Bool} (htrace : (datafifoRtpSenderLoop env inputs {}).trace
      = pre ++ .rtsp .play after :: mid ++ .nalu dest nalu ok :: post) :
    SetsSent false dest mid := by
  obtain ⟨_, phase, hfollows, -⟩ :=
    datafifoRtpSenderLoop_accepted (fun _ : false = false => hquiet) inputs
  have hrun := hfollows.run
  rw [htrace] at hrun
  exact setsAfterPlay_of_run hrun (by simp) pre after mid dest nalu ok post rfl
    (target_mem_of_nalu hrun)

/-- **The gate under send failures.** With the control thread's steps between messages and any
pattern of `sendto` failures, the gate keeps its promise to every client, if no packet of an IDR
that clears `wait_for_idr` is lost. -/
theorem gate_under_sendFailures {env : Env} (hquiet : env.Quiet) (inputs : List Input)
    (hsends : IdrSendsKept (datafifoRtpSenderLoop env inputs {}).trace) :
    GateKept (datafifoRtpSenderLoop env inputs {}).trace := by
  obtain ⟨_, phase, hfollows, -⟩ :=
    datafifoRtpSenderLoop_accepted (fun _ : false = false => hquiet) inputs
  have hrun := hfollows.run
  refine ⟨fun pre kind dest set ok post htrace => ?_,
    fun pre after mid dest nalu ok post htrace => setsSent_of_sendFailures hquiet inputs htrace,
    fun pre after mid dest nalu ok post htrace => ?_⟩ <;> rw [htrace] at hrun
  · obtain ⟨g₀, g₁, hg₀, hstep⟩ := Monitor.exists_step_of_run hrun
    have hmove : g₀.Move false (.parameterSet kind dest set ok) g₁ := Gate.move_of_step hstep
    rw [← cache_of_run hg₀]
    cases hmove with
    | parameterSet _ hset => exact hset
    | item hitem => simp [Event.isItemStep] at hitem
    | other hother => simp [Event.isOther] at hother
  · rw [htrace] at hsends
    exact idrAfterPlay_of_run hrun (by simp) hsends pre after mid dest nalu ok post rfl
      (target_mem_of_nalu hrun)

/-- The SPS of the first attempt is lost. -/
def spsLossEnv : Env where
  sendto n := n != 10

/-- The attempt is given up and nothing of the message is sent; the next one starts with the sets
again. -/
theorem gate_under_sendFailures_sample :
    .parameterSet .sps ⟨1, 5000⟩ [0x42, 1] false ∈
        (datafifoRtpSenderLoop spsLossEnv (sampleRun sampleIdr sampleIdr) {}).trace ∧
      GateKept (datafifoRtpSenderLoop spsLossEnv (sampleRun sampleIdr sampleIdr) {}).trace :=
  ⟨by decide +kernel, gate_under_sendFailures (fun _ => rfl) _ (by decide +kernel)⟩

/-- The one packet of the IDR is lost. -/
def lossEnv : Env where
  sendto n := n != 13

/-- **The gate opens for an IDR that is lost.** The slice of the next message is sent, and no IDR
has been sent before. -/
theorem gate_opens_for_lost_idr :
    lossEnv.Quiet ∧
      ¬ GateKept (datafifoRtpSenderLoop lossEnv (sampleRun sampleIdr sampleSlice) {}).trace := by
  refine ⟨fun _ => rfl, fun h => ?_⟩
  generalize htrace : (datafifoRtpSenderLoop lossEnv (sampleRun sampleIdr sampleSlice) {}).trace
    = trace at h
  have hsplit : trace = trace.take 13 ++ .rtsp .play ⟨true, true, true, ⟨1, 5000⟩⟩ ::
      (trace.drop 14).take 24 ++ .nalu ⟨1, 5000⟩ [0x02, 1] true :: trace.drop 39 := by
    rw [← htrace]
    decide
  have hnalus : ((trace.drop 14).take 24).filter Event.isNalu
      = [.nalu ⟨1, 5000⟩ [0x26, 1] false] := by
    rw [← htrace]
    decide
  rcases h.idr _ _ _ _ _ _ _ hsplit with hidr | ⟨a, b, hab, -, nalu, -, hmem⟩
  · revert hidr
    decide
  · have hsent : .nalu ⟨1, 5000⟩ nalu true ∈ ((trace.drop 14).take 24).filter Event.isNalu := by
      rw [hab]
      exact List.mem_filter.mpr ⟨List.mem_append_right _ hmem, rfl⟩
    rw [hnalus] at hsent
    simp at hsent

end LittleCore

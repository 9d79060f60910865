import LittleCore.Gate.Player
import LittleCore.Gate.Runs

/-!
# What exactly a client is sent

From its `PLAY` on a client is sent the three parameter sets, as they are cached when for the first
time a NALU comes and all three are there, and then the stream from the next IDR on, that NALU
included. Before and after, nothing is sent at all.

The first half is a fact about the player (`transduce_opened`), carried over to the sender by the
refinement. The second half is one about accepted traces.

## Main results

* `playback_exact`
-/

namespace LittleCore

open Library World

/-! ### One client -/

/-- What a client gets out of the NALUs after its `PLAY`, if the caches hold `cache` then. -/
def openedStream : (ParamSet → Option (List UInt8)) → List (List UInt8) → List (List UInt8)
  | _, [] => []
  | cache, nalu :: nalus =>
    match cachedSets (storeSet cache nalu) with
    | none => openedStream (storeSet cache nalu) nalus
    | some sets =>
      sets ++ (nalu :: nalus).dropWhile fun nalu => !h265IsIdr (h265NaluType nalu)

/-- The NALUs among the player's inputs. -/
def stepNalus (steps : List PlayerStep) : List (List UInt8) :=
  steps.filterMap fun
    | .nalu bytes => some bytes
    | .rtsp _ => none

/-- The caches after a stream. -/
def setsOf (nalus : List (List UInt8)) : ParamSet → Option (List UInt8) :=
  nalus.foldl storeSet fun _ => none

namespace Player

variable {p : Player}

/-- An open gate lets everything pass. -/
theorem transduce_open (hsend : p.rtsp.canSend) (hneed : p.rtsp.gNeedParameterSets = false)
    (hwait : p.wait = false) (nalus : List (List UInt8)) :
    (transduce step p (nalus.map .nalu)).1 = nalus.map (p.rtsp.gClientAddr, ·) := by
  induction nalus generalizing p with
  | nil => rfl
  | cons nalu nalus ih =>
    have hstep : p.step (.nalu nalu) = ([(p.rtsp.gClientAddr, nalu)],
        { p with cache := storeSet p.cache nalu }) := by
      simp [step, Player.nalu, judge, pass, hsend, hneed, hwait]
    rw [List.map_cons, transduce_of_step hstep,
      ih (p := { p with cache := storeSet p.cache nalu }) hsend hneed hwait]
    rfl

/-- A gate that waits drops everything up to the next IDR. -/
theorem transduce_waiting (hsend : p.rtsp.canSend) (hneed : p.rtsp.gNeedParameterSets = false)
    (hwait : p.wait) (nalus : List (List UInt8)) :
    (transduce step p (nalus.map .nalu)).1
      = (nalus.dropWhile fun nalu => !h265IsIdr (h265NaluType nalu)).map
        (p.rtsp.gClientAddr, ·) := by
  induction nalus generalizing p with
  | nil => rfl
  | cons nalu nalus ih =>
    rw [List.map_cons]
    by_cases hidr : h265IsIdr (h265NaluType nalu) = true
    · have hstep : p.step (.nalu nalu) = ([(p.rtsp.gClientAddr, nalu)],
          { p with cache := storeSet p.cache nalu, wait := false }) := by
        simp [step, Player.nalu, judge, pass, hsend, hneed, hwait, hidr]
      rw [transduce_of_step hstep,
        transduce_open (p := { p with cache := storeSet p.cache nalu, wait := false }) hsend hneed
          rfl, List.dropWhile_cons_of_neg (by simp [hidr])]
      rfl
    · have hstep : p.step (.nalu nalu) = ([], { p with cache := storeSet p.cache nalu }) := by
        simp [step, Player.nalu, judge, pass, hsend, hneed, hwait, hidr]
      rw [transduce_of_step hstep,
        ih (p := { p with cache := storeSet p.cache nalu }) hsend hneed hwait,
        List.dropWhile_cons_of_pos (by simp [hidr])]
      rfl

/-- **One client.** -/
theorem transduce_opened (hsend : p.rtsp.canSend) (hneed : p.rtsp.gNeedParameterSets)
    (nalus : List (List UInt8)) :
    (transduce step p (nalus.map .nalu)).1
      = (openedStream p.cache nalus).map (p.rtsp.gClientAddr, ·) := by
  induction nalus generalizing p with
  | nil => rfl
  | cons nalu nalus ih =>
    rw [List.map_cons, openedStream]
    cases hsets : cachedSets (storeSet p.cache nalu) with
    | none =>
      have hstep : p.step (.nalu nalu) = ([], { p with cache := storeSet p.cache nalu }) := by
        simp [step, Player.nalu, judge, hsend, hneed, hsets]
      rw [transduce_of_step hstep, ih (p := { p with cache := storeSet p.cache nalu }) hsend hneed]
      rfl
    | some sets =>
      -- From here on the player is one that waits, and that has still to see this NALU.
      have hsend' : p.served.rtsp.canSend := hsend
      have hstep : p.step (.nalu nalu) = (sets.map (p.rtsp.gClientAddr, ·) ++
          (p.served.step (.nalu nalu)).1, (p.served.step (.nalu nalu)).2) := by
        simp [step, Player.nalu, judge, hsend, hsend', hneed, hsets]
        simp [served]
      have hwaiting := transduce_waiting hsend' rfl rfl (nalu :: nalus)
      rw [List.map_cons, transduce_cons] at hwaiting
      dsimp only at hwaiting
      rw [transduce_of_step hstep, List.append_assoc, hwaiting]
      exact List.map_append.symm

end Player

/-! #### The player's state -/

/-- The caches depend on the stream alone. -/
theorem cache_transduce (steps : List PlayerStep) :
    (transduce Player.step {} steps).2.cache = setsOf (stepNalus steps) := by
  have hpass : ∀ (p : Player) nalu, (p.pass nalu).2.cache = p.cache := by
    intro p nalu
    rw [Player.pass]
    split
    · split <;> rfl
    · rfl
  have hjudge : ∀ (p : Player) nalu, (p.judge nalu).2.cache = p.cache := by
    intro p nalu
    rw [Player.judge]
    split
    · split
      · rfl
      · exact hpass p.served nalu
    · exact hpass p nalu
  have hstep : ∀ (p : Player) s, (p.step s).2.cache = match s with
      | .nalu nalu => storeSet p.cache nalu
      | .rtsp _ => p.cache := by
    intro p s
    rcases s with s | nalu
    · rfl
    · rw [Player.step, Player.nalu]
      dsimp only
      split
      · exact hjudge { p with cache := storeSet p.cache nalu } nalu
      · rfl
  rw [foldl_transduce (f := Player.cache) (g := fun cache s => match s with
    | .nalu nalu => storeSet cache nalu
    | .rtsp _ => cache) hstep, setsOf, stepNalus, List.foldl_filterMap]
  congr 1
  funext cache s
  rcases s <;> rfl

/-- The address that an accepted `SETUP` negotiates. -/
def Input.setup? : Input → Option SockAddrIn
  | .rtsp (.setup addr) => some addr
  | _ => none

theorem addr_transduce_nalus (p : Player) (nalus : List (List UInt8)) :
    (transduce Player.step p (nalus.map .nalu)).2.rtsp.gClientAddr = p.rtsp.gClientAddr ∧
      (transduce Player.step p (nalus.map .nalu)).2.rtsp.gClientAddrSet
        = p.rtsp.gClientAddrSet := by
  induction nalus generalizing p with
  | nil => exact ⟨rfl, rfl⟩
  | cons nalu nalus ih =>
    obtain ⟨need, hrtsp⟩ := p.rtsp_step_nalu nalu
    obtain ⟨haddr, hset⟩ := ih (p.step (.nalu nalu)).2
    rw [List.map_cons, transduce_cons]
    exact ⟨by rw [haddr, hrtsp], by rw [hset, hrtsp]⟩

/-- The NALUs go to the address of the last `SETUP`. -/
theorem addr_transduce {inputs : List Input} {addr : SockAddrIn}
    (h : lastValue Input.setup? inputs = some addr) :
    (transduce Player.step {} (accepted inputs)).2.rtsp.gClientAddr = addr ∧
      (transduce Player.step {} (accepted inputs)).2.rtsp.gClientAddrSet := by
  induction inputs using List.reverseRecOn with
  | nil => simp [lastValue] at h
  | append_singleton inputs i ih =>
    rw [lastValue_concat] at h
    rw [accepted, transduce_append, transduce_singleton, ← accepted, transduce_append]
    dsimp only
    rcases i with s | item
    · rw [accept, transduce_singleton]
      rcases s with addr' | _ | _ | _
      · exact ⟨Option.some.inj h, rfl⟩
      all_goals exact ih h
    · rw [accept]
      split
      · rw [(addr_transduce_nalus ..).1, (addr_transduce_nalus ..).2]
        exact ih h
      · exact ih h

/-- Items bring nothing but NALUs. -/
theorem accept_items (last : UInt64) (items : List Item) :
    (stepNalus (transduce accept last (items.map .item)).1).map .nalu
      = (transduce accept last (items.map .item)).1 := by
  induction items generalizing last with
  | nil => rfl
  | cons item items ih =>
    have hitem : ∀ steps, (stepNalus ((accept last (.item item)).1 ++ steps)).map .nalu
        = (accept last (.item item)).1 ++ (stepNalus steps).map .nalu := by
      intro steps
      rw [accept]
      split <;> simp [stepNalus]
    rw [List.map_cons, transduce_cons, hitem, ih]

/-! ### Silence -/

/-- The shared state that a critical section of the control thread left. -/
def Event.rtspAfter : Event → Option RtspState
  | .rtsp _ after => some after
  | _ => none

/-- What makes the last critical section before a packet one that left a client playing. -/
structure Audible (l : List Event) (g : Gate) : Prop where
  busy : g.phase.busy → g.canSend
  canSend : g.canSend → g.rtsp.canSend
  rtsp : g.rtsp.canSend → ∃ after, lastValue Event.rtspAfter l = some after ∧ after.canSend

/-- An event that is none of the control thread's. -/
theorem Audible.skip {l : List Event} {g g' : Gate} {e : Event} (h : Audible l g)
    (hbusy : g'.phase.busy → g'.canSend) (he : e.rtspAfter = none)
    (hrtsp : g'.rtsp.canSend = g.rtsp.canSend) (hsend : g'.canSend → g.rtsp.canSend) :
    Audible (l ++ [e]) g' := by
  refine ⟨hbusy, by rwa [hrtsp], ?_⟩
  intro hplay
  rw [hrtsp] at hplay
  rw [lastValue_concat, he]
  exact h.rtsp hplay

theorem audible_move {l : List Event} {g g' : Gate} {e : Event} (h : Audible l g)
    (hmove : g.Move false e g') : Audible (l ++ [e]) g' := by
  have hbusy := hmove.busy h.busy
  cases hmove with
  | rtsp s hallowed =>
    have hsend : g.canSend = false := by simpa using hallowed
    refine ⟨hbusy, by simp [hsend], ?_⟩
    intro hplay
    refine ⟨_, ?_, hplay⟩
    rw [lastValue_concat]
    rfl
  | item hitem =>
    exact h.skip hbusy (by cases e <;> simp [Event.isItemStep] at hitem <;> rfl) rfl (by simp)
  | target => exact h.skip hbusy rfl rfl id
  | other hother =>
    exact h.skip hbusy (by cases e <;> simp [Event.isOther] at hother <;> rfl) rfl h.canSend
  | _ => exact h.skip hbusy rfl rfl h.canSend

/-- **Nothing is sent while nobody plays.** -/
theorem playing_of_sendto {env : Env} (hquiet : env.Quiet) (inputs : List Input)
    {pre post : List Event} {dest : SockAddrIn} {packet : List UInt8} {ok : Bool}
    (htrace : (datafifoRtpSenderLoop env inputs {}).trace
      = pre ++ .sendto dest packet ok :: post) :
    ∃ after, lastValue Event.rtspAfter pre = some after ∧ after.canSend := by
  obtain ⟨_, phase, hfollows, -⟩ :=
    datafifoRtpSenderLoop_accepted (fun _ : false = false => hquiet) inputs
  have hrun := hfollows.run
  rw [htrace] at hrun
  obtain ⟨g₀, g₁, hg₀, hstep⟩ := Monitor.exists_step_of_run hrun
  have haudible : Audible pre g₀ := by
    refine Monitor.invariant (I := Audible) ⟨?_, ?_, ?_⟩
      (fun l g e g' hI he => audible_move hI (Gate.move_of_step he)) hg₀ <;>
      simp [gateProtocol, Phase.busy, RtspState.canSend]
  have hmove : g₀.Move false (.sendto dest packet ok) g₁ := Gate.move_of_step hstep
  refine haudible.rtsp (haudible.canSend (haudible.busy ?_))
  cases hmove with
  | sendto _ _ hsending => exact Gate.busy_of_sending hsending
  | item hitem => simp [Event.isItemStep] at hitem
  | other hother => simp [Event.isOther] at hother

/-! ### The whole run -/

/-- **Exactly what a client is sent.** From a `PLAY` on, while only messages come, it is sent the
cached sets as soon as there are three of them, and the stream from the next IDR on; and no packet
is sent unless a client plays. -/
theorem playback_exact {env : Env} (henv : env.Smooth) (inputs : List Input) :
    (∀ before addr (items : List Item), inputs = before ++ .rtsp .play :: items.map .item →
      lastValue Input.setup? before = some addr →
      sentNalus (datafifoRtpSenderLoop env inputs {}).trace
        = sentNalus (datafifoRtpSenderLoop env before {}).trace ++
          (openedStream (setsOf (stepNalus (accepted before)))
            (stepNalus (transduce accept (transduce accept 0 before).2 (items.map .item)).1)).map
              (addr, ·)) ∧
      ∀ pre dest packet ok post,
        (datafifoRtpSenderLoop env inputs {}).trace = pre ++ .sendto dest packet ok :: post →
        ∃ after, lastValue Event.rtspAfter pre = some after ∧ after.canSend := by
  refine ⟨fun before addr items hinputs hsetup => ?_, fun pre dest packet ok post htrace =>
    playing_of_sendto henv.quiet inputs htrace⟩
  obtain ⟨haddr, hset⟩ := addr_transduce hsetup
  rw [(datafifoRtpSenderLoop_player henv before).sent,
    (datafifoRtpSenderLoop_player henv inputs).sent, hinputs, accepted, transduce_append,
    transduce_append, ← accepted, transduce_cons]
  dsimp only
  rw [transduce_append, ← accept_items, ← cache_transduce]
  generalize (transduce Player.step {} (accepted before)).2 = p at haddr hset ⊢
  have hplay : transduce Player.step p (accept (transduce accept 0 before).2 (.rtsp .play)).1
      = ([], { p with rtsp := p.rtsp.apply .play }) :=
    transduce_singleton p (PlayerStep.rtsp .play)
  rw [hplay, List.nil_append,
    Player.transduce_opened (p := { p with rtsp := p.rtsp.apply .play })
      (by simpa [RtspState.canSend, RtspState.apply] using hset) rfl, ← haddr]
  rfl

/-- An IDR and a slice come after the `PLAY`, and the sets came before the `SETUP`. -/
theorem playback_exact_sample :
    sentNalus (datafifoRtpSenderLoop {} (sampleRun sampleIdr sampleSlice) {}).trace
      = [[0x40, 1], [0x42, 1], [0x44, 1], [0x26, 1], [0x02, 1]].map (⟨1, 5000⟩, ·) := by
  have henv : Env.Smooth {} :=
    ⟨fun _ => rfl, fun _ => rfl, fun _ => rfl, fun _ => rfl, fun _ => rfl⟩
  rw [(playback_exact henv (sampleRun sampleIdr sampleSlice)).1
    [.item ⟨1, onePackMsg 1 0 sampleSets length_sampleSets⟩, .rtsp (.setup ⟨1, 5000⟩)] ⟨1, 5000⟩
    [⟨2, onePackMsg 2 0 sampleIdr (by decide)⟩, ⟨3, onePackMsg 3 0 sampleSlice (by decide)⟩]
    rfl rfl]
  decide

end LittleCore

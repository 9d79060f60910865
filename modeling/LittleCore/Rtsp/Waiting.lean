import LittleCore.Library.Monitor
import LittleCore.Rtsp.State

/-!
# Waiting for `PLAY`

In file mode the sender blocks on `g_cond` until there is a playing client with an address. Only
`PLAY` signals it, though the condition it waits for has two parts: a `SETUP` that came last would
go unnoticed. It cannot come last, because it clears `g_play`.

The model has the steps of `wait_for_rtsp_play` and of the critical sections of
`handle_rtsp_client` one by one, with the mutex between them, so that it does not matter here that
`PLAY` signals before it unlocks. `g_cond` has no other waiter.

## Main results

* `no_lost_wakeup`
-/

namespace LittleCore

open Library

/-- Where the sender is. -/
inductive WaitingSender where
  /-- Not in `wait_for_rtsp_play`, with the address it returned last. -/
  | outside (dest : Option SockAddrIn)
  /-- It has the mutex, in front of the test of the loop. -/
  | testing
  /-- It has the mutex, and the test was true. -/
  | unready
  /-- In `pthread_cond_wait`, and not woken yet. -/
  | blocked
  /-- In `pthread_cond_wait`, signalled or not, in front of the mutex. -/
  | woken
  /-- It has the mutex, behind the loop. -/
  | ready
  /-- It has the mutex, and a copy of the address. -/
  | copied (dest : SockAddrIn)
deriving DecidableEq, Repr

/-- Where the control thread is. -/
inductive SignallingControl where
  | outside
  /-- It has the mutex, in front of the writes of a critical section. -/
  | writing (step : RtspStep)
  /-- It has the mutex, in front of `pthread_cond_signal`. -/
  | signalling
  /-- It has the mutex, in front of `pthread_mutex_unlock`. -/
  | unlocking
deriving DecidableEq, Repr

structure PlayThreads where
  rtsp : RtspState := {}
  sender : WaitingSender := .outside none
  control : SignallingControl := .outside
deriving DecidableEq, Repr

inductive PlayStep where
  /-- The sender calls `wait_for_rtsp_play` and gets the mutex. -/
  | enter
  | test
  /-- `pthread_cond_wait` gives up the mutex and blocks. -/
  | wait
  /-- `pthread_cond_wait` wakes up without a signal. -/
  | wake
  /-- `pthread_cond_wait` gets the mutex again. -/
  | relock
  | copy
  /-- The sender unlocks and returns. -/
  | leave
  /-- The control thread gets the mutex for a critical section. -/
  | lock (step : RtspStep)
  | write
  | signal
  | unlock
deriving DecidableEq, Repr

/-- The sender has the mutex. -/
def WaitingSender.holds : WaitingSender → Bool
  | .testing | .unready | .ready | .copied _ => true
  | .outside _ | .blocked | .woken => false

/-- `pthread_cond_signal`. -/
def WaitingSender.signal : WaitingSender → WaitingSender
  | .blocked => .woken
  | sender => sender

/-- Behind the writes: only `PLAY` signals. -/
def RtspStep.next : RtspStep → SignallingControl
  | .play => .signalling
  | _ => .unlocking

/-- One step of one of the threads, if that thread can make it. -/
def PlayThreads.step (s : PlayThreads) : PlayStep → Option PlayThreads
  | .enter =>
    match s.sender with
    | .outside _ => if s.control = .outside then some { s with sender := .testing } else none
    | _ => none
  | .test =>
    if s.sender = .testing then
      some { s with
        sender := if !s.rtsp.gPlay || !s.rtsp.gClientAddrSet then .unready else .ready }
    else none
  | .wait => if s.sender = .unready then some { s with sender := .blocked } else none
  | .wake => if s.sender = .blocked then some { s with sender := .woken } else none
  | .relock =>
    if s.sender = .woken ∧ s.control = .outside then some { s with sender := .testing } else none
  | .copy =>
    if s.sender = .ready then some { s with sender := .copied s.rtsp.gClientAddr } else none
  | .leave =>
    match s.sender with
    | .copied dest => some { s with sender := .outside (some dest) }
    | _ => none
  | .lock step =>
    if s.control = .outside ∧ s.sender.holds = false then some { s with control := .writing step }
    else none
  | .write =>
    match s.control with
    | .writing step => some { s with rtsp := s.rtsp.apply step, control := step.next }
    | _ => none
  | .signal =>
    if s.control = .signalling then
      some { s with sender := s.sender.signal, control := .unlocking }
    else none
  | .unlock => if s.control = .unlocking then some { s with control := .outside } else none

/-- The interleavings of the two threads. -/
def playThreads : Monitor PlayThreads PlayStep where
  start := {}
  step := PlayThreads.step

/-! ### The invariant -/

namespace PlayThreads

/-- Both flags are set. -/
def Ready (s : PlayThreads) : Prop := s.rtsp.gPlay = true ∧ s.rtsp.gClientAddrSet = true

structure Inv (s : PlayThreads) : Prop where
  exclusive : s.sender.holds = true → s.control = .outside
  unready : s.sender = .unready → ¬ s.Ready
  /-- A sender that ought to be awake is about to be signalled. -/
  blocked : s.sender = .blocked → s.Ready → s.control = .signalling
  ready : s.sender = .ready → s.Ready
  copied : ∀ dest, s.sender = .copied dest → s.Ready ∧ s.rtsp.gClientAddr = dest

/-- Whoever writes and does not signal clears `g_play`. -/
theorem next_of_ready {rtsp : RtspState} {step : RtspStep}
    (h : (rtsp.apply step).gPlay = true) : step.next = .signalling := by
  cases step with
  | play => rfl
  | setup addr => cases h
  | teardown => cases h
  | disconnect => cases h

theorem inv_start : Inv {} :=
  ⟨nofun, nofun, nofun, nofun, nofun⟩

/-- While the control thread has the mutex, the sender does not have it. -/
theorem Inv.not_holds {s : PlayThreads} (hs : s.Inv) (h : s.control ≠ .outside) :
    s.sender.holds = false := by
  by_contra hholds
  rw [Bool.not_eq_false] at hholds
  exact h (hs.exclusive hholds)

/-- A sender that was signalled without the mutex is not blocked. -/
theorem signal_of_not_holds {sender : WaitingSender} (h : sender.holds = false) :
    sender.signal = .woken ∨ ∃ dest, sender.signal = .outside dest := by
  cases sender with
  | outside dest => exact .inr ⟨dest, rfl⟩
  | blocked => exact .inl rfl
  | woken => exact .inl rfl
  | testing => cases h
  | unready => cases h
  | ready => cases h
  | copied => cases h

/-- **One step keeps the invariant.** -/
theorem inv_step {s s' : PlayThreads} {e : PlayStep} (hs : s.Inv) (h : s.step e = some s') :
    s'.Inv := by
  cases e with
  | enter =>
    rw [step] at h
    split at h
    · obtain ⟨hcontrol, rfl⟩ := Monitor.of_guard h
      exact ⟨fun _ => hcontrol, nofun, nofun, nofun, nofun⟩
    · cases h
  | test =>
    obtain ⟨hsender, rfl⟩ := Monitor.of_guard h
    have hcontrol : s.control = .outside := hs.exclusive (by rw [hsender]; rfl)
    by_cases hready : s.Ready
    · rw [hready.1, hready.2]
      exact ⟨fun _ => hcontrol, nofun, nofun, fun _ => hready, nofun⟩
    · have htest : (!s.rtsp.gPlay || !s.rtsp.gClientAddrSet) = true := by
        by_contra hno
        simp only [Bool.or_eq_true, Bool.not_eq_true', not_or, Bool.not_eq_false] at hno
        exact hready hno
      rw [if_pos htest]
      exact ⟨fun _ => hcontrol, fun _ => hready, nofun, nofun, nofun⟩
  | wait =>
    obtain ⟨hsender, rfl⟩ := Monitor.of_guard h
    exact ⟨nofun, nofun, fun _ hready => absurd hready (hs.unready hsender), nofun, nofun⟩
  | wake =>
    obtain ⟨hsender, rfl⟩ := Monitor.of_guard h
    exact ⟨nofun, nofun, nofun, nofun, nofun⟩
  | relock =>
    obtain ⟨⟨hsender, hcontrol⟩, rfl⟩ := Monitor.of_guard h
    exact ⟨fun _ => hcontrol, nofun, nofun, nofun, nofun⟩
  | copy =>
    obtain ⟨hsender, rfl⟩ := Monitor.of_guard h
    have hcontrol : s.control = .outside := hs.exclusive (by rw [hsender]; rfl)
    refine ⟨fun _ => hcontrol, nofun, nofun, nofun, ?_⟩
    rintro dest hdest
    exact ⟨hs.ready hsender, WaitingSender.copied.inj hdest⟩
  | leave =>
    rw [step] at h
    split at h
    · obtain rfl := Option.some.inj h
      exact ⟨nofun, nofun, nofun, nofun, nofun⟩
    · cases h
  | lock step =>
    obtain ⟨⟨hcontrol, hholds⟩, rfl⟩ := Monitor.of_guard h
    refine ⟨fun hholds' => absurd (hholds.symm.trans hholds') Bool.false_ne_true, hs.unready, ?_,
      hs.ready, hs.copied⟩
    intro hsender hready
    have hsignal := hs.blocked hsender hready
    rw [hcontrol] at hsignal
    cases hsignal
  | write =>
    rw [PlayThreads.step] at h
    split at h
    · rename_i step hcontrol
      obtain rfl := Option.some.inj h
      have hholds := hs.not_holds (by rw [hcontrol]; nofun)
      refine ⟨fun hholds' => absurd (hholds.symm.trans hholds') Bool.false_ne_true, ?_,
        fun _ hready => next_of_ready hready.1, ?_, ?_⟩
      · intro hsender
        rw [show s.sender = .unready from hsender] at hholds
        cases hholds
      · intro hsender
        rw [show s.sender = .ready from hsender] at hholds
        cases hholds
      · intro dest hsender
        rw [show s.sender = .copied dest from hsender] at hholds
        cases hholds
    · cases h
  | signal =>
    obtain ⟨hcontrol, rfl⟩ := Monitor.of_guard h
    have hholds := hs.not_holds (by rw [hcontrol]; nofun)
    rcases signal_of_not_holds hholds with hsender | ⟨dest, hsender⟩ <;> rw [hsender] <;>
      exact ⟨nofun, nofun, nofun, nofun, nofun⟩
  | unlock =>
    obtain ⟨hcontrol, rfl⟩ := Monitor.of_guard h
    refine ⟨fun _ => rfl, hs.unready, ?_, hs.ready, hs.copied⟩
    intro hsender hready
    have hsignal := hs.blocked hsender hready
    rw [hcontrol] at hsignal
    cases hsignal

/-- **Every run keeps it.** -/
theorem inv_run {l : List PlayStep} {s : PlayThreads} (h : playThreads.run l = some s) : s.Inv :=
  Monitor.invariant (I := fun _ s => s.Inv) inv_start (fun _ _ _ _ hs h => inv_step hs h) h

/-- While the sender has a copy nobody else can do anything. -/
theorem copied_of_step {s s' : PlayThreads} {e : PlayStep} (hs : s.Inv) (h : s.step e = some s')
    {dest : SockAddrIn} (hsender : s'.sender = .copied dest) :
    e = .copy ∧ s.Ready ∧ s.rtsp.gClientAddr = dest := by
  have hstays : s.control ≠ .outside → s.sender ≠ .copied dest := by
    intro hcontrol hcopied
    have hholds := hs.not_holds hcontrol
    rw [hcopied] at hholds
    cases hholds
  cases e with
  | copy =>
    obtain ⟨hready, rfl⟩ := Monitor.of_guard h
    exact ⟨rfl, hs.ready hready, WaitingSender.copied.inj hsender⟩
  | enter =>
    rw [step] at h
    split at h
    · obtain ⟨-, rfl⟩ := Monitor.of_guard h
      cases hsender
    · cases h
  | test =>
    obtain ⟨-, rfl⟩ := Monitor.of_guard h
    dsimp only at hsender
    split at hsender <;> cases hsender
  | wait =>
    obtain ⟨-, rfl⟩ := Monitor.of_guard h
    cases hsender
  | wake =>
    obtain ⟨-, rfl⟩ := Monitor.of_guard h
    cases hsender
  | relock =>
    obtain ⟨-, rfl⟩ := Monitor.of_guard h
    cases hsender
  | leave =>
    rw [step] at h
    split at h
    · obtain rfl := Option.some.inj h
      cases hsender
    · cases h
  | lock step =>
    obtain ⟨⟨-, hholds⟩, rfl⟩ := Monitor.of_guard h
    rw [show s.sender = .copied dest from hsender] at hholds
    cases hholds
  | write =>
    rw [PlayThreads.step] at h
    split at h
    · rename_i hcontrol
      obtain rfl := Option.some.inj h
      exact absurd hsender (hstays (by rw [hcontrol]; nofun))
    · cases h
  | signal =>
    obtain ⟨hcontrol, rfl⟩ := Monitor.of_guard h
    have hholds := hs.not_holds (by rw [hcontrol]; nofun)
    rcases signal_of_not_holds hholds with hsignal | ⟨dest', hsignal⟩ <;>
      cases hsignal.symm.trans hsender
  | unlock =>
    obtain ⟨hcontrol, rfl⟩ := Monitor.of_guard h
    exact absurd hsender (hstays (by rw [hcontrol]; nofun))

/-- The sender has a copy only right behind the step that made it. -/
theorem copied_run {l : List PlayStep} {s : PlayThreads} (h : playThreads.run l = some s)
    {dest : SockAddrIn} (hsender : s.sender = .copied dest) : ∃ before t, l = before ++ [.copy] ∧
      playThreads.run before = some t ∧ t.Ready ∧ t.rtsp.gClientAddr = dest := by
  rcases List.eq_nil_or_concat' l with rfl | ⟨before, e, rfl⟩
  · rw [Monitor.run_nil, Option.some.injEq] at h
    rw [← h] at hsender
    cases hsender
  · rw [Monitor.run_concat] at h
    obtain ⟨t, ht, hstep⟩ := Option.bind_eq_some_iff.mp h
    obtain ⟨rfl, hready, haddr⟩ := copied_of_step (inv_run ht) hstep hsender
    exact ⟨before, t, rfl, ht, hready, haddr⟩

end PlayThreads

/-- **No wake-up is lost.** A sender that is blocked while both flags are set is about to be
signalled by the control thread, which still has the mutex; between its critical sections there is
no such state. And the sender returns with the address that it has just copied, when both were
set. -/
theorem no_lost_wakeup {l : List PlayStep} {s : PlayThreads} (h : playThreads.run l = some s) :
    (s.sender = .blocked → s.control ≠ .signalling →
      ¬ (s.rtsp.gPlay = true ∧ s.rtsp.gClientAddrSet = true)) ∧
    ∀ pre, l = pre ++ [.leave] → ∃ before t, pre = before ++ [.copy] ∧
      playThreads.run before = some t ∧ t.rtsp.gPlay = true ∧ t.rtsp.gClientAddrSet = true ∧
        s.sender = .outside (some t.rtsp.gClientAddr) := by
  constructor
  · intro hsender hcontrol hready
    exact hcontrol ((PlayThreads.inv_run h).blocked hsender hready)
  · rintro pre rfl
    rw [Monitor.run_concat] at h
    obtain ⟨u, hu, hleave⟩ := Option.bind_eq_some_iff.mp h
    change u.step .leave = some s at hleave
    rw [PlayThreads.step] at hleave
    split at hleave
    · rename_i dest hcopied
      obtain ⟨before, t, rfl, ht, hready, haddr⟩ := PlayThreads.copied_run hu hcopied
      obtain rfl := Option.some.inj hleave
      exact ⟨before, t, rfl, ht, hready.1, hready.2, by rw [haddr]⟩
    · cases hleave

/-- A client that sets up and plays while the sender waits, up to the signal. -/
def playSteps : List PlayStep :=
  [.enter, .test, .wait, .lock (.setup ⟨7, 5000⟩), .write, .unlock, .wake, .relock, .test, .wait,
    .lock .play, .write, .signal, .unlock, .relock, .test, .copy, .leave]

/-- The sender blocks again after the `SETUP`, since nobody plays yet, and returns after the
`PLAY`. -/
theorem no_lost_wakeup_sample :
    (∃ s, playThreads.run (playSteps.take 10) = some s ∧ s.sender = .blocked ∧
      ¬ (s.rtsp.gPlay = true ∧ s.rtsp.gClientAddrSet = true)) ∧
    ∃ s, playThreads.run playSteps = some s ∧ s.sender = .outside (some ⟨7, 5000⟩) ∧
      ∃ before t, playSteps = before ++ [.copy, .leave] ∧ playThreads.run before = some t ∧
        t.rtsp.gPlay = true := by
  have hblocked : playThreads.run (playSteps.take 10)
      = some ⟨⟨false, true, true, ⟨7, 5000⟩⟩, .blocked, .outside⟩ := by decide
  have hrun : playThreads.run playSteps
      = some ⟨⟨true, true, true, ⟨7, 5000⟩⟩, .outside (some ⟨7, 5000⟩), .outside⟩ := by decide
  obtain ⟨before, t, hbefore, ht, hplay, -, -⟩ := (no_lost_wakeup hrun).2 (playSteps.take 17) rfl
  refine ⟨⟨_, hblocked, rfl, (no_lost_wakeup hblocked).1 rfl nofun⟩, _, hrun, rfl, before, t, ?_,
    ht, hplay⟩
  rw [show playSteps = playSteps.take 17 ++ [.leave] from rfl, hbefore, List.append_assoc]
  rfl

end LittleCore

import LittleCore.Gate.Protocol

/-!
# How a client's stream starts

A client that has been told to play must get the parameter sets and then an IDR before anything
else. `SetsAfterPlay` and `IdrAfterPlay` say this of a trace, for every `PLAY` and every NALU of a
message whose target was read after it.

Two things can go wrong, and both are conditions on where steps of others fall:

* `MarksSafe` — the flag that asks for parameter sets is cleared for a `PLAY` that these sets were
  not sent for. It can only fail if the control thread takes steps inside a message.
* `IdrSendsKept` — the IDR that clears `wait_for_idr` is lost on the way.

The proofs are about accepted traces only. `Kept` is the invariant behind the parameter sets and
`Opened` the one behind the IDR; `kept_move` and `opened_move` preserve them along one event.

## Main results

* `setsAfterPlay_of_run` — in an accepted trace that meets `MarksSafe`, every client gets the
  parameter sets first
* `idrAfterPlay_of_run` — if it also meets `IdrSendsKept`, the next thing is an IDR
-/

namespace LittleCore

open Library World

namespace Event

def isPlay : Event → Bool
  | .rtsp .play _ => true
  | _ => false

def isNalu : Event → Bool
  | .nalu .. => true
  | _ => false

theorem exists_of_isPlay {e : Event} (h : e.isPlay) : ∃ after, e = .rtsp .play after := by
  cases e with
  | rtsp s after =>
    rcases s <;> simp only [isPlay, Bool.false_eq_true] at h
    exact ⟨after, rfl⟩
  | _ => simp [isPlay] at h

/-- The event may come between the packets of a send. -/
def isWire (interferes : Bool) : Event → Bool
  | .sendto .. => true
  | .rtsp .. => interferes
  | _ => false

/-- The event is a `VPS` sent from its cache. -/
def isVps : Event → Bool
  | .parameterSet .vps .. => true
  | _ => false

end Event

/-! ### The property -/

/-- Nothing but packets, and steps of the control thread if it `interferes`, and in between the
parameter sets `kinds`, sent to `dest` completely and in this order. -/
def Attempt (interferes : Bool) (dest : SockAddrIn) : List ParamSet → List Event → Prop
  | [], l => ∀ e ∈ l, e.isWire interferes
  | kind :: kinds, l => ∃ s set r, l = s ++ .parameterSet kind dest set true :: r ∧
      (∀ e ∈ s, e.isWire interferes) ∧ Attempt interferes dest kinds r

/-- VPS, SPS and PPS have all been sent to `dest` in one attempt. -/
def SetsSent (interferes : Bool) (dest : SockAddrIn) (l : List Event) : Prop :=
  ∃ a t b, l = a ++ t ++ b ∧ Attempt interferes dest allSets t

/-- After that, an IDR has been sent to `dest` completely. -/
def Started (interferes : Bool) (dest : SockAddrIn) (l : List Event) : Prop :=
  ∃ a b, l = a ++ b ∧ SetsSent interferes dest a ∧
    ∃ nalu, h265IsIdr (h265NaluType nalu) ∧ .nalu dest nalu true ∈ b

/-- Every NALU of a message whose target was read after a `PLAY` follows parameter sets sent after
that `PLAY`. -/
def SetsAfterPlay (interferes : Bool) (trace : List Event) : Prop :=
  ∀ pre after mid dest nalu ok post,
    trace = pre ++ .rtsp .play after :: mid ++ .nalu dest nalu ok :: post →
    (∃ canSend dest', .target canSend dest' ∈ mid) → SetsSent interferes dest mid

/-- And it is an IDR, or follows an IDR that followed these. -/
def IdrAfterPlay (interferes : Bool) (trace : List Event) : Prop :=
  ∀ pre after mid dest nalu ok post,
    trace = pre ++ .rtsp .play after :: mid ++ .nalu dest nalu ok :: post →
    (∃ canSend dest', .target canSend dest' ∈ mid) →
    h265IsIdr (h265NaluType nalu) ∨ Started interferes dest mid

/-- When the flag is cleared, no `PLAY` has come in since the `VPS` of the attempt was sent, and
the last one before was for the address the sets were sent to. -/
def MarksSafe (trace : List Event) : Prop :=
  ∀ pre dest set mid post,
    trace = pre ++ .parameterSet .vps dest set true :: mid ++ .marked :: post →
    (∀ e ∈ mid, e.isVps = false) →
    (∀ e ∈ mid, e.isPlay = false) ∧
      ∀ a after c, pre = a ++ .rtsp .play after :: c → (∀ e ∈ c, e.isPlay = false) →
        after.gClientAddr = dest

/-- No packet of an IDR that clears `wait_for_idr` is lost. -/
def IdrSendsKept (trace : List Event) : Prop :=
  ∀ pre mid dest packet post,
    trace = pre ++ .idrFound :: mid ++ .sendto dest packet false :: post →
    ∃ e ∈ mid, e.isNalu

/-! #### Deciding

Both conditions look back from an entry of the trace. -/

/-- Where a `VPS` was sent to from its cache, and whether it got through. -/
def Event.sentVps? : Event → Option (SockAddrIn × Bool)
  | .parameterSet .vps dest _ ok => some (dest, ok)
  | _ => none

/-- The address that a `PLAY` is for. -/
def Event.playAddr? : Event → Option SockAddrIn
  | .rtsp .play after => some after.gClientAddr
  | _ => none

def Event.idrFound? : Event → Option Unit
  | .idrFound => some ()
  | _ => none

theorem Event.sentVps?_eq_some {e : Event} {dest : SockAddrIn} {ok : Bool} :
    e.sentVps? = some (dest, ok) ↔ ∃ set, e = .parameterSet .vps dest set ok := by
  constructor
  · intro h
    unfold sentVps? at h
    split at h
    · cases h
      exact ⟨_, rfl⟩
    · cases h
  · rintro ⟨set, rfl⟩
    rfl

theorem Event.playAddr?_eq_some {e : Event} {addr : SockAddrIn} :
    e.playAddr? = some addr ↔ ∃ after, e = .rtsp .play after ∧ after.gClientAddr = addr := by
  constructor
  · intro h
    unfold playAddr? at h
    split at h
    · cases h
      exact ⟨_, rfl, rfl⟩
    · cases h
  · rintro ⟨after, rfl, rfl⟩
    rfl

theorem Event.isVps_eq_false {e : Event} : e.isVps = false ↔ e.sentVps? = none := by
  cases e with
  | parameterSet kind => cases kind <;> simp [isVps, sentVps?]
  | _ => simp [isVps, sentVps?]

theorem Event.isPlay_eq_false {e : Event} : e.isPlay = false ↔ e.playAddr? = none := by
  cases e with
  | rtsp s => cases s <;> simp [isPlay, playAddr?]
  | _ => simp [isPlay, playAddr?]

/-- The last `PLAY`, if there is one, is for `dest`. -/
theorem all_lastPlay_iff {l : List Event} {dest : SockAddrIn} :
    ((sinceLast Event.playAddr? l).all (·.1 == dest)) = true ↔ ∀ a after c,
      l = a ++ .rtsp .play after :: c → (∀ e ∈ c, e.isPlay = false) → after.gClientAddr = dest := by
  simp only [all_sinceLast_iff, Event.isPlay_eq_false, beq_iff_eq]
  constructor
  · rintro h a after c rfl hc
    exact h a _ _ c rfl rfl hc
  · rintro h a e addr c rfl he hc
    obtain ⟨after, rfl, rfl⟩ := Event.playAddr?_eq_some.mp he
    exact h a after c rfl hc

/-- `MarksSafe` at the last entry. -/
def markSafe (l : List Event) (e : Event) : Bool :=
  e != .marked || (sinceLast Event.sentVps? l).all fun vps => !vps.1.2 ||
    (vps.2.all (!·.isPlay) &&
      (sinceLast Event.playAddr? (l.take (l.length - (vps.2.length + 1)))).all (·.1 == vps.1.1))

/-- `IdrSendsKept` at the last entry. -/
def idrSendKept (l : List Event) : Event → Bool
  | .sendto _ _ false => (sinceLast Event.idrFound? l).all (·.2.any Event.isNalu)
  | _ => true

theorem markSafe_iff {l : List Event} : markSafe l .marked = true ↔ ∀ pre dest set mid,
    l = pre ++ .parameterSet .vps dest set true :: mid → (∀ e ∈ mid, e.isVps = false) →
      (∀ e ∈ mid, e.isPlay = false) ∧ ∀ a after c, pre = a ++ .rtsp .play after :: c →
        (∀ e ∈ c, e.isPlay = false) → after.gClientAddr = dest := by
  have hpre : ∀ (pre mid : List Event) (e : Event),
      (pre ++ e :: mid).take ((pre ++ e :: mid).length - (mid.length + 1)) = pre := by simp
  simp only [markSafe, bne_self_eq_false, Bool.false_or, all_sinceLast_iff, Event.isVps_eq_false]
  constructor
  · rintro h pre dest set mid rfl hmid
    have hsafe := h pre _ (dest, true) mid rfl rfl hmid
    rw [hpre, Bool.not_true, Bool.false_or, Bool.and_eq_true, all_lastPlay_iff] at hsafe
    exact ⟨by simpa using hsafe.1, hsafe.2⟩
  · rintro h pre e ⟨dest, _ | _⟩ mid rfl he hmid
    · rfl
    · obtain ⟨set, rfl⟩ := Event.sentVps?_eq_some.mp he
      obtain ⟨hplay, haddr⟩ := h pre dest set mid rfl hmid
      rw [hpre, Bool.not_true, Bool.false_or, Bool.and_eq_true, all_lastPlay_iff]
      exact ⟨by simpa using hplay, haddr⟩

theorem marksSafe_iff {trace : List Event} : MarksSafe trace ↔ everywhere markSafe trace := by
  rw [everywhere_iff]
  constructor
  · rintro h l e post rfl
    by_cases hmarked : e = .marked
    · subst hmarked
      refine markSafe_iff.mpr ?_
      rintro pre dest set mid rfl hmid
      exact h pre dest set mid post rfl hmid
    · simp [markSafe, hmarked]
  · rintro h pre dest set mid post rfl hmid
    exact markSafe_iff.mp (h _ .marked post rfl) pre dest set mid rfl hmid

instance (trace : List Event) : Decidable (MarksSafe trace) := decidable_of_iff _ marksSafe_iff.symm

theorem idrSendsKept_iff {trace : List Event} :
    IdrSendsKept trace ↔ everywhere idrSendKept trace := by
  rw [everywhere_iff]
  constructor
  · rintro h a e post rfl
    unfold idrSendKept
    split
    · rename_i dest packet
      refine all_sinceLast_iff.mpr ?_
      rintro pre e ⟨⟩ mid rfl he -
      obtain rfl : e = .idrFound := by
        unfold Event.idrFound? at he
        split at he
        · rfl
        · cases he
      simpa using h pre mid dest packet post rfl
    · rfl
  · rintro h pre mid dest packet post rfl
    have hkept := h _ (.sendto dest packet false) post rfl
    obtain ⟨_, c, d, hlast, rfl⟩ :=
      exists_sinceLast (f := Event.idrFound?) (e := .idrFound) rfl pre mid
    rw [idrSendKept, hlast, Option.all_some, List.any_eq_true] at hkept
    obtain ⟨e, he, hnalu⟩ := hkept
    exact ⟨e, List.mem_append_right _ he, hnalu⟩

instance (trace : List Event) : Decidable (IdrSendsKept trace) :=
  decidable_of_iff _ idrSendsKept_iff.symm

/-! #### Growing -/

section Growing

variable {interferes : Bool} {dest : SockAddrIn} {kind : ParamSet} {kinds : List ParamSet}
  {l : List Event}

theorem Attempt.concat_wire {e : Event} (he : e.isWire interferes)
    (h : Attempt interferes dest kinds l) : Attempt interferes dest kinds (l ++ [e]) := by
  induction kinds generalizing l with
  | nil =>
    intro e' he'
    rcases List.mem_append.mp he' with he' | he'
    · exact h e' he'
    · rwa [List.mem_singleton.mp he']
  | cons kind kinds ih =>
    obtain ⟨s, set, r, rfl, hs, hr⟩ := h
    exact ⟨s, set, r ++ [e], by simp, hs, ih hr⟩

theorem Attempt.concat_set (set : List UInt8) (h : Attempt interferes dest kinds l) :
    Attempt interferes dest (kinds ++ [kind]) (l ++ [.parameterSet kind dest set true]) := by
  induction kinds generalizing l with
  | nil => exact ⟨l, set, [], rfl, h, by simp [Attempt]⟩
  | cons k kinds ih =>
    obtain ⟨s, set', r, rfl, hs, hr⟩ := h
    exact ⟨s, set', r ++ [.parameterSet kind dest set true], by simp, hs, ih hr⟩

theorem Attempt.isVps_eq_false (hkind : .vps ∉ kinds) (h : Attempt interferes dest kinds l) :
    ∀ e ∈ l, e.isVps = false := by
  have hwire : ∀ e : Event, e.isWire interferes → e.isVps = false := by
    intro e he
    cases e <;> first | rfl | simp [Event.isWire] at he
  induction kinds generalizing l with
  | nil => exact fun e he => hwire e (h e he)
  | cons kind kinds ih =>
    obtain ⟨s, set, r, rfl, hs, hr⟩ := h
    rw [List.mem_cons, not_or] at hkind
    simp only [List.mem_append, List.mem_cons]
    rintro e (he | rfl | he)
    · exact hwire e (hs e he)
    · rcases kind <;> first | rfl | exact absurd rfl hkind.1
    · exact ih hkind.2 hr e he

/-- Without interference there is no step of the control thread in an attempt. -/
theorem Attempt.isPlay_eq_false (h : Attempt false dest kinds l) : ∀ e ∈ l, e.isPlay = false := by
  have hwire : ∀ e : Event, e.isWire false → e.isPlay = false := by
    intro e he
    cases e <;> first | rfl | simp [Event.isWire] at he
  induction kinds generalizing l with
  | nil => exact fun e he => hwire e (h e he)
  | cons kind kinds ih =>
    obtain ⟨s, set, r, rfl, hs, hr⟩ := h
    simp only [List.mem_append, List.mem_cons]
    rintro e (he | rfl | he)
    · exact hwire e (hs e he)
    · rfl
    · exact ih hr e he

theorem SetsSent.append_left (a : List Event) (h : SetsSent interferes dest l) :
    SetsSent interferes dest (a ++ l) := by
  obtain ⟨a', t, b, rfl, ht⟩ := h
  exact ⟨a ++ a', t, b, by simp, ht⟩

theorem SetsSent.concat (e : Event) (h : SetsSent interferes dest l) :
    SetsSent interferes dest (l ++ [e]) := by
  obtain ⟨a, t, b, rfl, ht⟩ := h
  exact ⟨a, t, b ++ [e], by simp, ht⟩

theorem SetsSent.vps_mem (h : SetsSent interferes dest l) :
    ∃ set, .parameterSet .vps dest set true ∈ l := by
  obtain ⟨a, t, b, rfl, s, set, r, rfl, -, -⟩ := h
  exact ⟨set, by simp⟩

theorem Started.append_left (a : List Event) (h : Started interferes dest l) :
    Started interferes dest (a ++ l) := by
  obtain ⟨a', b, rfl, hsets, hidr⟩ := h
  exact ⟨a ++ a', b, by simp, hsets.append_left a, hidr⟩

theorem Started.concat (e : Event) (h : Started interferes dest l) :
    Started interferes dest (l ++ [e]) := by
  obtain ⟨a, b, rfl, hsets, nalu, hidr, hmem⟩ := h
  exact ⟨a, b ++ [e], by simp, hsets, nalu, hidr, List.mem_append_left _ hmem⟩

theorem MarksSafe.of_append {b : List Event} (h : MarksSafe (l ++ b)) : MarksSafe l := by
  rintro pre dest set mid post rfl hmid
  exact h pre dest set mid (post ++ b) (by simp) hmid

theorem IdrSendsKept.of_append {b : List Event} (h : IdrSendsKept (l ++ b)) : IdrSendsKept l := by
  rintro pre mid dest packet post rfl
  exact h pre mid dest packet (post ++ b) (by simp)

end Growing

/-! ### Sessions

What the last `PLAY` was for, and what has happened since. -/

def sessionStep (s : Option (SockAddrIn × List Event)) : Event → Option (SockAddrIn × List Event)
  | .rtsp .play after => some (after.gClientAddr, [])
  | e => s.map fun p => (p.1, p.2 ++ [e])

def session (l : List Event) : Option (SockAddrIn × List Event) := l.foldl sessionStep none

/-- Whom a `PLAY` is for. -/
def Event.play? : Event → Option SockAddrIn
  | .rtsp .play after => some after.gClientAddr
  | _ => none

theorem Event.play_eq_none {e : Event} (h : e.isPlay = false) : e.play? = none := by
  rw [Event.play?.eq_def]
  split
  · simp [Event.isPlay] at h
  · rfl

theorem session_eq_sinceLast (l : List Event) : session l = sinceLast Event.play? l := by
  rw [session, sinceLast]
  congr 1
  funext s e
  cases he : e.isPlay with
  | true =>
    obtain ⟨after, rfl⟩ := Event.exists_of_isPlay he
    rfl
  | false =>
    rw [Event.play_eq_none he, sessionStep]
    rintro after rfl
    simp [Event.isPlay] at he

theorem session_concat_play (l : List Event) (after : RtspState) :
    session (l ++ [.rtsp .play after]) = some (after.gClientAddr, []) := by
  rw [session_eq_sinceLast]
  exact sinceLast_concat_of_some (f := Event.play?) rfl l

theorem session_concat {e : Event} (he : e.isPlay = false) (l : List Event) :
    session (l ++ [e]) = (session l).map fun p => (p.1, p.2 ++ [e]) := by
  rw [session_eq_sinceLast, session_eq_sinceLast]
  exact sinceLast_concat_of_none (Event.play_eq_none he) l

theorem session_append {t : List Event} (ht : ∀ e ∈ t, e.isPlay = false) (l : List Event) :
    session (l ++ t) = (session l).map fun p => (p.1, p.2 ++ t) := by
  rw [session_eq_sinceLast, session_eq_sinceLast]
  exact sinceLast_append (fun e he => Event.play_eq_none (ht e he)) l

theorem session_of_play {c : List Event} (hc : ∀ e ∈ c, e.isPlay = false) (a : List Event)
    (after : RtspState) : session (a ++ .rtsp .play after :: c) = some (after.gClientAddr, c) := by
  have hcons : a ++ .rtsp .play after :: c = a ++ [.rtsp .play after] ++ c := by simp
  rw [hcons, session_append hc, session_concat_play]
  rfl

/-- What a session stands for. -/
theorem exists_of_session {l : List Event} {x : SockAddrIn} {c : List Event}
    (h : session l = some (x, c)) :
    ∃ a after, l = a ++ .rtsp .play after :: c ∧ (∀ e ∈ c, e.isPlay = false) ∧
      after.gClientAddr = x := by
  rw [session_eq_sinceLast] at h
  obtain ⟨a, e, rfl, hplay, hrest⟩ := exists_of_sinceLast h
  have hnone : ∀ e' ∈ c, e'.isPlay = false := by
    intro e' he'
    cases he : e'.isPlay with
    | false => rfl
    | true =>
      obtain ⟨after, rfl⟩ := Event.exists_of_isPlay he
      cases hrest _ he'
  rw [Event.play?.eq_def] at hplay
  split at hplay
  · exact ⟨a, _, rfl, hnone, Option.some.inj hplay⟩
  · cases hplay

/-- Whatever `PLAY` one looks at, the session starts there or later. -/
theorem exists_session (a c : List Event) (after : RtspState) :
    ∃ x c₀ d, session (a ++ .rtsp .play after :: c) = some (x, c₀) ∧ c = d ++ c₀ := by
  rw [session_eq_sinceLast]
  exact exists_sinceLast (f := Event.play?) rfl a c

/-! ### What the message at hand has passed

`Passed P l` says that `P` holds of everything since any `PLAY` that came before the target of the
message at hand was read. -/

def Passed (P : List Event → Prop) (l : List Event) : Prop :=
  ∀ a after c, l = a ++ .rtsp .play after :: c → (∃ canSend dest, .target canSend dest ∈ c) → P c

theorem Passed.concat {P : List Event → Prop} {l : List Event} {e : Event} (h : Passed P l)
    (hP : ∀ c, P c → P (c ++ [e])) (he : ∀ canSend dest, e ≠ .target canSend dest) :
    Passed P (l ++ [e]) := by
  intro a after c hl htarget
  obtain ⟨canSend, dest, hmem⟩ := htarget
  rcases concat_eq_append_cons hl with ⟨rfl, -, -⟩ | ⟨c₀, rfl, rfl⟩
  · simp at hmem
  · refine hP c₀ (h a after c₀ rfl ⟨canSend, dest, ?_⟩)
    rcases List.mem_append.mp hmem with hmem | hmem
    · exact hmem
    · exact absurd (List.mem_singleton.mp hmem).symm (he canSend dest)

theorem Passed.of_session {P : List Event → Prop} {l c₀ : List Event} {x : SockAddrIn}
    (hs : session l = some (x, c₀)) (hc₀ : P c₀) (hP : ∀ d c, P c → P (d ++ c)) :
    Passed P l := by
  rintro a after c rfl -
  obtain ⟨y, c₁, d, hs', rfl⟩ := exists_session a c after
  rw [hs', Option.some.injEq, Prod.mk.injEq] at hs
  rw [hs.2]
  exact hP d c₀ hc₀

/-! ### The invariant behind the parameter sets -/

/-- The NALU at hand is past the test of `canSend`. -/
def Phase.busy : Phase → Bool
  | .sets .. | .gate _ | .idr _ => true
  | _ => false

/-- No NALU gets past the test of a message that may not be sent. -/
theorem Gate.Move.busy {interferes : Bool} {g g' : Gate} {e : Event}
    (hmove : g.Move interferes e g') (h : g.phase.busy → g.canSend) :
    g'.phase.busy → g'.canSend := by
  cases hmove with
  | rtsp | sendto => exact h
  | needs hnalu hsend => exact fun _ => hsend
  | parameterSet hphase | marked hphase | idrFound hphase =>
    exact fun _ => h (by rw [hphase]; rfl)
  | _ => simp [Phase.busy]

theorem Gate.busy_of_sending {g : Gate} (h : g.sending) : g.phase.busy := by
  rw [Gate.sending] at h
  cases hphase : g.phase <;> simp [hphase] at h <;> rfl

/-- What keeps the request of a `PLAY` from being lost. -/
structure Kept (interferes : Bool) (l : List Event) (g : Gate) : Prop where
  playing : g.rtsp.gPlay → ∃ c, session l = some (g.rtsp.gClientAddr, c)
  played : g.canSend → (session l).isSome
  /-- Unless another client has asked since, the message at hand goes to the last one. -/
  target : g.canSend → interferes = false ∨ g.rtsp.gNeedParameterSets = false →
    ∀ x c, session l = some (x, c) → x = g.dest
  busy : g.phase.busy → g.canSend
  sets : g.rtsp.gNeedParameterSets = false → ∀ x c, session l = some (x, c) →
    SetsSent interferes x c
  attempt : ∀ nalu todo, g.phase = .sets nalu todo →
    ∃ a t sent, l = a ++ t ∧ sent ++ todo = allSets ∧ Attempt interferes g.dest sent t
  passed : ∀ nalu, g.phase = .gate nalu ∨ g.phase = .idr nalu →
    Passed (SetsSent interferes g.dest) l

namespace Kept

variable {interferes : Bool} {l : List Event} {g g' : Gate} {e : Event}

/-- An event that is no `PLAY` and leaves the shared state alone. -/
theorem skip (h : Kept interferes l g) (hplay : e.isPlay = false)
    (htarget : ∀ canSend dest, e ≠ .target canSend dest) (hrtsp : g'.rtsp = g.rtsp)
    (hdest : g'.dest = g.dest) (hsend : g'.canSend → g.canSend) (hbusy : g'.phase.busy → g'.canSend)
    (hattempt : ∀ nalu todo, g'.phase = .sets nalu todo → ∃ a t sent, l ++ [e] = a ++ t ∧
      sent ++ todo = allSets ∧ Attempt interferes g'.dest sent t)
    (hpassed : ∀ nalu, g'.phase = .gate nalu ∨ g'.phase = .idr nalu →
      Passed (SetsSent interferes g.dest) l) : Kept interferes (l ++ [e]) g' := by
  have hs := session_concat hplay l
  refine ⟨fun hp => ?_, fun hc => ?_, fun hc hor x c hx => ?_, hbusy, fun hn x c hx => ?_,
    hattempt, fun nalu hphase => ?_⟩
  · rw [hrtsp] at hp ⊢
    obtain ⟨c, hc⟩ := h.playing hp
    exact ⟨c ++ [e], by rw [hs, hc]; rfl⟩
  · rw [hs, Option.isSome_map]
    exact h.played (hsend hc)
  · rw [hs, Option.map_eq_some_iff] at hx
    obtain ⟨⟨y, c₀⟩, hy, hp⟩ := hx
    obtain ⟨rfl, rfl⟩ := Prod.mk.inj hp
    rw [hrtsp] at hor
    rw [hdest]
    exact h.target (hsend hc) hor y c₀ hy
  · rw [hs, Option.map_eq_some_iff] at hx
    obtain ⟨⟨y, c₀⟩, hy, hp⟩ := hx
    obtain ⟨rfl, rfl⟩ := Prod.mk.inj hp
    rw [hrtsp] at hn
    exact (h.sets hn y c₀ hy).concat e
  · rw [hdest]
    exact (hpassed nalu hphase).concat (fun c hc => hc.concat e) htarget

/-- An event after which no NALU is past the test of `canSend`. -/
theorem rest (h : Kept interferes l g) (hplay : e.isPlay = false)
    (htarget : ∀ canSend dest, e ≠ .target canSend dest) (hrtsp : g'.rtsp = g.rtsp)
    (hdest : g'.dest = g.dest) (hsend : g'.canSend → g.canSend)
    (hphase : g'.phase.busy = false) : Kept interferes (l ++ [e]) g' := by
  refine h.skip hplay htarget hrtsp hdest hsend (fun hb => ?_) (fun nalu todo hp => ?_)
    (fun nalu hp => ?_)
  · rw [hphase] at hb
    simp at hb
  · rw [hp] at hphase
    simp [Phase.busy] at hphase
  · rcases hp with hp | hp <;> rw [hp] at hphase <;> simp [Phase.busy] at hphase

theorem rtsp (h : Kept interferes l g) (s : RtspStep) (hallowed : interferes ∨ g.canSend = false) :
    Kept interferes (l ++ [.rtsp s (g.rtsp.apply s)]) { g with rtsp := g.rtsp.apply s } := by
  have hattempt : ∀ nalu todo, g.phase = .sets nalu todo →
      ∃ a t sent, l ++ [.rtsp s (g.rtsp.apply s)] = a ++ t ∧ sent ++ todo = allSets ∧
        Attempt interferes g.dest sent t := by
    intro nalu todo hphase
    obtain ⟨a, t, sent, rfl, hsent, ht⟩ := h.attempt nalu todo hphase
    have hsend := h.busy (by rw [hphase]; rfl)
    have hint : interferes := by simpa [hsend] using hallowed
    exact ⟨a, t ++ [.rtsp s (g.rtsp.apply s)], sent, by simp, hsent,
      ht.concat_wire (e := .rtsp s _) hint⟩
  have hpassed : ∀ nalu, g.phase = .gate nalu ∨ g.phase = .idr nalu →
      Passed (SetsSent interferes g.dest) (l ++ [.rtsp s (g.rtsp.apply s)]) :=
    fun nalu hphase => (h.passed nalu hphase).concat (fun c hc => hc.concat _) (by simp)
  -- A `PLAY` starts a session, and a `SETUP` makes the request; the other two only stop playing.
  have hquiet : g.canSend → interferes = false → False := fun hc hi => by simp [hc, hi] at hallowed
  by_cases hplay : s = .play
  · subst hplay
    have hs := session_concat_play l (g.rtsp.apply .play)
    refine ⟨fun _ => ⟨[], hs⟩, fun _ => by rw [hs]; rfl, fun hc hor => ?_, h.busy, fun hn => ?_,
      hattempt, hpassed⟩
    · rcases hor with hi | hn
      · exact (hquiet hc hi).elim
      · simp [RtspState.apply] at hn
    · simp [RtspState.apply] at hn
  · have hs : session (l ++ [.rtsp s (g.rtsp.apply s)])
        = (session l).map fun p => (p.1, p.2 ++ [.rtsp s (g.rtsp.apply s)]) :=
      session_concat (by rcases s <;> first | rfl | exact absurd rfl hplay) l
    have hneed : (g.rtsp.apply s).gNeedParameterSets = false →
        g.rtsp.gNeedParameterSets = false := by
      rcases s <;> simp [RtspState.apply]
    refine ⟨fun hp => ?_, fun hc => ?_, fun hc hor x c hx => ?_, h.busy, fun hn x c hx => ?_,
      hattempt, hpassed⟩
    · rcases s <;> first | exact absurd rfl hplay | simp [RtspState.apply] at hp
    · rw [hs, Option.isSome_map]
      exact h.played hc
    · rw [hs, Option.map_eq_some_iff] at hx
      obtain ⟨⟨y, c₀⟩, hy, hp⟩ := hx
      obtain ⟨rfl, rfl⟩ := Prod.mk.inj hp
      exact h.target hc (hor.imp_right hneed) y c₀ hy
    · rw [hs, Option.map_eq_some_iff] at hx
      obtain ⟨⟨y, c₀⟩, hy, hp⟩ := hx
      obtain ⟨rfl, rfl⟩ := Prod.mk.inj hp
      exact (h.sets (hneed hn) y c₀ hy).concat _

/-- At the end of an attempt the sets have been sent for the last `PLAY`. -/
theorem setsSent_of_attempt (h : Kept interferes l g) {nalu : List UInt8}
    (hphase : g.phase = .sets nalu []) (hsafe : interferes → MarksSafe (l ++ [.marked]))
    {x : SockAddrIn} {c : List Event} (hx : session l = some (x, c)) :
    x = g.dest ∧ SetsSent interferes x c := by
  obtain ⟨a, t, sent, rfl, hsent, ht⟩ := h.attempt nalu [] hphase
  rw [List.append_nil] at hsent
  rw [hsent] at ht
  obtain ⟨s, set, r, rfl, hs, hr⟩ := ht
  have hvps := hr.isVps_eq_false (by simp)
  have hmarks : (∀ e ∈ r, e.isPlay = false) ∧ x = g.dest ∧
      ∃ c₀, c = c₀ ++ .parameterSet .vps g.dest set true :: r := by
    have hsplit : (∀ e ∈ r, e.isPlay = false) → ∃ c₀, session (a ++ s) = some (x, c₀) ∧
        c = c₀ ++ .parameterSet .vps g.dest set true :: r := by
      intro hr
      rw [← List.append_assoc, session_append (by simpa [Event.isPlay] using hr),
        Option.map_eq_some_iff] at hx
      obtain ⟨⟨y, c₀⟩, hy, hp⟩ := hx
      obtain ⟨rfl, rfl⟩ := Prod.mk.inj hp
      exact ⟨c₀, hy, rfl⟩
    rcases hint : interferes with _ | _
    · rw [hint] at hr
      have hrplay := hr.isPlay_eq_false
      obtain ⟨c₀, -, hc⟩ := hsplit hrplay
      exact ⟨hrplay, h.target (h.busy (by rw [hphase]; rfl)) (.inl hint) x c hx, c₀, hc⟩
    · obtain ⟨hrplay, hlast⟩ := hsafe hint (a ++ s) g.dest set r [] (by simp) hvps
      obtain ⟨c₀, hc₀, hc⟩ := hsplit hrplay
      obtain ⟨a', after, ha, hplay, rfl⟩ := exists_of_session hc₀
      exact ⟨hrplay, hlast a' after c₀ ha hplay, c₀, hc⟩
  obtain ⟨-, rfl, c₀, rfl⟩ := hmarks
  exact ⟨rfl, c₀, _, [], (List.append_nil _).symm, [], set, r, rfl, by simp, hr⟩

theorem marked (h : Kept interferes l g) {nalu : List UInt8} (hphase : g.phase = .sets nalu [])
    (hsafe : interferes → MarksSafe (l ++ [.marked])) :
    Kept interferes (l ++ [.marked]) { g with
      rtsp := { g.rtsp with gNeedParameterSets := false }, wait := true, phase := .gate nalu } := by
  have hsend := h.busy (by rw [hphase]; rfl)
  have hs : session (l ++ [.marked]) = (session l).map fun p => (p.1, p.2 ++ [.marked]) :=
    session_concat rfl l
  obtain ⟨⟨x, c⟩, hx⟩ := Option.isSome_iff_exists.mp (h.played hsend)
  obtain ⟨rfl, hsets⟩ := h.setsSent_of_attempt hphase hsafe hx
  rw [hx] at hs
  refine ⟨fun hp => ?_, fun _ => by rw [hs]; rfl, fun _ _ y c' hy => ?_, fun _ => hsend,
    fun _ y c' hy => ?_, by simp, fun _ _ => ?_⟩
  · obtain ⟨c', hc'⟩ := h.playing hp
    rw [hx] at hc'
    obtain ⟨haddr, -⟩ := Prod.mk.inj (Option.some.inj hc')
    exact ⟨_, by rw [hs, ← haddr]; rfl⟩
  · rw [hs] at hy
    exact (Prod.mk.inj (Option.some.inj hy)).1.symm
  · rw [hs] at hy
    obtain ⟨rfl, rfl⟩ := Prod.mk.inj (Option.some.inj hy)
    exact hsets.concat _
  · exact (Passed.of_session hx hsets fun d c hc => hc.append_left d).concat
      (fun c hc => hc.concat _) (by simp)

theorem needs (h : Kept interferes l g) (hsend : g.canSend) (nalu : List UInt8) :
    Kept interferes (l ++ [.needs g.rtsp.gNeedParameterSets]) { g with
      phase := if g.rtsp.gNeedParameterSets then .sets nalu allSets else .gate nalu } := by
  refine h.skip rfl (by simp) rfl rfl id (fun _ => hsend) (fun nalu' todo hp => ?_)
    (fun nalu' hp => ?_)
  · refine ⟨_, [], [], (List.append_nil _).symm, ?_, by simp [Attempt]⟩
    cases hneed : g.rtsp.gNeedParameterSets <;> rw [hneed] at hp <;> simp at hp
    exact hp.2.symm
  · cases hneed : g.rtsp.gNeedParameterSets with
    | true =>
      rw [hneed] at hp
      simp at hp
    | false =>
      obtain ⟨⟨x, c⟩, hx⟩ := Option.isSome_iff_exists.mp (h.played hsend)
      have hsets := h.sets hneed x c hx
      rw [h.target hsend (.inr hneed) x c hx] at hsets
      exact Passed.of_session hx hsets fun d c hc => hc.append_left d

theorem newTarget (h : Kept interferes l g) {dest : SockAddrIn}
    (hdest : dest = (if g.rtsp.gClientAddrSet then g.rtsp.gClientAddr else ⟨0, 0⟩)) :
    Kept interferes (l ++ [.target g.rtsp.canSend dest])
      { g with canSend := g.rtsp.canSend, dest := dest, phase := .rest } := by
  have hs : session (l ++ [.target g.rtsp.canSend dest])
      = (session l).map fun p => (p.1, p.2 ++ [.target g.rtsp.canSend dest]) :=
    session_concat rfl l
  have hplay : g.rtsp.canSend → g.rtsp.gPlay ∧ g.rtsp.gClientAddrSet := by
    simp [RtspState.canSend]
  refine ⟨fun hp => ?_, fun hc => ?_, fun hc _ x c hx => ?_, fun hb => by simp [Phase.busy] at hb,
    fun hn x c hx => ?_, by simp, by simp⟩
  · obtain ⟨c, hc⟩ := h.playing hp
    exact ⟨_, by rw [hs, hc]; rfl⟩
  · obtain ⟨c, hc⟩ := h.playing (hplay hc).1
    rw [hs, hc]
    rfl
  · obtain ⟨c₀, hc₀⟩ := h.playing (hplay hc).1
    rw [hs, hc₀] at hx
    rw [hdest, if_pos (hplay hc).2]
    exact (Prod.mk.inj (Option.some.inj hx)).1.symm
  · rw [hs, Option.map_eq_some_iff] at hx
    obtain ⟨⟨y, c₀⟩, hy, hp⟩ := hx
    obtain ⟨rfl, rfl⟩ := Prod.mk.inj hp
    exact (h.sets hn y c₀ hy).concat _

end Kept

/-- **One event.** -/
theorem kept_move {interferes : Bool} {l : List Event} {g g' : Gate} {e : Event}
    (h : Kept interferes l g) (hmove : g.Move interferes e g')
    (hsafe : interferes → MarksSafe (l ++ [e])) : Kept interferes (l ++ [e]) g' := by
  cases hmove with
  | rtsp s hallowed => exact h.rtsp s hallowed
  | item hitem =>
    refine h.rest ?_ ?_ rfl rfl (by simp) rfl <;> cases e <;> simp [Event.isItemStep] at hitem <;>
      simp [Event.isPlay]
  | target hdest => exact h.newTarget hdest
  | received nalu => exact h.rest rfl (by simp) rfl rfl id rfl
  | cached => exact h.rest rfl (by simp) rfl rfl id rfl
  | copyFailed => exact h.rest rfl (by simp) rfl rfl id rfl
  | needs _ hsend => exact h.needs hsend _
  | @parameterSet nalu kind todo set hphase =>
    refine h.skip rfl (by simp) rfl rfl id (fun _ => h.busy (by rw [hphase]; rfl))
      (fun nalu' todo' hp => ?_) (fun nalu' hp => ?_)
    · obtain ⟨a, t, sent, rfl, hsent, ht⟩ := h.attempt nalu _ hphase
      cases hlost : g.lost with
      | true => simp [hlost] at hp
      | false =>
        simp only [hlost, Bool.not_false, if_true, Phase.sets.injEq] at hp
        rw [← hp.2]
        exact ⟨a, t ++ [_], sent ++ [kind], by simp, by simpa using hsent, ht.concat_set set⟩
    · cases hlost : g.lost <;> simp [hlost] at hp
  | marked hphase => exact h.marked hphase hsafe
  | idrFound hphase =>
    exact h.skip rfl (by simp) rfl rfl id (fun _ => h.busy (by rw [hphase]; rfl)) (by simp)
      (fun _ _ => h.passed _ (.inl hphase))
  | nalu => exact h.rest rfl (by simp) rfl rfl id rfl
  | sendto packet ok =>
    refine h.skip rfl (by simp) rfl rfl id h.busy (fun nalu todo hp => ?_) h.passed
    obtain ⟨a, t, sent, rfl, hsent, ht⟩ := h.attempt nalu todo hp
    exact ⟨a, t ++ [.sendto g.dest packet ok], sent, by simp, hsent, ht.concat_wire rfl⟩
  | other hother =>
    refine h.rest ?_ ?_ rfl rfl id rfl <;> cases e <;> simp [Event.isOther] at hother <;>
      simp [Event.isPlay]

theorem kept_of_run {interferes : Bool} {l : List Event} {g : Gate}
    (h : (gateProtocol interferes).run l = some g) (hsafe : interferes → MarksSafe l) :
    Kept interferes l g := by
  have hstart : Kept interferes [] {} :=
    ⟨by simp, by simp, by simp, by simp [Phase.busy], by simp [session], by simp, by simp⟩
  refine Monitor.invariant (I := fun l g => (interferes → MarksSafe l) → Kept interferes l g)
    (fun _ => hstart) (fun l g e g' hI he hs => ?_) h hsafe
  exact kept_move (hI fun hint => (hs hint).of_append) (Gate.move_of_step he) hs

/-- **The parameter sets.** -/
theorem setsAfterPlay_of_run {interferes : Bool} {trace : List Event} {g : Gate}
    (h : (gateProtocol interferes).run trace = some g) (hsafe : interferes → MarksSafe trace) :
    SetsAfterPlay interferes trace := by
  rintro pre after mid dest nalu ok post rfl htarget
  obtain ⟨g₀, g₁, hg₀, hstep⟩ := Monitor.exists_step_of_run h
  have hkept := kept_of_run hg₀ fun hint => (hsafe hint).of_append
  have hmove : g₀.Move interferes (.nalu dest nalu ok) g₁ := Gate.move_of_step hstep
  cases hmove with
  | nalu hphase => exact hkept.passed nalu (hphase.imp_left And.left) pre after mid rfl htarget
  | item hitem => simp [Event.isItemStep] at hitem
  | other hother => simp [Event.isOther] at hother

/-! ### The invariant behind the IDR -/

/-- What keeps the gate shut until an IDR is through. -/
structure Opened (interferes : Bool) (l : List Event) (g : Gate) : Prop where
  primed : g.rtsp.gNeedParameterSets = false → g.wait = false → (∀ nalu, g.phase ≠ .idr nalu) →
    ∀ x c, session l = some (x, c) → Started interferes x c
  gate : ∀ nalu, g.phase = .gate nalu → g.wait = false →
    Passed (Started interferes g.dest) l
  found : ∀ nalu, g.phase = .idr nalu → h265IsIdr (h265NaluType nalu) ∧
    ∃ a m, l = a ++ .idrFound :: m ∧ (∀ e ∈ m, e.isNalu = false) ∧
      (g.lost → ∃ packet, .sendto g.dest packet false ∈ m)

namespace Opened

variable {interferes : Bool} {l : List Event} {g g' : Gate} {e : Event}

theorem started_concat (hplay : e.isPlay = false)
    (h : ∀ x c, session l = some (x, c) → Started interferes x c) :
    ∀ x c, session (l ++ [e]) = some (x, c) → Started interferes x c := by
  intro x c hx
  rw [session_concat hplay, Option.map_eq_some_iff] at hx
  obtain ⟨⟨y, c₀⟩, hy, hp⟩ := hx
  obtain ⟨rfl, rfl⟩ := Prod.mk.inj hp
  exact (h y c₀ hy).concat e

/-- An event that leaves neither an open gate nor an IDR on its way. -/
theorem rest (h : Opened interferes l g) (hplay : e.isPlay = false) (hrtsp : g'.rtsp = g.rtsp)
    (hwait : g'.wait = g.wait) (hidr : ∀ nalu, g.phase ≠ .idr nalu)
    (hgate' : ∀ nalu, g'.phase ≠ .gate nalu) (hidr' : ∀ nalu, g'.phase ≠ .idr nalu) :
    Opened interferes (l ++ [e]) g' := by
  refine ⟨fun hn hw _ => ?_, fun nalu hp => absurd hp (hgate' nalu),
    fun nalu hp => absurd hp (hidr' nalu)⟩
  rw [hrtsp] at hn
  rw [hwait] at hw
  exact started_concat hplay (h.primed hn hw hidr)

theorem found_concat (h : Opened interferes l g) (hnalu : e.isNalu = false) {lost : Bool}
    (hlost : lost → g.lost ∨ ∃ packet, e = .sendto g.dest packet false) :
    ∀ nalu, g.phase = .idr nalu → h265IsIdr (h265NaluType nalu) ∧
      ∃ a m, l ++ [e] = a ++ .idrFound :: m ∧ (∀ e ∈ m, e.isNalu = false) ∧
        (lost → ∃ packet, .sendto g.dest packet false ∈ m) := by
  intro nalu hp
  obtain ⟨hidr, a, m, rfl, hm, hsendto⟩ := h.found nalu hp
  refine ⟨hidr, a, m ++ [e], by simp, fun e' he' => ?_, fun hl => ?_⟩
  · rcases List.mem_append.mp he' with he' | he'
    · exact hm e' he'
    · rwa [List.mem_singleton.mp he']
  · rcases hlost hl with hl | ⟨packet, rfl⟩
    · obtain ⟨packet, hpacket⟩ := hsendto hl
      exact ⟨packet, List.mem_append_left _ hpacket⟩
    · exact ⟨packet, by simp⟩

theorem rtsp (h : Opened interferes l g) (s : RtspStep) :
    Opened interferes (l ++ [.rtsp s (g.rtsp.apply s)]) { g with rtsp := g.rtsp.apply s } := by
  refine ⟨fun hn hw hidr => ?_, fun nalu hp hw => ?_, h.found_concat rfl .inl⟩
  · rcases s
    · simp [RtspState.apply] at hn
    · simp [RtspState.apply] at hn
    · exact started_concat rfl (h.primed hn hw hidr)
    · exact started_concat rfl (h.primed hn hw hidr)
  · exact (h.gate nalu hp hw).concat (fun c hc => hc.concat _) (by simp)

theorem needs (h : Opened interferes l g) (hkept : Kept interferes l g) {nalu : List UInt8}
    (hnalu : g.judging = some nalu) (hsend : g.canSend) :
    Opened interferes (l ++ [.needs g.rtsp.gNeedParameterSets]) { g with
      phase := if g.rtsp.gNeedParameterSets then .sets nalu allSets else .gate nalu } := by
  have hidr : ∀ n, g.phase ≠ .idr n := by
    intro n hp
    rw [Gate.judging, hp] at hnalu
    simp at hnalu
  cases hneed : g.rtsp.gNeedParameterSets with
  | true => exact h.rest rfl rfl rfl hidr (by simp) (by simp)
  | false =>
    refine ⟨fun hn hw _ => started_concat rfl (h.primed hneed hw hidr), fun _ _ hw => ?_, by simp⟩
    obtain ⟨⟨x, c⟩, hx⟩ := Option.isSome_iff_exists.mp (hkept.played hsend)
    have hstarted := h.primed hneed hw hidr x c hx
    rw [hkept.target hsend (.inr hneed) x c hx] at hstarted
    exact (Passed.of_session hx hstarted fun d c hc => hc.append_left d).concat
      (fun c hc => hc.concat _) (by simp)

theorem nalu (h : Opened interferes l g) (hkept : Kept interferes l g) {nalu : List UInt8}
    (hphase : g.phase = .gate nalu ∧ g.wait = false ∨ g.phase = .idr nalu)
    (hsends : IdrSendsKept l) :
    Opened interferes (l ++ [.nalu g.dest nalu (!g.lost)])
      { g with phase := .rest, lost := false } := by
  rcases hphase with ⟨hgate, -⟩ | hidr
  · exact h.rest rfl rfl rfl (by simp [hgate]) (by simp) (by simp)
  · refine ⟨fun hn _ _ x c hx => ?_, by simp, by simp⟩
    obtain ⟨hnalu, a, m, hl, hm, hsendto⟩ := h.found nalu hidr
    have hlost : g.lost = false := by
      by_contra hlost
      obtain ⟨packet, hpacket⟩ := hsendto (by simpa using hlost)
      obtain ⟨m₁, m₂, rfl⟩ := List.append_of_mem hpacket
      obtain ⟨e, he, hnalu⟩ := hsends a m₁ g.dest packet m₂ (by simpa using hl)
      rw [hm e (List.mem_append_left _ he)] at hnalu
      simp at hnalu
    rw [session_concat rfl, Option.map_eq_some_iff] at hx
    obtain ⟨⟨y, c₀⟩, hy, hp⟩ := hx
    obtain ⟨rfl, rfl⟩ := Prod.mk.inj hp
    have hsend := hkept.busy (by rw [hidr]; rfl)
    have hdest := hkept.target hsend (.inr hn) y c₀ hy
    refine ⟨c₀, _, rfl, hkept.sets hn y c₀ hy, nalu, hnalu, ?_⟩
    rw [hdest, hlost]
    exact List.mem_singleton_self _

end Opened

theorem opened_move {interferes : Bool} {l : List Event} {g g' : Gate} {e : Event}
    (h : Opened interferes l g) (hkept : Kept interferes l g) (hmove : g.Move interferes e g')
    (hsends : IdrSendsKept l) : Opened interferes (l ++ [e]) g' := by
  have hsettled : g.settled → ∀ nalu, g.phase ≠ .idr nalu := by
    intro hs nalu hp
    rw [Gate.settled, hp] at hs
    simp at hs
  cases hmove with
  | rtsp s => exact h.rtsp s
  | item hitem hs =>
    refine h.rest ?_ rfl rfl (hsettled hs) (by simp) (by simp)
    cases e <;> simp [Event.isItemStep] at hitem <;> rfl
  | target _ hs => exact h.rest rfl rfl rfl (hsettled hs) (by simp) (by simp)
  | received nalu hs => exact h.rest rfl rfl rfl (hsettled hs) (by simp) (by simp)
  | cached hphase => exact h.rest rfl rfl rfl (by simp [hphase]) (by simp) (by simp)
  | copyFailed hphase => exact h.rest rfl rfl rfl (by simp [hphase]) (by simp) (by simp)
  | needs hnalu hsend => exact h.needs hkept hnalu hsend
  | parameterSet hphase =>
    refine h.rest rfl rfl rfl (by simp [hphase]) (fun nalu => ?_) (fun nalu => ?_) <;>
      cases g.lost <;> simp
  | marked hphase =>
    exact ⟨fun _ hw => by simp at hw, fun _ _ hw => by simp at hw, by simp⟩
  | idrFound hphase _ hidr =>
    refine ⟨fun _ _ hp => absurd rfl (hp _), by simp, fun nalu hp => ?_⟩
    rw [Phase.idr.injEq] at hp
    rw [← hp]
    exact ⟨hidr, l, [], rfl, by simp, by simp⟩
  | nalu hphase => exact h.nalu hkept hphase hsends
  | sendto packet ok =>
    refine ⟨fun hn hw hidr => Opened.started_concat rfl (h.primed hn hw hidr),
      fun nalu hp hw => (h.gate nalu hp hw).concat (fun c hc => hc.concat _) (by simp),
      h.found_concat rfl fun hl => .inr ⟨packet, ?_⟩⟩
    have hok : ok = false := by simpa using hl
    rw [hok]
  | other hother hs =>
    refine h.rest ?_ rfl rfl (hsettled hs) (by simp) (by simp)
    cases e <;> simp [Event.isOther] at hother <;> rfl

theorem opened_of_run {interferes : Bool} {l : List Event} {g : Gate}
    (h : (gateProtocol interferes).run l = some g) (hsafe : interferes → MarksSafe l)
    (hsends : IdrSendsKept l) : Kept interferes l g ∧ Opened interferes l g := by
  refine Monitor.invariant (I := fun l g => (interferes → MarksSafe l) → IdrSendsKept l →
    Kept interferes l g ∧ Opened interferes l g) (fun _ _ => ⟨kept_of_run rfl ?_, ?_⟩)
    (fun l g e g' hI he hsafe hsends => ?_) h hsafe hsends
  · rintro - pre dest set mid post hl
    simp at hl
  · exact ⟨by simp [session], by simp [gateProtocol], by simp [gateProtocol]⟩
  · have hmove := Gate.move_of_step he
    obtain ⟨hkept, hopened⟩ := hI (fun hint => (hsafe hint).of_append) hsends.of_append
    exact ⟨kept_move hkept hmove hsafe, opened_move hopened hkept hmove hsends.of_append⟩

/-- **The IDR.** -/
theorem idrAfterPlay_of_run {interferes : Bool} {trace : List Event} {g : Gate}
    (h : (gateProtocol interferes).run trace = some g) (hsafe : interferes → MarksSafe trace)
    (hsends : IdrSendsKept trace) : IdrAfterPlay interferes trace := by
  rintro pre after mid dest nalu ok post rfl htarget
  obtain ⟨g₀, g₁, hg₀, hstep⟩ := Monitor.exists_step_of_run h
  obtain ⟨-, hopened⟩ := opened_of_run hg₀ (fun hint => (hsafe hint).of_append) hsends.of_append
  have hmove : g₀.Move interferes (.nalu dest nalu ok) g₁ := Gate.move_of_step hstep
  cases hmove with
  | nalu hphase =>
    rcases hphase with ⟨hgate, hwait⟩ | hidr
    · exact .inr (hopened.gate nalu hgate hwait pre after mid rfl htarget)
    · exact .inl (hopened.found nalu hidr).1
  | item hitem => simp [Event.isItemStep] at hitem
  | other hother => simp [Event.isOther] at hother

end LittleCore

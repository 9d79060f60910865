import LittleCore.Gate.Runs

/-!
# Parameter sets when the gate opens

A client decodes the IDR that opens its gate with the parameter sets it was sent last. This module
compares these with the ones the stream has carried up to that IDR.

They need not be the same. A set of more than `H265_PARAM_SET_MAX_SIZE` bytes never enters a cache,
and a set that arrives while the gate waits for its IDR is cached but not sent: it is dropped as a
NALU that is no IDR, see `parameterSets_change_while_waiting`. What holds is that a set is up to
date when it is sent, and stays so until another one of its kind arrives.

The sends and copies succeed here, and the control thread keeps to the time between messages.

## Main results

* `parameterSets_fresh`
-/

namespace LittleCore

open Library World

/-! ### The property -/

namespace Event

/-- The parameter set of a kind that the stream carried with this event. -/
def carried (kind : ParamSet) : Event → Option (List UInt8)
  | .received bytes =>
    if h265ParamCacheForType (h265NaluType bytes) = some kind then some bytes else none
  | _ => none

/-- The same, if it fits a cache. -/
def storable (kind : ParamSet) (e : Event) : Option (List UInt8) :=
  (e.carried kind).filter fun bytes => bytes.length ≤ h265ParamSetMaxSize

/-- The event is a set of this kind sent from its cache. -/
def isSet (kind : ParamSet) : Event → Bool
  | .parameterSet kind' .. => kind' == kind
  | _ => false

/-- Neither a copy nor a send fails. -/
def Smooth : Event → Prop
  | .copyFailed _ => False
  | .sendto _ _ ok => ok = true
  | _ => True

end Event

def lastCarried (kind : ParamSet) (l : List Event) : Option (List UInt8) :=
  lastValue (Event.carried kind) l

/-- The last set of a kind in the stream, of those that fit a cache. -/
def lastStorable (kind : ParamSet) (l : List Event) : Option (List UInt8) :=
  lastValue (Event.storable kind) l

/-- The set of this kind that was sent last went to `dest` and was then the last one in the
stream. -/
def SentFresh (kind : ParamSet) (dest : SockAddrIn) (l : List Event) : Prop :=
  ∃ a set b, l = a ++ .parameterSet kind dest set true :: b ∧ (∀ e ∈ b, e.isSet kind = false) ∧
    lastStorable kind a = some set

theorem SentFresh.concat {kind : ParamSet} {dest : SockAddrIn} {l : List Event} {e : Event}
    (h : SentFresh kind dest l) (he : e.isSet kind = false) : SentFresh kind dest (l ++ [e]) := by
  obtain ⟨a, set, b, rfl, hb, hlast⟩ := h
  refine ⟨a, set, b ++ [e], by simp, fun e' he' => ?_, hlast⟩
  rcases List.mem_append.mp he' with he' | he'
  · exact hb e' he'
  · rwa [List.mem_singleton.mp he']

/-! ### The invariant -/

namespace Gate

/-- The content a cache has, or gets with the copy that comes next. -/
def upToDate (g : Gate) (kind : ParamSet) : Option (List UInt8) :=
  match g.phase with
  | .received nalu => if g.due nalu = some kind then some nalu else g.cache kind
  | _ => g.cache kind

variable {g : Gate}

theorem upToDate_eq_cache (h : ∀ nalu, g.phase = .received nalu → g.due nalu = none)
    (kind : ParamSet) : g.upToDate kind = g.cache kind := by
  rw [upToDate]
  split
  · rename_i nalu hphase
    rw [h nalu hphase]
    rfl
  · rfl

theorem upToDate_of_settled (h : g.settled) (kind : ParamSet) :
    g.upToDate kind = g.cache kind := by
  refine upToDate_eq_cache (fun nalu hphase => ?_) kind
  rw [settled, hphase] at h
  simpa using (Bool.and_eq_true_iff.mp h).1

theorem upToDate_of_judging {nalu : List UInt8} (h : g.judging = some nalu) (kind : ParamSet) :
    g.upToDate kind = g.cache kind := by
  refine upToDate_eq_cache (fun nalu hphase => ?_) kind
  rw [judging, hphase] at h
  exact (Option.ite_none_right_eq_some.mp h).1

/-- A NALU that has just come is what its cache gets, if it gets anything. -/
theorem upToDate_received (nalu : List UInt8) (kind : ParamSet) :
    Gate.upToDate { g with phase := .received nalu } kind
      = ((Event.received nalu).storable kind).or (g.cache kind) := by
  change (if g.due nalu = some kind then some nalu else g.cache kind) = _
  rw [Event.storable, Event.carried]
  by_cases hkind : h265ParamCacheForType (h265NaluType nalu) = some kind
  · by_cases hsize : nalu.length ≤ h265ParamSetMaxSize
    · by_cases hsame : g.cache kind = some nalu <;>
        simp [due, hkind, hsize, hsame, Option.filter]
    · simp [due, hkind, hsize, Option.filter]
  · have hdue : g.due nalu ≠ some kind := fun h => hkind (Option.filter_eq_some_iff.mp h).1
    rw [if_neg hdue, if_neg hkind]
    rfl

end Gate

/-- What keeps the sets that were sent last up to date. -/
structure Fresh (l : List Event) (g : Gate) : Prop where
  lost : g.lost = false
  stored : ∀ kind, lastStorable kind l = g.upToDate kind
  busy : g.phase.busy → g.canSend
  target : g.canSend → g.rtsp.gPlay ∧ g.rtsp.gClientAddr = g.dest
  passed : ∀ nalu, g.phase = .gate nalu → g.rtsp.gNeedParameterSets = false
  sending : ∀ nalu todo, g.phase = .sets nalu todo → g.rtsp.gNeedParameterSets ∧
    ∃ sent, sent ++ todo = allSets ∧ ∀ kind ∈ sent, SentFresh kind g.dest l
  sent : g.rtsp.gPlay → g.rtsp.gNeedParameterSets = false →
    ∀ kind, SentFresh kind g.rtsp.gClientAddr l
  opened : ∀ a c, l = a ++ .idrFound :: c → (∀ e ∈ c, e.isNalu = false) →
    (∃ nalu, g.phase = .idr nalu) ∧ ∀ kind, SentFresh kind g.dest a

namespace Fresh

variable {l : List Event} {g g' : Gate} {e : Event}

/-- An event that sends no parameter set and leaves the shared state alone. -/
theorem skip (h : Fresh l g) (hset : ∀ kind, e.isSet kind = false) (hfound : e ≠ .idrFound)
    (hrtsp : g'.rtsp = g.rtsp) (hlost : g'.lost = false)
    (hstored : ∀ kind, lastStorable kind (l ++ [e]) = g'.upToDate kind)
    (hbusy : g'.phase.busy → g'.canSend)
    (htarget : g'.canSend → g.rtsp.gPlay ∧ g.rtsp.gClientAddr = g'.dest)
    (hpassed : ∀ nalu, g'.phase = .gate nalu → g.rtsp.gNeedParameterSets = false)
    (hsending : ∀ nalu todo, g'.phase = .sets nalu todo → g.rtsp.gNeedParameterSets ∧
      ∃ sent, sent ++ todo = allSets ∧ ∀ kind ∈ sent, SentFresh kind g'.dest (l ++ [e]))
    (hopened : (∃ nalu, g.phase = .idr nalu) → e.isNalu = false →
      (∃ nalu, g'.phase = .idr nalu) ∧ g'.dest = g.dest) : Fresh (l ++ [e]) g' := by
  refine ⟨hlost, hstored, hbusy, ?_, ?_, ?_, fun hp hn kind => ?_, fun a c hl hc => ?_⟩
  · rwa [hrtsp]
  · rwa [hrtsp]
  · rwa [hrtsp]
  · rw [hrtsp] at hp hn ⊢
    exact (h.sent hp hn kind).concat (hset kind)
  · rcases concat_eq_append_cons hl with ⟨-, he, -⟩ | ⟨c₀, rfl, rfl⟩
    · exact absurd he hfound
    · obtain ⟨hidr, hsets⟩ := h.opened a c₀ rfl fun e he => hc e (List.mem_append_left _ he)
      obtain ⟨hidr', hdest⟩ := hopened hidr (hc e (by simp))
      rw [hdest]
      exact ⟨hidr', hsets⟩

/-- An event that the stream does not come with, after which the caches are as before. -/
theorem stored_concat (h : Fresh l g) (he : ∀ kind, e.storable kind = none)
    (hcache : ∀ kind, g'.upToDate kind = g.upToDate kind) (kind : ParamSet) :
    lastStorable kind (l ++ [e]) = g'.upToDate kind := by
  rw [hcache, ← h.stored, lastStorable, lastValue_concat, he]
  rfl

/-- An event between two NALUs. -/
theorem rest (h : Fresh l g) (hset : ∀ kind, e.isSet kind = false) (hfound : e ≠ .idrFound)
    (he : ∀ kind, e.storable kind = none) (hsettled : g.settled) (hrtsp : g'.rtsp = g.rtsp)
    (hcache : g'.cache = g.cache) (hlost : g'.lost = g.lost) (hphase : g'.phase = .rest)
    (htarget : g'.canSend → g.rtsp.gPlay ∧ g.rtsp.gClientAddr = g'.dest) :
    Fresh (l ++ [e]) g' := by
  refine h.skip hset hfound hrtsp (hlost.trans h.lost) (h.stored_concat he fun kind => ?_) ?_
    htarget ?_ ?_ ?_
  · rw [Gate.upToDate_of_settled hsettled, ← hcache]
    exact Gate.upToDate_eq_cache (by simp [hphase]) kind
  · simp [hphase, Phase.busy]
  · simp [hphase]
  · simp [hphase]
  · rintro ⟨nalu, hidr⟩
    rw [Gate.settled, hidr] at hsettled
    simp at hsettled

theorem rtsp (h : Fresh l g) (s : RtspStep) (hallowed : g.canSend = false) :
    Fresh (l ++ [.rtsp s (g.rtsp.apply s)]) { g with rtsp := g.rtsp.apply s } := by
  have hbusy : g.phase.busy = false := by
    rw [Bool.eq_false_iff]
    intro hb
    simp [h.busy hb] at hallowed
  refine ⟨h.lost, h.stored_concat (fun _ => rfl) fun _ => rfl, h.busy, by simp [hallowed],
    fun nalu hp => ?_, fun nalu todo hp => ?_, fun hp hn kind => ?_, fun a c hl hc => ?_⟩
  · change g.phase = .gate nalu at hp
    simp [hp, Phase.busy] at hbusy
  · change g.phase = .sets nalu todo at hp
    simp [hp, Phase.busy] at hbusy
  · rcases s <;> simp [RtspState.apply] at hp hn
  · rcases concat_eq_append_cons hl with ⟨-, he, -⟩ | ⟨c₀, rfl, rfl⟩
    · simp at he
    · obtain ⟨⟨nalu, hidr⟩, -⟩ := h.opened a c₀ rfl fun e he => hc e (List.mem_append_left _ he)
      simp [hidr, Phase.busy] at hbusy

theorem received (h : Fresh l g) (nalu : List UInt8) (hsettled : g.settled) :
    Fresh (l ++ [.received nalu]) { g with phase := .received nalu } := by
  refine h.skip (fun _ => rfl) (by simp) rfl h.lost (fun kind => ?_) (by simp [Phase.busy])
    h.target (by simp) (by simp) ?_
  · rw [Gate.upToDate_received, lastStorable, lastValue_concat, ← lastStorable, h.stored,
      Gate.upToDate_of_settled hsettled]
  · rintro ⟨nalu, hidr⟩
    rw [Gate.settled, hidr] at hsettled
    simp at hsettled

theorem cached (h : Fresh l g) {nalu : List UInt8} {kind : ParamSet}
    (hphase : g.phase = .received nalu) (hdue : g.due nalu = some kind) :
    Fresh (l ++ [.cached kind nalu])
      { g with cache := Function.update g.cache kind (some nalu), phase := .stored nalu } := by
  refine h.skip (fun _ => rfl) (by simp) rfl h.lost
    (h.stored_concat (fun _ => rfl) fun kind' => ?_) (by simp [Phase.busy]) h.target (by simp)
    (by simp) (by simp [hphase])
  change Function.update g.cache kind (some nalu) kind' = _
  rw [Gate.upToDate, hphase]
  change _ = if g.due nalu = some kind' then some nalu else g.cache kind'
  rw [hdue, Function.update_apply]
  by_cases hk : kind' = kind
  · rw [if_pos hk, if_pos (by rw [hk])]
  · rw [if_neg hk, if_neg fun heq => hk (Option.some.inj heq).symm]

theorem needs (h : Fresh l g) {nalu : List UInt8} (hnalu : g.judging = some nalu)
    (hsend : g.canSend) :
    Fresh (l ++ [.needs g.rtsp.gNeedParameterSets]) { g with
      phase := if g.rtsp.gNeedParameterSets then .sets nalu allSets else .gate nalu } := by
  have hidr : ¬ ∃ nalu, g.phase = .idr nalu := by
    rintro ⟨nalu, hidr⟩
    simp [Gate.judging, hidr] at hnalu
  cases hneed : g.rtsp.gNeedParameterSets with
  | true =>
    refine h.skip (fun _ => rfl) (by simp) rfl h.lost
      (h.stored_concat (fun _ => rfl) fun kind => ?_) (fun _ => hsend) h.target (by simp)
      (fun nalu' todo hp => ⟨hneed, [], ?_, by simp⟩) (fun hex => absurd hex hidr)
    · rw [Gate.upToDate_of_judging hnalu]
      exact Gate.upToDate_eq_cache (by simp) kind
    · simp at hp
      exact hp.2.symm
  | false =>
    refine h.skip (fun _ => rfl) (by simp) rfl h.lost
      (h.stored_concat (fun _ => rfl) fun kind => ?_) (fun _ => hsend) h.target
      (fun _ _ => hneed) (by simp) (fun hex => absurd hex hidr)
    rw [Gate.upToDate_of_judging hnalu]
    exact Gate.upToDate_eq_cache (by simp) kind

/-- While the sets are sent the caches stay as they are, and all that was received is in them. -/
theorem parameterSet (h : Fresh l g) {nalu : List UInt8} {kind : ParamSet}
    {todo : List ParamSet} {set : List UInt8} (hphase : g.phase = .sets nalu (kind :: todo))
    (hset : g.cache kind = some set) :
    Fresh (l ++ [.parameterSet kind g.dest set true])
      { g with phase := .sets nalu todo, lost := false } := by
  obtain ⟨hneed, sent, hsent, hfresh⟩ := h.sending nalu _ hphase
  have hcache : ∀ kind, g.upToDate kind = g.cache kind :=
    Gate.upToDate_eq_cache (by simp [hphase])
  have hlast : lastStorable kind l = some set := by rw [h.stored, hcache, hset]
  refine ⟨rfl, h.stored_concat (fun _ => rfl) fun kind' => (hcache kind').symm,
    fun _ => h.busy (by rw [hphase]; rfl), h.target, by simp, fun nalu' todo' hp => ?_,
    fun _ hn => ?_, fun a c hl hc => ?_⟩
  · simp only [Phase.sets.injEq] at hp
    refine ⟨hneed, sent ++ [kind], by rw [← hp.2, ← hsent]; simp, fun kind' hk => ?_⟩
    by_cases hkind : kind = kind'
    · rw [← hkind]
      exact ⟨l, set, [], rfl, by simp, hlast⟩
    · have hold : kind' ∈ sent := by
        simpa [Ne.symm hkind] using hk
      exact (hfresh kind' hold).concat (by simpa [Event.isSet] using hkind)
  · simp [hneed] at hn
  · rcases concat_eq_append_cons hl with ⟨-, he, -⟩ | ⟨c₀, rfl, rfl⟩
    · simp at he
    · obtain ⟨⟨nalu, hidr⟩, -⟩ := h.opened a c₀ rfl fun e he => hc e (List.mem_append_left _ he)
      simp [hidr] at hphase

theorem marked (h : Fresh l g) {nalu : List UInt8} (hphase : g.phase = .sets nalu []) :
    Fresh (l ++ [.marked]) { g with
      rtsp := { g.rtsp with gNeedParameterSets := false }, wait := true, phase := .gate nalu } := by
  obtain ⟨-, sent, hsent, hfresh⟩ := h.sending nalu _ hphase
  have hsend := h.busy (by rw [hphase]; rfl)
  refine ⟨h.lost, h.stored_concat (fun _ => rfl) fun kind => ?_, fun _ => hsend, h.target,
    fun _ _ => rfl, by simp, fun _ _ kind => ?_, fun a c hl hc => ?_⟩
  · exact (Gate.upToDate_eq_cache (g := g) (by simp [hphase]) kind).symm
  · have hkind : kind ∈ sent := by
      rw [List.append_nil] at hsent
      rw [hsent]
      rcases kind <;> simp [allSets]
    change SentFresh kind g.rtsp.gClientAddr _
    rw [(h.target hsend).2]
    exact (hfresh kind hkind).concat rfl
  · rcases concat_eq_append_cons hl with ⟨-, he, -⟩ | ⟨c₀, rfl, rfl⟩
    · simp at he
    · obtain ⟨⟨nalu, hidr⟩, -⟩ := h.opened a c₀ rfl fun e he => hc e (List.mem_append_left _ he)
      simp [hidr] at hphase

theorem idrFound (h : Fresh l g) {nalu : List UInt8} (hphase : g.phase = .gate nalu) :
    Fresh (l ++ [.idrFound]) { g with wait := false, phase := .idr nalu, lost := false } := by
  have hsend := h.busy (by rw [hphase]; rfl)
  obtain ⟨hplay, hdest⟩ := h.target hsend
  refine ⟨rfl, h.stored_concat (fun _ => rfl) fun kind => ?_, fun _ => hsend, h.target, by simp,
    by simp, fun hp hn kind => (h.sent hp hn kind).concat rfl,
    fun a c hl hc => ⟨⟨nalu, rfl⟩, ?_⟩⟩
  · exact (Gate.upToDate_eq_cache (g := g) (by simp [hphase]) kind).symm
  · rcases concat_eq_append_cons hl with ⟨-, -, rfl⟩ | ⟨c₀, rfl, rfl⟩
    · intro kind
      change SentFresh kind g.dest l
      rw [← hdest]
      exact h.sent hplay (h.passed nalu hphase) kind
    · obtain ⟨⟨nalu, hidr⟩, -⟩ := h.opened a c₀ rfl fun e he => hc e (List.mem_append_left _ he)
      simp [hidr] at hphase

end Fresh

theorem fresh_move {l : List Event} {g g' : Gate} {e : Event} (h : Fresh l g)
    (hsmooth : e.Smooth) (hmove : g.Move false e g') : Fresh (l ++ [e]) g' := by
  cases hmove with
  | rtsp s hallowed => exact h.rtsp s (by simpa using hallowed)
  | item hitem hsettled =>
    refine h.rest (fun _ => ?_) ?_ (fun _ => ?_) hsettled rfl rfl rfl rfl (by simp) <;>
      cases e <;> simp [Event.isItemStep] at hitem <;>
      simp [Event.isSet, Event.storable, Event.carried]
  | target hdest hsettled =>
    refine h.rest (fun _ => rfl) (by simp) (fun _ => rfl) hsettled rfl rfl rfl rfl ?_
    intro hsend
    simp only [RtspState.canSend, Bool.and_eq_true] at hsend
    exact ⟨hsend.1, by rw [hdest, if_pos hsend.2]⟩
  | received nalu hsettled => exact h.received nalu hsettled
  | cached hphase hdue => exact h.cached hphase hdue
  | copyFailed => simp [Event.Smooth] at hsmooth
  | needs hnalu hsend => exact h.needs hnalu hsend
  | parameterSet hphase hset =>
    rw [h.lost]
    exact h.parameterSet hphase hset
  | marked hphase => exact h.marked hphase
  | idrFound hphase => exact h.idrFound hphase
  | nalu hphase =>
    have hcache : ∀ nalu, g.phase = .received nalu → g.due nalu = none := by
      intro nalu hp
      rcases hphase with ⟨hphase, -⟩ | hphase <;> simp [hphase] at hp
    refine h.skip (fun _ => rfl) (by simp) rfl rfl (h.stored_concat (fun _ => rfl) fun kind => ?_)
      (by simp [Phase.busy]) h.target (by simp) (by simp) (by simp [Event.isNalu])
    exact (Gate.upToDate_eq_cache hcache kind).symm
  | sendto packet ok hsending =>
    have hok : ok = true := hsmooth
    refine h.skip (fun _ => rfl) (by simp) rfl (by simp [hok])
      (h.stored_concat (fun _ => rfl) fun _ => rfl) h.busy h.target h.passed
      (fun nalu todo hp => ?_) (fun hidr _ => ⟨hidr, rfl⟩)
    obtain ⟨hneed, sent, hsent, hfresh⟩ := h.sending nalu todo hp
    exact ⟨hneed, sent, hsent, fun kind hk => (hfresh kind hk).concat rfl⟩
  | other hother hsettled =>
    refine h.rest (fun _ => ?_) ?_ (fun _ => ?_) hsettled rfl rfl rfl rfl h.target <;>
      cases e <;> simp [Event.isOther] at hother <;>
      simp [Event.isSet, Event.storable, Event.carried]

theorem fresh_of_run {l : List Event} {g : Gate} (h : (gateProtocol false).run l = some g)
    (hsmooth : ∀ e ∈ l, e.Smooth) : Fresh l g := by
  refine Monitor.invariant (I := fun l g => (∀ e ∈ l, e.Smooth) → Fresh l g) (fun _ => ?_)
    (fun l g e g' hI he hsm => ?_) h hsmooth
  · refine ⟨rfl, fun kind => rfl, ?_, ?_, ?_, ?_, ?_, by simp⟩ <;>
      simp [gateProtocol, Phase.busy]
  · exact fresh_move (hI fun e' he' => hsm e' (List.mem_append_left _ he')) (hsm e (by simp))
      (Gate.move_of_step he)

/-! ### The gate opens -/

/-- When an IDR clears `wait_for_idr` and is sent, every set that its client was sent last was the
last one in the stream when it was sent, and still is if no other one that fits a cache has come
since. -/
def SetsFresh (trace : List Event) : Prop :=
  ∀ pre mid dest nalu ok post,
    trace = pre ++ .idrFound :: mid ++ .nalu dest nalu ok :: post →
    (∀ e ∈ mid, e.isNalu = false) → ∀ kind, ∃ a set b,
      pre = a ++ .parameterSet kind dest set true :: b ∧ (∀ e ∈ b, e.isSet kind = false) ∧
        lastStorable kind a = some set ∧
        ((∀ e ∈ b, ∀ set', e.storable kind = some set' → set' = set) →
          lastStorable kind pre = some set)

theorem setsFresh_of_run {trace : List Event} {g : Gate}
    (h : (gateProtocol false).run trace = some g) (hsmooth : ∀ e ∈ trace, e.Smooth) :
    SetsFresh trace := by
  rintro pre mid dest nalu ok post rfl hmid kind
  obtain ⟨g₀, g₁, hg₀, hstep⟩ := Monitor.exists_step_of_run h
  have hfresh := fresh_of_run hg₀ fun e he => hsmooth e (List.mem_append_left _ he)
  obtain ⟨-, hsets⟩ := hfresh.opened pre mid rfl hmid
  have hmove : g₀.Move false (.nalu dest nalu ok) g₁ := Gate.move_of_step hstep
  have hdest : dest = g₀.dest := by
    cases hmove with
    | nalu => rfl
    | item hitem => simp [Event.isItemStep] at hitem
    | other hother => simp [Event.isOther] at hother
  rw [hdest]
  obtain ⟨a, set, b, rfl, hb, hlast⟩ := hsets kind
  refine ⟨a, set, b, rfl, hb, hlast, fun hsame => lastValue_append_of_forall hlast ?_⟩
  intro e he set' hset'
  rcases List.mem_cons.mp he with rfl | he
  · simp [Event.storable, Event.carried] at hset'
  · exact hsame e he set' hset'

theorem smooth_of_possible {env : Env} {e : Event} (hsend : ∀ n, env.sendto n = true)
    (hmalloc : ∀ n, env.malloc n = true) (h : e.Possible env) : e.Smooth := by
  cases e with
  | sendto dest packet ok =>
    obtain ⟨n, hn⟩ := h
    exact hn.trans (hsend n)
  | copyFailed kind =>
    obtain ⟨n, hn⟩ := h
    simp [hmalloc n] at hn
  | _ => trivial

/-- **Fresh parameter sets.** With the control thread's steps between messages and `sendto` and
`malloc` succeeding, the gate opens with parameter sets that are up to date but for those that
came while it waited. -/
theorem parameterSets_fresh {env : Env} (hquiet : env.Quiet) (hsend : ∀ n, env.sendto n = true)
    (hmalloc : ∀ n, env.malloc n = true) (inputs : List Input) :
    SetsFresh (datafifoRtpSenderLoop env inputs {}).trace := by
  obtain ⟨_, phase, hfollows, -⟩ :=
    datafifoRtpSenderLoop_accepted (fun _ : false = false => hquiet) inputs
  exact setsFresh_of_run hfollows.run fun e he =>
    smooth_of_possible hsend hmalloc (hfollows.possible e he)

theorem parameterSets_fresh_sample :
    SetsFresh (datafifoRtpSenderLoop {} (sampleRun sampleSlice sampleIdr) {}).trace :=
  parameterSets_fresh (fun _ => rfl) (fun _ => rfl) (fun _ => rfl) _

/-- A new SPS and the IDR behind it. -/
def lateSps : List UInt8 := [0, 0, 1, 0x42, 2, 0, 0, 1, 0x26, 1]

/-- **The sets change while the gate waits.** The client decodes the IDR with the old SPS. -/
theorem parameterSets_change_while_waiting :
    ¬ ∀ pre mid dest nalu ok post,
      (datafifoRtpSenderLoop {} (sampleRun sampleSlice lateSps) {}).trace
        = pre ++ .idrFound :: mid ++ .nalu dest nalu ok :: post →
      (∀ e ∈ mid, e.isNalu = false) → ∀ kind a set b,
        pre = a ++ .parameterSet kind dest set true :: b → (∀ e ∈ b, e.isSet kind = false) →
        lastCarried kind pre = some set := by
  intro h
  generalize htrace : (datafifoRtpSenderLoop {} (sampleRun sampleSlice lateSps) {}).trace = trace
    at h
  have hsplit : trace = trace.take 37 ++ .idrFound :: (trace.drop 38).take 1 ++
      .nalu ⟨1, 5000⟩ [0x26, 1] true :: trace.drop 40 := by
    rw [← htrace]
    decide
  have hmid : ∀ e ∈ (trace.drop 38).take 1, e.isNalu = false := by
    rw [← htrace]
    decide
  have hpre : trace.take 37 = trace.take 22 ++
      .parameterSet .sps ⟨1, 5000⟩ [0x42, 1] true :: (trace.drop 23).take 14 := by
    rw [← htrace]
    decide
  have hlater : ∀ e ∈ (trace.drop 23).take 14, e.isSet .sps = false := by
    rw [← htrace]
    decide
  have hstale : lastCarried .sps (trace.take 37) = some [0x42, 2] := by
    rw [← htrace]
    decide
  rw [h _ _ _ _ _ _ hsplit hmid _ _ _ _ hpre hlater] at hstale
  simp at hstale

end LittleCore

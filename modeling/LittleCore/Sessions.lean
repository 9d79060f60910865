import LittleCore.Audience
import LittleCore.Gate.Caches
import LittleCore.Reception

/-!
# What a client watches

From the requests to the receiver. The critical sections of the control thread cut the stream into
parts, and a part that begins with a client playing is a session. Over a whole run, what a receiver
at an address outputs are the sessions with that address, one after the other, and each of them is
as if it was the only one: the parameter sets that are cached, and then the stream from an IDR on,
without a gap, up to the end of the part.

So a second `PLAY` begins a new session, with the sets and the wait for an IDR, even if it comes on
the same connection; and of the parts without a session nobody is sent anything.

Nothing fails here, and the control thread keeps to the time between messages. What is left of this
otherwise is in `receiver_outputs`, `packets_requested` and the modules on the gate.

## Main results

* `transduce_sessions` — the player, session by session
* `sessions_watched` — the receivers of a run against any connections
-/

namespace LittleCore

open Library World

/-! ### Sessions -/

/-- A part of the stream, with a client that plays. -/
structure Session where
  /-- The critical sections up to the one that begins the part. -/
  asked : List RtspStep
  /-- The caches at that moment. -/
  sets : ParamSet → Option (List UInt8)
  nalus : List (List UInt8)

namespace Session

/-- The address of the last `SETUP`. -/
def addr (s : Session) : SockAddrIn := (rtspAfter s.asked).gClientAddr

/-- What the client gets. -/
def stream (s : Session) : List (List UInt8) := openedStream s.sets s.nalus

/-- There is nothing, or the three sets, and behind them the rest of the part from an IDR on. -/
def Decodable (s : Session) : Prop :=
  s.stream = [] ∨ ∃ vps sps pps rest, s.stream = vps :: sps :: pps :: rest ∧
    fits .vps vps ∧ fits .sps sps ∧ fits .pps pps ∧
    rest <:+ s.nalus ∧ ∀ nalu ∈ rest.head?, h265IsIdr (h265NaluType nalu)

end Session

/-- The NALUs up to the next critical section. -/
def untilControl : List PlayerStep → List (List UInt8)
  | .nalu nalu :: steps => nalu :: untilControl steps
  | _ => []

/-- The sessions among the player's inputs, behind the critical sections `asked`. -/
def sessionsFrom : List RtspStep → (ParamSet → Option (List UInt8)) → List PlayerStep → List Session
  | _, _, [] => []
  | asked, sets, .nalu nalu :: steps => sessionsFrom asked (storeSet sets nalu) steps
  | asked, sets, .rtsp s :: steps =>
    (if (rtspAfter (asked ++ [s])).canSend then [⟨asked ++ [s], sets, untilControl steps⟩] else [])
      ++ sessionsFrom (asked ++ [s]) sets steps

/-- The sessions of a run. -/
def sessions (inputs : List Input) : List Session :=
  sessionsFrom [] (fun _ => none) (accepted inputs)

/-- The critical sections among the player's inputs. -/
def stepControls (steps : List PlayerStep) : List RtspStep :=
  steps.filterMap fun
    | .rtsp s => some s
    | .nalu _ => none

/-- The critical sections of a run. -/
def controls (inputs : List Input) : List RtspStep :=
  inputs.filterMap fun
    | .rtsp s => some s
    | .item _ => none

theorem stepControls_nalus (nalus : List (List UInt8)) : stepControls (nalus.map .nalu) = [] := by
  rw [stepControls, List.filterMap_eq_nil_iff]
  intro s hs
  obtain ⟨nalu, -, rfl⟩ := List.mem_map.mp hs
  rfl

/-- What refuses a message takes no critical section away. -/
theorem stepControls_transduce_accept (last : UInt64) (inputs : List Input) :
    stepControls (transduce accept last inputs).1 = controls inputs := by
  induction inputs generalizing last with
  | nil => rfl
  | cons i inputs ih =>
    have hone : stepControls (accept last i).1 = controls [i] := by
      rcases i with s | item
      · rfl
      · rw [accept]
        split
        · exact stepControls_nalus _
        · rfl
    rw [transduce_cons, stepControls, List.filterMap_append, ← stepControls, ← stepControls, ih,
      hone, controls, controls, ← List.filterMap_append]
    rfl

/-! #### Where the sessions are -/

/-- **There is a session for each critical section that leaves a client playing.** -/
theorem asked_sessionsFrom (asked : List RtspStep) (sets : ParamSet → Option (List UInt8))
    (steps : List PlayerStep) :
    [asked].filter (fun l => (rtspAfter l).canSend)
        ++ (sessionsFrom asked sets steps).map Session.asked
      = ((stepControls steps).inits.map (asked ++ ·)).filter fun l => (rtspAfter l).canSend := by
  induction steps generalizing asked sets with
  | nil => simp [sessionsFrom, stepControls]
  | cons s steps ih =>
    cases s with
    | nalu nalu => exact ih asked (storeSet sets nalu)
    | rtsp s =>
      have hnext : stepControls (.rtsp s :: steps) = s :: stepControls steps := rfl
      have hshift : (s :: stepControls steps).inits.map (asked ++ ·)
          = [asked] ++ (stepControls steps).inits.map (asked ++ [s] ++ ·) := by simp
      have hfirst : [asked ++ [s]].filter (fun l => (rtspAfter l).canSend)
          = (if (rtspAfter (asked ++ [s])).canSend then
              [(⟨asked ++ [s], sets, untilControl steps⟩ : Session)] else []).map
            Session.asked := by
        cases hplay : (rtspAfter (asked ++ [s])).canSend <;> simp [hplay]
      rw [hnext, hshift, List.filter_append, ← ih (asked ++ [s]) sets, hfirst, sessionsFrom,
        List.map_append]

theorem asked_sessions (inputs : List Input) : (sessions inputs).map Session.asked
    = (controls inputs).inits.filter fun l => (rtspAfter l).canSend := by
  have h := asked_sessionsFrom [] (fun _ => none) (accepted inputs)
  have hfirst : [[]].filter (fun l => (rtspAfter l).canSend) = [] := rfl
  have hall : (controls inputs).inits.map ([] ++ ·) = (controls inputs).inits := by simp
  rwa [hfirst, List.nil_append, accepted, stepControls_transduce_accept, ← accepted, hall] at h

/-! #### What is in them -/

theorem fits_storeSet {sets : ParamSet → Option (List UInt8)}
    (h : ∀ kind set, sets kind = some set → fits kind set) (nalu : List UInt8) :
    ∀ kind set, storeSet sets nalu kind = some set → fits kind set := by
  intro kind set hset
  rw [storeSet_apply] at hset
  split at hset
  · rename_i hfits
    rwa [← Option.some.inj hset]
  · exact h kind set hset

theorem fits_sessionsFrom (asked : List RtspStep) {sets : ParamSet → Option (List UInt8)}
    (h : ∀ kind set, sets kind = some set → fits kind set) (steps : List PlayerStep) :
    ∀ s ∈ sessionsFrom asked sets steps, ∀ kind set, s.sets kind = some set → fits kind set := by
  induction steps generalizing asked sets with
  | nil => simp [sessionsFrom]
  | cons s steps ih =>
    cases s with
    | nalu nalu => exact ih asked (fits_storeSet h nalu)
    | rtsp s =>
      intro session hsession
      rw [sessionsFrom, List.mem_append] at hsession
      rcases hsession with hfirst | hlater
      · split at hfirst
        · rw [List.mem_singleton.mp hfirst]
          exact h
        · cases hfirst
      · exact ih (asked ++ [s]) h session hlater

/-- **A session begins with its sets and an IDR.** -/
theorem Session.decodable {s : Session}
    (h : ∀ kind set, s.sets kind = some set → fits kind set) : s.Decodable := by
  obtain ⟨asked, sets, nalus⟩ := s
  rw [Decodable, stream]
  dsimp only at h ⊢
  induction nalus generalizing sets with
  | nil => exact .inl rfl
  | cons nalu nalus ih =>
    have hstored := fits_storeSet h nalu
    rw [openedStream]
    cases hsets : cachedSets (storeSet sets nalu) with
    | none =>
      rcases ih (storeSet sets nalu) hstored with hnone | ⟨vps, sps, pps, rest, hstream, hrest⟩
      · exact .inl hnone
      · obtain ⟨hvps, hsps, hpps, hsuffix, hidr⟩ := hrest
        exact .inr ⟨vps, sps, pps, rest, hstream, hvps, hsps, hpps,
          hsuffix.trans (List.suffix_cons _ _), hidr⟩
    | some cached =>
      rw [cachedSets] at hsets
      split at hsets
      · rename_i vps sps pps hvps hsps hpps
        refine .inr ⟨vps, sps, pps,
          (nalu :: nalus).dropWhile fun nalu => !h265IsIdr (h265NaluType nalu), ?_,
          hstored _ _ hvps, hstored _ _ hsps, hstored _ _ hpps, List.dropWhile_suffix _, ?_⟩
        · rw [← Option.some.inj hsets]
          rfl
        · intro first hfirst
          have hhead := List.head?_dropWhile_not
            (fun nalu => !h265IsIdr (h265NaluType nalu)) (nalu :: nalus)
          rw [Option.mem_def.mp hfirst] at hhead
          simpa using hhead
      · cases hsets

/-! ### The player -/

namespace Player

theorem cache_pass (p : Player) (nalu : List UInt8) : (p.pass nalu).2.cache = p.cache := by
  rw [pass]
  split
  · split <;> rfl
  · rfl

theorem cache_step_nalu (p : Player) (nalu : List UInt8) :
    (p.step (.nalu nalu)).2.cache = storeSet p.cache nalu := by
  rw [step, Player.nalu]
  dsimp only
  split
  · rw [judge]
    split
    · split
      · rfl
      · exact cache_pass ..
    · exact cache_pass ..
  · rfl

/-- Nobody plays. -/
theorem transduce_silent {p : Player} (h : p.rtsp.canSend = false) (nalus : List (List UInt8)) :
    (transduce step p (nalus.map .nalu)).1 = [] := by
  induction nalus generalizing p with
  | nil => rfl
  | cons nalu nalus ih =>
    have hstep : p.step (.nalu nalu) = ([], { p with cache := storeSet p.cache nalu }) := by
      simp [step, Player.nalu, h]
    rw [List.map_cons, transduce_of_step hstep, List.nil_append]
    exact ih h

/-- A critical section that leaves a client playing is a `PLAY`, so the sets are due. -/
theorem need_of_canSend {rtsp : RtspState} {s : RtspStep} (h : (rtsp.apply s).canSend = true) :
    (rtsp.apply s).gNeedParameterSets = true := by
  cases s with
  | play => rfl
  | setup | teardown | disconnect => cases h

end Player

/-- **The player, session by session.** Up to the next critical section it goes on as it is, and
from there on it writes the sessions. -/
theorem transduce_sessions {p : Player} {asked : List RtspStep} {need : Bool}
    (h : p.rtsp = { rtspAfter asked with gNeedParameterSets := need }) (steps : List PlayerStep) :
    (transduce Player.step p steps).1
      = (transduce Player.step p ((untilControl steps).map .nalu)).1
        ++ (sessionsFrom asked p.cache steps).flatMap fun s => s.stream.map (s.addr, ·) := by
  induction steps generalizing p asked need with
  | nil => rfl
  | cons s steps ih =>
    cases s with
    | nalu nalu =>
      obtain ⟨need', hrtsp⟩ := p.rtsp_step_nalu nalu
      rw [h] at hrtsp
      have hnext := ih (p := (p.step (.nalu nalu)).2) hrtsp
      rw [Player.cache_step_nalu] at hnext
      rw [transduce_cons, hnext, untilControl, List.map_cons, transduce_cons, sessionsFrom,
        List.append_assoc]
    | rtsp s =>
      -- The part up to here is over, and a new one begins.
      obtain ⟨need', hneed⟩ : ∃ need', p.rtsp.apply s
          = { rtspAfter (asked ++ [s]) with gNeedParameterSets := need' } := by
        rw [h, rtspAfter_concat]
        cases s <;> exact ⟨_, rfl⟩
      have hcan : (rtspAfter (asked ++ [s])).canSend = (p.rtsp.apply s).canSend := by
        rw [hneed]
        rfl
      have haddr : (rtspAfter (asked ++ [s])).gClientAddr = (p.rtsp.apply s).gClientAddr := by
        rw [hneed]
      have hnext := ih (p := { p with rtsp := p.rtsp.apply s }) hneed
      have hstep : p.step (.rtsp s) = ([], { p with rtsp := p.rtsp.apply s }) := rfl
      have hover : untilControl (.rtsp s :: steps) = [] := rfl
      rw [transduce_of_step hstep, List.nil_append, hnext, hover, List.map_nil, transduce_nil,
        List.nil_append, sessionsFrom, List.flatMap_append, hcan]
      congr 1
      cases hplay : (p.rtsp.apply s).canSend with
      | true =>
        rw [Player.transduce_opened (p := { p with rtsp := p.rtsp.apply s }) hplay
          (Player.need_of_canSend hplay), if_pos rfl, List.flatMap_singleton, Session.addr, haddr]
        rfl
      | false =>
        rw [Player.transduce_silent (p := { p with rtsp := p.rtsp.apply s }) hplay,
          if_neg Bool.false_ne_true]
        rfl

/-! ### The receivers -/

/-- What is written to one address. -/
theorem filterMap_sessions (l : List Session) (addr : SockAddrIn) :
    (l.flatMap fun s => s.stream.map (s.addr, ·)).filterMap
        (fun p => if p.1 = addr then some p.2 else none)
      = (l.filter fun s => s.addr = addr).flatMap Session.stream := by
  induction l with
  | nil => rfl
  | cons s l ih =>
    rw [List.flatMap_cons, List.filterMap_append, ih, List.filterMap_map]
    by_cases haddr : s.addr = addr
    · simp [haddr]
    · simp [haddr]

theorem receiver_sessions {env : Env} (henv : env.Smooth) (inputs : List Input)
    (hread : ∀ item ∈ itemsOf inputs, item.msg.Readable) (addr : SockAddrIn) :
    depacketize (packetsFor addr (datafifoRtpSenderLoop env inputs {}).trace)
      = ((sessions inputs).filter fun s => s.addr = addr).flatMap Session.stream := by
  have hnalus := depacketize_of_receives (datafifoRtpSenderLoop_receives env inputs hread addr)
  have hstart : ({} : Player).rtsp = { rtspAfter [] with gNeedParameterSets := false } := rfl
  rw [hnalus, nalusFor, (datafifoRtpSenderLoop_player henv inputs).sent, transduce_sessions hstart,
    Player.transduce_silent rfl, List.nil_append]
  exact filterMap_sessions _ addr

/-- **What the clients watch.** Let the accept loop serve any connections, with its critical
sections between the messages of the sender. There is a session for each `PLAY` behind a `SETUP`,
which was asked for by a connection that was open; it can be decoded; and a receiver at any address
outputs the sessions with that address. -/
theorem sessions_watched {env : Env} (henv : env.Smooth) {connections : List Connection}
    {inputs : List Input} (hread : ∀ item ∈ itemsOf inputs, item.msg.Readable)
    (hserved : controls inputs
      <+: (acceptLoop connections {}).trace.filterMap ServerEvent.critical?) :
    (sessions inputs).map Session.asked
        = ((controls inputs).inits.filter fun l => (rtspAfter l).canSend) ∧
      (∀ s ∈ sessions inputs, Requested connections s.asked s.addr ∧ s.Decodable) ∧
      ∀ addr, depacketize (packetsFor addr (datafifoRtpSenderLoop env inputs {}).trace)
        = ((sessions inputs).filter fun s => s.addr = addr).flatMap Session.stream := by
  refine ⟨asked_sessions inputs, fun s hs => ⟨?_, ?_⟩, receiver_sessions henv inputs hread⟩
  · have hasked : s.asked ∈ (controls inputs).inits.filter fun l => (rtspAfter l).canSend := by
      rw [← asked_sessions]
      exact List.mem_map_of_mem hs
    obtain ⟨hpart, hplay⟩ := List.mem_filter.mp hasked
    rw [acceptLoop_criticals] at hserved
    exact requested_of_canSend (((List.mem_inits _ _).mp hpart).trans hserved) hplay
  · exact s.decodable (fits_sessionsFrom [] (by simp) _ s hs)

/-- One client, which has set up and plays. -/
theorem sessions_watched_sample :
    (sessions (sampleRun sampleIdr sampleSlice)).map Session.asked
        = [[.setup ⟨1, 5000⟩, .play]] ∧
      depacketize (packetsFor ⟨1, 5000⟩
          (datafifoRtpSenderLoop {} (sampleRun sampleIdr sampleSlice) {}).trace)
        = [[0x40, 1], [0x42, 1], [0x44, 1], [0x26, 1], [0x02, 1]] := by
  have henv : Env.Smooth {} :=
    ⟨fun _ => rfl, fun _ => rfl, fun _ => rfl, fun _ => rfl, fun _ => rfl⟩
  obtain ⟨hasked, -, hreceived⟩ := @sessions_watched _ henv
    [⟨⟨1, 40000⟩, [setupRequest, playRequest]⟩] (sampleRun sampleIdr sampleSlice) (by decide)
    (by decide +kernel)
  rw [hasked, hreceived]
  decide +kernel

end LittleCore

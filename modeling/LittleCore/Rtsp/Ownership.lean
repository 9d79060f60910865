import LittleCore.Library.Monitor
import LittleCore.Rtsp.Server

/-!
# Who the stream belongs to

While `g_play` is set, RTP goes to `g_client_addr`. It ought to be the address that the client that
said `PLAY` has negotiated itself, on the same connection.

`SETUP` writes the address, but nothing ever takes it back: `g_client_addr_set` stays set when a
connection ends, and `PLAY` does not ask where the address is from. So a client that says `PLAY`
without a `SETUP` starts RTP towards the address of an earlier one, see `play_without_setup`, and
this is the only way: `rtp_target_owned`.

## Main results

* `rtp_target_owned`
-/

namespace LittleCore

open Library

/-! ### The property -/

namespace ServerEvent

def peer? : ServerEvent → Option SockAddrIn
  | connected peer => some peer
  | _ => none

/-- The address an accepted `SETUP` negotiated. -/
def setup? : ServerEvent → Option SockAddrIn
  | critical (.setup addr) _ => some addr
  | _ => none

def after? : ServerEvent → Option RtspState
  | critical _ after => some after
  | _ => none

def isPlay : ServerEvent → Bool
  | critical .play _ => true
  | _ => false

end ServerEvent

open ServerEvent

/-- The shared state behind the last critical section. -/
def stateAfter (l : List ServerEvent) : RtspState := (lastValue after? l).getD {}

/-- The peer of the connection at hand, and the address of its last accepted `SETUP`. -/
def negotiated (l : List ServerEvent) : Option (SockAddrIn × SockAddrIn) :=
  (sinceLast peer? l).bind fun p => (lastValue setup? p.2).map (p.1, ·)

/-- If `g_play` is set, the target is the address of the peer that said `PLAY` last, with the port
of the last `SETUP` on the connection it said so on. -/
def Owned (l : List ServerEvent) : Prop :=
  (stateAfter l).gPlay → (stateAfter l).gClientAddrSet ∧ ∃ a after b peer addr,
    l = a ++ .critical .play after :: b ∧ (∀ e ∈ b, e.isPlay = false) ∧
      negotiated a = some (peer, addr) ∧
        (stateAfter l).gClientAddr = { peer with sinPort := addr.sinPort }

/-- Every `PLAY` comes after an accepted `SETUP` on the same connection. -/
def SetUpFirst (trace : List ServerEvent) : Prop :=
  ∀ pre after post, trace = pre ++ .critical .play after :: post → ∃ p, negotiated pre = some p

/-! #### Along a trace -/

section Concat

variable {l : List ServerEvent} {e : ServerEvent}

theorem stateAfter_concat (l : List ServerEvent) (e : ServerEvent) :
    stateAfter (l ++ [e]) = e.after?.getD (stateAfter l) := by
  rw [stateAfter, lastValue_concat]
  cases e.after? <;> rfl

theorem negotiated_concat (hpeer : e.peer? = none) :
    negotiated (l ++ [e]) = (sinceLast peer? l).bind fun p =>
      (e.setup?.or (lastValue setup? p.2)).map (p.1, ·) := by
  rw [negotiated, sinceLast_concat_of_none hpeer]
  cases sinceLast peer? l with
  | none => rfl
  | some p =>
    rw [Option.map_some, Option.bind_some, Option.bind_some, lastValue_concat]

theorem negotiated_connected (l : List ServerEvent) (peer : SockAddrIn) :
    negotiated (l ++ [.connected peer]) = none := by
  have hpeer : peer? (.connected peer) = some peer := rfl
  rw [negotiated, sinceLast_concat_of_some hpeer]
  rfl

theorem Owned.concat (h : Owned l) (hafter : e.after? = none) (hplay : e.isPlay = false) :
    Owned (l ++ [e]) := by
  have hstate : stateAfter (l ++ [e]) = stateAfter l := by
    rw [stateAfter_concat, hafter]
    rfl
  rw [Owned, hstate]
  intro hp
  obtain ⟨hset, a, after, b, peer, addr, rfl, hb, hnegotiated, haddr⟩ := h hp
  refine ⟨hset, a, after, b ++ [e], peer, addr, by simp, fun e' he' => ?_, hnegotiated, haddr⟩
  rcases List.mem_append.mp he' with he' | he'
  · exact hb e' he'
  · rwa [List.mem_singleton.mp he']

theorem SetUpFirst.of_append {r : List ServerEvent} (h : SetUpFirst (l ++ r)) : SetUpFirst l :=
  fun pre after post hl => h pre after (post ++ r) (by simp [hl])

end Concat

/-! ### The server as a protocol -/

/-- A `SETUP` is for the address of the peer. -/
def RtspStep.fits (peer : Option SockAddrIn) : RtspStep → Bool
  | .setup addr => peer.any (·.sinAddr == addr.sinAddr)
  | _ => true

/-- The shared state and the peer of the connection at hand. The critical sections follow one
another. -/
def serverProtocol : Monitor (RtspState × Option SockAddrIn) ServerEvent where
  start := ({}, none)
  step s
    | .connected peer => some (s.1, some peer)
    | .critical step after =>
      if after = s.1.apply step ∧ step.fits s.2 then some (after, s.2) else none
    | .response _ => some s

/-- The server is at work for `peer`, and its trace leads to the state it is in. -/
def Serves (peer : Option SockAddrIn) (w : ServerWorld) : Prop :=
  serverProtocol.run w.trace = some (w.rtsp, peer)

namespace Serves

variable {peer : Option SockAddrIn} {w : ServerWorld}

theorem respond (h : Serves peer w) (text : List Char) : Serves peer (w.respond text) := by
  rw [Serves, ServerWorld.respond, ServerWorld.emit, Monitor.run_concat, h]
  rfl

theorem critical (h : Serves peer w) {step : RtspStep} (hfits : step.fits peer) :
    Serves peer (w.critical step) := by
  rw [Serves, ServerWorld.critical, Monitor.run_concat, h]
  exact if_pos ⟨rfl, hfits⟩

theorem serveChunk {peer : SockAddrIn} (h : Serves (some peer) w) (chunk : Chunk) :
    Serves (some peer) (serveChunk peer chunk w).2 := by
  rw [serveChunk_eq]
  refine respond ?_ _
  cases hstep : chunkStep peer chunk.text with
  | none => exact h
  | some step =>
    refine h.critical ?_
    rw [chunkStep, Option.bind_eq_some_iff] at hstep
    obtain ⟨r, -, hstep⟩ := hstep
    split_ifs at hstep <;> simp only [Option.some.injEq] at hstep <;>
      subst hstep <;> simp [RtspStep.fits]

theorem handleRtspClient {peer : SockAddrIn} (h : Serves (some peer) w) (chunks : List Chunk) :
    Serves (some peer) (handleRtspClient peer chunks w) :=
  critical (forEach_inv (I := fun _ => Serves (some peer))
    (fun chunk _ _ h => h.serveChunk chunk) h) rfl

end Serves

/-- **The server keeps to the protocol.** -/
theorem acceptLoop_serves (connections : List Connection) :
    ∃ peer, Serves peer (acceptLoop connections {}) := by
  induction connections using List.reverseRecOn with
  | nil => exact ⟨none, rfl⟩
  | append_singleton connections c ih =>
    obtain ⟨peer, h⟩ := ih
    rw [acceptLoop, List.foldl_concat, ← acceptLoop]
    have hconnected : Serves (some c.peer)
        ((acceptLoop connections {}).emit (.connected c.peer)) := by
      rw [Serves, ServerWorld.emit, Monitor.run_concat, h]
      rfl
    exact ⟨_, hconnected.handleRtspClient c.chunks⟩

/-! ### The invariant -/

/-- What the shared state has to do with the trace. -/
structure Tied (l : List ServerEvent) (s : RtspState × Option SockAddrIn) : Prop where
  state : stateAfter l = s.1
  peer : (sinceLast peer? l).map Prod.fst = s.2
  /-- Connections come one after the other, so what was negotiated on this one still stands. -/
  target : ∀ peer addr, negotiated l = some (peer, addr) →
    s.1.gClientAddrSet ∧ s.1.gClientAddr = { peer with sinPort := addr.sinPort }
  owned : SetUpFirst l → Owned l

theorem tied_critical {l : List ServerEvent} {s : RtspState × Option SockAddrIn}
    {step : RtspStep} (h : Tied l s) (hfits : step.fits s.2) :
    Tied (l ++ [.critical step (s.1.apply step)]) (s.1.apply step, s.2) := by
  have hstate : stateAfter (l ++ [.critical step (s.1.apply step)]) = s.1.apply step := by
    rw [stateAfter_concat]
    rfl
  refine ⟨hstate, ?_, fun peer addr hn => ?_, fun hfirst hp => ?_⟩
  · rw [sinceLast_concat_of_none rfl, Option.map_map, ← h.peer]
    rfl
  · rw [negotiated_concat rfl] at hn
    cases step with
    | setup addr' =>
      obtain ⟨⟨peer', c⟩, hc, hn⟩ := Option.bind_eq_some_iff.mp hn
      simp only [setup?, Option.some_or, Option.map_some, Option.some.injEq, Prod.mk.injEq] at hn
      obtain ⟨rfl, rfl⟩ := hn
      rw [← h.peer, hc] at hfits
      have haddr : peer'.sinAddr = addr'.sinAddr := by simpa [RtspStep.fits] using hfits
      exact ⟨rfl, by simp [RtspState.apply, haddr]⟩
    | _ => exact h.target peer addr hn
  · -- Only a `PLAY` leaves `g_play` set.
    rw [hstate] at hp ⊢
    have hplay : step = .play := by
      cases step <;> first | rfl | simp [RtspState.apply] at hp
    subst hplay
    obtain ⟨⟨peer, addr⟩, hn⟩ := hfirst l _ [] rfl
    obtain ⟨hset, haddr⟩ := h.target peer addr hn
    exact ⟨hset, l, _, [], peer, addr, rfl, by simp, hn, haddr⟩

theorem tied_of_run {l : List ServerEvent} {s : RtspState × Option SockAddrIn}
    (h : serverProtocol.run l = some s) : Tied l s := by
  refine Monitor.invariant (I := Tied) ⟨rfl, rfl, ?_, ?_⟩ (fun l s e s' hI he => ?_) h
  · intro peer addr hn
    simp [negotiated, sinceLast] at hn
  · intro _ hp
    simp [stateAfter, lastValue] at hp
  · cases e with
    | connected peer =>
      obtain rfl : (s.1, some peer) = s' := Option.some.inj he
      refine ⟨?_, ?_, ?_, fun hfirst => (hI.owned hfirst.of_append).concat rfl rfl⟩
      · rw [stateAfter_concat]
        exact hI.state
      · have hpeer : peer? (.connected peer) = some peer := rfl
        rw [sinceLast_concat_of_some hpeer]
        rfl
      · rw [negotiated_connected]
        simp
    | critical step after =>
      obtain ⟨⟨rfl, hfits⟩, hs⟩ := Option.ite_none_right_eq_some.mp he
      rw [← Option.some.inj hs]
      exact tied_critical hI hfits
    | response text =>
      obtain rfl : s = s' := Option.some.inj he
      refine ⟨?_, ?_, ?_, fun hfirst => (hI.owned hfirst.of_append).concat rfl rfl⟩
      · rw [stateAfter_concat]
        exact hI.state
      · rw [sinceLast_concat_of_none rfl, Option.map_map, ← hI.peer]
        rfl
      · rw [negotiated_concat rfl]
        exact hI.target

/-! ### Every run -/

/-- **Target ownership.** Whatever connections come and however they end, the stream belongs to the
client that said `PLAY` at every point of the run, if and only if no client says `PLAY` before an
accepted `SETUP` on its own connection. -/
theorem rtp_target_owned (connections : List Connection) :
    (∀ pre post, (acceptLoop connections {}).trace = pre ++ post → Owned pre) ↔
      SetUpFirst (acceptLoop connections {}).trace := by
  obtain ⟨peer, h⟩ := acceptLoop_serves connections
  constructor
  · intro howned pre after post htrace
    rw [Serves, htrace] at h
    obtain ⟨s, s', -, he⟩ := Monitor.exists_step_of_run h
    obtain ⟨⟨rfl, -⟩, -⟩ := Option.ite_none_right_eq_some.mp he
    -- Right behind the `PLAY` the stream belongs to somebody, and this is the `PLAY` it is by.
    have hstate : stateAfter (pre ++ [.critical .play (s.1.apply .play)]) = s.1.apply .play := by
      rw [stateAfter_concat]
      rfl
    have hpre := howned (pre ++ [.critical .play (s.1.apply .play)]) post (by simp [htrace])
    rw [Owned, hstate] at hpre
    obtain ⟨-, a, after, b, peer, addr, hab, hb, hn, -⟩ := hpre rfl
    rcases concat_eq_append_cons hab with ⟨-, -, rfl⟩ | ⟨c, rfl, -⟩
    · exact ⟨_, hn⟩
    · have := hb (.critical .play (s.1.apply .play)) (by simp)
      simp [isPlay] at this
  · intro hfirst pre post htrace
    rw [Serves, htrace] at h
    rw [htrace] at hfirst
    obtain ⟨s, hs⟩ := Monitor.exists_of_run_append h
    exact (tied_of_run hs).owned hfirst.of_append

/-- **Another client's address.** The first client sets up and leaves; the second one only says
`PLAY`, and RTP starts towards the first one. -/
theorem play_without_setup :
    ∃ pre post, (acceptLoop [⟨⟨1, 40000⟩, [setupRequest]⟩, ⟨⟨2, 40000⟩, [playRequest]⟩] {}).trace
      = pre ++ post ∧ stateAfter pre = ⟨true, true, true, ⟨1, 5000⟩⟩ ∧ ¬ Owned pre := by
  generalize htrace :
    (acceptLoop [⟨⟨1, 40000⟩, [setupRequest]⟩, ⟨⟨2, 40000⟩, [playRequest]⟩] {}).trace = trace
  have hlast : trace.take 6 = trace.take 5 ++ [.critical .play ⟨true, true, true, ⟨1, 5000⟩⟩] := by
    rw [← htrace]
    decide
  have hstate : stateAfter (trace.take 6) = ⟨true, true, true, ⟨1, 5000⟩⟩ := by
    rw [← htrace]
    decide
  refine ⟨trace.take 6, trace.drop 6, (List.take_append_drop 6 trace).symm, hstate, fun h => ?_⟩
  have hnone : negotiated (trace.take 5) = none := by
    rw [← htrace]
    decide
  obtain ⟨-, a, after, b, peer, addr, hab, hb, hn, -⟩ := h (by rw [hstate])
  rw [hlast] at hab
  rcases concat_eq_append_cons hab with ⟨-, -, rfl⟩ | ⟨c, rfl, -⟩
  · simp [hnone] at hn
  · have := hb (.critical .play ⟨true, true, true, ⟨1, 5000⟩⟩) (by simp)
    simp [isPlay] at this

end LittleCore

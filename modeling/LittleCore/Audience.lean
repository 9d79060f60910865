import LittleCore.Rtsp.Framing
import LittleCore.Rtsp.Ownership
import LittleCore.Targets

/-!
# Who is sent packets

The control thread and the sender thread are modelled apart: the accept loop turns what clients send
into critical sections, and a run of a sender loop meets critical sections at places that its
environment chooses. Here the two are one program. The critical sections of the run are, in order,
those that the accept loop has got to, and nothing is said of where they fall.

So a packet can be followed back to the requests. Its target was looked at while a connection was
open on which `PLAY` was the last request that counts, and it is the address of the last accepted
`SETUP`, whose text asked for that port on a connection of that host. This is as much as holds:
that it need not have been the same connection is the matter of `rtp_target_owned`.

## Main results

* `packets_requested` — both sender loops, against any connections and at any interleaving
-/

namespace LittleCore

open Library World

/-! ### The critical sections of both sides -/

/-- The critical sections that a run of a sender loop has met. -/
def criticals (trace : List Event) : List RtspStep :=
  trace.filterMap fun
    | .rtsp s _ => some s
    | _ => none

def ServerEvent.critical? : ServerEvent → Option RtspStep
  | critical s _ => some s
  | _ => none

/-- The address of an accepted `SETUP`. -/
def RtspStep.setup? : RtspStep → Option SockAddrIn
  | .setup addr => some addr
  | _ => none

namespace Connection

/-- What the requests of a connection lead to. -/
def requests (c : Connection) : List RtspStep :=
  (answered c.chunks).filterMap fun chunk => chunkStep c.peer chunk.text

/-- All that a connection leads to. -/
def steps (c : Connection) : List RtspStep := c.requests ++ [.disconnect]

/-- On this connection a `SETUP` was accepted for the address. -/
def Asks (c : Connection) (addr : SockAddrIn) : Prop :=
  addr.sinAddr = c.peer.sinAddr ∧ ∃ chunk ∈ answered c.chunks,
    (∃ r, parseRtspRequest (cstr chunk.text) = some r ∧ r.method = "SETUP".toList) ∧
      parseClientPort (cstr chunk.text) ≠ 0 ∧
      addr.sinPort = .ofNat (parseClientPort (cstr chunk.text))

end Connection

theorem criticals_append (l r : List Event) : criticals (l ++ r) = criticals l ++ criticals r :=
  List.filterMap_append

theorem criticals_mono {l r : List Event} (h : l <+: r) : criticals l <+: criticals r := by
  obtain ⟨t, rfl⟩ := h
  rw [criticals_append]
  exact List.prefix_append _ _

/-! #### The accept loop -/

theorem serveChunks_criticals (peer : SockAddrIn) (chunks : List Chunk) (w : ServerWorld) :
    (forEach (serveChunk peer) chunks w).2.trace.filterMap ServerEvent.critical?
      = w.trace.filterMap ServerEvent.critical?
        ++ (answered chunks).filterMap fun chunk => chunkStep peer chunk.text := by
  induction chunks generalizing w with
  | nil => simp [answered]
  | cons chunk chunks ih =>
    have hone : (serveChunk peer chunk w).2.trace.filterMap ServerEvent.critical?
        = w.trace.filterMap ServerEvent.critical? ++ (chunkStep peer chunk.text).toList := by
      rw [serveChunk_eq]
      cases chunkStep peer chunk.text <;>
        simp [ServerWorld.respond, ServerWorld.emit, ServerWorld.critical, ServerEvent.critical?,
          List.filterMap_cons]
    have hends : (serveChunk peer chunk w).1 = !isTeardown chunk.text := by rw [serveChunk_eq]
    rw [answered]
    cases hteardown : isTeardown chunk.text with
    | true =>
      rw [forEach_cons_of_fail (by rw [hends, hteardown]; rfl), hone, if_pos rfl]
      cases h : chunkStep peer chunk.text <;> simp [h]
    | false =>
      rw [forEach_cons_of_ok (by rw [hends, hteardown]; rfl), ih, hone, if_neg Bool.false_ne_true]
      cases h : chunkStep peer chunk.text <;> simp [h]

/-- **What the accept loop gets to**, connection by connection. -/
theorem acceptLoop_criticals (connections : List Connection) :
    (acceptLoop connections {}).trace.filterMap ServerEvent.critical?
      = connections.flatMap Connection.steps := by
  induction connections using List.reverseRecOn with
  | nil => rfl
  | append_singleton connections c ih =>
    rw [acceptLoop, List.foldl_concat, ← acceptLoop, serveConnection, handleRtspClient,
      List.flatMap_append, List.flatMap_singleton, ← ih]
    simp only [ServerWorld.critical, List.filterMap_append, serveChunks_criticals]
    simp [ServerWorld.emit, ServerEvent.critical?, Connection.steps, Connection.requests]

/-! #### The sender -/

/-- The shared state behind some critical sections. -/
def rtspAfter (steps : List RtspStep) : RtspState := steps.foldl RtspState.apply {}

theorem rtspAfter_concat (steps : List RtspStep) (s : RtspStep) :
    rtspAfter (steps ++ [s]) = (rtspAfter steps).apply s := by
  rw [rtspAfter, rtspAfter, List.foldl_concat]

/-- The sender itself only clears the request for parameter sets. -/
theorem rtspAt_eq (trace : List Event) : ∃ need,
    rtspAt trace = { rtspAfter (criticals trace) with gNeedParameterSets := need } := by
  induction trace using List.reverseRecOn with
  | nil => exact ⟨false, rfl⟩
  | append_singleton trace e ih =>
    obtain ⟨need, hneed⟩ := ih
    rw [rtspAt_concat, criticals_append, hneed]
    cases e with
    | rtsp s after =>
      rw [show criticals [.rtsp s after] = [s] from rfl, rtspAfter_concat]
      rcases s <;> exact ⟨_, rfl⟩
    | _ =>
      rw [show criticals [_] = [] from rfl, List.append_nil]
      exact ⟨_, rfl⟩

/-- **While something may be sent**, `PLAY` came last, and the address is the last that was set
up. -/
theorem last_of_canSend {steps : List RtspStep} (h : (rtspAfter steps).canSend = true) :
    steps.getLast? = some .play ∧
      lastValue RtspStep.setup? steps = some (rtspAfter steps).gClientAddr := by
  have haddr : ∀ l : List RtspStep, (rtspAfter l).gClientAddrSet = true →
      lastValue RtspStep.setup? l = some (rtspAfter l).gClientAddr := by
    intro l
    induction l using List.reverseRecOn with
    | nil => intro hset; cases hset
    | append_singleton l s ih =>
      rw [rtspAfter_concat, lastValue_concat]
      cases s with
      | setup addr => exact fun _ => rfl
      | play | teardown | disconnect => exact ih
  obtain ⟨hplay, hset⟩ := Bool.and_eq_true_iff.mp h
  refine ⟨?_, haddr steps hset⟩
  induction steps using List.reverseRecOn with
  | nil => cases hplay
  | append_singleton l s _ =>
    rw [rtspAfter_concat] at hplay
    rw [List.getLast?_concat]
    cases s with
    | play => rfl
    | setup | teardown | disconnect => cases hplay

/-! ### Back to the requests -/

theorem setup_of_chunkStep {peer addr : SockAddrIn} {text : List Char}
    (h : chunkStep peer text = some (.setup addr)) :
    (∃ r, parseRtspRequest (cstr text) = some r ∧ r.method = "SETUP".toList) ∧
      parseClientPort (cstr text) ≠ 0 ∧
      addr = { peer with sinPort := .ofNat (parseClientPort (cstr text)) } := by
  rw [chunkStep, Option.bind_eq_some_iff] at h
  obtain ⟨r, hr, h⟩ := h
  split_ifs at h with hsetup hport
  · rw [Option.some.injEq, RtspStep.setup.injEq] at h
    exact ⟨⟨r, hr, hsetup⟩, hport, h.symm⟩
  · cases h
  · cases h

theorem Connection.asks_of_mem {c : Connection} {addr : SockAddrIn}
    (h : RtspStep.setup addr ∈ c.steps) : c.Asks addr := by
  rw [steps, List.mem_append] at h
  rcases h with h | h
  · obtain ⟨chunk, hchunk, hstep⟩ := List.mem_filterMap.mp h
    obtain ⟨hmethod, hport, rfl⟩ := setup_of_chunkStep hstep
    exact ⟨rfl, chunk, hchunk, hmethod, hport, rfl⟩
  · cases List.mem_singleton.mp h

/-- When the control thread had taken `steps`, the stream had been asked for: connection `c` was
open and had said `PLAY`, and the last `SETUP` was `o`'s. If `c` has set up anything itself, it is
`c`. -/
def Requested (connections : List Connection) (steps : List RtspStep) (dest : SockAddrIn) : Prop :=
  ∃ before c after part, connections = before ++ c :: after ∧
    steps = before.flatMap Connection.steps ++ part ∧ part <+: c.requests ∧
    part.getLast? = some .play ∧
    lastValue RtspStep.setup? steps = some dest ∧
    ((∃ addr, RtspStep.setup addr ∈ part) → c.Asks dest) ∧ ∃ o ∈ before ++ [c], o.Asks dest

theorem setup_mem_of_lastValue {l : List RtspStep} {addr : SockAddrIn}
    (h : lastValue RtspStep.setup? l = some addr) : RtspStep.setup addr ∈ l := by
  obtain ⟨s, hs, haddr⟩ := List.mem_filterMap.mp (List.mem_of_getLast? h)
  cases s with
  | setup addr' => rwa [← Option.some.inj haddr]
  | play | teardown | disconnect => cases haddr

/-- **The control thread's side.** -/
theorem requested_of_canSend {connections : List Connection} {steps : List RtspStep}
    (hsteps : steps <+: connections.flatMap Connection.steps)
    (h : (rtspAfter steps).canSend = true) :
    Requested connections steps (rtspAfter steps).gClientAddr := by
  obtain ⟨hplay, haddr⟩ := last_of_canSend h
  have hne : steps ≠ [] := by
    rintro rfl
    cases hplay
  have hend : steps.getLast? ≠ some .disconnect := by
    rw [hplay]
    simp
  obtain ⟨before, c, after, part, rfl, rfl, hpart, hpartne⟩ :=
    exists_part_of_flatMap hsteps hne hend
  refine ⟨before, c, after, part, rfl, rfl, hpart, ?_, haddr, ?_, ?_⟩
  · rwa [List.getLast?_append_of_ne_nil _ hpartne] at hplay
  · rintro ⟨addr, hmem⟩
    -- The last `SETUP` of all is then one of `c`.
    rw [lastValue_append] at haddr
    cases hown : lastValue RtspStep.setup? part with
    | none =>
      have hnone := List.filterMap_eq_nil_iff.mp (List.getLast?_eq_none_iff.mp hown) _ hmem
      cases hnone
    | some own =>
      rw [hown, Option.some_or, Option.some.injEq] at haddr
      rw [← haddr]
      exact Connection.asks_of_mem
        (List.mem_append_left _ (hpart.subset (setup_mem_of_lastValue hown)))
  · rcases List.mem_append.mp (setup_mem_of_lastValue haddr) with hmem | hmem
    · obtain ⟨o, ho, hmem⟩ := List.mem_flatMap.mp hmem
      exact ⟨o, List.mem_append_left _ ho, Connection.asks_of_mem hmem⟩
    · exact ⟨c, List.mem_append_right _ (List.mem_singleton_self c),
        Connection.asks_of_mem (List.mem_append_left _ (hpart.subset hmem))⟩

/-- **The sender's side.** A packet goes where the look of its round found a client playing. -/
theorem requested_of_followsTarget {connections : List Connection} {look done : ℕ → World}
    (h : FollowsTarget look done) {k : ℕ} (htraced : (look k).Traced)
    (hsteps : criticals (done (k + 1)).trace <+: connections.flatMap Connection.steps)
    {l : List Event} {dest : SockAddrIn} (hpacket : PacketAt done k l dest) :
    (look k).trace <+: l ∧ Requested connections (criticals (look k).trace) dest := by
  obtain ⟨hlook, hplay, hset, rfl⟩ := h.address k l dest hpacket
  obtain ⟨need, hneed⟩ := rtspAt_eq (look k).trace
  rw [htraced, hneed] at hplay hset ⊢
  refine ⟨hlook, requested_of_canSend ((criticals_mono (h.rounds k).2).trans hsteps) ?_⟩
  exact Bool.and_eq_true_iff.mpr ⟨hplay, hset⟩

/-- **Nobody is sent what was not asked for.** Let the accept loop serve any connections, and let
its critical sections fall anywhere between the steps of the sender. Then every packet that either
sender loop gives to `sendto` was asked for at the look of its round. -/
theorem packets_requested (env : Env) (connections : List Connection) (k : ℕ) :
    (∀ inputs : ℕ → Input, criticals (datafifoRun env inputs (k + 1)).trace
        <+: (acceptLoop connections {}).trace.filterMap ServerEvent.critical? →
      ∀ l dest, PacketAt (datafifoRun env inputs) k l dest →
        ((datafifoRun env inputs k).look env (inputs k)).trace <+: l ∧ Requested connections
          (criticals ((datafifoRun env inputs k).look env (inputs k)).trace) dest) ∧
    ∀ gNalus : List (List UInt8), criticals (fileRtpSenderLoop env gNalus (k + 1)).2.trace
        <+: (acceptLoop connections {}).trace.filterMap ServerEvent.critical? →
      ∀ l dest, PacketAt (fun k => (fileRtpSenderLoop env gNalus k).2) k l dest →
        (fileLook env gNalus k).trace <+: l ∧
          Requested connections (criticals (fileLook env gNalus k).trace) dest := by
  rw [acceptLoop_criticals]
  constructor
  · intro inputs hsteps l dest
    exact requested_of_followsTarget (followsTarget_datafifo env inputs)
      ((datafifoRun_traced env inputs k).look env _) hsteps
  · intro gNalus hsteps l dest
    exact requested_of_followsTarget (followsTarget_file env gNalus)
      ((fileRtpSenderLoop_traced env gNalus k).schedule env) hsteps

/-- A client that sets up and plays right before the first pass of the file loop. -/
def askedEnv : Env where
  control n := if n = 0 then [.setup ⟨7, 5000⟩, .play] else []

theorem packets_requested_sample :
    Requested [⟨⟨7, 40000⟩, [setupRequest, playRequest]⟩] [.setup ⟨7, 5000⟩, .play] ⟨7, 5000⟩ := by
  have hpacket : PacketAt (fun k => (fileRtpSenderLoop askedEnv [[0x40, 1]] k).2) 0
      ((fileRtpSenderLoop askedEnv [[0x40, 1]] 1).2.trace.take 2) ⟨7, 5000⟩ :=
    ⟨List.nil_prefix, [0x80, 0xe0, 0, 0, 0x12, 0x34, 0x56, 0x78, 0x22, 0x33, 0x44, 0x55, 0x40, 1],
      true, by decide +kernel⟩
  exact ((packets_requested askedEnv [⟨⟨7, 40000⟩, [setupRequest, playRequest]⟩] 0).2 [[0x40, 1]]
    (by decide +kernel) _ _ hpacket).2

end LittleCore

import LittleCore.Playback
import LittleCore.Rtp.Fragments

/-!
# Playback behind an open gate

Once the parameter sets are sent and the IDR has been found, and while no client asks for them
again, the gate of `datafifo_process_nalu_for_playback` lets everything through: each NALU of at
least two bytes is cached if it is a parameter set, and passed to `send_h265_nalu_rtp`.

`Forwards` says what that leaves behind, up to the walk over a buffer: the calls, and the packets
on the wire.

## Main results

* `GateOpen.processNalu_eq` — a NALU is passed on
* `GateOpen.processBuffer` — a buffer's NALUs of at least two bytes are forwarded
-/

namespace LittleCore

open Library

/-- The control thread asks for no parameter sets. -/
def Env.KeepsGate (env : Env) : Prop := ∀ n, ∀ s ∈ env.control n, s = .teardown ∨ s = .disconnect

/-- The gate is open: no parameter sets are asked for, and no IDR is waited for. -/
structure World.GateOpen (w : World) : Prop where
  needs : w.rtsp.gNeedParameterSets = false
  wait : w.waitForIdr = false

theorem needs_schedule {env : Env} (hkeeps : env.KeepsGate) {w : World}
    (h : w.rtsp.gNeedParameterSets = false) :
    (w.schedule env).rtsp.gNeedParameterSets = false := by
  have hfold : ∀ (l : List RtspStep), (∀ s ∈ l, s = .teardown ∨ s = .disconnect) → ∀ v : World,
      v.rtsp.gNeedParameterSets = false →
        (l.foldl World.rtspStep v).rtsp.gNeedParameterSets = false := by
    intro l
    induction l with
    | nil => exact fun _ v hv => hv
    | cons s l ih =>
      intro hl v hv
      refine ih (fun t ht => hl t (List.mem_cons_of_mem _ ht)) _ ?_
      rcases hl s (List.mem_cons_self ..) with rfl | rfl <;> exact hv
  exact hfold _ (hkeeps w.tick) _ h

theorem needs_sendH265NaluRtp {env : Env} (hkeeps : env.KeepsGate) {w : World}
    (h : w.rtsp.gNeedParameterSets = false) (dest : SockAddrIn) {nalu : List UInt8}
    (hlen : 2 ≤ nalu.length) (timestamp ssrc : UInt32) (marker : UInt8) :
    (sendH265NaluRtp env dest nalu timestamp ssrc marker w).2.rtsp.gNeedParameterSets = false := by
  rw [sendH265NaluRtp_eq env dest timestamp ssrc marker w hlen]
  refine forEach_inv (I := fun _ (v : World) => v.rtsp.gNeedParameterSets = false)
    (fun p _ v hv => ?_) h
  have hsched := needs_schedule hkeeps hv
  rw [sendPayload, sendRtpPacket]
  split
  · exact hv
  · split <;> rename_i heq <;> rw [sendto, Prod.mk.injEq] at heq <;> rw [← heq.2] <;> exact hsched

/-! ### Up to the send -/

/-- What happens to a NALU before it is passed on. -/
def Event.IsLeadUp : Event → Prop
  | .rtsp .. | .received _ | .cached .. | .copyFailed _ | .needs _ => True
  | _ => False

/-- Steps that neither pass a NALU on nor send anything. -/
structure World.LeadsUp (w w' : World) : Prop where
  grows : Grows Event.IsLeadUp w.trace w'.trace
  seq : w'.seq = w.seq
  wait : w'.waitForIdr = w.waitForIdr

namespace World.LeadsUp

variable {w w' w'' : World}

theorem refl (w : World) : LeadsUp w w := ⟨Grows.refl _ _, rfl, rfl⟩

theorem trans (h₁ : LeadsUp w w') (h₂ : LeadsUp w' w'') : LeadsUp w w'' :=
  ⟨h₁.grows.trans h₂.grows, h₂.seq.trans h₁.seq, h₂.wait.trans h₁.wait⟩

theorem emit (e : Event) (h : e.IsLeadUp) (w : World) : LeadsUp w (w.emit e) :=
  ⟨Grows.single h _, rfl, rfl⟩

theorem schedule (env : Env) (w : World) : LeadsUp w (w.schedule env) := by
  obtain ⟨hgrows, hframe⟩ := schedule_spec env w
  exact ⟨hgrows.mono fun e he => by cases e <;> trivial, by rw [hframe], by rw [hframe]⟩

theorem wirePackets_eq (h : LeadsUp w w') : wirePackets w'.trace = wirePackets w.trace :=
  h.grows.filterMap_eq fun e he => by cases e <;> first | rfl | exact he.elim

end World.LeadsUp

theorem h265CacheParameterSet_leadsUp (env : Env) (nalu : List UInt8) (w : World) :
    (h265CacheParameterSet env nalu w).rtsp = w.rtsp ∧
      World.LeadsUp w (h265CacheParameterSet env nalu w) := by
  have htick : World.LeadsUp w { w with tick := w.tick + 1 } := ⟨Grows.refl _ _, rfl, rfl⟩
  rw [h265CacheParameterSet]
  split
  · exact ⟨rfl, .refl w⟩
  · split
    · exact ⟨rfl, .refl w⟩
    · rename_i kind _
      split
      · exact ⟨rfl, .refl w⟩
      · split
        · exact ⟨rfl, .refl w⟩
        · have hset : ∀ v : World, (v.setCache nalu kind).rtsp = v.rtsp ∧
              World.LeadsUp v (v.setCache nalu kind) := by
            rcases kind <;> exact fun v => ⟨rfl, Grows.refl _ _, rfl, rfl⟩
          dsimp only
          split
          · exact ⟨(hset _).1, (htick.trans (hset _).2).trans (.emit (.cached ..) trivial _)⟩
          · exact ⟨rfl, htick.trans (.emit (.copyFailed _) trivial _)⟩

/-- **A NALU is passed on**, and before that nothing is sent. -/
theorem World.GateOpen.processNalu_eq {env : Env} {w : World} (h : w.GateOpen)
    (hkeeps : env.KeepsGate) (dest : SockAddrIn) {nalu : List UInt8} (hlen : 2 ≤ nalu.length)
    (timestamp ssrc : UInt32) (marker : UInt8) : ∃ u : World, u.GateOpen ∧ LeadsUp w u ∧
      datafifoProcessNaluForPlayback env dest timestamp ssrc true nalu marker w
        = sendNaluForPlayback env dest nalu timestamp ssrc marker u := by
  obtain ⟨hrtsp, hcache⟩ := h265CacheParameterSet_leadsUp env nalu (w.emit (.received nalu))
  rw [datafifoProcessNaluForPlayback_eq env dest timestamp ssrc true hlen, if_pos rfl]
  generalize h265CacheParameterSet env nalu (w.emit (.received nalu)) = v at hrtsp hcache
  have hneeds : (v.schedule env).rtsp.gNeedParameterSets = false :=
    needs_schedule hkeeps (by rw [hrtsp]; exact h.needs)
  have hlead : LeadsUp w ((v.schedule env).emit (.needs false)) :=
    (((LeadsUp.emit (.received nalu) trivial w).trans hcache).trans (.schedule env v)).trans
      (.emit (.needs _) trivial _)
  have hwait : (v.schedule env).waitForIdr = false := hlead.wait.trans h.wait
  refine ⟨(v.schedule env).emit (.needs false), ⟨hneeds, hwait⟩, hlead, ?_⟩
  rw [judgeNalu, rtspSessionNeedsParameterSets]
  dsimp only
  rw [hneeds]
  dsimp only
  rw [passIdrGate, if_neg]
  rw [World.emit, hwait]
  decide

/-! ### The send -/

/-- A call of `send_h265_nalu_rtp` and whether it returned 0. The cached parameter sets are left
out. -/
def Event.naluCall? : Event → Option (List UInt8 × Bool)
  | .nalu _ bytes ok => some (bytes, ok)
  | _ => none

def naluCalls (w : World) : List (List UInt8 × Bool) := w.trace.filterMap Event.naluCall?

/-- NALUs and their markers were sent, and the gate is still open. -/
structure World.Forwards (dest : SockAddrIn) (timestamp ssrc : UInt32)
    (nalus : List (List UInt8 × UInt8)) (w w' : World) : Prop where
  gate : w'.GateOpen
  calls : naluCalls w' = naluCalls w ++ nalus.map fun p => (p.1, true)
  puts : Puts dest timestamp ssrc (nalus.flatMap fun p => payloads p.1 p.2) w w'

namespace World.Forwards

variable {env : Env} {dest : SockAddrIn} {timestamp ssrc : UInt32}
  {l r : List (List UInt8 × UInt8)} {w w' w'' : World}

/-- Steps that pass nothing on. -/
theorem of_eq (hgate : w'.GateOpen) (hcalls : naluCalls w' = naluCalls w)
    (hpackets : wirePackets w'.trace = wirePackets w.trace) (hseq : w'.seq = w.seq) :
    Forwards dest timestamp ssrc [] w w' :=
  ⟨hgate, by rw [hcalls]; exact (List.append_nil _).symm, .of_eq hpackets hseq⟩

theorem trans (h₁ : Forwards dest timestamp ssrc l w w')
    (h₂ : Forwards dest timestamp ssrc r w' w'') : Forwards dest timestamp ssrc (l ++ r) w w'' := by
  refine ⟨h₂.gate, ?_, ?_⟩
  · rw [h₂.calls, h₁.calls, List.map_append, List.append_assoc]
  · rw [List.flatMap_append]
    exact h₁.puts.trans h₂.puts

end World.Forwards

/-- A call that goes well. -/
theorem sendNaluForPlayback_calls {env : Env} (hsend : ∀ n, env.sendto n = true)
    (dest : SockAddrIn) {nalu : List UInt8} (hlen : 2 ≤ nalu.length) (timestamp ssrc : UInt32)
    (marker : UInt8) (w : World) :
    (sendNaluForPlayback env dest nalu timestamp ssrc marker w).1 = true ∧
      naluCalls (sendNaluForPlayback env dest nalu timestamp ssrc marker w).2
        = naluCalls w ++ [(nalu, true)] ∧
      World.Puts dest timestamp ssrc (payloads nalu marker) w
        (sendNaluForPlayback env dest nalu timestamp ssrc marker w).2 := by
  obtain ⟨hok, hputs⟩ := sendH265NaluRtp_puts hsend dest hlen timestamp ssrc marker w
  have hwire : naluCalls (sendH265NaluRtp env dest nalu timestamp ssrc marker w).2
      = naluCalls w := by
    refine (sendH265NaluRtp_sends ..).grows.filterMap_eq ?_
    intro e he
    cases e <;> first | rfl | exact he.elim
  refine ⟨hok, ?_, ?_, hputs.seq⟩
  · rw [sendNaluForPlayback, hok, ← hwire]
    exact List.filterMap_append ..
  · rw [← hputs.packets]
    exact List.filterMap_append.trans (List.append_nil _)

namespace World.GateOpen

variable {env : Env} {w : World}

theorem sendNalu (h : w.GateOpen) (hkeeps : env.KeepsGate) (hsend : ∀ n, env.sendto n = true)
    (dest : SockAddrIn) {nalu : List UInt8} (hlen : 2 ≤ nalu.length) (timestamp ssrc : UInt32)
    (marker : UInt8) :
    (sendNaluForPlayback env dest nalu timestamp ssrc marker w).1 = true ∧
      Forwards dest timestamp ssrc [(nalu, marker)] w
        (sendNaluForPlayback env dest nalu timestamp ssrc marker w).2 := by
  obtain ⟨hok, hcalls, hputs⟩ :=
    sendNaluForPlayback_calls hsend dest hlen timestamp ssrc marker w
  have hframe := (sendH265NaluRtp_sends env dest nalu timestamp ssrc marker w).frame
  refine ⟨hok, ⟨?_, ?_⟩, hcalls, by rwa [List.flatMap_singleton]⟩
  · exact needs_sendH265NaluRtp hkeeps h.needs dest hlen timestamp ssrc marker
  · exact (congrArg World.waitForIdr hframe).trans h.wait

/-- Behind an open gate a NALU of at least two bytes is forwarded, and a shorter one is skipped. -/
theorem processNalu (h : w.GateOpen) (hkeeps : env.KeepsGate)
    (hsend : ∀ n, env.sendto n = true) (dest : SockAddrIn) (nalu : List UInt8)
    (timestamp ssrc : UInt32) (marker : UInt8) :
    (datafifoProcessNaluForPlayback env dest timestamp ssrc true nalu marker w).1 = true ∧
      Forwards dest timestamp ssrc ([(nalu, marker)].filter (2 ≤ ·.1.length)) w
        (datafifoProcessNaluForPlayback env dest timestamp ssrc true nalu marker w).2 := by
  by_cases hlen : 2 ≤ nalu.length
  · obtain ⟨u, hopen, hlead, heq⟩ := h.processNalu_eq hkeeps dest hlen timestamp ssrc marker
    obtain ⟨hok, hsent⟩ := hopen.sendNalu hkeeps hsend dest hlen timestamp ssrc marker
    have hcalls : naluCalls u = naluCalls w := hlead.grows.filterMap_eq fun e he => by
      cases e <;> first | rfl | exact he.elim
    rw [heq, List.filter_cons_of_pos (by simpa using hlen)]
    exact ⟨hok, (Forwards.of_eq hopen hcalls hlead.wirePackets_eq hlead.seq).trans hsent⟩
  · rw [datafifoProcessNaluForPlayback, if_pos (by omega),
      List.filter_cons_of_neg (by simpa using hlen)]
    exact ⟨rfl, .of_eq h rfl rfl rfl⟩

/-- **A buffer** is forwarded NALU by NALU. -/
theorem processBuffer (h : w.GateOpen) (hkeeps : env.KeepsGate)
    (hsend : ∀ n, env.sendto n = true) (dest : SockAddrIn) (buf : List UInt8)
    (timestamp ssrc : UInt32) (marker : UInt8) :
    (datafifoProcessH265BufferForPlayback env dest buf timestamp ssrc marker true w).1 = true ∧
      Forwards dest timestamp ssrc ((playbackNalus buf marker).filter (2 ≤ ·.1.length)) w
        (datafifoProcessH265BufferForPlayback env dest buf timestamp ssrc marker true w).2 := by
  have hfilter : (playbackNalus buf marker).filter (2 ≤ ·.1.length)
      = (playbackNalus buf marker).flatMap fun p => [p].filter (2 ≤ ·.1.length) := by
    rw [← List.filter_flatMap, List.flatMap_singleton']
  rw [hfilter]
  obtain ⟨hok, -, hforwards⟩ := forEach_collects (I := GateOpen)
    (R := Forwards dest timestamp ssrc) (fun v hv => .of_eq hv rfl rfl rfl) .trans
    (l := playbackNalus buf marker) (fun p _ v hv => by
      obtain ⟨hok, hforwards⟩ := hv.processNalu hkeeps hsend dest p.1 timestamp ssrc p.2
      exact ⟨hok, hforwards.gate, hforwards⟩) h
  exact ⟨hok, hforwards⟩

end World.GateOpen

end LittleCore

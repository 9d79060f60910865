import LittleCore.FileSender
import LittleCore.Rounds
import LittleCore.Rtp.RoundTrip

/-!
# The packets on the wire

What a receiver sees of a sender loop: packets with the numbers 0, 1, 2 and so on, whichever calls
of `sendto` fail, since a number is used up only by a packet that got out. In the DATAFIFO mode all
packets of one message have the timestamp that the messages handled before have led to.

## Main results

* `parseRtpHeader_buildRtpHeader` — the header is read back
* `wire_trace` — the packets of both sender loops
-/

namespace LittleCore

open Library World

/-! ### The header -/

/-- The fields of an RTP header without extension and contributing sources. -/
structure RtpHeader where
  version : UInt8
  payloadType : UInt8
  marker : Bool
  seq : UInt16
  timestamp : UInt32
  ssrc : UInt32
deriving DecidableEq

/-- The number in network byte order. -/
def bigEndian (bytes : List UInt8) : ℕ := bytes.foldl (fun n b => 256 * n + b.toNat) 0

/-- Reads the twelve bytes of the fixed header. -/
def parseRtpHeader : List UInt8 → Option RtpHeader
  | b₀ :: b₁ :: b₂ :: b₃ :: b₄ :: b₅ :: b₆ :: b₇ :: b₈ :: b₉ :: b₁₀ :: b₁₁ :: _ =>
    some {
      version := b₀ >>> 6
      payloadType := b₁ &&& 0x7f
      marker := b₁ &&& 0x80 != 0
      seq := .ofNat (bigEndian [b₂, b₃])
      timestamp := .ofNat (bigEndian [b₄, b₅, b₆, b₇])
      ssrc := .ofNat (bigEndian [b₈, b₉, b₁₀, b₁₁]) }
  | _ => none

theorem bigEndian_uint16 (n : UInt16) :
    bigEndian [((n >>> 8) &&& 0xff).toUInt8, (n &&& 0xff).toUInt8] = n.toNat := by
  have hmask : ∀ m : ℕ, m &&& 255 = m % 256 := fun m => Nat.and_two_pow_sub_one_eq_mod m 8
  have hlt := n.toNat_lt
  simp only [bigEndian, UInt16.toUInt8_and, UInt16.toUInt8_ofNat, List.foldl_cons, Nat.mul_zero,
    UInt8.toNat_and, UInt16.toNat_toUInt8, UInt16.toNat_shiftRight, UInt16.reduceToNat,
    Nat.reduceMod, Nat.shiftRight_eq_div_pow, Nat.reducePow, UInt8.reduceToNat, Nat.zero_add,
    List.foldl_nil]
  rw [hmask, hmask]
  omega

theorem bigEndian_uint32 (n : UInt32) :
    bigEndian [((n >>> 24) &&& 0xff).toUInt8, ((n >>> 16) &&& 0xff).toUInt8,
      ((n >>> 8) &&& 0xff).toUInt8, (n &&& 0xff).toUInt8] = n.toNat := by
  have hmask : ∀ m : ℕ, m &&& 255 = m % 256 := fun m => Nat.and_two_pow_sub_one_eq_mod m 8
  have hlt := n.toNat_lt
  simp only [bigEndian, UInt32.toUInt8_and, UInt32.toUInt8_ofNat, List.foldl_cons, Nat.mul_zero,
    UInt8.toNat_and, UInt32.toNat_toUInt8, UInt32.toNat_shiftRight, UInt32.reduceToNat,
    Nat.reduceMod, Nat.shiftRight_eq_div_pow, Nat.reducePow, UInt8.reduceToNat, Nat.zero_add,
    List.foldl_nil]
  rw [hmask, hmask, hmask, hmask]
  omega

/-- **The header is read back.** -/
theorem parseRtpHeader_buildRtpHeader (seq : UInt16) (timestamp ssrc : UInt32) (marker : UInt8)
    (payload : List UInt8) : parseRtpHeader (buildRtpHeader seq timestamp ssrc marker ++ payload)
      = some ⟨2, 96, marker != 0, seq, timestamp, ssrc⟩ := by
  have hmarker : ((if marker ≠ 0 then 0x80 else 0x00) ||| (rtpPayloadType &&& 0x7f)) &&& 0x7f
      = (96 : UInt8) ∧ (((if marker ≠ 0 then 0x80 else 0x00) ||| (rtpPayloadType &&& 0x7f)) &&&
        (0x80 : UInt8) != 0) = (marker != 0) := by
    by_cases h : marker = 0
    · rw [h]
      decide
    · rw [if_pos h, bne_iff_ne.mpr h]
      decide
  simp only [buildRtpHeader, List.cons_append, List.nil_append, parseRtpHeader,
    bigEndian_uint16, bigEndian_uint32, UInt16.ofNat_toNat, UInt32.ofNat_toNat, hmarker.1,
    hmarker.2]
  rfl

/-! ### Packets in order -/

/-- A packet without its number, and whether `sendto` took it. -/
structure WirePacket where
  timestamp : UInt32
  marker : UInt8
  payload : List UInt8
  sent : Bool

/-- The packets given to `sendto`, each with whether it took it. -/
def attempts (trace : List Event) : List (List UInt8 × Bool) :=
  trace.filterMap fun
    | .sendto _ packet ok => some (packet, ok)
    | _ => none

/-- The packets with the numbers from `seq` on. Only a packet that is sent uses its number up. -/
def numbered : UInt16 → List WirePacket → List (List UInt8 × Bool)
  | _, [] => []
  | seq, p :: ps =>
    (buildRtpHeader seq p.timestamp rtpSsrc p.marker ++ p.payload, p.sent) ::
      numbered (if p.sent then seq + 1 else seq) ps

/-- The number behind `l`. -/
def numberBehind (seq : UInt16) (l : List WirePacket) : UInt16 := seq + .ofNat (l.countP (·.sent))

theorem numberBehind_cons (seq : UInt16) (p : WirePacket) (ps : List WirePacket) :
    numberBehind seq (p :: ps) = numberBehind (if p.sent then seq + 1 else seq) ps := by
  rw [numberBehind, numberBehind, List.countP_cons]
  cases p.sent
  · rfl
  · rw [if_pos rfl, if_pos rfl, Nat.add_comm, UInt16.ofNat_add, UInt16.add_assoc]
    rfl

theorem numberBehind_append (seq : UInt16) (l r : List WirePacket) :
    numberBehind seq (l ++ r) = numberBehind (numberBehind seq l) r := by
  rw [numberBehind, numberBehind, numberBehind, List.countP_append, UInt16.ofNat_add,
    UInt16.add_assoc]

theorem numbered_append (seq : UInt16) (l r : List WirePacket) :
    numbered seq (l ++ r) = numbered seq l ++ numbered (numberBehind seq l) r := by
  induction l generalizing seq with
  | nil => simp [numbered, numberBehind]
  | cons p ps ih => rw [List.cons_append, numbered, numbered, ih, numberBehind_cons]; rfl

/-- What a receiver reads off a packet: it belongs to the stream, and this is its number. -/
def HasNumber (n : ℕ) (packet : List UInt8) : Prop :=
  ∃ h, parseRtpHeader packet = some h ∧ h.version = 2 ∧ h.payloadType = 96 ∧ h.ssrc = 0x22334455 ∧
    h.seq.toNat = n % 2 ^ 16

/-- Every packet has the number of packets sent before it. -/
def InSequence (l : List (List UInt8 × Bool)) : Prop :=
  ∀ before packet sent after, l = before ++ (packet, sent) :: after →
    HasNumber (before.countP (·.2)) packet

theorem parse_of_numbered {ps : List WirePacket} {seq : UInt16}
    {before after : List (List UInt8 × Bool)} {packet : List UInt8} {sent : Bool}
    (h : numbered seq ps = before ++ (packet, sent) :: after) : ∃ p ∈ ps,
      parseRtpHeader packet = some ⟨2, 96, p.marker != 0,
        seq + .ofNat (before.countP (·.2)), p.timestamp, rtpSsrc⟩ := by
  induction ps generalizing seq before with
  | nil => simp [numbered] at h
  | cons p ps ih =>
    rw [numbered] at h
    rcases before with _ | ⟨b, before⟩
    · rw [List.nil_append, List.cons.injEq, Prod.mk.injEq] at h
      refine ⟨p, List.mem_cons_self .., ?_⟩
      rw [← h.1.1, parseRtpHeader_buildRtpHeader]
      simp
    · rw [List.cons_append, List.cons.injEq] at h
      obtain ⟨p', hp', hparse⟩ := ih h.2
      refine ⟨p', List.mem_cons_of_mem _ hp', ?_⟩
      rw [hparse, ← h.1, List.countP_cons]
      cases p.sent
      · rfl
      · rw [if_pos rfl, if_pos rfl, Nat.add_comm, UInt16.ofNat_add, UInt16.add_assoc]
        rfl

theorem inSequence_numbered (ps : List WirePacket) : InSequence (numbered 0 ps) := by
  intro before packet sent after h
  obtain ⟨p, -, hparse⟩ := parse_of_numbered h
  exact ⟨_, hparse, rfl, rfl, rfl, by simp⟩

/-- Between the two worlds packets out of `P` were given to `sendto`, with the numbers that
follow. -/
def World.Numbers (P : WirePacket → Prop) (w w' : World) : Prop :=
  ∃ ps : List WirePacket, (∀ p ∈ ps, P p) ∧
    attempts w'.trace = attempts w.trace ++ numbered w.seq ps ∧ w'.seq = numberBehind w.seq ps

namespace World.Numbers

variable {P Q : WirePacket → Prop} {w w' w'' : World}

theorem of_eq (hattempts : attempts w'.trace = attempts w.trace) (hseq : w'.seq = w.seq) :
    Numbers P w w' :=
  ⟨[], by simp, by rw [hattempts]; exact (List.append_nil _).symm, by simp [hseq, numberBehind]⟩

theorem trans (h₁ : Numbers P w w') (h₂ : Numbers P w' w'') : Numbers P w w'' := by
  obtain ⟨l, hl, hattempts, hseq⟩ := h₁
  obtain ⟨r, hr, hattempts', hseq'⟩ := h₂
  refine ⟨l ++ r, fun p hp => ?_, ?_, ?_⟩
  · exact (List.mem_append.mp hp).elim (hl p) (hr p)
  · rw [hattempts', hattempts, hseq, numbered_append, List.append_assoc]
  · rw [hseq', hseq, numberBehind_append]

theorem mono (h : Numbers P w w') (hPQ : ∀ p, P p → Q p) : Numbers Q w w' := by
  obtain ⟨ps, hps, hattempts, hseq⟩ := h
  exact ⟨ps, fun p hp => hPQ p (hps p hp), hattempts, hseq⟩

/-- What grows a trace without `sendto` events sends nothing. -/
theorem of_grows {R : Event → Prop} (hR : ∀ dest packet ok, ¬ R (.sendto dest packet ok))
    (hgrows : Grows R w.trace w'.trace) (hseq : w'.seq = w.seq) : Numbers P w w' := by
  refine of_eq (hgrows.filterMap_eq fun e he => ?_) hseq
  rcases e <;> first | rfl | exact absurd he (hR _ _ _)

theorem of_silent (h : Silent w w') : Numbers P w w' :=
  of_grows (fun _ _ _ => id) h.grows (by rw [h.frame])

theorem of_snapshots (h : Snapshots w w') : Numbers P w w' :=
  of_grows (fun _ _ _ => id) h.grows (by rw [h.frame])

end World.Numbers

/-- A packet that is not sent leaves its number to the next one. -/
theorem sendRtpPacket_numbers (env : Env) (dest : SockAddrIn) (timestamp : UInt32)
    (payload : List UInt8) (marker : UInt8) (w : World) :
    Numbers (·.timestamp = timestamp) w
      (sendRtpPacket env dest timestamp rtpSsrc payload marker w).2 := by
  have hseq := seq_schedule env w
  have hattempts : ∀ packet ok, attempts ((w.schedule env).emit (.sendto dest packet ok)).trace
      = attempts w.trace ++ [(packet, ok)] := by
    intro packet ok
    have hsched : attempts (w.schedule env).trace = attempts w.trace :=
      (Silent.schedule env w).grows.filterMap_eq fun e he => by
        rcases e <;> first | rfl | exact he.elim
    rw [← hsched, World.emit, attempts, List.filterMap_append]
    rfl
  rw [sendRtpPacket, sendto]
  split
  · exact .of_eq rfl rfl
  · cases env.sendto w.tick with
    | false => exact ⟨[⟨timestamp, marker, payload, false⟩], by simp, hattempts .., by
        simpa [numberBehind, World.emit] using hseq⟩
    | true => exact ⟨[⟨timestamp, marker, payload, true⟩], by simp, hattempts .., by
        simpa [numberBehind, World.emit] using hseq⟩

theorem sendH265NaluRtp_numbers (env : Env) (dest : SockAddrIn) (timestamp : UInt32)
    (nalu : List UInt8) (marker : UInt8) (w : World) :
    Numbers (·.timestamp = timestamp) w
      (sendH265NaluRtp env dest nalu timestamp rtpSsrc marker w).2 := by
  by_cases hlen : 2 ≤ nalu.length
  · rw [sendH265NaluRtp_eq env dest timestamp rtpSsrc marker w hlen]
    exact forEach_induct (fun v => .of_eq rfl rfl) .trans
      (fun p _ v => sendRtpPacket_numbers env dest timestamp p.1 p.2 v) w
  · rw [sendH265NaluRtp, if_pos (by omega)]
    exact .of_eq rfl rfl

/-! ### The loops -/

theorem playbackPacks_numbers (env : Env) (dest : SockAddrIn) (canSend : Bool)
    (msg : MppNaluIpcMsg) (w : World) :
    Numbers (·.timestamp = w.timestamp) w (playbackPacks env dest canSend msg w).2 := by
  have hrule : PlaybackRule env dest w.timestamp (Numbers (·.timestamp = w.timestamp)) :=
    ⟨.trans, fun nalu marker v => sendH265NaluRtp_numbers env dest _ nalu marker v, .of_silent⟩
  exact hrule.playbackPacks canSend msg

theorem processMessage_numbers (env : Env) (msg : MppNaluIpcMsg) (dest : SockAddrIn)
    (canSend needParameterSets : Bool) (w : World) : Numbers (·.timestamp = w.timestamp) w
      (processMessage env msg dest canSend needParameterSets w) := by
  have hsnap : Snapshots w (if msg.flagged then
      datafifoSnapshotProcess env msg w else (true, w)).2 := by
    split
    · exact datafifoSnapshotProcess_snapshots env msg w
    · exact .refl w
  have htime : (if msg.flagged then datafifoSnapshotProcess env msg w else (true, w)).2.timestamp
      = w.timestamp := by rw [hsnap.frame]
  have hpacks := (Numbers.of_snapshots hsnap).trans (htime ▸ playbackPacks_numbers env dest canSend
    msg (if msg.flagged then datafifoSnapshotProcess env msg w else (true, w)).2)
  rw [processMessage]
  dsimp only
  generalize playbackPacks env dest canSend msg _ = packs at hpacks
  have hstats : ∀ (v : World) lastSeq frameCount force,
      attempts (logDatafifoStats msg lastSeq frameCount force v).trace = attempts v.trace ∧
        (logDatafifoStats msg lastSeq frameCount force v).seq = v.seq := by
    intro v lastSeq frameCount force
    exact ⟨by simp [attempts, logDatafifoStats, World.emit], rfl⟩
  refine hpacks.trans (.of_eq ?_ ?_)
  · rw [(hstats ..).1]
    split <;> rfl
  · rw [(hstats ..).2]
    dsimp only
    split <;> rfl

theorem handleMessage_numbers (env : Env) (msg : MppNaluIpcMsg) (dest : SockAddrIn)
    (canSend needParameterSets : Bool) (w : World) : Numbers (·.timestamp = w.timestamp) w
      (handleMessage env msg dest canSend needParameterSets w) := by
  have hread : Numbers (·.timestamp = w.timestamp) w { w with lastReadSeq := msg.seq } :=
    .of_eq rfl rfl
  have hprocess := processMessage_numbers env msg dest canSend needParameterSets
    { w with lastReadSeq := msg.seq }
  rw [handleMessage]
  split
  · split
    · exact .of_eq rfl rfl
    · exact hread.trans hprocess
  · exact .of_eq rfl rfl

theorem datafifoRound_numbers (env : Env) (item : Item) (w : World) :
    Numbers (·.timestamp = w.timestamp) w (datafifoRound env item w) := by
  have hemit : ∀ (e : Event) (v : World), attempts [e] = [] →
      Numbers (·.timestamp = w.timestamp) v (v.emit e) := by
    intro e v he
    refine .of_eq ?_ rfl
    rw [World.emit, attempts, List.filterMap_append]
    exact (congrArg _ he).trans (List.append_nil _)
  have hsched := Silent.schedule env (w.emit (.read item))
  have htarget : Numbers (·.timestamp = w.timestamp) w
      (getRtspTarget env (w.emit (.read item))).2 :=
    (hemit (.read item) w rfl).trans ((Numbers.of_silent hsched).trans (hemit _ _ rfl))
  have htime : (getRtspTarget env (w.emit (.read item))).2.timestamp = w.timestamp := by
    change ((w.emit (.read item)).schedule env).timestamp = _
    rw [hsched.frame]
    rfl
  rw [datafifoRound]
  generalize getRtspTarget env _ = target at htarget htime
  have hhandle := handleMessage_numbers env item.msg target.1.2.1
    (target.1.1 && target.1.2.2.1) target.1.2.2.2 target.2
  rw [htime] at hhandle
  exact (htarget.trans hhandle).trans (hemit _ _ rfl)

/-- All packets of the DATAFIFO loop are in sequence. -/
theorem datafifoRtpSenderLoop_numbers (env : Env) (inputs : List Input) :
    Numbers (fun _ => True) {} (datafifoRtpSenderLoop env inputs {}) := by
  induction inputs using List.reverseRecOn with
  | nil => exact .of_eq rfl rfl
  | append_singleton inputs input ih =>
    rw [datafifoRtpSenderLoop_concat]
    rcases input with s | item
    · exact ih.trans (.of_eq (by simp [World.input, World.rtspStep, attempts]) rfl)
    · exact ih.trans ((datafifoRound_numbers env item _).mono fun _ _ => trivial)

theorem fileRound_numbers (env : Env) (gNalus : List (List UInt8)) (s : ℕ × World) :
    Numbers (fun _ => True) s.2 (fileRound env gNalus s).2 := by
  have hsched : Numbers (fun _ => True) s.2 (s.2.schedule env) := .of_silent (.schedule env s.2)
  rw [fileRound]
  dsimp only
  split
  · exact hsched
  · split
    · exact hsched
    · have hsend := hsched.trans ((sendH265NaluRtp_numbers env
        (s.2.schedule env).rtsp.gClientAddr (s.2.schedule env).timestamp (gNalus.getD s.1 []) 1
        (s.2.schedule env)).mono fun _ _ => trivial)
      split <;> rename_i heq <;> rw [heq] at hsend
      · exact hsend
      · exact hsend.trans (.of_eq rfl rfl)

/-- All packets of the file loop are in sequence. -/
theorem fileRtpSenderLoop_numbers (env : Env) (gNalus : List (List UInt8)) (rounds : ℕ) :
    Numbers (fun _ => True) {} (fileRtpSenderLoop env gNalus rounds).2 := by
  induction rounds with
  | zero => exact .of_eq rfl rfl
  | succ rounds ih => exact ih.trans (fileRound_numbers env gNalus _)

theorem World.Numbers.inSequence {P : WirePacket → Prop} {w : World} (h : Numbers P {} w) :
    InSequence (attempts w.trace) := by
  obtain ⟨ps, -, hattempts, -⟩ := h
  rw [hattempts]
  exact inSequence_numbered ps

/-! ### The timestamps of the DATAFIFO loop -/

/-- How many messages that were valid and not stale came while a target was playing. -/
def playedMessages (trace : List Event) : ℕ :=
  (transduce freshStep 0 (offered trace)).1.countP (·.2)

theorem timestamp_run (env : Env) (inputs : List Input) :
    (datafifoRtpSenderLoop env inputs {}).timestamp.toNat
      = (0x12345678 + 6000 * playedMessages (datafifoRtpSenderLoop env inputs {}).trace)
        % 2 ^ 32 := by
  have haccount := accounted_run env inputs
  rw [haccount.timestamp, haccount.handled, playedMessages]
  generalize List.countP _ _ = k
  have hstep : rtpTsStep.toNat = 6000 := by decide
  have hstart : (0x12345678 : UInt32).toNat = 0x12345678 := by decide
  rw [UInt32.toNat_add, UInt32.toNat_mul, UInt32.toNat_ofNat', hstep, hstart, Nat.mul_mod_mod,
    Nat.add_mod_mod]

/-- All packets of one message have the timestamp of its round. -/
theorem timestamps_round (env : Env) (before : List Input) (item : Item) :
    ∃ packets, attempts (datafifoRtpSenderLoop env (before ++ [.item item]) {}).trace
        = attempts (datafifoRtpSenderLoop env before {}).trace ++ packets ∧
      ∀ p ∈ packets, ∃ h, parseRtpHeader p.1 = some h ∧ h.timestamp.toNat
        = (0x12345678 + 6000 * playedMessages (datafifoRtpSenderLoop env before {}).trace)
          % 2 ^ 32 := by
  rw [datafifoRtpSenderLoop_concat, World.input, ← timestamp_run]
  obtain ⟨ps, hps, hattempts, -⟩ :=
    datafifoRound_numbers env item (datafifoRtpSenderLoop env before {})
  refine ⟨_, hattempts, ?_⟩
  rintro ⟨packet, sent⟩ hp
  obtain ⟨a, b, hab⟩ := List.append_of_mem hp
  obtain ⟨p, hmem, hparse⟩ := parse_of_numbered hab
  exact ⟨_, hparse, congrArg UInt32.toNat (hps p hmem)⟩

theorem playedMessages_mono (env : Env) (before after : List Input) :
    playedMessages (datafifoRtpSenderLoop env before {}).trace
      ≤ playedMessages (datafifoRtpSenderLoop env (before ++ after) {}).trace := by
  induction after using List.reverseRecOn with
  | nil => rw [List.append_nil]
  | append_singleton after input ih =>
    refine ih.trans ?_
    rw [← List.append_assoc, datafifoRtpSenderLoop_concat, playedMessages, playedMessages]
    rcases input with s | item
    · rw [World.input, offered_rtspStep]
    · rw [World.input, offered_round, transduce_append, List.countP_append]
      exact Nat.le_add_right _ _

/-- **The packets of both sender loops.** -/
theorem wire_trace :
    (∀ seq timestamp ssrc marker payload,
      parseRtpHeader (buildRtpHeader seq timestamp ssrc marker ++ payload)
        = some ⟨2, 96, marker != 0, seq, timestamp, ssrc⟩) ∧
    (∀ env gNalus rounds, InSequence (attempts (fileRtpSenderLoop env gNalus rounds).2.trace)) ∧
    (∀ env inputs, InSequence (attempts (datafifoRtpSenderLoop env inputs {}).trace)) ∧
    (∀ env before item, ∃ packets,
      attempts (datafifoRtpSenderLoop env (before ++ [.item item]) {}).trace
        = attempts (datafifoRtpSenderLoop env before {}).trace ++ packets ∧
      ∀ p ∈ packets, ∃ h, parseRtpHeader p.1 = some h ∧ h.timestamp.toNat
        = (0x12345678 + 6000 * playedMessages (datafifoRtpSenderLoop env before {}).trace)
          % 2 ^ 32) ∧
    (∀ env before step, attempts (datafifoRtpSenderLoop env (before ++ [.rtsp step]) {}).trace
      = attempts (datafifoRtpSenderLoop env before {}).trace) ∧
    (∀ env before after, playedMessages (datafifoRtpSenderLoop env before {}).trace
      ≤ playedMessages (datafifoRtpSenderLoop env (before ++ after) {}).trace) := by
  refine ⟨parseRtpHeader_buildRtpHeader, fun env gNalus rounds => ?_, fun env inputs => ?_,
    timestamps_round, fun env before step => ?_, playedMessages_mono⟩
  · exact (fileRtpSenderLoop_numbers env gNalus rounds).inSequence
  · exact (datafifoRtpSenderLoop_numbers env inputs).inSequence
  · rw [datafifoRtpSenderLoop_concat]
    simp [World.input, World.rtspStep, attempts]

/-- A packet that is lost leaves its number to the packet that repeats it. -/
example : (attempts (fileRtpSenderLoop
      { control := fun n => if n = 0 then [.setup ⟨7, 5000⟩, .play] else []
        sendto := (· != 3) } [[0x26, 1]] 3).2.trace).map
      (fun p => ((parseRtpHeader p.1).map RtpHeader.seq, p.2))
    = [(some 0, true), (some 1, false), (some 1, true)] := by
  decide

end LittleCore

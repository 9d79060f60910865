import LittleCore.FileSender
import LittleCore.Rtp.Fragments
import LittleCore.Splitters
import Mathlib.Data.List.GetD

/-!
# The file mode

`load_file_source` cuts the file once, and `file_rtp_sender_loop` plays what it has got over and
over.

The two have different ideas of a NALU. The splitter stores every part of at least one byte, and
`send_h265_nalu_rtp` refuses one of a single byte. The loop takes any refusal for a failed `sendto`
and tries the same NALU again, so it never gets past such a part, see `fileRtpSenderLoop_stuck`.

## Main results

* `loadAnnexbNalus_exact` — the splitter against the cut at every `00 00 01`
* `fileRtpSenderLoop_plays` — the loop plays all NALUs in turn if and only if none is of one byte
-/

namespace LittleCore

open Library World

/-! ### Loading -/

/-- NALUs behind start codes, each with the number of zeros in front of its `00 00 01`. -/
def annexbJoin (units : List (ℕ × List UInt8)) : List UInt8 :=
  units.flatMap fun u => List.replicate u.1 0x00 ++ (shortStartCode ++ u.2)

/-- The zeros in front of a start code are the end of the part before. -/
theorem map_startCodeParts_annexbJoin {units : List (ℕ × List UInt8)}
    (hlast : ∀ u ∈ units, u.2.getLast? ≠ some 0x00)
    (hno : ∀ u ∈ units, ¬ shortStartCode <:+: u.2) {p : List UInt8}
    (hp : ¬ shortStartCode <:+: p) (hplast : p.getLast? ≠ some 0x00) :
    stripTrailingZeros (cutAt shortStartCode (p ++ annexbJoin units)).1 = p ∧
      (startCodeParts (p ++ annexbJoin units)).map stripTrailingZeros = units.map Prod.snd := by
  induction units generalizing p with
  | nil =>
    rw [annexbJoin, List.flatMap_nil, List.append_nil, startCodeParts, cutAt_uncut hp]
    exact ⟨by simpa using stripTrailingZeros_append hplast 0, rfl⟩
  | cons u units ih =>
    obtain ⟨hfirst, hrest⟩ := ih (fun v hv => hlast v (List.mem_cons_of_mem _ hv))
      (fun v hv => hno v (List.mem_cons_of_mem _ hv)) (hno u (List.mem_cons_self ..))
      (hlast u (List.mem_cons_self ..))
    have hjoin : p ++ annexbJoin (u :: units)
        = (p ++ List.replicate u.1 0x00) ++ (shortStartCode ++ (u.2 ++ annexbJoin units)) := by
      simp only [annexbJoin, List.flatMap_cons, List.append_assoc]
    rw [startCodeParts, hjoin,
      cutAt_append unbordered_shortStartCode (not_infix_append_zeros hp u.1)]
    refine ⟨stripTrailingZeros_append hplast u.1, ?_⟩
    rw [List.map_cons, hfirst, ← startCodeParts, hrest, List.map_cons]

theorem loadAnnexbNalus_eq_some (buf : List UInt8) : loadAnnexbNalus (fun _ => true) buf
    = some (((startCodeParts buf).map stripTrailingZeros).filter (· ≠ [])) := by
  have hok : ∀ nalu ∈ (annexbNalus findStartCode buf).map Prod.fst, ∀ s,
      (storeNalu (fun _ => true) nalu s).1 = true := by
    intro nalu _ s
    rw [storeNalu]
    split <;> rfl
  cases h : loadAnnexbNalus (fun _ => true) buf with
  | none =>
    rw [loadAnnexbNalus, forEach_eq_foldl hok] at h
    cases h
  | some nalus => rw [loadAnnexbNalus_eq h, annexbNalus_eq, map_fst_trimParts]

/-- The `search_offset` of the next round, `none` where the loop is left. -/
def nextSearchOffset (buf : List UInt8) (searchOffset : ℕ) : Option ℕ :=
  (findStartCode buf searchOffset).bind fun p => (findStartCode buf (p.1 + p.2)).map Prod.fst

/-- A round of the cutting loop and what follows it. -/
theorem annexbPieces_succ (buf : List UInt8) (off fuel : ℕ) :
    annexbPieces findStartCode buf (fuel + 1) off
      = annexbPieces findStartCode buf 1 off ++
        (nextSearchOffset buf off).elim [] (annexbPieces findStartCode buf fuel) := by
  rw [nextSearchOffset, annexbPieces, annexbPieces]
  cases hfirst : findStartCode buf off with
  | none => rfl
  | some p =>
    rw [Option.bind_some]
    dsimp only
    cases hnext : findStartCode buf (p.1 + p.2) with
    | none => exact (List.append_nil _).symm
    | some p' => exact congrArg (· ++ _) (List.append_nil _).symm

theorem lt_of_nextSearchOffset {buf : List UInt8} {off off' : ℕ}
    (h : nextSearchOffset buf off = some off') : off < off' ∧ off' < buf.length := by
  obtain ⟨⟨p, n⟩, hfirst, hnext⟩ := Option.bind_eq_some_iff.mp h
  obtain ⟨⟨p', n'⟩, hsecond, rfl⟩ := Option.map_eq_some_iff.mp hnext
  have hb := bounds_of_h265FindStartCodeLocal hfirst
  have hb' := bounds_of_h265FindStartCodeLocal hsecond
  dsimp only at *
  omega

/-- **Annex-B splitting is exact.** The loop comes to an end, and what is loaded are the parts of
the only cut, without their zeros at the end, as far as there is something left. A joined stream is
loaded as it was. -/
theorem loadAnnexbNalus_exact :
    (∀ buf off fuel, annexbPieces findStartCode buf (fuel + 1) off
      = annexbPieces findStartCode buf 1 off ++
        (nextSearchOffset buf off).elim [] (annexbPieces findStartCode buf fuel)) ∧
    (∀ buf, ¬ ∃ offsets : ℕ → ℕ, offsets 0 = 0 ∧
      ∀ k, nextSearchOffset buf (offsets k) = some (offsets (k + 1))) ∧
    (∀ buf : List UInt8, ∃ first parts, IsCut [0x00, 0x00, 0x01] buf first parts) ∧
    (∀ buf first parts, IsCut [0x00, 0x00, 0x01] buf first parts →
      loadAnnexbNalus (fun _ => true) buf
        = some ((parts.map stripTrailingZeros).filter (· ≠ []))) ∧
    ∀ units : List (ℕ × List UInt8),
      (∀ u ∈ units, u.2 ≠ [] ∧ ¬ [0x00, 0x00, 0x01] <:+: u.2 ∧ u.2.getLast? ≠ some 0x00) →
      loadAnnexbNalus (fun _ => true) (annexbJoin units) = some (units.map Prod.snd) := by
  refine ⟨annexbPieces_succ, ?_, fun buf => ⟨_, _, isCut_cutAt unbordered_shortStartCode buf⟩,
    fun buf first parts h => ?_, fun units hunits => ?_⟩
  · rintro buf ⟨offsets, -, hnext⟩
    have hle : ∀ k, k ≤ offsets k := by
      intro k
      induction k with
      | zero => exact Nat.zero_le _
      | succ k ih =>
        have := (lt_of_nextSearchOffset (hnext k)).1
        omega
    have hlt := (lt_of_nextSearchOffset (hnext buf.length)).2
    have := hle (buf.length + 1)
    omega
  · rw [loadAnnexbNalus_eq_some, startCodeParts]
    exact congrArg (fun c : List UInt8 × List (List UInt8) =>
      some ((c.2.map stripTrailingZeros).filter (· ≠ [])))
      (h.cutAt_eq unbordered_shortStartCode)
  · have hparts := (map_startCodeParts_annexbJoin (p := []) (fun u hu => (hunits u hu).2.2)
      (fun u hu => (hunits u hu).2.1) (by decide) (by decide)).2
    rw [List.nil_append] at hparts
    rw [loadAnnexbNalus_eq_some, hparts, List.filter_eq_self.mpr]
    intro nalu hmem
    obtain ⟨u, hu, rfl⟩ := List.mem_map.mp hmem
    simpa using (hunits u hu).1

/-- `load_file_source` on the bytes of the file: `g_nalus`, `none` where it returns `-1`. -/
def loadFileSource (realloc : ℕ → Bool) (file : List UInt8) : Option (List (List UInt8)) :=
  if file.length = 0 then none
  else
    match loadAnnexbNalus realloc file with
    | none => none
    | some nalus => if nalus.length = 0 then none else some nalus

theorem loadFileSource_eq {realloc : ℕ → Bool} {file : List UInt8} {gNalus : List (List UInt8)}
    (h : loadFileSource realloc file = some gNalus) : 0 < gNalus.length ∧
      gNalus = ((startCodeParts file).map stripTrailingZeros).filter (· ≠ []) := by
  rw [loadFileSource] at h
  split_ifs at h
  split at h
  · cases h
  · rename_i nalus hload
    split_ifs at h with hlen
    rw [← Option.some.inj h]
    refine ⟨by omega, ?_⟩
    rw [loadAnnexbNalus_eq hload, annexbNalus_eq, map_fst_trimParts]

/-! ### The shared state along the loop -/

/-- The shared state that the control thread has led to before step `n` of the sender. -/
def rtspBefore (env : Env) (n : ℕ) : RtspState :=
  ((List.range n).flatMap env.control).foldl RtspState.apply {}

/-- Nothing but the control thread has written the shared state. -/
def World.InStep (env : Env) (w : World) : Prop := w.rtsp = rtspBefore env w.tick

theorem rtsp_foldl_rtspStep (l : List RtspStep) (w : World) :
    (l.foldl World.rtspStep w).rtsp = l.foldl RtspState.apply w.rtsp := by
  induction l generalizing w with
  | nil => rfl
  | cons s l ih => exact ih (w.rtspStep s)

theorem World.InStep.schedule {env : Env} {w : World} (h : w.InStep env) :
    (w.schedule env).InStep env ∧ (w.schedule env).rtsp = rtspBefore env (w.tick + 1) := by
  have hrtsp : (w.schedule env).rtsp = rtspBefore env (w.tick + 1) := by
    rw [World.schedule, rtsp_foldl_rtspStep, rtspBefore, List.range_succ, List.flatMap_append,
      List.foldl_append, ← rtspBefore, ← h, List.flatMap_singleton]
  refine ⟨?_, hrtsp⟩
  rw [World.InStep, hrtsp, (schedule_spec env w).2]

theorem fileRtpSenderLoop_inStep (env : Env) (gNalus : List (List UInt8)) (rounds : ℕ) :
    (fileRtpSenderLoop env gNalus rounds).2.InStep env :=
  fileRtpSenderLoop_keeps (I := World.InStep env) rfl (fun _ h => h.schedule.1)
    (fun _ _ _ _ h => h) (fun _ _ _ h => h) gNalus rounds

/-- Each look of the loop at the shared state finds a playing client with an address. -/
def StaysInPlay (env : Env) (gNalus : List (List UInt8)) : Prop :=
  ∀ k, ((fileRtpSenderLoop env gNalus k).2.schedule env).rtsp.canSend = true

/-- A client that plays from before the first step on is found to do so. -/
theorem staysInPlay_of_rtspBefore {env : Env} (h : ∀ n, (rtspBefore env (n + 1)).canSend = true)
    (gNalus : List (List UInt8)) : StaysInPlay env gNalus := by
  intro k
  rw [(fileRtpSenderLoop_inStep env gNalus k).schedule.2]
  exact h _

/-! ### Playing -/

/-- The target of pass `k`. -/
def passTarget (env : Env) (gNalus : List (List UInt8)) (k : ℕ) : SockAddrIn :=
  ((fileRtpSenderLoop env gNalus k).2.schedule env).rtsp.gClientAddr

/-- `(0x12345678 + 6000 * k) mod 2^32`. -/
def passTimestamp (k : ℕ) : UInt32 := .ofNat (0x12345678 + 6000 * k)

/-- Pass `k` sends NALU number `k mod N` completely, with the timestamp of the pass, and goes on to
the next one. -/
structure PlaysNalu (env : Env) (gNalus : List (List UInt8)) (k : ℕ) : Prop where
  packets : wirePackets (fileRtpSenderLoop env gNalus (k + 1)).2.trace
    = wirePackets (fileRtpSenderLoop env gNalus k).2.trace ++
      (packetsFrom (passTimestamp k) rtpSsrc (fileRtpSenderLoop env gNalus k).2.seq
        (payloads (gNalus.getD (k % gNalus.length) []) 1)).map (passTarget env gNalus k, ·)
  index : (fileRtpSenderLoop env gNalus k).1 = k % gNalus.length
  next : (fileRtpSenderLoop env gNalus (k + 1)).1 = (k + 1) % gNalus.length

theorem passTimestamp_succ (k : ℕ) : passTimestamp k + rtpTsStep = passTimestamp (k + 1) := by
  rw [passTimestamp, passTimestamp, Nat.mul_add, ← Nat.add_assoc,
    UInt32.ofNat_add (0x12345678 + 6000 * k)]
  rfl

/-- A pass at a NALU that the sender takes. -/
theorem fileRound_plays {env : Env} (hsend : ∀ n, env.sendto n = true)
    {gNalus : List (List UInt8)} {s : ℕ × World} (hplay : (s.2.schedule env).rtsp.canSend = true)
    (hlen : 2 ≤ (gNalus.getD s.1 []).length) (hne : gNalus.length ≠ 0) :
    (fileRound env gNalus s).1 = (if s.1 + 1 ≥ gNalus.length then 0 else s.1 + 1) ∧
      (fileRound env gNalus s).2.timestamp = s.2.timestamp + rtpTsStep ∧
      wirePackets (fileRound env gNalus s).2.trace = wirePackets s.2.trace ++
        (packetsFrom s.2.timestamp rtpSsrc s.2.seq (payloads (gNalus.getD s.1 []) 1)).map
          ((s.2.schedule env).rtsp.gClientAddr, ·) := by
  have htimestamp : (s.2.schedule env).timestamp = s.2.timestamp := by
    rw [(schedule_spec env s.2).2]
  obtain ⟨hok, hputs⟩ := sendH265NaluRtp_puts hsend (s.2.schedule env).rtsp.gClientAddr hlen
    s.2.timestamp rtpSsrc 1 (s.2.schedule env)
  have htime : (sendH265NaluRtp env (s.2.schedule env).rtsp.gClientAddr (gNalus.getD s.1 [])
      s.2.timestamp rtpSsrc 1 (s.2.schedule env)).2.timestamp = s.2.timestamp := by
    rw [(sendH265NaluRtp_sends ..).frame, htimestamp]
  have hpackets := hputs.packets
  rw [wirePackets_schedule, seq_schedule] at hpackets
  simp only [fileRound, hplay, htimestamp, if_neg hne, Bool.not_true, Bool.false_eq_true, if_false]
  generalize sendH265NaluRtp env (s.2.schedule env).rtsp.gClientAddr (gNalus.getD s.1 [])
    s.2.timestamp rtpSsrc 1 (s.2.schedule env) = r at hok htime hpackets
  obtain ⟨ok, w⟩ := r
  obtain rfl : ok = true := hok
  exact ⟨rfl, congrArg (· + rtpTsStep) htime, hpackets⟩

/-- A pass at a NALU that the sender refuses leaves everything where it was. -/
theorem fileRound_stuck (env : Env) {gNalus : List (List UInt8)} {s : ℕ × World}
    (hlen : (gNalus.getD s.1 []).length < 2) :
    (fileRound env gNalus s).1 = s.1 ∧
      wirePackets (fileRound env gNalus s).2.trace = wirePackets s.2.trace := by
  have hsched := wirePackets_schedule env s.2
  rw [fileRound]
  dsimp only
  rw [sendH265NaluRtp, if_pos hlen]
  split
  · exact ⟨rfl, hsched⟩
  · split <;> exact ⟨rfl, hsched⟩

/-- `idx++` and the test behind it count modulo `N`. -/
theorem succ_mod_eq {n : ℕ} (hn : 0 < n) (k : ℕ) :
    (if k % n + 1 ≥ n then 0 else k % n + 1) = (k + 1) % n := by
  have hlt := Nat.mod_lt k hn
  split
  · have hlast : k % n = n - 1 := by omega
    rw [Nat.add_mod, hlast, Nat.add_mod_mod, Nat.sub_add_cancel hn, Nat.mod_self]
  · rw [Nat.add_mod, Nat.add_mod_mod, Nat.mod_eq_of_lt (show k % n + 1 < n by omega)]

/-- While the sender takes every NALU, index and timestamp count the passes. -/
theorem fileRtpSenderLoop_counts {env : Env} (hsend : ∀ n, env.sendto n = true)
    {gNalus : List (List UInt8)} (hplay : StaysInPlay env gNalus) (hpos : 0 < gNalus.length)
    (hlen : ∀ nalu ∈ gNalus, 2 ≤ nalu.length) (k : ℕ) :
    (fileRtpSenderLoop env gNalus k).1 = k % gNalus.length ∧
      (fileRtpSenderLoop env gNalus k).2.timestamp = passTimestamp k := by
  induction k with
  | zero => exact ⟨(Nat.zero_mod _).symm, rfl⟩
  | succ k ih =>
    have hk : 2 ≤ (gNalus.getD (fileRtpSenderLoop env gNalus k).1 []).length := by
      rw [ih.1, List.getD_eq_getElem _ _ (Nat.mod_lt k hpos)]
      exact hlen _ (List.getElem_mem _)
    obtain ⟨hindex, htimestamp, -⟩ := fileRound_plays hsend (hplay k) hk (by omega)
    rw [fileRtpSenderLoop]
    refine ⟨?_, by rw [htimestamp, ih.2, passTimestamp_succ]⟩
    rw [hindex, ih.1]
    exact succ_mod_eq hpos k

/-- All NALUs of a file have two bytes exactly if no part of the file is a single byte. -/
theorem two_le_length_iff {realloc : ℕ → Bool} {file : List UInt8} {gNalus : List (List UInt8)}
    (hload : loadFileSource realloc file = some gNalus) :
    (∀ nalu ∈ gNalus, 2 ≤ nalu.length) ↔
      ∀ p ∈ startCodeParts file, (stripTrailingZeros p).length ≠ 1 := by
  rw [(loadFileSource_eq hload).2]
  constructor
  · intro h p hp hone
    have hmem : stripTrailingZeros p ∈
        ((startCodeParts file).map stripTrailingZeros).filter (· ≠ []) := by
      refine List.mem_filter.mpr ⟨List.mem_map_of_mem hp, ?_⟩
      simpa using List.ne_nil_of_length_pos (by omega)
    have htwo := h _ hmem
    omega
  · intro h nalu hmem
    obtain ⟨hmem, hne⟩ := List.mem_filter.mp hmem
    obtain ⟨p, hp, rfl⟩ := List.mem_map.mp hmem
    have hone := h p hp
    have hzero : (stripTrailingZeros p).length ≠ 0 := by simpa using hne
    omega

/-- **File mode plays every NALU in turn** exactly if no part of the file is a single byte. -/
theorem fileRtpSenderLoop_plays {realloc : ℕ → Bool} {file : List UInt8}
    {gNalus : List (List UInt8)} (hload : loadFileSource realloc file = some gNalus) {env : Env}
    (hsend : ∀ n, env.sendto n = true) (hplay : StaysInPlay env gNalus) :
    (∀ k, PlaysNalu env gNalus k) ↔
      ∀ p ∈ startCodeParts file, (stripTrailingZeros p).length ≠ 1 := by
  have hpos := (loadFileSource_eq hload).1
  rw [← two_le_length_iff hload]
  constructor
  · intro hplays nalu hmem
    -- The pass at a NALU that is refused would have to move the index on.
    obtain ⟨k, hk, rfl⟩ := List.getElem_of_mem hmem
    by_contra hshort
    have hmod : k % gNalus.length = k := Nat.mod_eq_of_lt hk
    have hget : gNalus.getD (k % gNalus.length) [] = gNalus[k] := by
      rw [hmod, List.getD_eq_getElem _ _ hk]
    have hround : (gNalus.getD (fileRtpSenderLoop env gNalus k).1 []).length < 2 := by
      rw [(hplays k).index, hget]
      omega
    have hpackets := (hplays k).packets
    rw [fileRtpSenderLoop, (fileRound_stuck env hround).2, List.self_eq_append_right,
      List.map_eq_nil_iff] at hpackets
    have hnone := congrArg List.length hpackets
    rw [length_packetsFrom, hget, payloads, if_pos (by simp only [rtpMaxPayload]; omega)] at hnone
    cases hnone
  · intro hlen k
    obtain ⟨hindex, htimestamp⟩ := fileRtpSenderLoop_counts hsend hplay hpos hlen k
    have hk : 2 ≤ (gNalus.getD (fileRtpSenderLoop env gNalus k).1 []).length := by
      rw [hindex, List.getD_eq_getElem _ _ (Nat.mod_lt k hpos)]
      exact hlen _ (List.getElem_mem _)
    refine ⟨?_, hindex, (fileRtpSenderLoop_counts hsend hplay hpos hlen (k + 1)).1⟩
    rw [fileRtpSenderLoop, (fileRound_plays hsend (hplay k) hk (by omega)).2.2, htimestamp, hindex]
    rfl

/-- A client that plays from the start. -/
def playingEnv : Env where
  control n := if n = 0 then [.setup ⟨7, 5000⟩, .play] else []

theorem staysInPlay_playingEnv (gNalus : List (List UInt8)) : StaysInPlay playingEnv gNalus := by
  refine staysInPlay_of_rtspBefore (fun n => ?_) gNalus
  have hsteps : (List.range (n + 1)).flatMap playingEnv.control = [.setup ⟨7, 5000⟩, .play] := by
    rw [List.range_succ_eq_map, List.flatMap_cons, List.flatMap_map]
    have hnone : (List.range n).flatMap (fun k => playingEnv.control (k + 1)) = [] :=
      List.flatMap_eq_nil_iff.mpr fun k _ => rfl
    rw [hnone]
    rfl
  rw [rtspBefore, hsteps]
  rfl

theorem fileRtpSenderLoop_plays_sample :
    loadFileSource (fun _ => true) [0, 0, 1, 0x40, 1, 0, 0, 1, 0x26, 1]
        = some [[0x40, 0x01], [0x26, 0x01]] ∧
      ∀ k, PlaysNalu playingEnv [[0x40, 0x01], [0x26, 0x01]] k :=
  ⟨rfl, (@fileRtpSenderLoop_plays (fun _ => true) [0, 0, 1, 0x40, 1, 0, 0, 1, 0x26, 1] _ rfl _
    (fun _ => rfl) (staysInPlay_playingEnv _)).mpr (by decide)⟩

/-- **One byte is too little.** The file is loaded, and the loop stays at its second NALU. -/
theorem fileRtpSenderLoop_stuck :
    loadFileSource (fun _ => true) [0, 0, 1, 0x40, 1, 0, 0, 1, 0x26]
        = some [[0x40, 0x01], [0x26]] ∧
      (∀ n, playingEnv.sendto n = true) ∧ StaysInPlay playingEnv [[0x40, 0x01], [0x26]] ∧
      ¬ ∀ k, PlaysNalu playingEnv [[0x40, 0x01], [0x26]] k := by
  refine ⟨rfl, fun _ => rfl, staysInPlay_playingEnv _, fun h => ?_⟩
  have hnext := (h 1).next
  revert hnext
  decide

end LittleCore

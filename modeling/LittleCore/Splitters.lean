import LittleCore.Cutting
import LittleCore.OpenGate

/-!
# Three splitters

The file mode cuts a whole file with `load_annexb_nalus`, `send_h265_buffer_rtp` cuts a pack and
sends it, and the DATAFIFO mode cuts a pack with `datafifo_process_h265_buffer_for_playback`. The
first one searches for the first start code; the other two look for one in the first three or four
bytes, and take the whole buffer for a single NALU if it is not there.

`annexbStream` is the byte stream format: zeros, and then NALUs, each behind a start code and with
any number of zeros behind it. A start code of four bytes is one of three with a zero before it.

## Main results

* `map_annexbNalus` — the cutting loop finds the NALUs that the stream was made of
* `splitters_agree` — the three splitters agree exactly on the buffers with at most one zero
  before the first `00 00 01`
-/

namespace LittleCore

open Library

/-! ### The byte stream format -/

/-- A NALU is at least two bytes, does not end in a zero and has no start code in it. -/
structure IsNalu (nalu : List UInt8) : Prop where
  two_le : 2 ≤ nalu.length
  last_ne : nalu.getLast? ≠ some 0x00
  noStartCode : ¬ [0x00, 0x00, 0x01] <:+: nalu

/-- The NALUs `units`, each with the number of zeros behind it. -/
def annexbUnits (units : List (List UInt8 × ℕ)) : List UInt8 :=
  units.flatMap fun u => [0x00, 0x00, 0x01] ++ u.1 ++ List.replicate u.2 0x00

/-- The zeros in front, and the NALUs. -/
def annexbStream (leading : ℕ) (units : List (List UInt8 × ℕ)) : List UInt8 :=
  List.replicate leading 0x00 ++ annexbUnits units

/-- **The loop takes a stream apart**, whatever zeros stand between the NALUs. -/
theorem map_annexbNalus {units : List (List UInt8 × ℕ)} (hunits : ∀ u ∈ units, IsNalu u.1)
    (leading : ℕ) :
    (annexbNalus findStartCode (annexbStream leading units)).map Prod.fst
      = units.map Prod.fst := by
  have hparts : startCodeParts (annexbStream leading units)
      = units.map fun u => u.1 ++ List.replicate u.2 0x00 := by
    have hstream : annexbStream leading units = List.replicate leading 0x00 ++
        (units.map fun u => u.1 ++ List.replicate u.2 0x00).flatMap (shortStartCode ++ ·) := by
      rw [annexbStream, annexbUnits, List.flatMap_map]
      simp only [List.append_assoc, shortStartCode]
    rw [startCodeParts, hstream, cutAt_flatMap unbordered_shortStartCode]
    · simpa using not_infix_append_zeros (p := []) (by decide) leading
    · intro p hp
      obtain ⟨u, hu, rfl⟩ := List.mem_map.mp hp
      exact not_infix_append_zeros (hunits u hu).noStartCode u.2
  have hstrip : (startCodeParts (annexbStream leading units)).map stripTrailingZeros
      = units.map Prod.fst := by
    rw [hparts, List.map_map]
    exact List.map_congr_left fun u hu => stripTrailingZeros_append (hunits u hu).last_ne u.2
  rw [annexbNalus_eq, map_fst_trimParts, hstrip, List.filter_eq_self]
  intro nalu hmem
  obtain ⟨u, hu, rfl⟩ := List.mem_map.mp hmem
  have htwo := (hunits u hu).two_le
  simpa using List.ne_nil_of_length_pos (by omega)

/-! ### The other two splitters -/

/-- `new_capacity`. -/
def grownCapacity (capacity : ℕ) : ℕ := if capacity = 0 then 128 else capacity * 2

/-- The loop body of `load_annexb_nalus`: the array has room for `s.2` NALUs and is doubled when it
is full. -/
def storeNalu (realloc : ℕ → Bool) (nalu : List UInt8) (s : List (List UInt8) × ℕ) :
    Bool × List (List UInt8) × ℕ :=
  if s.1.length = s.2 then
    if realloc (grownCapacity s.2) then (true, s.1 ++ [nalu], grownCapacity s.2) else (false, s)
  else (true, s.1 ++ [nalu], s.2)

/-- `load_annexb_nalus`: the NALUs, `none` where it returns `-1`. -/
def loadAnnexbNalus (realloc : ℕ → Bool) (buf : List UInt8) : Option (List (List UInt8)) :=
  match forEach (storeNalu realloc) ((annexbNalus findStartCode buf).map Prod.fst) ([], 0) with
  | (true, s) => some s.1
  | (false, _) => none

/-- `send_h265_buffer_rtp`. The calls of `send_h265_nalu_rtp` are those of `sendNaluForPlayback`,
which leaves an event for each. -/
def sendH265BufferRtp (env : Env) (dest : SockAddrIn) (buf : List UInt8) (timestamp ssrc : UInt32)
    (lastMarker : UInt8) (w : World) : Bool × World :=
  if buf.length < 2 then (false, w)
  else if !bufferStartsWithStartCode buf then
    sendNaluForPlayback env dest buf timestamp ssrc lastMarker w
  else
    let nalus := annexbNalus findStartCode buf
    match forEach (fun p w => sendNaluForPlayback env dest p.1 timestamp ssrc
        (if p.2 then lastMarker else 0) w) nalus w with
    | (false, w) => (false, w)
    | (true, w) => (decide (0 < nalus.length), w)

theorem loadAnnexbNalus_eq {realloc : ℕ → Bool} {buf : List UInt8} {nalus : List (List UInt8)}
    (h : loadAnnexbNalus realloc buf = some nalus) :
    nalus = (annexbNalus findStartCode buf).map Prod.fst := by
  have hok : ∀ nalu s, (storeNalu realloc nalu s).1 = true →
      (storeNalu realloc nalu s).2.1 = s.1 ++ [nalu] := by
    intro nalu s hs
    rw [storeNalu] at hs ⊢
    split_ifs at hs ⊢ <;> rfl
  have hfail : ∀ nalu s, (storeNalu realloc nalu s).1 = false →
      (storeNalu realloc nalu s).2.1 = s.1 := by
    intro nalu s hs
    rw [storeNalu] at hs ⊢
    split_ifs at hs ⊢
    rfl
  obtain ⟨k, -, hobs, hiff⟩ := forEach_prefix (g := id)
    (l := (annexbNalus findStartCode buf).map Prod.fst) (fun nalu _ s => hok nalu s)
    (fun nalu _ s => hfail nalu s) ([], 0)
  rw [loadAnnexbNalus] at h
  split at h
  · rename_i s heq
    rw [heq] at hobs hiff
    rw [← Option.some.inj h, hobs, hiff.mp rfl, List.take_length, List.map_id, List.nil_append]
  · simp at h

/-! ### What is passed on -/

def Event.passed? : Event → Option (List UInt8)
  | .nalu _ bytes _ => some bytes
  | _ => none

/-- The NALUs that were passed to `send_h265_nalu_rtp`, apart from the cached parameter sets. -/
def passedNalus (w : World) : List (List UInt8) := w.trace.filterMap Event.passed?

/-- The ones that `f` passes. -/
def passes (f : World → Bool × World) (w : World) : List (List UInt8) :=
  (passedNalus (f w).2).drop (passedNalus w).length

theorem passedNalus_eq (w : World) : passedNalus w = (naluCalls w).map Prod.fst := by
  rw [passedNalus, naluCalls, List.map_filterMap]
  congr 1
  funext e
  cases e <;> rfl

theorem passes_of_calls {f : World → Bool × World} {w : World} {l : List (List UInt8 × Bool)}
    (h : naluCalls (f w).2 = naluCalls w ++ l) : passes f w = l.map Prod.fst := by
  rw [passes, passedNalus_eq, passedNalus_eq, h, List.map_append, List.drop_left]

/-- A call that is refused. -/
theorem sendNaluForPlayback_short (env : Env) (dest : SockAddrIn) {nalu : List UInt8}
    (hlen : nalu.length < 2) (timestamp ssrc : UInt32) (marker : UInt8) (w : World) :
    (sendNaluForPlayback env dest nalu timestamp ssrc marker w).1 = false ∧
      naluCalls (sendNaluForPlayback env dest nalu timestamp ssrc marker w).2
        = naluCalls w ++ [(nalu, false)] := by
  rw [sendNaluForPlayback, sendH265NaluRtp, if_pos hlen]
  exact ⟨rfl, List.filterMap_append ..⟩

/-- `send_h265_buffer_rtp` is left at the first NALU that is refused. -/
theorem sendH265BufferRtp_calls {env : Env} (hsend : ∀ n, env.sendto n = true)
    (dest : SockAddrIn) {buf : List UInt8} (hstart : bufferStartsWithStartCode buf = true)
    (hlen : 2 ≤ buf.length) (timestamp ssrc : UInt32) (marker : UInt8) (w : World) :
    naluCalls (sendH265BufferRtp env dest buf timestamp ssrc marker w).2
      = naluCalls w ++ ((annexbNalus findStartCode buf).takeWhile (2 ≤ ·.1.length) ++
          ((annexbNalus findStartCode buf).dropWhile (2 ≤ ·.1.length)).take 1).map
            fun p => (p.1, decide (2 ≤ p.1.length)) := by
  have hcalls := forEach_until (I := fun _ => True) (l := annexbNalus findStartCode buf)
    (R := fun l (v v' : World) => naluCalls v' = naluCalls v ++ l) (q := (2 ≤ ·.1.length))
    (g := fun p => [(p.1, decide (2 ≤ p.1.length))])
    (f := fun p w => sendNaluForPlayback env dest p.1 timestamp ssrc (if p.2 then marker else 0) w)
    (fun v _ => (List.append_nil _).symm)
    (fun hl hr => by rw [hr, hl, List.append_assoc])
    (fun p _ hp v _ => by
      obtain ⟨hok, hcalls, -⟩ := sendNaluForPlayback_calls hsend dest (of_decide_eq_true hp)
        timestamp ssrc (if p.2 then marker else 0) v
      exact ⟨hok, trivial, by rw [hcalls, hp]⟩)
    (fun p _ hp v _ => by
      rw [hp]
      exact sendNaluForPlayback_short env dest (Nat.lt_of_not_le (of_decide_eq_false hp)) timestamp
        ssrc _ v) (s := w) trivial
  rw [sendH265BufferRtp, if_neg (by omega), hstart, List.map_eq_flatMap]
  simp only [Bool.not_true, Bool.false_eq_true, if_false]
  split <;> rename_i heq <;> rw [heq] at hcalls <;> exact hcalls

/-! ### Agreement -/

theorem bufferStartsWithStartCode_annexbStream (leading : ℕ) {units : List (List UInt8 × ℕ)}
    (hne : units ≠ []) :
    bufferStartsWithStartCode (annexbStream leading units) = decide (leading ≤ 1) := by
  obtain ⟨u, units, rfl⟩ := List.exists_cons_of_ne_nil hne
  rcases leading with _ | _ | _ | k
  · rfl
  · rfl
  · rfl
  · rw [annexbStream, List.replicate_succ, List.replicate_succ, List.replicate_succ,
      bufferStartsWithStartCode.eq_def]
    rcases k with _ | k <;> simp [annexbUnits, List.replicate_succ]

theorem length_annexbStream (leading : ℕ) {units : List (List UInt8 × ℕ)} (hne : units ≠ []) :
    2 ≤ (annexbStream leading units).length := by
  obtain ⟨u, units, rfl⟩ := List.exists_cons_of_ne_nil hne
  rw [annexbStream, annexbUnits, List.flatMap_cons]
  simp only [List.length_append, List.length_cons]
  omega

section Agreement

variable {env : Env} {leading : ℕ} {units : List (List UInt8 × ℕ)} (dest : SockAddrIn)
  (timestamp ssrc : UInt32) (marker : UInt8)

/-- The NALUs a sender passes on: those of the stream, or with more zeros in front the whole
buffer. -/
def passedUnits (leading : ℕ) (units : List (List UInt8 × ℕ)) : List (List UInt8) :=
  if leading ≤ 1 then units.map Prod.fst else [annexbStream leading units]

theorem two_le_of_mem_annexbNalus (hunits : ∀ u ∈ units, IsNalu u.1) :
    ∀ p ∈ annexbNalus findStartCode (annexbStream leading units), 2 ≤ p.1.length := by
  intro p hp
  have hmem := List.mem_map_of_mem (f := Prod.fst) hp
  rw [map_annexbNalus hunits, List.mem_map] at hmem
  obtain ⟨u, hu, hup⟩ := hmem
  rw [← hup]
  exact (hunits u hu).two_le

theorem passes_sendH265BufferRtp (hsend : ∀ n, env.sendto n = true) (hne : units ≠ [])
    (hunits : ∀ u ∈ units, IsNalu u.1) (w : World) :
    passes (sendH265BufferRtp env dest (annexbStream leading units) timestamp ssrc marker) w
      = passedUnits leading units := by
  have hlen := length_annexbStream leading hne
  have hstart := bufferStartsWithStartCode_annexbStream leading hne
  rw [passedUnits]
  by_cases hlead : leading ≤ 1
  · have hlong : ∀ p ∈ annexbNalus findStartCode (annexbStream leading units),
        decide (2 ≤ p.1.length) = true := fun p hp =>
      decide_eq_true (two_le_of_mem_annexbNalus hunits p hp)
    have hall : (annexbNalus findStartCode (annexbStream leading units)).takeWhile
        (2 ≤ ·.1.length) = annexbNalus findStartCode (annexbStream leading units) :=
      List.takeWhile_eq_self_iff.mpr hlong
    have hnone : (annexbNalus findStartCode (annexbStream leading units)).dropWhile
        (2 ≤ ·.1.length) = [] := List.dropWhile_eq_nil_iff.mpr hlong
    rw [passes_of_calls (sendH265BufferRtp_calls hsend dest (by simp [hstart, hlead]) hlen timestamp
      ssrc marker w), hall, hnone, if_pos hlead, ← map_annexbNalus hunits leading, List.map_map,
      List.take_nil, List.append_nil]
    rfl
  · have hcalls := (sendNaluForPlayback_calls hsend dest hlen timestamp ssrc marker w).2.1
    rw [if_neg hlead]
    refine (passes_of_calls ?_ : passes _ w = [(annexbStream leading units, true)].map Prod.fst)
    rw [sendH265BufferRtp, if_neg (by omega), if_pos (by simp [hstart, hlead])]
    exact hcalls

theorem passes_datafifoProcessH265Buffer (hkeeps : env.KeepsGate)
    (hsend : ∀ n, env.sendto n = true) (hne : units ≠ []) (hunits : ∀ u ∈ units, IsNalu u.1)
    {w : World} (hopen : w.GateOpen) :
    passes (datafifoProcessH265BufferForPlayback env dest (annexbStream leading units) timestamp
      ssrc marker true) w = passedUnits leading units := by
  have hlen := length_annexbStream leading hne
  have hnalus : ∀ p ∈ playbackNalus (annexbStream leading units) marker, 2 ≤ p.1.length := by
    rw [playbackNalus, if_neg (by omega)]
    split
    · simpa using hlen
    · intro p hp
      obtain ⟨q, hq, rfl⟩ := List.mem_map.mp hp
      exact two_le_of_mem_annexbNalus hunits q hq
  have hmap : (playbackNalus (annexbStream leading units) marker).map Prod.fst
      = passedUnits leading units := by
    rw [map_fst_playbackNalus, bufferNalus, if_neg (by omega),
      bufferStartsWithStartCode_annexbStream leading hne, passedUnits]
    by_cases hlead : leading ≤ 1
    · rw [if_neg (by simp [hlead]), if_pos hlead]
      exact map_annexbNalus hunits leading
    · rw [if_pos (by simp [hlead]), if_neg hlead]
  have hfilter : (playbackNalus (annexbStream leading units) marker).filter (2 ≤ ·.1.length)
      = playbackNalus (annexbStream leading units) marker :=
    List.filter_eq_self.mpr fun p hp => decide_eq_true (hnalus p hp)
  rw [passes_of_calls (hopen.processBuffer hkeeps hsend dest (annexbStream leading units) timestamp
    ssrc marker).2.calls, hfilter, ← hmap, List.map_map]
  rfl

/-- **The splitters agree exactly where the entry tests find the first start code.** -/
theorem splitters_agree (hkeeps : env.KeepsGate) (hsend : ∀ n, env.sendto n = true)
    (hne : units ≠ []) (hunits : ∀ u ∈ units, IsNalu u.1) {realloc : ℕ → Bool}
    {nalus : List (List UInt8)}
    (hload : loadAnnexbNalus realloc (annexbStream leading units) = some nalus) {w : World}
    (hopen : w.GateOpen) :
    (passes (sendH265BufferRtp env dest (annexbStream leading units) timestamp ssrc marker) w
        = nalus ∧
      passes (datafifoProcessH265BufferForPlayback env dest (annexbStream leading units) timestamp
        ssrc marker true) w = nalus ∧
      ∀ nalu ∈ nalus, ¬ [0x00, 0x00, 0x01] <:+: nalu) ↔ leading ≤ 1 := by
  have hnalus : nalus = units.map Prod.fst := by
    rw [loadAnnexbNalus_eq hload, map_annexbNalus hunits]
  rw [passes_sendH265BufferRtp dest timestamp ssrc marker hsend hne hunits,
    passes_datafifoProcessH265Buffer dest timestamp ssrc marker hkeeps hsend hne hunits hopen,
    hnalus, passedUnits]
  constructor
  · rintro ⟨hpassed, -, hno⟩
    by_contra hlead
    -- The whole buffer would be one of the NALUs, but it has a start code in it.
    rw [if_neg hlead] at hpassed
    refine hno (annexbStream leading units) ?_ ?_
    · rw [← hpassed]
      exact List.mem_singleton_self _
    · obtain ⟨u, units, rfl⟩ := List.exists_cons_of_ne_nil hne
      exact ⟨List.replicate leading 0x00, u.1 ++ List.replicate u.2 0x00 ++ annexbUnits units,
        by simp [annexbStream, annexbUnits]⟩
  · intro hlead
    rw [if_pos hlead]
    refine ⟨rfl, rfl, fun nalu hmem => ?_⟩
    obtain ⟨u, hu, rfl⟩ := List.mem_map.mp hmem
    exact (hunits u hu).noStartCode

end Agreement

/-- Two NALUs behind start codes of three and of four bytes. -/
def sampleUnits : List (List UInt8 × ℕ) := [([0x40, 0x01], 1), ([0x26, 0x01], 0)]

theorem splitters_agree_sample :
    passes (sendH265BufferRtp {} ⟨7, 5000⟩ (annexbStream 1 sampleUnits) 0 0 1) {}
      = [[0x40, 0x01], [0x26, 0x01]] := by
  have hunits : ∀ u ∈ sampleUnits, IsNalu u.1 := by
    intro u hu
    rcases List.mem_pair.mp hu with rfl | rfl <;> exact ⟨by decide, by decide, by decide⟩
  exact ((@splitters_agree {} 1 sampleUnits ⟨7, 5000⟩ 0 0 1 (fun n s hs => absurd hs (by simp))
    (fun n => rfl) (by decide) hunits (fun _ => true) _ rfl _ ⟨rfl, rfl⟩).mpr
      (by decide)).1

/-- **Two zeros in front are too many.** `load_annexb_nalus` finds the NALU; the two senders pass
the buffer on as it is, start code and all. -/
theorem splitters_differ :
    loadAnnexbNalus (fun _ => true) (annexbStream 2 [([0x26, 0x01], 0)]) = some [[0x26, 0x01]] ∧
    passes (sendH265BufferRtp {} ⟨7, 5000⟩ (annexbStream 2 [([0x26, 0x01], 0)]) 0 0 1) {}
      = [[0x00, 0x00, 0x00, 0x00, 0x01, 0x26, 0x01]] ∧
    passes (datafifoProcessH265BufferForPlayback {} ⟨7, 5000⟩ (annexbStream 2 [([0x26, 0x01], 0)])
      0 0 1 true) {} = [[0x00, 0x00, 0x00, 0x00, 0x01, 0x26, 0x01]] := by
  decide

end LittleCore

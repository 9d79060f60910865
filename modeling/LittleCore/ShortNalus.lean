import LittleCore.Snapshot.Collect
import LittleCore.Splitters

/-!
# NALUs of a single byte

The snapshot, the playback and the plain sender cut a pack at the same places, but they do not
treat a NALU that is too short alike. Playback skips it and goes on; the other two give up, and
lose what stands behind it.

## Main results

* `splitsAlike_iff` — the three agree exactly when a NALU of one byte is followed by no longer one
-/

namespace LittleCore

open Library

theorem takeWhile_eq_filter_iff {α : Type*} {q : α → Bool} {l : List α} :
    l.takeWhile q = l.filter q ↔ l.Pairwise fun x y => q x = false → q y = false := by
  induction l with
  | nil => simp
  | cons x l ih =>
    rw [List.pairwise_cons]
    cases hx : q x with
    | true =>
      rw [List.takeWhile_cons_of_pos hx, List.filter_cons_of_pos hx, List.cons.injEq, ih]
      exact ⟨fun h => ⟨fun y _ hfalse => by simp at hfalse, h.2⟩, fun h => ⟨rfl, h.2⟩⟩
    | false =>
      have hx' : ¬ q x = true := by simp [hx]
      rw [List.takeWhile_cons_of_neg hx', List.filter_cons_of_neg hx', eq_comm,
        List.filter_eq_nil_iff]
      constructor
      · intro hall
        have hfalse : ∀ y ∈ l, q y = false := fun y hy => Bool.eq_false_iff.mpr (hall y hy)
        exact ⟨fun y hy _ => hfalse y hy,
          List.pairwise_of_forall_mem_list fun y _ z hz _ => hfalse z hz⟩
      · rintro ⟨hall, -⟩ y hy
        exact Bool.eq_false_iff.mp (hall y hy rfl)

/-! ### The snapshot's cut -/

theorem stripTrailingZeros_idem (p : List UInt8) :
    stripTrailingZeros (stripTrailingZeros p) = stripTrailingZeros p :=
  List.rdropWhile_idempotent ..

/-- The NALUs of a buffer have lost their zeros already. -/
theorem stripTrailingZeros_of_mem {buf nalu : List UInt8}
    (h : nalu ∈ (annexbNalus findStartCode buf).map Prod.fst) : stripTrailingZeros nalu = nalu := by
  rw [annexbNalus_eq, map_fst_trimParts] at h
  obtain ⟨p, -, rfl⟩ := List.mem_map.mp (List.mem_of_mem_filter h)
  exact stripTrailingZeros_idem p

/-! ### Who takes what -/

/-- The NALUs that `f` sends. -/
def sends (f : World → Bool × World) (w : World) : List (List UInt8) :=
  (((naluCalls (f w).2).drop (naluCalls w).length).filter (·.2)).map Prod.fst

theorem sends_of_calls {f : World → Bool × World} {w : World} {l : List (List UInt8 × Bool)}
    (h : naluCalls (f w).2 = naluCalls w ++ l) : sends f w = (l.filter (·.2)).map Prod.fst := by
  rw [sends, h, List.drop_left]

section Splitting

variable {env : Env} {buf : List UInt8} (dest : SockAddrIn) (timestamp ssrc : UInt32)
  (marker : UInt8)

theorem sends_datafifoProcessH265Buffer (hkeeps : env.KeepsGate)
    (hsend : ∀ n, env.sendto n = true) (hstart : bufferStartsWithStartCode buf = true)
    (hlen : 2 ≤ buf.length) {w : World} (hopen : w.GateOpen) :
    sends (datafifoProcessH265BufferForPlayback env dest buf timestamp ssrc marker true) w
      = ((annexbNalus findStartCode buf).map Prod.fst).filter (2 ≤ ·.length) := by
  have hmap : (playbackNalus buf marker).map Prod.fst
      = (annexbNalus findStartCode buf).map Prod.fst := by
    rw [map_fst_playbackNalus, bufferNalus, if_neg (by omega), if_neg (by simp [hstart])]
    rfl
  rw [sends_of_calls (hopen.processBuffer hkeeps hsend dest buf timestamp ssrc marker).2.calls,
    List.filter_eq_self.mpr, List.map_map, ← hmap, List.filter_map]
  · rfl
  · intro p hp
    obtain ⟨q, -, rfl⟩ := List.mem_map.mp hp
    rfl

theorem sends_sendH265BufferRtp (hsend : ∀ n, env.sendto n = true)
    (hstart : bufferStartsWithStartCode buf = true) (hlen : 2 ≤ buf.length) (w : World) :
    sends (sendH265BufferRtp env dest buf timestamp ssrc marker) w
      = ((annexbNalus findStartCode buf).map Prod.fst).takeWhile (2 ≤ ·.length) := by
  have hrest : ∀ l : List (List UInt8 × Bool),
      (((l.dropWhile (2 ≤ ·.1.length)).take 1).map fun p => (p.1, decide (2 ≤ p.1.length))).filter
        (·.2) = [] := by
    intro l
    induction l with
    | nil => rfl
    | cons p l ih =>
      by_cases hp : 2 ≤ p.1.length
      · rwa [List.dropWhile_cons_of_pos (by simpa using hp)]
      · rw [List.dropWhile_cons_of_neg (by simpa using hp)]
        simp [hp]
  rw [sends_of_calls (sendH265BufferRtp_calls hsend dest hstart hlen timestamp ssrc marker w),
    List.map_append, List.filter_append, hrest, List.append_nil, List.filter_eq_self.mpr,
    List.map_map, List.takeWhile_map]
  · rfl
  · intro p hp
    obtain ⟨q, hq, rfl⟩ := List.mem_map.mp hp
    exact List.mem_takeWhile_imp (p := fun r : List UInt8 × Bool => 2 ≤ r.1.length) hq

/-- What is gathered before a frame has seen anything of the buffer. -/
def gathered (s : H265SnapshotFrame × World) : Collected where
  bytes := s.1.au.bytes
  hasIrap := s.1.hasIrap
  sets kind := (s.2.gH265SnapshotCache.paramSet kind).bytes

theorem bytes_h265SnapshotFeedBuffer (halloc : ∀ n, env.snapshotAlloc n = true)
    (hstart : bufferStartsWithStartCode buf = true) (hlen : 2 ≤ buf.length)
    (hbuf : buf.length < 2 ^ 31) {s : H265SnapshotFrame × World} (hcopy : s.1.copyAu = true)
    (hroom : s.1.au.len + 4 * buf.length ≤ sizeMax) :
    (h265SnapshotFeedBuffer env buf s).2.1.au.bytes = s.1.au.bytes ++
      (((annexbNalus findStartCode buf).map Prod.fst).takeWhile (2 ≤ ·.length)).flatMap
        (startCode ++ ·) := by
  have hfed : fedNalus buf
      = ((annexbNalus findStartCode buf).map Prod.fst).takeWhile (2 ≤ ·.length) := by
    rw [fedNalus, if_neg (by omega), if_neg (by simp [hstart]), annexbNalus_h265FindStartCode hbuf]
  have hfits := room_fedNalus_le (show buf.length < 2 ^ 32 by omega)
  have hholds : Holds (gathered s) s := ⟨rfl, rfl, fun _ => rfl, hcopy⟩
  have hroom' : (gathered s).bytes.length + room (fedNalus buf) ≤ sizeMax := by
    rw [gathered]
    rw [H265ByteBuffer.len] at hroom
    dsimp only
    omega
  rw [(hholds.feedBuffer halloc hroom').bytes, Collected.bytes_foldl, hfed, gathered]
  congr 1
  refine List.flatMap_congr ?_
  intro nalu hmem
  have htwo : 2 ≤ nalu.length := by simpa using List.mem_takeWhile_imp hmem
  rw [storedUnit, stripTrailingZeros_of_mem ((List.takeWhile_subset _) hmem), if_neg (by omega)]

end Splitting

/-! ### Agreement -/

/-- The three bring the NALUs of at least two bytes. -/
structure SplitsAlike (env : Env) (dest : SockAddrIn) (buf : List UInt8)
    (timestamp ssrc : UInt32) (marker : UInt8) (nalus : List (List UInt8))
    (s : H265SnapshotFrame × World) (w : World) : Prop where
  snapshot : (h265SnapshotFeedBuffer env buf s).2.1.au.bytes
    = s.1.au.bytes ++ (nalus.filter (2 ≤ ·.length)).flatMap (startCode ++ ·)
  playback : sends (datafifoProcessH265BufferForPlayback env dest buf timestamp ssrc marker true) w
    = nalus.filter (2 ≤ ·.length)
  plain : sends (sendH265BufferRtp env dest buf timestamp ssrc marker) w
    = nalus.filter (2 ≤ ·.length)

/-- No NALU of one byte stands in front of a longer one. -/
def ShortNalusLast (buf : List UInt8) : Prop :=
  (startCodeParts buf).Pairwise fun p q =>
    (stripTrailingZeros p).length = 1 → (stripTrailingZeros q).length ≤ 1

instance (buf : List UInt8) : Decidable (ShortNalusLast buf) :=
  inferInstanceAs (Decidable (List.Pairwise _ _))

theorem shortNalusLast_iff (buf : List UInt8) :
    ((annexbNalus findStartCode buf).map Prod.fst).takeWhile (2 ≤ ·.length)
      = ((annexbNalus findStartCode buf).map Prod.fst).filter (2 ≤ ·.length)
        ↔ ShortNalusLast buf := by
  rw [takeWhile_eq_filter_iff, annexbNalus_eq, map_fst_trimParts, List.pairwise_filter,
    List.pairwise_map, ShortNalusLast]
  refine List.Pairwise.iff ?_
  intro p q
  simp only [decide_eq_false_iff_not, decide_eq_true_eq, ← List.length_pos_iff]
  omega

/-- **The three agree exactly when short NALUs come last.** -/
theorem splitsAlike_iff {env : Env} {dest : SockAddrIn} {buf : List UInt8}
    {timestamp ssrc : UInt32} {marker : UInt8} (hkeeps : env.KeepsGate)
    (hsend : ∀ n, env.sendto n = true) (halloc : ∀ n, env.snapshotAlloc n = true)
    (hstart : bufferStartsWithStartCode buf = true) (hbuf : buf.length < 2 ^ 31)
    {realloc : ℕ → Bool} {nalus : List (List UInt8)}
    (hload : loadAnnexbNalus realloc buf = some nalus) {s : H265SnapshotFrame × World}
    (hcopy : s.1.copyAu = true) (hroom : s.1.au.len + 4 * buf.length ≤ sizeMax) {w : World}
    (hopen : w.GateOpen) :
    SplitsAlike env dest buf timestamp ssrc marker nalus s w ↔ ShortNalusLast buf := by
  have hlen : 2 ≤ buf.length := by
    have hthree := length_of_bufferStartsWithStartCode hstart
    omega
  have hsnapshot := bytes_h265SnapshotFeedBuffer halloc hstart hlen hbuf hcopy hroom
  have hplayback :=
    sends_datafifoProcessH265Buffer dest timestamp ssrc marker hkeeps hsend hstart hlen hopen
  have hplain := sends_sendH265BufferRtp dest timestamp ssrc marker hsend hstart hlen w
  rw [← shortNalusLast_iff, ← loadAnnexbNalus_eq hload] at *
  constructor
  · intro h
    rw [← hplain, h.plain]
  · intro h
    exact ⟨by rw [hsnapshot, h], hplayback, by rw [hplain, h]⟩

/-- A NALU behind a start code of four bytes, and one of a single byte at the end. -/
def sampleShortLast : List UInt8 :=
  [0x00, 0x00, 0x00, 0x01, 0x26, 0x01, 0x00, 0x00, 0x01, 0x05]

/-- A NALU of a single byte, and a longer one. -/
def sampleShortFirst : List UInt8 := [0x00, 0x00, 0x01, 0x05, 0x00, 0x00, 0x01, 0x26, 0x01]

theorem splitsAlike_sample :
    SplitsAlike {} ⟨7, 5000⟩ sampleShortLast 0 0 1 [[0x26, 0x01], [0x05]]
      ({ copyAu := true }, {}) {} :=
  (splitsAlike_iff (fun n s hs => absurd hs (by simp)) (fun _ => rfl) (fun _ => rfl) (by decide)
    (by decide)
    (show loadAnnexbNalus (fun _ => true) sampleShortLast = some [[0x26, 0x01], [0x05]] by decide)
    rfl (by decide) ⟨rfl, rfl⟩).mpr (by decide)

/-- **A short NALU in front.** `load_annexb_nalus` returns both NALUs and playback sends the long
one; the plain sender sends nothing, and the snapshot has nothing. -/
theorem splitsAlike_fails :
    bufferStartsWithStartCode sampleShortFirst = true ∧
    loadAnnexbNalus (fun _ => true) sampleShortFirst = some [[0x05], [0x26, 0x01]] ∧
    sends (datafifoProcessH265BufferForPlayback {} ⟨7, 5000⟩ sampleShortFirst 0 0 1 true) {}
      = [[0x26, 0x01]] ∧
    sends (sendH265BufferRtp {} ⟨7, 5000⟩ sampleShortFirst 0 0 1) {} = [] ∧
    (h265SnapshotFeedBuffer {} sampleShortFirst ({ copyAu := true }, {})).2.1.au.bytes = [] := by
  decide

end LittleCore

import LittleCore.Snapshot.Process
import Mathlib.Algebra.Order.BigOperators.Group.List
import Mathlib.Algebra.Order.Ring.Nat

/-!
# What a message brings

As long as memory lasts, what `h265_snapshot_feed_nalu` does to the frame and to the parameter set
caches is a function of the NALUs alone. `Collected` is what has been gathered, `Collected.feed`
adds a NALU to it, and the code refines it, up to the loop over the packs of a message.

## Main results

* `Holds.feedBuffer` — a buffer brings the NALUs in front of the first one that is too short
* `collect_spec` — a message brings the NALUs of the packs that are mapped
-/

namespace LittleCore

open Library World

/-! ### What a NALU brings -/

/-- What `h265_append_annexb_nalu` adds to the access unit. -/
def storedUnit (nalu : List UInt8) : List UInt8 :=
  if (stripTrailingZeros nalu).length < 2 then [] else startCode ++ stripTrailingZeros nalu

/-- The NALUs of a buffer that are accepted. The walk ends at one of less than two bytes. -/
def fedNalus (buf : List UInt8) : List (List UInt8) :=
  if buf.length < 2 then []
  else if !bufferStartsWithStartCode buf then [buf]
  else ((annexbNalus h265FindStartCode buf).map Prod.fst).takeWhile (2 ≤ ·.length)

/-- What has been gathered: the access unit, whether there was an IRAP, and the parameter set
caches. -/
structure Collected where
  bytes : List UInt8 := []
  hasIrap : Bool := false
  sets : ParamSet → List UInt8

namespace Collected

def feed (c : Collected) (nalu : List UInt8) : Collected where
  bytes := c.bytes ++ storedUnit nalu
  hasIrap := c.hasIrap || h265NaluIsIrap (h265NaluType nalu)
  sets := match h265ParamCacheForType (h265NaluType nalu) with
    | none => c.sets
    | some kind => Function.update c.sets kind (storedUnit nalu)

variable (c : Collected) (nalus : List (List UInt8))

@[simp] theorem bytes_foldl : (nalus.foldl feed c).bytes = c.bytes ++ nalus.flatMap storedUnit := by
  induction nalus generalizing c with
  | nil => simp
  | cons nalu nalus ih => rw [List.foldl_cons, ih, List.flatMap_cons, feed, List.append_assoc]

@[simp] theorem hasIrap_foldl : (nalus.foldl feed c).hasIrap
    = (c.hasIrap || nalus.any fun nalu => h265NaluIsIrap (h265NaluType nalu)) := by
  induction nalus generalizing c with
  | nil => simp
  | cons nalu nalus ih => rw [List.foldl_cons, ih, List.any_cons, feed, Bool.or_assoc]

/-- A cache holds the last NALU of its kind. -/
theorem sets_foldl (kind : ParamSet) : (nalus.foldl feed c).sets kind
    = ((nalus.filter fun nalu =>
        h265ParamCacheForType (h265NaluType nalu) == some kind).getLast?.map
          storedUnit).getD (c.sets kind) := by
  induction nalus using List.reverseRecOn with
  | nil => rfl
  | append_singleton nalus nalu ih =>
    rw [List.foldl_concat, List.filter_append, feed]
    cases hkind : h265ParamCacheForType (h265NaluType nalu) with
    | none =>
      rw [List.filter_cons_of_neg (by simp [hkind]), List.filter_nil, List.append_nil, ← ih]
    | some kind' =>
      dsimp only
      by_cases h : kind' = kind
      · rw [List.filter_cons_of_pos (by simp [hkind, h]), List.filter_nil, List.getLast?_concat, h,
          Function.update_self]
        rfl
      · rw [List.filter_cons_of_neg (by simpa [hkind] using h), List.filter_nil, List.append_nil,
          Function.update_of_ne (Ne.symm h), ih]

end Collected

/-! ### Sizes

What is gathered from one message is far from the end of the address space. -/

/-- A bound for what NALUs can add to the access unit. -/
def room (nalus : List (List UInt8)) : ℕ := (nalus.map fun nalu => nalu.length + 4).sum

theorem length_stripTrailingZeros_le (nalu : List UInt8) :
    (stripTrailingZeros nalu).length ≤ nalu.length :=
  (List.rdropWhile_prefix _ nalu).length_le

theorem length_storedUnit_le (nalu : List UInt8) : (storedUnit nalu).length ≤ nalu.length + 4 := by
  have hle := length_stripTrailingZeros_le nalu
  rw [storedUnit]
  split
  · simp
  · rw [List.length_append, startCode]
    simp only [List.length_cons, List.length_nil]
    omega

theorem bounds_of_h265FindStartCode {buf : List UInt8} (hbuf : buf.length < 2 ^ 32)
    {offset p n : ℕ} (h : h265FindStartCode buf offset = some (p, n)) :
    offset ≤ p ∧ p + n ≤ buf.length ∧ 0 < n := by
  rw [h265FindStartCode] at h
  split at h
  · cases h
  · split at h
    · cases h
    · rename_i i scLen hfind
      obtain ⟨hle, hlen, hpos⟩ := bounds_of_findStartCodeFrom hfind
      rw [List.length_drop] at hlen
      rw [positionAsInt, Nat.mod_eq_of_lt (by omega)] at h
      split at h
      · cases h
        omega
      · cases h

/-- Pieces lie behind different start codes. -/
theorem room_annexbPieces_le {buf : List UInt8} (hbuf : buf.length < 2 ^ 32) (fuel offset : ℕ) :
    ((annexbPieces h265FindStartCode buf fuel offset).map fun p => p.1.length + 1).sum
      ≤ buf.length - offset := by
  induction fuel generalizing offset with
  | zero => simp [annexbPieces]
  | succ fuel ih =>
    rw [annexbPieces]
    split
    · simp
    · rename_i scPos scLen hsc
      obtain ⟨hle, hlen, hpos⟩ := bounds_of_h265FindStartCode hbuf hsc
      dsimp only
      have hpiece : ∀ naluEnd (b : Bool), scPos + scLen ≤ naluEnd →
          ((if stripTrailingZeros ((buf.take naluEnd).drop (scPos + scLen)) = [] then [] else
            [(stripTrailingZeros ((buf.take naluEnd).drop (scPos + scLen)), b)]).map
              fun p : List UInt8 × Bool => p.1.length + 1).sum ≤ naluEnd - offset := by
        intro naluEnd b hend
        have hstrip :=
          length_stripTrailingZeros_le ((buf.take naluEnd).drop (scPos + scLen))
        rw [List.length_drop, List.length_take] at hstrip
        split
        · simp
        · simp only [List.map_cons, List.map_nil, List.sum_cons, List.sum_nil]
          omega
      split
      · rename_i hnext
        rw [hnext]
        exact hpiece buf.length true hlen
      · rename_i nextPos nextLen hnext
        obtain ⟨hle', hlen', hpos'⟩ := bounds_of_h265FindStartCode hbuf hnext
        have hfirst := hpiece nextPos false hle'
        have hrest := ih nextPos
        rw [hnext, List.map_append, List.sum_append]
        simp only [Option.map_some, Option.getD_some, Option.isNone_some]
        omega

theorem room_fedNalus_le {buf : List UInt8} (hbuf : buf.length < 2 ^ 32) :
    room (fedNalus buf) ≤ 4 * buf.length := by
  rw [fedNalus]
  split
  · simp [room]
  · split
    · simp only [room, List.map_cons, List.map_nil, List.sum_cons, List.sum_nil]
      omega
    · have hpieces := room_annexbPieces_le hbuf (buf.length + 1) 0
      have hsum : ∀ l : List (List UInt8), room (l.takeWhile (2 ≤ ·.length))
          ≤ 4 * (l.map fun nalu => nalu.length + 1).sum := by
        intro l
        induction l with
        | nil => simp [room]
        | cons nalu l ih =>
          rw [List.takeWhile_cons]
          split
          · simp only [room, List.map_cons, List.sum_cons] at ih ⊢
            omega
          · simp [room]
      refine (hsum _).trans ?_
      rw [List.map_map]
      change 4 * (List.map (fun p => p.1.length + 1) (annexbNalus _ _)).sum ≤ _
      rw [annexbNalus]
      omega

/-! ### The refinement -/

/-- The frame and the caches hold what has been gathered. -/
structure Holds (c : Collected) (s : H265SnapshotFrame × World) : Prop where
  bytes : s.1.au.bytes = c.bytes
  irap : s.1.hasIrap = c.hasIrap
  sets : ∀ kind, (s.2.gH265SnapshotCache.paramSet kind).bytes = c.sets kind
  copy : s.1.copyAu = true

theorem h265AppendAnnexbNalu_spec {dst : H265ByteBuffer} {nalu : List UInt8}
    (h : dst.len + (nalu.length + 4) ≤ sizeMax) :
    (h265AppendAnnexbNalu true true dst nalu).1 = true ∧
      (h265AppendAnnexbNalu true true dst nalu).2.bytes = dst.bytes ++ storedUnit nalu := by
  have hstrip := length_stripTrailingZeros_le nalu
  rw [h265AppendAnnexbNalu, storedUnit]
  split
  · simp
  · obtain ⟨hok, hbytes⟩ := h265BufferAppend_ok (show dst.len + startCode.length ≤ sizeMax by
      rw [startCode]
      simp only [List.length_cons, List.length_nil]
      omega)
    rw [← h265BufferAppendStartCode] at hok hbytes
    generalize h265BufferAppendStartCode true dst = r at hok hbytes
    obtain ⟨ok, b⟩ := r
    cases hok
    have hroom : b.len + (stripTrailingZeros nalu).length ≤ sizeMax := by
      rw [H265ByteBuffer.len] at h ⊢
      rw [hbytes, List.length_append, startCode]
      simp only [List.length_cons, List.length_nil]
      omega
    obtain ⟨hok', hbytes'⟩ := h265BufferAppend_ok hroom
    exact ⟨hok', by rw [hbytes', hbytes, List.append_assoc]⟩

@[simp] theorem paramSet_setParamSet (c : H265SnapshotCache) (b : H265ByteBuffer)
    (kind kind' : ParamSet) : (c.setParamSet b kind').paramSet kind
      = if kind = kind' then b else c.paramSet kind := by
  rcases kind <;> rcases kind' <;> rfl

namespace Holds

variable {env : Env} {c : Collected} {s : H265SnapshotFrame × World}

/-- A parameter set replaces the one in its cache. -/
theorem updateParamSet (h : Holds c s) (halloc : ∀ n, env.snapshotAlloc n = true)
    (nalType : Option UInt8) {annexbNalu : List UInt8} (hlen : annexbNalu.length ≤ sizeMax) :
    Holds { c with sets := match h265ParamCacheForType nalType with
        | none => c.sets
        | some kind => Function.update c.sets kind annexbNalu }
      (h265SnapshotUpdateParamSet env nalType annexbNalu s) := by
  rw [h265SnapshotUpdateParamSet]
  cases h265ParamCacheForType nalType with
  | none => exact h
  | some kind =>
    have hmark : ∀ frame : H265SnapshotFrame, (frame.mark kind).au = frame.au ∧
        (frame.mark kind).hasIrap = frame.hasIrap ∧
        (frame.mark kind).copyAu = frame.copyAu := by
      rcases kind <;> exact fun _ => ⟨rfl, rfl, rfl⟩
    obtain ⟨hau, hirap, hcopy⟩ := hmark s.1
    refine ⟨?_, ?_, fun kind' => ?_, ?_⟩
    · exact (congrArg H265ByteBuffer.bytes hau).trans h.bytes
    · exact hirap.trans h.irap
    · dsimp only
      rw [paramSet_setParamSet, Function.update_apply, halloc]
      split
      · exact (h265BufferReplace_ok _ hlen).2
      · exact h.sets kind'
    · exact hcopy.trans h.copy

/-- **A NALU** of at least two bytes is gathered. -/
theorem feedNalu (h : Holds c s) (halloc : ∀ n, env.snapshotAlloc n = true) {nalu : List UInt8}
    (hlen : 2 ≤ nalu.length) (hroom : c.bytes.length + (nalu.length + 4) ≤ sizeMax) :
    (h265SnapshotFeedNalu env nalu s).1 = true ∧
      Holds (c.feed nalu) (h265SnapshotFeedNalu env nalu s).2 := by
  have hcopy : ∀ frame : H265SnapshotFrame, frame.copyAu = true →
      (!frame.copyAu && !frame.hasIrap && !h265IsParameterSet (h265NaluType nalu) &&
        !s.2.gH265SnapshotCache.currentGopHasIrap) = false := by
    intro frame hframe
    rw [hframe]
    rfl
  rw [h265SnapshotFeedNalu, if_neg (by omega)]
  dsimp only
  have hframe : ∃ frame : H265SnapshotFrame, frame = (if h265NaluIsIrap (h265NaluType nalu) then
      { s.1 with hasIrap := true } else s.1) ∧ frame.au = s.1.au ∧ frame.copyAu = true ∧
      frame.hasIrap = (c.feed nalu).hasIrap := by
    refine ⟨_, rfl, ?_⟩
    rw [Collected.feed, ← h.irap]
    split
    · rename_i hirap
      exact ⟨rfl, h.copy, by rw [hirap, Bool.or_true]⟩
    · rename_i hirap
      exact ⟨rfl, h.copy, by rw [Bool.eq_false_iff.mpr hirap, Bool.or_false]⟩
  obtain ⟨frame, heq, hau, hframeCopy, hirap⟩ := hframe
  rw [← heq, hcopy frame hframeCopy, if_neg (by decide), halloc, halloc, hau]
  have hfits : s.1.au.len + (nalu.length + 4) ≤ sizeMax := by
    rw [H265ByteBuffer.len, h.bytes]
    exact hroom
  obtain ⟨hok, hbytes⟩ := h265AppendAnnexbNalu_spec hfits
  generalize h265AppendAnnexbNalu true true s.1.au nalu = r at hok hbytes
  obtain ⟨ok, au⟩ := r
  cases hok
  have hunit : au.bytes.drop s.1.au.len = storedUnit nalu := by
    rw [hbytes]
    exact List.drop_left
  have hgathered : Holds { c with bytes := c.bytes ++ storedUnit nalu
                                  hasIrap := (c.feed nalu).hasIrap }
      ({ frame with au := au }, s.2.snapshotStep.snapshotStep) :=
    ⟨by rw [← h.bytes, ← hbytes], hirap, h.sets, hframeCopy⟩
  have hlen := length_storedUnit_le nalu
  have hset := hgathered.updateParamSet halloc (h265NaluType nalu)
    (show (storedUnit nalu).length ≤ sizeMax by omega)
  dsimp only
  rw [hunit]
  split
  · exact ⟨rfl, hset.bytes, hset.irap, hset.sets, rfl⟩
  · exact ⟨rfl, hset⟩

end Holds

namespace Holds

variable {env : Env} {c : Collected} {s : H265SnapshotFrame × World}

/-- The walk over the NALUs ends at one that is too short. -/
theorem feedNalus (h : Holds c s) (halloc : ∀ n, env.snapshotAlloc n = true)
    {nalus : List (List UInt8)}
    (hroom : c.bytes.length + room (nalus.takeWhile (2 ≤ ·.length)) ≤ sizeMax) :
    Holds ((nalus.takeWhile (2 ≤ ·.length)).foldl Collected.feed c)
      (forEach (h265SnapshotFeedNalu env) nalus s).2 := by
  induction nalus generalizing c s with
  | nil => exact h
  | cons nalu nalus ih =>
    by_cases hlen : 2 ≤ nalu.length
    · have htake : (nalu :: nalus).takeWhile (2 ≤ ·.length)
          = nalu :: nalus.takeWhile (2 ≤ ·.length) := by simp [hlen]
      rw [htake] at hroom ⊢
      rw [room, List.map_cons, List.sum_cons, ← room] at hroom
      obtain ⟨hok, hfed⟩ := h.feedNalu halloc hlen (by omega)
      have hunit := length_storedUnit_le nalu
      rw [forEach_cons_of_ok hok, List.foldl_cons]
      refine ih hfed ?_
      rw [Collected.feed, List.length_append]
      omega
    · have hfail : h265SnapshotFeedNalu env nalu s = (false, s) := by
        rw [h265SnapshotFeedNalu, if_pos (by omega)]
      rw [forEach_cons_of_fail (by rw [hfail]), hfail]
      simpa [List.takeWhile_cons, hlen] using h

/-- **A buffer** brings the NALUs that are accepted. -/
theorem feedBuffer (h : Holds c s) (halloc : ∀ n, env.snapshotAlloc n = true) {buf : List UInt8}
    (hroom : c.bytes.length + room (fedNalus buf) ≤ sizeMax) :
    Holds ((fedNalus buf).foldl Collected.feed c) (h265SnapshotFeedBuffer env buf s).2 := by
  rw [fedNalus] at hroom ⊢
  rw [h265SnapshotFeedBuffer]
  split
  · exact h
  · rename_i hlen
    rw [if_neg hlen] at hroom
    split
    · rename_i hraw
      rw [if_pos hraw] at hroom
      exact (h.feedNalu halloc (by omega) (by simpa [room] using hroom)).2
    · rename_i hraw
      rw [if_neg hraw] at hroom
      have hnalus := h.feedNalus halloc hroom
      dsimp only
      generalize forEach (h265SnapshotFeedNalu env) _ s = r at hnalus
      obtain ⟨_ | _, s'⟩ := r <;> exact hnalus

/-- A pack that is mapped brings its NALUs, and no other pack brings any. -/
theorem pack (h : Holds c s) (halloc : ∀ n, env.snapshotAlloc n = true) (pack : MppNaluIpcPack)
    (hroom : c.bytes.length + room (fedNalus pack.bytes) ≤ sizeMax) :
    (snapshotPack env pack s).1 = true ∧
        Holds ((fedNalus pack.bytes).foldl Collected.feed c) (snapshotPack env pack s).2 ∨
      (snapshotPack env pack s).1 = false ∧ Holds c (snapshotPack env pack s).2 := by
  rw [snapshotPack, naluDatafifoMmapPack]
  split_ifs
  · exact .inr ⟨rfl, h.bytes, h.irap, h.sets, h.copy⟩
  · have hmapped : Holds c (s.1, s.2.snapshotStep.emit (.mmap (.snapshot s.2.snapshotTick) pack)) :=
      ⟨h.bytes, h.irap, h.sets, h.copy⟩
    have hfed := hmapped.feedBuffer halloc hroom
    exact .inl ⟨rfl, hfed.bytes, hfed.irap, hfed.sets, hfed.copy⟩
  · exact .inr ⟨rfl, h.bytes, h.irap, h.sets, h.copy⟩

end Holds

/-- **A message** brings the NALUs of the packs that are mapped. -/
theorem collect_spec {env : Env} (halloc : ∀ n, env.snapshotAlloc n = true)
    (packs : List MppNaluIpcPack) {c : Collected} {s : H265SnapshotFrame × World} (h : Holds c s)
    (hroom : c.bytes.length + 4 * (packs.map fun pack => pack.bytes.length).sum ≤ sizeMax) :
    Holds (((completed (snapshotPack env) packs s).flatMap fun pack =>
        fedNalus pack.bytes).foldl Collected.feed c) (forEach (snapshotPack env) packs s).2 := by
  induction packs generalizing c s with
  | nil => exact h
  | cons pack packs ih =>
    have hfed := room_fedNalus_le (show pack.bytes.length < 2 ^ 32 by
      rw [pack.length_bytes]
      exact pack.len.toNat_lt)
    rw [List.map_cons, List.sum_cons] at hroom
    rw [completed]
    rcases h.pack halloc pack (by omega) with ⟨hok, hpack⟩ | ⟨hfail, hpack⟩
    · have hbytes : ((fedNalus pack.bytes).foldl Collected.feed c).bytes.length
          ≤ c.bytes.length + room (fedNalus pack.bytes) := by
        rw [Collected.bytes_foldl, List.length_append, List.length_flatMap, room]
        exact Nat.add_le_add_left (List.sum_le_sum fun nalu _ => length_storedUnit_le nalu) _
      rw [forEach_cons_of_ok hok, if_pos hok, List.flatMap_cons, List.foldl_append]
      exact ih hpack (by omega)
    · rw [forEach_cons_of_fail hfail, if_neg (Bool.eq_false_iff.mp hfail)]
      exact hpack

/-- Eight packs are not too many. -/
theorem room_usedPacks (msg : MppNaluIpcMsg) :
    4 * (msg.usedPacks.map fun pack => pack.bytes.length).sum ≤ 2 ^ 37 := by
  have hsum : ∀ packs : List MppNaluIpcPack,
      (packs.map fun pack => pack.bytes.length).sum ≤ packs.length * 2 ^ 32 := by
    intro packs
    refine (List.sum_le_card_nsmul _ (2 ^ 32) fun n hn => ?_).trans (by simp)
    obtain ⟨pack, -, rfl⟩ := List.mem_map.mp hn
    rw [pack.length_bytes]
    exact pack.len.toNat_lt.le
  have hcount : msg.usedPacks.length ≤ 8 := by
    rw [MppNaluIpcMsg.usedPacks, List.length_take, msg.length_packs]
    exact Nat.min_le_right _ _
  have hpacks := hsum msg.usedPacks
  have hmul := Nat.mul_le_mul_right (2 ^ 32) hcount
  omega

end LittleCore

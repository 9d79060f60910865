import Mathlib.Algebra.Group.Nat.Defs
import Mathlib.Data.Nat.Notation
import Mathlib.Tactic.Common

/-!
# DATAFIFO items

`mpp_nalu_ipc_msg` and `mpp_nalu_ipc_pack` of `nalu_datafifo.h`, an item as
`nalu_datafifo_read` returns it, and `nalu_datafifo_validate_msg`.

A pack names a range of physical memory. The big core leaves that memory alone until the item is
marked `READ_DONE`, so a pack carries the bytes its range holds, as many as `len` says. The fields
`pts` and `type` of a pack and `chn` and `submit_time_ms` of a message are only printed and are
left out.
-/

namespace LittleCore

/-- `mpp_nalu_ipc_pack`, with the content of the memory it names. -/
structure MppNaluIpcPack where
  physAddr : UInt64
  len : UInt32
  bytes : List UInt8
  length_bytes : bytes.length = len.toNat
deriving DecidableEq

/-- `MPP_NALU_IPC_MAX_PACKS`. -/
def mppNaluIpcMaxPacks : ℕ := 8

def mppNaluIpcMagic : UInt32 := 0x4E414C55

def mppNaluIpcVersion : UInt32 := 1

/-- Bit 0 of `reserved`. -/
def mppNaluIpcFlagSnapshot : UInt32 := 1

/-- `mpp_nalu_ipc_msg`. The array `packs` always has its eight entries; `pack_cnt` tells how many
of them are in use. -/
structure MppNaluIpcMsg where
  magic : UInt32
  version : UInt32
  packCnt : UInt32
  seq : UInt64
  framePts : UInt64
  totalLen : UInt32
  reserved : UInt32
  packs : List MppNaluIpcPack
  length_packs : packs.length = mppNaluIpcMaxPacks
deriving DecidableEq

namespace MppNaluIpcMsg

/-- The packs a loop `for (i = 0; i < msg->pack_cnt; i++)` visits. -/
def usedPacks (msg : MppNaluIpcMsg) : List MppNaluIpcPack := msg.packs.take msg.packCnt.toNat

/-- `msg->reserved & MPP_NALU_IPC_FLAG_SNAPSHOT`. -/
def flagged (msg : MppNaluIpcMsg) : Bool := msg.reserved &&& mppNaluIpcFlagSnapshot != 0

end MppNaluIpcMsg

/-- What one successful `nalu_datafifo_read` hands out: the item pointer and the message there. -/
structure Item where
  ptr : ℕ
  msg : MppNaluIpcMsg
deriving DecidableEq

/-- The pack loop of `nalu_datafifo_validate_msg`: `none` where it returns `-1`, otherwise the
32-bit sum of the lengths. -/
def validatePacks : List MppNaluIpcPack → UInt32 → Option UInt32
  | [], sumLen => some sumLen
  | pack :: packs, sumLen =>
    if pack.physAddr = 0 ∨ pack.len = 0 then none
    else if pack.len > 8 * 1024 * 1024 ∨ sumLen > 0xffffffff - pack.len then none
    else validatePacks packs (sumLen + pack.len)

/-- `nalu_datafifo_validate_msg(msg) == 0`. -/
def naluDatafifoValidateMsg (msg : MppNaluIpcMsg) : Bool :=
  if msg.magic ≠ mppNaluIpcMagic then false
  else if msg.version ≠ mppNaluIpcVersion then false
  else if msg.packCnt = 0 ∨ msg.packCnt.toNat > mppNaluIpcMaxPacks then false
  else
    match validatePacks msg.usedPacks 0 with
    | none => false
    | some sumLen => !(msg.totalLen ≠ 0 ∧ msg.totalLen ≠ sumLen)

/-- Every pack of a valid message can be mapped. -/
theorem mappable_of_valid {msg : MppNaluIpcMsg} (h : naluDatafifoValidateMsg msg) :
    ∀ pack ∈ msg.usedPacks, pack.physAddr ≠ 0 ∧ pack.len ≠ 0 := by
  have hpacks : ∀ (packs : List MppNaluIpcPack) (sum sum' : UInt32),
      validatePacks packs sum = some sum' → ∀ pack ∈ packs, pack.physAddr ≠ 0 ∧ pack.len ≠ 0 := by
    intro packs
    induction packs with
    | nil => simp
    | cons pack packs ih =>
      intro sum sum' hsum pack' hmem
      rw [validatePacks] at hsum
      split at hsum
      · simp at hsum
      · rename_i hpack
        split at hsum
        · simp at hsum
        · rcases List.mem_cons.mp hmem with rfl | hmem
          · simpa [not_or] using hpack
          · exact ih _ _ hsum pack' hmem
  rw [naluDatafifoValidateMsg] at h
  split_ifs at h
  cases hsum : validatePacks msg.usedPacks 0 with
  | none => simp [hsum] at h
  | some sum => exact hpacks _ _ _ hsum

end LittleCore

import LittleCore.Library.LittleEndian
import LittleCore.Message

/-!
# Two layouts under one version

`src` and `little_app` bring an `mpp_nalu_ipc_msg` each, with the same `MPP_NALU_IPC_MAGIC` and the
same `MPP_NALU_IPC_VERSION`. The one of `src` has `submit_time_ms` in front of `total_len`, so from
there on everything lies eight bytes further on, and neither `nalu_datafifo_validate_msg` can tell.

Items are little-endian, and every member of the two structures is aligned to its size, so there
are no gaps. The members up to `frame_pts` have the same place in both.

## Main results

* `read_shifted` — what a message of `src` is to `little_app`
* `layouts_agree_iff` — exactly which items both builds read the same way
-/

namespace LittleCore

open Library

/-! ### The two layouts -/

/-- An item of `MPP_NALU_IPC_ITEM_SIZE` bytes. -/
structure FifoItem where
  bytes : List UInt8
  length_bytes : bytes.length = 512

/-- `mpp_nalu_ipc_pack` as it lies in an item; it is the same in both builds. -/
structure IpcPack where
  physAddr : UInt64
  pts : UInt64
  len : UInt32
  type : UInt32
deriving DecidableEq

def IpcPack.read (bytes : List UInt8) (off : ℕ) : IpcPack where
  physAddr := u64At bytes off
  pts := u64At bytes (off + 8)
  len := u32At bytes (off + 16)
  type := u32At bytes (off + 20)

/-- An array of `n` packs at `off`. -/
def readPacks (bytes : List UInt8) (off : ℕ) : ℕ → List IpcPack
  | 0 => []
  | n + 1 => .read bytes off :: readPacks bytes (off + 24) n

theorem length_readPacks (bytes : List UInt8) (off n : ℕ) :
    (readPacks bytes off n).length = n := by
  induction n generalizing off with
  | zero => rfl
  | succ n ih => rw [readPacks, List.length_cons, ih]

/-- `mpp_nalu_ipc_msg` of `src`. -/
structure SrcMsg where
  magic : UInt32
  version : UInt32
  chn : UInt32
  packCnt : UInt32
  seq : UInt64
  framePts : UInt64
  submitTimeMs : UInt64
  totalLen : UInt32
  reserved : UInt32
  packs : List IpcPack
  length_packs : packs.length = mppNaluIpcMaxPacks

def SrcMsg.read (item : FifoItem) : SrcMsg where
  magic := u32At item.bytes 0
  version := u32At item.bytes 4
  chn := u32At item.bytes 8
  packCnt := u32At item.bytes 12
  seq := u64At item.bytes 16
  framePts := u64At item.bytes 24
  submitTimeMs := u64At item.bytes 32
  totalLen := u32At item.bytes 40
  reserved := u32At item.bytes 44
  packs := readPacks item.bytes 48 mppNaluIpcMaxPacks
  length_packs := length_readPacks ..

/-- `mpp_nalu_ipc_msg` of `little_app`. -/
structure LittleAppMsg where
  magic : UInt32
  version : UInt32
  chn : UInt32
  packCnt : UInt32
  seq : UInt64
  framePts : UInt64
  totalLen : UInt32
  reserved : UInt32
  packs : List IpcPack
  length_packs : packs.length = mppNaluIpcMaxPacks

def LittleAppMsg.read (item : FifoItem) : LittleAppMsg where
  magic := u32At item.bytes 0
  version := u32At item.bytes 4
  chn := u32At item.bytes 8
  packCnt := u32At item.bytes 12
  seq := u64At item.bytes 16
  framePts := u64At item.bytes 24
  totalLen := u32At item.bytes 32
  reserved := u32At item.bytes 36
  packs := readPacks item.bytes 40 mppNaluIpcMaxPacks
  length_packs := length_readPacks ..

/-- The packs in use. -/
def SrcMsg.usedPacks (msg : SrcMsg) : List IpcPack := msg.packs.take msg.packCnt.toNat

def LittleAppMsg.usedPacks (msg : LittleAppMsg) : List IpcPack := msg.packs.take msg.packCnt.toNat

/-! ### The two validators -/

/-- The pack with the memory that it names. -/
def IpcPack.inMemory (memory : UInt64 → UInt8) (pack : IpcPack) : MppNaluIpcPack where
  physAddr := pack.physAddr
  len := pack.len
  bytes := (List.range pack.len.toNat).map fun i => memory (pack.physAddr + .ofNat i)
  length_bytes := by rw [List.length_map, List.length_range]

/-- The message as the sender of `src` works on it. -/
def SrcMsg.inMemory (memory : UInt64 → UInt8) (msg : SrcMsg) : MppNaluIpcMsg where
  magic := msg.magic
  version := msg.version
  packCnt := msg.packCnt
  seq := msg.seq
  framePts := msg.framePts
  totalLen := msg.totalLen
  reserved := msg.reserved
  packs := msg.packs.map (·.inMemory memory)
  length_packs := by rw [List.length_map, msg.length_packs]

/-- `nalu_datafifo_validate_msg(msg) == 0` in `little_app`, which looks at fewer things. -/
def littleAppValidateMsg (msg : LittleAppMsg) : Bool :=
  if msg.magic ≠ mppNaluIpcMagic then false
  else if msg.version ≠ mppNaluIpcVersion then false
  else if msg.packCnt = 0 ∨ msg.packCnt.toNat > mppNaluIpcMaxPacks then false
  else msg.usedPacks.all fun pack => !(pack.physAddr = 0 ∨ pack.len = 0)

/-- The two builds have the same message before them. -/
structure SameReading (msg : SrcMsg) (msg' : LittleAppMsg) : Prop where
  seq : msg.seq = msg'.seq
  framePts : msg.framePts = msg'.framePts
  totalLen : msg.totalLen = msg'.totalLen
  reserved : msg.reserved = msg'.reserved
  packs : msg.usedPacks.map (fun pack => (pack.physAddr, pack.len))
    = msg'.usedPacks.map fun pack => (pack.physAddr, pack.len)

/-! ### Eight bytes further on -/

/-- What an array of packs is to a reader that starts eight bytes before it, at `previous`. -/
def shiftedPacks (previous : UInt64) : List IpcPack → List IpcPack
  | [] => []
  | pack :: packs => ⟨previous, pack.physAddr, lowWord pack.pts, highWord pack.pts⟩ ::
      shiftedPacks (joinWords pack.len pack.type) packs

theorem length_shiftedPacks (previous : UInt64) (packs : List IpcPack) :
    (shiftedPacks previous packs).length = packs.length := by
  induction packs generalizing previous with
  | nil => rfl
  | cons pack packs ih => rw [shiftedPacks, List.length_cons, List.length_cons, ih]

theorem take_shiftedPacks (previous : UInt64) (packs : List IpcPack) (n : ℕ) :
    (shiftedPacks previous packs).take n = shiftedPacks previous (packs.take n) := by
  induction packs generalizing previous n with
  | nil => simp [shiftedPacks]
  | cons pack packs ih =>
    cases n with
    | zero => rfl
    | succ n => rw [shiftedPacks, List.take_succ_cons, List.take_succ_cons, shiftedPacks, ih]

theorem readPacks_shifted {bytes : List UInt8} {off : ℕ} (n : ℕ)
    (h : off + 24 * n + 8 ≤ bytes.length) :
    readPacks bytes off n = shiftedPacks (u64At bytes off) (readPacks bytes (off + 8) n) := by
  induction n generalizing off with
  | zero => rfl
  | succ n ih =>
    rw [readPacks, readPacks, shiftedPacks, ih (by omega)]
    refine congrArg₂ List.cons ?_ ?_
    · rw [IpcPack.read, IpcPack.read, lowWord_u64At (by omega), highWord_u64At (by omega)]
    · rw [IpcPack.read, joinWords_u32At (by omega)]

/-- What a message of `src` is to `little_app`. -/
def SrcMsg.shifted (msg : SrcMsg) : LittleAppMsg where
  magic := msg.magic
  version := msg.version
  chn := msg.chn
  packCnt := msg.packCnt
  seq := msg.seq
  framePts := msg.framePts
  totalLen := lowWord msg.submitTimeMs
  reserved := highWord msg.submitTimeMs
  packs := shiftedPacks (joinWords msg.totalLen msg.reserved) msg.packs
  length_packs := by rw [length_shiftedPacks, msg.length_packs]

theorem read_shifted (item : FifoItem) : LittleAppMsg.read item = (SrcMsg.read item).shifted := by
  have hlen := item.length_bytes
  have hpacks := @readPacks_shifted item.bytes 40 mppNaluIpcMaxPacks
    (by rw [hlen, mppNaluIpcMaxPacks]; omega)
  have hlow := @lowWord_u64At item.bytes 32 (by omega)
  have hhigh := @highWord_u64At item.bytes 32 (by omega)
  have hjoin := @joinWords_u32At item.bytes 40 (by omega)
  simp only [LittleAppMsg.read, SrcMsg.shifted, SrcMsg.read, hlow, hhigh, hjoin, hpacks]

/-! ### When it does not matter -/

/-- Every pack has the address that stands in the eight bytes before it, and the length that stands
in the low half of its `pts`. -/
def PacksCoincide (previous : UInt64) : List IpcPack → Prop
  | [] => True
  | pack :: packs => (pack.physAddr = previous ∧ pack.len = lowWord pack.pts) ∧
      PacksCoincide (joinWords pack.len pack.type) packs

theorem packsCoincide_iff (previous : UInt64) (packs : List IpcPack) :
    packs.map (fun pack => (pack.physAddr, pack.len))
        = (shiftedPacks previous packs).map (fun pack => (pack.physAddr, pack.len)) ↔
      PacksCoincide previous packs := by
  induction packs generalizing previous with
  | nil => exact ⟨fun _ => trivial, fun _ => rfl⟩
  | cons pack packs ih =>
    rw [shiftedPacks, List.map_cons, List.map_cons, List.cons.injEq, Prod.mk.injEq, ih,
      PacksCoincide]

/-- The message repeats itself eight bytes further on, wherever `little_app` reads it. -/
def SrcMsg.Coincides (msg : SrcMsg) : Prop :=
  msg.submitTimeMs = joinWords msg.totalLen msg.reserved ∧
    PacksCoincide (joinWords msg.totalLen msg.reserved) msg.usedPacks

theorem sameReading_shifted (msg : SrcMsg) : SameReading msg msg.shifted ↔ msg.Coincides := by
  have hused : msg.shifted.usedPacks
      = shiftedPacks (joinWords msg.totalLen msg.reserved) msg.usedPacks :=
    take_shiftedPacks ..
  constructor
  · intro h
    have hpacks := h.packs
    rw [hused, packsCoincide_iff] at hpacks
    refine ⟨?_, hpacks⟩
    rw [h.totalLen, h.reserved]
    exact (joinWords_lowWord_highWord _).symm
  · rintro ⟨hsubmit, hpacks⟩
    refine ⟨rfl, rfl, ?_, ?_, ?_⟩
    · rw [SrcMsg.shifted, hsubmit, lowWord_joinWords]
    · rw [SrcMsg.shifted, hsubmit, highWord_joinWords]
    · rwa [hused, packsCoincide_iff]

theorem all_shiftedPacks {previous : UInt64} {packs : List IpcPack}
    (hlen : ∀ pack ∈ packs, pack.len ≠ 0) :
    ((shiftedPacks previous packs).all fun pack => !(pack.physAddr = 0 ∨ pack.len = 0)) ↔
      (packs ≠ [] → previous ≠ 0) ∧ ∀ pack ∈ packs, lowWord pack.pts ≠ 0 := by
  induction packs generalizing previous with
  | nil => simp [shiftedPacks]
  | cons pack packs ih =>
    have hnext : joinWords pack.len pack.type ≠ 0 := fun hzero =>
      hlen pack (List.mem_cons_self ..) (joinWords_eq_zero.mp hzero).1
    rw [shiftedPacks, List.all_cons, Bool.and_eq_true,
      ih fun pack' hmem => hlen pack' (List.mem_cons_of_mem _ hmem)]
    simp [hnext, and_assoc]

/-- `little_app` refuses a message that `src` accepts where it finds no address in front of the
first pack, or no length in a `pts`. -/
theorem littleAppValidateMsg_shifted {memory : UInt64 → UInt8} {msg : SrcMsg}
    (h : naluDatafifoValidateMsg (msg.inMemory memory)) :
    littleAppValidateMsg msg.shifted ↔ ¬ (msg.totalLen = 0 ∧ msg.reserved = 0) ∧
      ∀ pack ∈ msg.usedPacks, lowWord pack.pts ≠ 0 := by
  have hlen : ∀ pack ∈ msg.usedPacks, pack.len ≠ 0 := by
    intro pack hmem
    refine (mappable_of_valid h (pack.inMemory memory) ?_).2
    rw [MppNaluIpcMsg.usedPacks, SrcMsg.inMemory, ← List.map_take]
    exact List.mem_map_of_mem hmem
  have hused : msg.shifted.usedPacks
      = shiftedPacks (joinWords msg.totalLen msg.reserved) msg.usedPacks :=
    take_shiftedPacks ..
  rw [naluDatafifoValidateMsg] at h
  split_ifs at h with hmagic hversion hcnt
  have hne : msg.usedPacks ≠ [] := by
    have hcnt' : msg.packCnt ≠ 0 := fun hzero => hcnt (.inl hzero)
    have hpos : msg.packCnt.toNat ≠ 0 := fun hzero => hcnt' (UInt32.toNat_inj.mp hzero)
    have hlength := msg.length_packs
    intro hnil
    have := congrArg List.length hnil
    rw [SrcMsg.usedPacks, List.length_take, hlength, mppNaluIpcMaxPacks, List.length_nil] at this
    omega
  -- The first three tests look at members that have the same place.
  rw [littleAppValidateMsg, if_neg (show ¬ msg.shifted.magic ≠ mppNaluIpcMagic from hmagic),
    if_neg (show ¬ msg.shifted.version ≠ mppNaluIpcVersion from hversion),
    if_neg (show ¬ (msg.shifted.packCnt = 0 ∨ msg.shifted.packCnt.toNat > mppNaluIpcMaxPacks)
      from hcnt), hused,
    all_shiftedPacks hlen, ← joinWords_eq_zero]
  exact and_congr_left' (forall_prop_of_true hne)

/-- **Exactly which items both builds read the same way.** -/
theorem layouts_agree_iff (memory : UInt64 → UInt8) (item : FifoItem) :
    (naluDatafifoValidateMsg ((SrcMsg.read item).inMemory memory) →
      littleAppValidateMsg (LittleAppMsg.read item) →
      SameReading (SrcMsg.read item) (LittleAppMsg.read item)) ↔
    (naluDatafifoValidateMsg ((SrcMsg.read item).inMemory memory) →
      ((SrcMsg.read item).totalLen = 0 ∧ (SrcMsg.read item).reserved = 0) ∨
      (∃ pack ∈ (SrcMsg.read item).usedPacks, lowWord pack.pts = 0) ∨
      (SrcMsg.read item).Coincides) := by
  rw [read_shifted, sameReading_shifted]
  refine forall_congr' ?_
  intro hvalid
  rw [littleAppValidateMsg_shifted hvalid]
  grind

/-! ### A message of the big core -/

/-- One pack of two bytes, with the time of its submission and its `pts`. -/
def submittedBytes : List UInt8 :=
  [0x55, 0x4C, 0x41, 0x4E, 1, 0, 0, 0, 0, 0, 0, 0, 1, 0, 0, 0, 1, 0, 0, 0, 0, 0, 0, 0,
    0x40, 0x9C, 0, 0, 0, 0, 0, 0, 0x39, 0x30, 0, 0, 0, 0, 0, 0, 2, 0, 0, 0, 0, 0, 0, 0,
    0, 0, 0, 0x10, 0, 0, 0, 0, 0x40, 0x9C, 0, 0, 0, 0, 0, 0, 2, 0, 0, 0, 1, 0, 0, 0]

theorem length_submittedBytes : (submittedBytes ++ List.replicate 440 0).length = 512 := by
  rw [List.length_append, List.length_replicate]
  rfl

def submittedItem : FifoItem := ⟨submittedBytes ++ List.replicate 440 0, length_submittedBytes⟩

/-- **A message that both builds accept** and that `little_app` takes for another one: 12345 bytes
in all, of which 40000 are at address 2. -/
theorem layouts_disagree :
    (SrcMsg.read submittedItem).totalLen = 2 ∧ (LittleAppMsg.read submittedItem).totalLen = 12345 ∧
      (LittleAppMsg.read submittedItem).usedPacks.map (fun pack => (pack.physAddr, pack.len))
        = [(2, 40000)] ∧
      ¬ ∀ (memory : UInt64 → UInt8) (item : FifoItem),
        naluDatafifoValidateMsg ((SrcMsg.read item).inMemory memory) →
        littleAppValidateMsg (LittleAppMsg.read item) →
        SameReading (SrcMsg.read item) (LittleAppMsg.read item) := by
  refine ⟨by decide, by decide, by decide, fun h => ?_⟩
  have htotal := (h (fun _ => 0) submittedItem (by decide) (by decide)).totalLen
  revert htotal
  decide

end LittleCore

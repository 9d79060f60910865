import LittleCore.Library.Alignment
import LittleCore.World
import Mathlib.Algebra.Ring.Int.Defs

/-!
# Windows on physical memory

`little_sys_mmap` and `little_sys_munmap` of `nalu_datafifo.c`. A pack may begin anywhere in a page,
`mmap` takes whole pages only. So one function maps the pages that the pack touches and returns a
pointer into them, and the other finds the pages again from the pointer.

What the system answers is an argument. Words are 64 bits wide, and so is `off_t`, which is signed;
`NULL` is the word 0.

## Main results

* `pack_in_window` — the bytes of a pack are behind the pointer
* `windows_agree` — the window is the smallest that will do, and it is found again
-/

namespace LittleCore

open Library

/-- The system under the two functions. -/
structure MemSystem where
  /-- `sysconf(_SC_PAGESIZE)`. -/
  pageSize : Int64
  /-- `open("/dev/mem", ..)`. -/
  openMem : ℤ
  /-- `mmap`, by descriptor, length and offset; `none` for `MAP_FAILED`. -/
  mmap : ℤ → UInt64 → Int64 → Option UInt64
  /-- `munmap(addr, length) == 0`. -/
  munmap : UInt64 → UInt64 → Bool

/-- The descriptor of `/dev/mem` that `little_sys_mmap` goes on with: `g_datafifo_mem_fd`, or a new
one if there is none yet. -/
def MemSystem.memFd (sys : MemSystem) (fd : ℤ) : ℤ := if fd < 0 then sys.openMem else fd

/-- What `mmap` promises: it returns the address of a page, and never 0. -/
def MemSystem.MapsPages (sys : MemSystem) (page : ℕ) : Prop :=
  ∀ fd length offset base, sys.mmap fd length offset = some base → base ≠ 0 ∧ page ∣ base.toNat

/-- A mapping: where it is, its length, and the offset in the memory. -/
structure MmapWindow where
  base : UInt64
  length : UInt64
  offset : Int64
deriving DecidableEq

/-- The physical address that a window begins at. -/
def MmapWindow.start (window : MmapWindow) : ℕ := window.offset.toUInt64.toNat

/-- `little_sys_mmap`: the pointer, the mapping made, and `g_datafifo_mem_fd`. -/
def littleSysMmap (sys : MemSystem) (fd : ℤ) (physAddr : UInt64) (size : UInt32) :
    UInt64 × Option MmapWindow × ℤ :=
  if size = 0 then (0, none, fd)
  else if sys.pageSize ≤ 0 then (0, none, fd)
  else
    let pageMask := sys.pageSize.toUInt64 - 1
    let pageOffset := physAddr &&& pageMask
    let mmapSize := (size.toUInt64 + pageOffset + pageMask) &&& ~~~pageMask
    let mmapOffset := (physAddr &&& ~~~pageMask).toInt64
    let fd := if fd < 0 then sys.openMem else fd
    if fd < 0 then (0, none, fd)
    else
      match sys.mmap fd mmapSize mmapOffset with
      | none => (0, none, fd)
      | some mmapAddr => (mmapAddr + pageOffset, some ⟨mmapAddr, mmapSize, mmapOffset⟩, fd)

/-- `little_sys_munmap`: whether it returns 0, and the arguments of `munmap`. -/
def littleSysMunmap (sys : MemSystem) (physAddr virtAddr : UInt64) (size : UInt32) :
    Bool × Option (UInt64 × UInt64) :=
  if virtAddr = 0 ∨ size = 0 then (false, none)
  else if sys.pageSize ≤ 0 then (false, none)
  else
    let pageMask := sys.pageSize.toUInt64 - 1
    let pageOffset := physAddr &&& pageMask
    let mmapSize := (size.toUInt64 + pageOffset + pageMask) &&& ~~~pageMask
    let mmapAddr := virtAddr - pageOffset
    (sys.munmap mmapAddr mmapSize, some (mmapAddr, mmapSize))

/-- A window on `size` bytes from `physAddr` on. It begins at the page of `physAddr`, and no fewer
pages would cover the bytes. -/
structure Covers (page : ℕ) (physAddr : UInt64) (size : UInt32) (window : MmapWindow) : Prop where
  aligned : (page : ℤ) ∣ window.offset.toInt
  start_le : window.start ≤ physAddr.toNat
  lt_page : physAddr.toNat < window.start + page
  length : IsLeast {n | page ∣ n ∧ physAddr.toNat + size.toNat ≤ window.start + n}
    window.length.toNat

/-! ### Masks -/

section Masks

variable {k : ℕ} {pageMask : UInt64}

/-- The mask of a page size that is a power of two. -/
theorem toNat_pageMask {pageSize : Int64} (hpage : pageSize.toInt = 2 ^ k) :
    (pageSize.toUInt64 - 1).toNat = 2 ^ k - 1 := by
  have hpos : 0 ≤ pageSize := by
    rw [Int64.le_iff_toInt_le, hpage]
    exact Int.pow_nonneg (by decide)
  have hnat : pageSize.toUInt64.toNat = 2 ^ k := by
    rw [Int64.toNat_toUInt64_of_le hpos, Int64.toNatClampNeg, hpage]
    exact Int.toNat_natCast _
  rw [UInt64.toNat_sub_of_le, hnat]
  · rfl
  · rw [UInt64.le_iff_toNat_le, hnat]
    exact Nat.one_le_two_pow

theorem toNat_pageOffset (hmask : pageMask.toNat = 2 ^ k - 1) (physAddr : UInt64) :
    (physAddr &&& pageMask).toNat = physAddr.toNat % 2 ^ k :=
  toNat_and_mask hmask physAddr.toBitVec

theorem toNat_pageStart (hmask : pageMask.toNat = 2 ^ k - 1) (physAddr : UInt64) :
    (physAddr &&& ~~~pageMask).toNat = physAddr.toNat / 2 ^ k * 2 ^ k :=
  toNat_and_not_mask hmask physAddr.toBitVec

/-- Sizes have 32 bits and pages at most 30, so there is room for all three. -/
theorem mmapSize_room (hk : k ≤ 30) (hmask : pageMask.toNat = 2 ^ k - 1) (physAddr : UInt64)
    (size : UInt32) :
    size.toNat + (physAddr &&& pageMask).toNat + pageMask.toNat < 2 ^ 64 := by
  have hpow : 2 ^ k ≤ 2 ^ 30 := Nat.pow_le_pow_right (by omega) hk
  have hoffset : (physAddr &&& pageMask).toNat < 2 ^ k := by
    rw [toNat_pageOffset hmask]
    exact Nat.mod_lt _ (Nat.two_pow_pos k)
  have hsize := size.toNat_lt
  omega

theorem toNat_size_add {pageOffset : UInt64} {size : UInt32} {n : ℕ}
    (hroom : size.toNat + pageOffset.toNat + n < 2 ^ 64) :
    (size.toUInt64 + pageOffset).toNat = size.toNat + pageOffset.toNat := by
  rw [UInt64.toNat_add, UInt32.toNat_toUInt64]
  exact Nat.mod_eq_of_lt (by omega)

theorem toNat_mmapSize_sum (hk : k ≤ 30) (hmask : pageMask.toNat = 2 ^ k - 1) (physAddr : UInt64)
    (size : UInt32) :
    (size.toUInt64 + (physAddr &&& pageMask) + pageMask).toNat
      = size.toNat + (physAddr &&& pageMask).toNat + pageMask.toNat := by
  have hroom := mmapSize_room hk hmask physAddr size
  rw [UInt64.toNat_add, toNat_size_add hroom]
  exact Nat.mod_eq_of_lt hroom

/-- What is a multiple of a page stays one, also where `off_t` is negative. -/
theorem dvd_toInt64 (hk : k ≤ 30) {w : UInt64} (hw : 2 ^ k ∣ w.toNat) :
    ((2 ^ k : ℕ) : ℤ) ∣ w.toInt64.toInt := by
  have hnat : ((2 ^ k : ℕ) : ℤ) ∣ (w.toNat : ℤ) := Int.natCast_dvd_natCast.mpr hw
  have hword : ((2 ^ k : ℕ) : ℤ) ∣ ((2 ^ 64 : ℕ) : ℤ) :=
    Int.natCast_dvd_natCast.mpr (Nat.pow_dvd_pow 2 (by omega))
  have hcond := BitVec.toInt_eq_toNat_cond w.toBitVec
  change w.toInt64.toInt = _ at hcond
  rw [hcond]
  split
  · exact hnat
  · exact Int.dvd_sub hnat hword

/-- The window that both functions compute. -/
theorem covers_window (hk : k ≤ 30) (hmask : pageMask.toNat = 2 ^ k - 1) (physAddr : UInt64)
    (size : UInt32) (base : UInt64) :
    Covers (2 ^ k) physAddr size ⟨base,
      (size.toUInt64 + (physAddr &&& pageMask) + pageMask) &&& ~~~pageMask,
      (physAddr &&& ~~~pageMask).toInt64⟩ := by
  have hstart : (physAddr &&& ~~~pageMask).toNat + physAddr.toNat % 2 ^ k = physAddr.toNat := by
    rw [toNat_pageStart hmask, Nat.mul_comm, Nat.div_add_mod]
  have hmod : physAddr.toNat % 2 ^ k < 2 ^ k := Nat.mod_lt _ (Nat.two_pow_pos k)
  refine ⟨?_, ?_, ?_, ?_⟩
  · exact dvd_toInt64 hk (by rw [toNat_pageStart hmask]; exact Nat.dvd_mul_left _ _)
  · change (physAddr &&& ~~~pageMask).toNat ≤ _
    omega
  · change _ < (physAddr &&& ~~~pageMask).toNat + _
    omega
  · -- Behind the start of the window the bytes reach as far as `size + page_offset`.
    have hneed : ∀ n, physAddr.toNat + size.toNat ≤ (physAddr &&& ~~~pageMask).toNat + n ↔
        size.toNat + (physAddr &&& pageMask).toNat ≤ n := by
      intro n
      rw [toNat_pageOffset hmask]
      omega
    have hroom := mmapSize_room hk hmask physAddr size
    have hsum := toNat_size_add hroom
    change IsLeast {n | 2 ^ k ∣ n ∧
      physAddr.toNat + size.toNat ≤ (physAddr &&& ~~~pageMask).toNat + n} _
    simp only [hneed]
    rw [← hsum] at hroom ⊢
    exact isAlignedUp_and_not_mask hmask hroom

end Masks

/-! ### There and back -/

section Calls

variable {sys : MemSystem} {k : ℕ}

theorem not_pageSize_le_zero (hpage : sys.pageSize.toInt = 2 ^ k) : ¬ sys.pageSize ≤ 0 := by
  have hpos : (0 : ℤ) < 2 ^ k := Int.pow_pos (by decide)
  rw [Int64.le_iff_toInt_le, hpage, not_le]
  exact hpos

/-- What `little_sys_mmap` does where it does not return `NULL`. -/
theorem littleSysMmap_some {fd fd' : ℤ} {physAddr ptr : UInt64} {size : UInt32}
    {window : MmapWindow} (h : littleSysMmap sys fd physAddr size = (ptr, some window, fd')) :
    sys.mmap fd' window.length window.offset = some window.base ∧
      window = ⟨window.base,
        (size.toUInt64 + (physAddr &&& (sys.pageSize.toUInt64 - 1)) +
          (sys.pageSize.toUInt64 - 1)) &&& ~~~(sys.pageSize.toUInt64 - 1),
        (physAddr &&& ~~~(sys.pageSize.toUInt64 - 1)).toInt64⟩ ∧
      ptr = window.base + (physAddr &&& (sys.pageSize.toUInt64 - 1)) := by
  rw [littleSysMmap] at h
  split at h
  · simp at h
  split at h
  · simp at h
  dsimp only at h
  generalize (if fd < 0 then sys.openMem else fd) = memFd at h
  split at h
  · simp at h
  split at h
  · simp at h
  · rename_i mmapAddr hmmap
    simp only [Prod.mk.injEq, Option.some.injEq] at h
    obtain ⟨rfl, rfl, rfl⟩ := h
    exact ⟨hmmap, rfl, rfl⟩

/-- It does not return `NULL` where there is a descriptor and `mmap` succeeds. -/
theorem littleSysMmap_of_mmap (hpage : sys.pageSize.toInt = 2 ^ k) {fd : ℤ} {physAddr base : UInt64}
    {size : UInt32} (hsize : size ≠ 0) (hfd : 0 ≤ sys.memFd fd)
    (hmmap : sys.mmap (sys.memFd fd)
        ((size.toUInt64 + (physAddr &&& (sys.pageSize.toUInt64 - 1)) +
          (sys.pageSize.toUInt64 - 1)) &&& ~~~(sys.pageSize.toUInt64 - 1))
        (physAddr &&& ~~~(sys.pageSize.toUInt64 - 1)).toInt64 = some base) :
    littleSysMmap sys fd physAddr size
      = (base + (physAddr &&& (sys.pageSize.toUInt64 - 1)), some ⟨base,
          (size.toUInt64 + (physAddr &&& (sys.pageSize.toUInt64 - 1)) +
            (sys.pageSize.toUInt64 - 1)) &&& ~~~(sys.pageSize.toUInt64 - 1),
          (physAddr &&& ~~~(sys.pageSize.toUInt64 - 1)).toInt64⟩, sys.memFd fd) := by
  rw [littleSysMmap, if_neg hsize, if_neg (not_pageSize_le_zero hpage)]
  dsimp only
  rw [← MemSystem.memFd, if_neg (not_lt.mpr hfd), hmmap]

/-- A base that is a page's leaves room for the offset in the page. -/
theorem toNat_base_add (hk : k ≤ 30) {base pageOffset : UInt64} (hbase : 2 ^ k ∣ base.toNat)
    (hoffset : pageOffset.toNat < 2 ^ k) :
    (base + pageOffset).toNat = base.toNat + pageOffset.toNat := by
  obtain ⟨q, hq⟩ := hbase
  obtain ⟨r, hr⟩ : 2 ^ k ∣ 2 ^ 64 := Nat.pow_dvd_pow 2 (by omega)
  have hlt := base.toNat_lt
  have hq' : q < r := by
    by_contra hge
    have hmul := Nat.mul_le_mul_left (2 ^ k) (not_lt.mp hge)
    omega
  have hroom : base.toNat + 2 ^ k ≤ 2 ^ 64 := by
    rw [hq, hr, ← Nat.mul_succ]
    exact Nat.mul_le_mul_left _ hq'
  rw [UInt64.toNat_add]
  exact Nat.mod_eq_of_lt (by omega)

/-- A mapping is the smallest window on the bytes, and the pointer points at the first of them. -/
theorem window_of_littleSysMmap (hk : k ≤ 30) (hpage : sys.pageSize.toInt = 2 ^ k)
    (hmaps : sys.MapsPages (2 ^ k)) {fd fd' : ℤ} {physAddr ptr : UInt64} {size : UInt32}
    {window : MmapWindow} (h : littleSysMmap sys fd physAddr size = (ptr, some window, fd')) :
    Covers (2 ^ k) physAddr size window ∧ ptr ≠ 0 ∧
      ptr.toNat = window.base.toNat + (physAddr.toNat - window.start) := by
  have hmask := toNat_pageMask hpage
  obtain ⟨hcall, hwindow, hptr⟩ := littleSysMmap_some h
  obtain ⟨hbase, hdvd⟩ := hmaps _ _ _ _ hcall
  have hcovers := covers_window hk hmask physAddr size window.base
  rw [← hwindow] at hcovers
  have hoffset := toNat_pageOffset hmask physAddr
  have hmod := Nat.mod_lt physAddr.toNat (Nat.two_pow_pos k)
  have hsum := toNat_base_add hk hdvd (hoffset ▸ hmod)
  have hstart : window.start = physAddr.toNat / 2 ^ k * 2 ^ k := by
    rw [hwindow]
    exact toNat_pageStart hmask physAddr
  refine ⟨hcovers, ?_, ?_⟩
  · intro hzero
    rw [hptr, ← UInt64.toNat_inj, hsum] at hzero
    exact hbase (UInt64.toNat_inj.mp (Nat.eq_zero_of_add_eq_zero_right hzero))
  · have hdiv := Nat.mod_add_div' physAddr.toNat (2 ^ k)
    rw [hptr, hsum, hoffset, hstart]
    omega

/-- **The bytes of a pack lie in its window.** -/
theorem pack_in_window (hk : k ≤ 30) (hpage : sys.pageSize.toInt = 2 ^ k)
    (hmaps : sys.MapsPages (2 ^ k)) {fd fd' : ℤ} {pack : MppNaluIpcPack} {ptr : UInt64}
    {window : MmapWindow}
    (h : littleSysMmap sys fd pack.physAddr pack.len = (ptr, some window, fd')) :
    window.base.toNat ≤ ptr.toNat ∧
      ptr.toNat + pack.bytes.length ≤ window.base.toNat + window.length.toNat := by
  obtain ⟨hcovers, -, hptr⟩ := window_of_littleSysMmap hk hpage hmaps h
  have hstart := hcovers.start_le
  have hlength := hcovers.length.1.2
  have hbytes := pack.length_bytes
  omega

/-- **Map and unmap agree.** For pages of `2 ^ k` bytes nothing wraps. There is a smallest window on
the bytes asked for, and if `mmap` makes it, it is what is mapped. Whatever is mapped was made by
`mmap` and is such a window, the pointer points at the first of the bytes, and it leads back to the
mapping. -/
theorem windows_agree (hk : k ≤ 30) (hpage : sys.pageSize.toInt = 2 ^ k)
    (hmaps : sys.MapsPages (2 ^ k)) (physAddr : UInt64) {size : UInt32} (hsize : size ≠ 0)
    (fd : ℤ) :
    (size.toUInt64 + (physAddr &&& (sys.pageSize.toUInt64 - 1)) +
        (sys.pageSize.toUInt64 - 1)).toNat
      = size.toNat + physAddr.toNat % 2 ^ k + (2 ^ k - 1) ∧
    (∃ length offset, (∀ base, Covers (2 ^ k) physAddr size ⟨base, length, offset⟩) ∧
      ∀ base, 0 ≤ sys.memFd fd → sys.mmap (sys.memFd fd) length offset = some base →
        ∃ ptr, littleSysMmap sys fd physAddr size
          = (ptr, some ⟨base, length, offset⟩, sys.memFd fd)) ∧
    ∀ ptr window fd', littleSysMmap sys fd physAddr size = (ptr, some window, fd') →
      sys.mmap fd' window.length window.offset = some window.base ∧
      Covers (2 ^ k) physAddr size window ∧
      ptr.toNat = window.base.toNat + (physAddr.toNat - window.start) ∧
      (littleSysMunmap sys physAddr ptr size).2 = some (window.base, window.length) := by
  have hmask := toNat_pageMask hpage
  refine ⟨?_, ⟨_, _, covers_window hk hmask physAddr size, ?_⟩, ?_⟩
  · rw [toNat_mmapSize_sum hk hmask, toNat_pageOffset hmask, hmask]
  · intro base hfd hmmap
    exact ⟨_, littleSysMmap_of_mmap hpage hsize hfd hmmap⟩
  · intro ptr window fd' hmmap
    obtain ⟨hcovers, hnull, htoNat⟩ := window_of_littleSysMmap hk hpage hmaps hmmap
    obtain ⟨hcall, hwindow, hptr⟩ := littleSysMmap_some hmmap
    refine ⟨hcall, hcovers, htoNat, ?_⟩
    rw [littleSysMunmap, if_neg (not_or.mpr ⟨hnull, hsize⟩), if_neg (not_pageSize_le_zero hpage)]
    dsimp only
    rw [hptr, UInt64.add_sub_cancel, hwindow]

end Calls

/-- Pages of 4096 bytes, all mapped at one place. -/
def sampleMemory : MemSystem where
  pageSize := 4096
  openMem := 3
  mmap _ _ _ := some 0x7f1234560000
  munmap _ _ := true

/-- Bytes on both sides of a page boundary: they are mapped, with two pages. -/
theorem windows_agree_sample :
    ∃ ptr window, littleSysMmap sampleMemory (-1) 0x10000ff0 0x20 = (ptr, some window, 3) ∧
      sampleMemory.mmap 3 window.length window.offset = some window.base ∧
      Covers 4096 0x10000ff0 0x20 window ∧
      ptr.toNat = window.base.toNat + 0xff0 ∧
      (littleSysMunmap sampleMemory 0x10000ff0 ptr 0x20).2 = some (window.base, window.length) ∧
      window.length = 0x2000 := by
  have hmaps : sampleMemory.MapsPages (2 ^ 12) := by
    rintro fd length offset base ⟨⟩
    decide
  obtain ⟨-, ⟨length, offset, -, hsuccess⟩, hmapped⟩ :=
    @windows_agree sampleMemory 12 (by decide) (by decide) hmaps 0x10000ff0 0x20 (by decide) (-1)
  obtain ⟨ptr, hcall⟩ := hsuccess 0x7f1234560000 (by decide) rfl
  obtain ⟨hmmap, hcovers, hptr, hmunmap⟩ := hmapped _ _ _ hcall
  have hwindow : ∀ w, (littleSysMmap sampleMemory (-1) 0x10000ff0 0x20).2.1 = some w →
      w.start = 0x10000000 ∧ w.length = 0x2000 := by
    rintro w ⟨⟩
    decide
  obtain ⟨hstart, hlength⟩ := hwindow ⟨0x7f1234560000, length, offset⟩ (by rw [hcall])
  refine ⟨ptr, _, hcall, hmmap, hcovers, ?_, hmunmap, hlength⟩
  rw [hptr, hstart]
  rfl

end LittleCore

import Mathlib.Algebra.Group.Nat.Defs
import Mathlib.Data.Nat.Notation
import Mathlib.Tactic.Common

/-!
# The growing byte buffers of the snapshot cache

`h265_byte_buffer_t` and the five operations on it, from `datafifo_snapshot.c`.

A buffer is its content, the first `len` bytes, together with its capacity. The data pointer is
not a field of its own: the code allocates at least one byte whenever it allocates, so `data` is
`NULL` exactly while `cap` is `0`.

`realloc` is code outside the repository. Whether a call succeeds is an argument of every
operation that may reach one, so that a statement about all arguments is one about every pattern
of allocation failures.
-/

namespace LittleCore

/-- `SIZE_MAX` of the 64-bit targets. -/
def sizeMax : ℕ := 2 ^ 64 - 1

/-- `h265_byte_buffer_t`. -/
structure H265ByteBuffer where
  bytes : List UInt8 := []
  cap : ℕ := 0
deriving DecidableEq, Repr

namespace H265ByteBuffer

/-- The `len` field. -/
def len (b : H265ByteBuffer) : ℕ := b.bytes.length

/-- `data != NULL`. -/
def hasData (b : H265ByteBuffer) : Bool := b.cap != 0

end H265ByteBuffer

def h265BufferReset (buffer : H265ByteBuffer) : H265ByteBuffer := { buffer with bytes := [] }

/-- The doubling loop of `h265_buffer_reserve`. A capacity doubles at most 64 times before it is
past `SIZE_MAX / 2`, which is the fuel it is called with. -/
def growCap : ℕ → ℕ → ℕ → ℕ
  | 0, newCap, _ => newCap
  | fuel + 1, newCap, needed =>
    if newCap < needed then
      if newCap > sizeMax / 2 then needed else growCap fuel (newCap * 2) needed
    else newCap

def h265BufferReserve (realloc : Bool) (buffer : H265ByteBuffer) (extraLen : ℕ) :
    Bool × H265ByteBuffer :=
  if extraLen > sizeMax - buffer.len then (false, buffer)
  else
    let needed := buffer.len + extraLen
    if needed ≤ buffer.cap then (true, buffer)
    else
      let newCap := growCap 64 (if buffer.cap ≠ 0 then buffer.cap else 4096) needed
      if realloc then (true, { buffer with cap := newCap }) else (false, buffer)

def h265BufferAppend (realloc : Bool) (buffer : H265ByteBuffer) (data : List UInt8) :
    Bool × H265ByteBuffer :=
  if data.length = 0 then (true, buffer)
  else
    match h265BufferReserve realloc buffer data.length with
    | (false, buffer) => (false, buffer)
    | (true, buffer) => (true, { buffer with bytes := buffer.bytes ++ data })

def h265BufferReplace (realloc : Bool) (buffer : H265ByteBuffer) (data : List UInt8) :
    Bool × H265ByteBuffer :=
  h265BufferAppend realloc (h265BufferReset buffer) data

/-- The `start_code` table of `h265_buffer_append_start_code`. -/
def startCode : List UInt8 := [0x00, 0x00, 0x00, 0x01]

def h265BufferAppendStartCode (realloc : Bool) (buffer : H265ByteBuffer) :
    Bool × H265ByteBuffer :=
  h265BufferAppend realloc buffer startCode

/-- `h265_snapshot_cache_t`. -/
structure H265SnapshotCache where
  vps : H265ByteBuffer := {}
  sps : H265ByteBuffer := {}
  pps : H265ByteBuffer := {}
  lastIrap : H265ByteBuffer := {}
  currentGop : H265ByteBuffer := {}
  lastIrapPts : UInt64 := 0
  lastIrapSeq : UInt64 := 0
  currentGopPts : UInt64 := 0
  currentGopStartSeq : UInt64 := 0
  currentGopLastSeq : UInt64 := 0
  lastIrapHasVps : Bool := false
  lastIrapHasSps : Bool := false
  lastIrapHasPps : Bool := false
  currentGopHasIrap : Bool := false
deriving DecidableEq, Repr

/-! ### Content

What each operation does to the content, on success and on failure. Capacities are left out: no
caller reads one. -/

@[simp] theorem bytes_h265BufferReset (b : H265ByteBuffer) : (h265BufferReset b).bytes = [] := rfl

@[simp] theorem bytes_h265BufferReserve (realloc : Bool) (b : H265ByteBuffer) (n : ℕ) :
    (h265BufferReserve realloc b n).2.bytes = b.bytes := by
  simp only [h265BufferReserve]
  split
  · rfl
  · split
    · rfl
    · split <;> rfl

/-- A request that fits the address space is met whenever `realloc` succeeds. -/
theorem h265BufferReserve_ok {b : H265ByteBuffer} {n : ℕ} (h : b.len + n ≤ sizeMax) :
    (h265BufferReserve true b n).1 = true := by
  have hn : ¬ n > sizeMax - b.len := by omega
  simp only [h265BufferReserve, if_neg hn]
  split <;> rfl

theorem h265BufferAppend_ok {b : H265ByteBuffer} {data : List UInt8}
    (h : b.len + data.length ≤ sizeMax) :
    (h265BufferAppend true b data).1 = true ∧
      (h265BufferAppend true b data).2.bytes = b.bytes ++ data := by
  by_cases hd : data.length = 0
  · have : data = [] := List.eq_nil_of_length_eq_zero hd
    subst this
    simp [h265BufferAppend]
  · have hok := h265BufferReserve_ok h
    have hbytes := bytes_h265BufferReserve true b data.length
    simp only [h265BufferAppend, if_neg hd]
    generalize h265BufferReserve true b data.length = r at hok hbytes
    obtain ⟨ok, b'⟩ := r
    cases hok
    exact ⟨rfl, congrArg (· ++ data) hbytes⟩

/-- A failing append leaves the content alone. -/
theorem bytes_h265BufferAppend_of_fail {realloc : Bool} {b : H265ByteBuffer} {data : List UInt8}
    (h : (h265BufferAppend realloc b data).1 = false) :
    (h265BufferAppend realloc b data).2.bytes = b.bytes := by
  have hbytes := bytes_h265BufferReserve realloc b data.length
  simp only [h265BufferAppend] at h ⊢
  split
  · rfl
  · generalize h265BufferReserve realloc b data.length = r at h hbytes
    obtain ⟨ok, b'⟩ := r
    cases ok with
    | false => exact hbytes
    | true => simp_all

/-- A successful append is a concatenation. -/
theorem bytes_h265BufferAppend_of_ok {realloc : Bool} {b : H265ByteBuffer} {data : List UInt8}
    (h : (h265BufferAppend realloc b data).1 = true) :
    (h265BufferAppend realloc b data).2.bytes = b.bytes ++ data := by
  have hbytes := bytes_h265BufferReserve realloc b data.length
  by_cases hd : data.length = 0
  · have : data = [] := List.eq_nil_of_length_eq_zero hd
    subst this
    simp [h265BufferAppend]
  · simp only [h265BufferAppend, if_neg hd] at h ⊢
    generalize h265BufferReserve realloc b data.length = r at h hbytes
    obtain ⟨ok, b'⟩ := r
    cases ok with
    | false => simp at h
    | true => exact congrArg (· ++ data) hbytes

theorem h265BufferReplace_ok (b : H265ByteBuffer) {data : List UInt8}
    (h : data.length ≤ sizeMax) :
    (h265BufferReplace true b data).1 = true ∧ (h265BufferReplace true b data).2.bytes = data := by
  have hlen : (h265BufferReset b).len + data.length ≤ sizeMax := by simpa [H265ByteBuffer.len]
  simpa [h265BufferReplace] using h265BufferAppend_ok hlen

/-! ### Storage

The code tests `data != NULL` beside `len > 0`. The second test is enough: what is in a buffer has
been allocated. -/

/-- A buffer that is not empty has its data. -/
def H265ByteBuffer.Backed (b : H265ByteBuffer) : Prop := b.bytes ≠ [] → b.hasData = true

theorem backed_empty : H265ByteBuffer.Backed {} := fun h => absurd rfl h

theorem growCap_ne_zero (fuel : ℕ) {newCap : ℕ} (h : newCap ≠ 0) (needed : ℕ) :
    growCap fuel newCap needed ≠ 0 := by
  induction fuel generalizing newCap with
  | zero => exact h
  | succ fuel ih =>
    rw [growCap]
    split
    · split
      · omega
      · exact ih (by omega)
    · exact h

/-- Room for something is room. -/
theorem hasData_h265BufferReserve {realloc : Bool} {b : H265ByteBuffer} {n : ℕ} (hn : n ≠ 0)
    (h : (h265BufferReserve realloc b n).1 = true) :
    (h265BufferReserve realloc b n).2.hasData = true := by
  rw [H265ByteBuffer.hasData, bne_iff_ne]
  simp only [h265BufferReserve] at h ⊢
  split at h
  · cases h
  · rename_i hmax
    rw [if_neg hmax]
    split at h
    · rename_i hcap
      rw [if_pos hcap]
      dsimp only
      omega
    · rename_i hcap
      rw [if_neg hcap]
      cases realloc with
      | false => cases h
      | true => exact growCap_ne_zero _ (by split <;> omega) _

theorem H265ByteBuffer.Backed.reserve {b : H265ByteBuffer} (h : b.Backed) (realloc : Bool) (n : ℕ) :
    (h265BufferReserve realloc b n).2.Backed := by
  intro hne
  rw [bytes_h265BufferReserve] at hne
  have hdata := h hne
  rw [H265ByteBuffer.hasData, bne_iff_ne] at hdata ⊢
  simp only [h265BufferReserve]
  split
  · exact hdata
  · split
    · exact hdata
    · split
      · exact growCap_ne_zero _ hdata _
      · exact hdata

theorem H265ByteBuffer.Backed.append {b : H265ByteBuffer} (h : b.Backed) (realloc : Bool)
    (data : List UInt8) : (h265BufferAppend realloc b data).2.Backed := by
  rw [h265BufferAppend]
  split
  · exact h
  · rename_i hne
    have hreserve := h.reserve realloc data.length
    have hroom := @hasData_h265BufferReserve realloc b data.length hne
    generalize h265BufferReserve realloc b data.length = r at hreserve hroom
    obtain ⟨_ | _, b'⟩ := r
    · exact hreserve
    · exact fun _ => hroom rfl

theorem H265ByteBuffer.Backed.reset (b : H265ByteBuffer) : (h265BufferReset b).Backed :=
  fun h => absurd rfl h

theorem H265ByteBuffer.Backed.replace (b : H265ByteBuffer) (realloc : Bool) (data : List UInt8) :
    (h265BufferReplace realloc b data).2.Backed := (reset b).append realloc data

/-- A buffer that holds something passes both tests. -/
theorem H265ByteBuffer.Backed.hasData_and_len {b : H265ByteBuffer} (h : b.Backed) :
    (b.hasData && decide (0 < b.len)) = decide (b.bytes ≠ []) := by
  by_cases hne : b.bytes = []
  · simp [H265ByteBuffer.len, hne]
  · simp [H265ByteBuffer.len, hne, h hne, List.length_pos_iff]

end LittleCore

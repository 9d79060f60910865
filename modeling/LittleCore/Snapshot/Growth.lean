import LittleCore.Library.Doubling
import LittleCore.Snapshot.Buffer

/-!
# How a buffer grows

`h265_buffer_reserve` and `h265_buffer_append` on the fields of `h265_byte_buffer_t` as they are,
two 64-bit words and the storage behind `data`. `RawByteBuffer.toBuffer` leads from there to the
buffers of the snapshot path, which are a content and a number.

What `realloc` returns is not fixed: any block of the size asked for will do that begins like the
old one. The loop has no bound of its own in the code, so here it runs for so many rounds and is
`none` where these do not suffice.

## Main results

* `reserve_never_wraps` — every call of `h265_buffer_reserve` ends, no word on the way wraps, and
  the buffer has grown or is as it was
* `rawBufferAppend_eq` — `memcpy` stays in the storage, and appends
-/

namespace LittleCore

open Library

/-- `SIZE_MAX` as a word. -/
def sizeMaxWord : UInt64 := 0xffffffffffffffff

/-- `h265_byte_buffer_t`, with the block that `data` points to. -/
structure RawByteBuffer where
  data : List UInt8
  len : UInt64
  cap : UInt64

namespace RawByteBuffer

/-- The block has the capacity that is recorded, and no less than is in use. -/
structure WellFormed (b : RawByteBuffer) : Prop where
  length_data : b.data.length = b.cap.toNat
  len_le : b.len.toNat ≤ b.cap.toNat

/-- The first `len` bytes. -/
def content (b : RawByteBuffer) : List UInt8 := b.data.take b.len.toNat

def toBuffer (b : RawByteBuffer) : H265ByteBuffer where
  bytes := b.content
  cap := b.cap.toNat

theorem WellFormed.length_content {b : RawByteBuffer} (hb : b.WellFormed) :
    b.content.length = b.len.toNat := by
  rw [content, List.length_take, hb.length_data, Nat.min_eq_left hb.len_le]

theorem WellFormed.len_toBuffer {b : RawByteBuffer} (hb : b.WellFormed) :
    b.toBuffer.len = b.len.toNat := hb.length_content

end RawByteBuffer

/-- `realloc`: `NULL` or a block of the size asked for, which begins like the old one. -/
structure Realloc where
  call : List UInt8 → UInt64 → Option (List UInt8)
  length_call : ∀ {old size new}, call old size = some new → new.length = size.toNat
  take_call : ∀ {old size new n}, call old size = some new → n ≤ old.length → n ≤ size.toNat →
    new.take n = old.take n

/-- The first value of `new_cap`. -/
def firstCap (cap : UInt64) : UInt64 := if cap ≠ 0 then cap else 4096

/-- The doubling loop. -/
def growLoop : ℕ → UInt64 → UInt64 → Option UInt64
  | 0, _, _ => none
  | fuel + 1, newCap, needed =>
    if newCap < needed then
      if newCap > sizeMaxWord / 2 then some needed else growLoop fuel (newCap * 2) needed
    else some newCap

/-- `h265_buffer_reserve`. -/
def rawBufferReserve (fuel : ℕ) (realloc : Realloc) (buffer : RawByteBuffer) (extraLen : UInt64) :
    Option (Bool × RawByteBuffer) :=
  if extraLen > sizeMaxWord - buffer.len then some (false, buffer)
  else
    let needed := buffer.len + extraLen
    if needed ≤ buffer.cap then some (true, buffer)
    else
      match growLoop fuel (firstCap buffer.cap) needed with
      | none => none
      | some newCap =>
        match realloc.call buffer.data newCap with
        | none => some (false, buffer)
        | some newData => some (true, { buffer with data := newData, cap := newCap })

/-- `memcpy(block + start, bytes, n)`. -/
def overwrite (block : List UInt8) (start : ℕ) (bytes : List UInt8) : List UInt8 :=
  block.take start ++ bytes ++ block.drop (start + bytes.length)

/-- `h265_buffer_append` of `len` bytes. -/
def rawBufferAppend (fuel : ℕ) (realloc : Realloc) (buffer : RawByteBuffer) (bytes : List UInt8)
    (len : UInt64) : Option (Bool × RawByteBuffer) :=
  if len = 0 then some (true, buffer)
  else
    match rawBufferReserve fuel realloc buffer len with
    | none => none
    | some (false, buffer) => some (false, buffer)
    | some (true, buffer) =>
      some (true, { buffer with
        data := overwrite buffer.data buffer.len.toNat bytes, len := buffer.len + len })

/-! ### The loop -/

/-- The capacity that the loop arrives at, from a first one. -/
def grownFrom (base needed : ℕ) : ℕ :=
  if doubled base needed ≤ sizeMax then doubled base needed else needed

theorem grownFrom_of_le {base needed : ℕ} (hpos : 0 < base) (hmax : base ≤ sizeMax)
    (h : needed ≤ base) : grownFrom base needed = base := by
  rw [grownFrom, doubled_of_le hpos h, if_pos hmax]

/-- From more than half of `SIZE_MAX` the loop jumps to what is needed. -/
theorem grownFrom_of_half_lt {base needed : ℕ} (hpos : 0 < base) (h : base < needed)
    (hhalf : sizeMax / 2 < base) : grownFrom base needed = needed := by
  have hself := le_doubled_self (base * 2) needed
  rw [grownFrom, doubled_of_lt hpos h, if_neg]
  rw [sizeMax] at *
  omega

theorem grownFrom_of_lt {base needed : ℕ} (hpos : 0 < base) (h : base < needed) :
    grownFrom base needed = grownFrom (base * 2) needed := by
  rw [grownFrom, doubled_of_lt hpos h, grownFrom]

theorem le_grownFrom {base needed : ℕ} (hpos : 0 < base) : needed ≤ grownFrom base needed := by
  rw [grownFrom]
  split
  · exact le_doubled hpos
  · exact le_rfl

theorem grownFrom_le {base needed : ℕ} (hmax : needed ≤ sizeMax) :
    grownFrom base needed ≤ sizeMax := by
  rw [grownFrom]
  split
  · assumption
  · exact hmax

/-- The loop of the model arrives there. -/
theorem growCap_eq {fuel base needed : ℕ} (hpos : 0 < base) (hmax : base ≤ sizeMax)
    (hfuel : sizeMax < base * 2 ^ fuel) :
    growCap fuel base needed = grownFrom base needed := by
  induction fuel generalizing base with
  | zero =>
    rw [Nat.pow_zero, Nat.mul_one] at hfuel
    omega
  | succ fuel ih =>
    rw [growCap]
    split
    · rename_i hlt
      split
      · rename_i hhalf
        exact (grownFrom_of_half_lt hpos hlt hhalf).symm
      · rename_i hhalf
        rw [ih (by omega) (by omega) (by rwa [Nat.mul_assoc, ← Nat.pow_succ']),
          ← grownFrom_of_lt hpos hlt]
    · rename_i hge
      exact (grownFrom_of_le hpos hmax (not_lt.mp hge)).symm

theorem toNat_le_sizeMax (w : UInt64) : w.toNat ≤ sizeMax := by
  have := w.toNat_lt
  rw [sizeMax]
  omega

theorem half_lt_iff (w : UInt64) : w > sizeMaxWord / 2 ↔ sizeMax / 2 < w.toNat := by
  rw [gt_iff_lt, UInt64.lt_iff_toNat_lt]
  rfl

/-- Below half of `SIZE_MAX` doubling does not wrap. -/
theorem toNat_mul_two {w : UInt64} (h : ¬ w > sizeMaxWord / 2) : (w * 2).toNat = w.toNat * 2 := by
  rw [half_lt_iff, sizeMax] at h
  rw [UInt64.toNat_mul]
  exact Nat.mod_eq_of_lt (show w.toNat * 2 < 2 ^ 64 by omega)

/-- The loop on words arrives there too, within 64 rounds. -/
theorem growLoop_eq {fuel : ℕ} {newCap needed : UInt64} (hpos : 0 < newCap.toNat)
    (hfuel : sizeMax < newCap.toNat * 2 ^ fuel) :
    growLoop fuel newCap needed = some (.ofNat (grownFrom newCap.toNat needed.toNat)) := by
  induction fuel generalizing newCap with
  | zero =>
    have := toNat_le_sizeMax newCap
    omega
  | succ fuel ih =>
    rw [growLoop]
    split
    · rename_i hlt
      rw [UInt64.lt_iff_toNat_lt] at hlt
      split
      · rename_i hhalf
        rw [grownFrom_of_half_lt hpos hlt ((half_lt_iff _).mp hhalf), UInt64.ofNat_toNat]
      · rename_i hhalf
        have htwo := toNat_mul_two hhalf
        rw [ih (by omega) (by rwa [htwo, Nat.mul_assoc, ← Nat.pow_succ']), htwo,
          ← grownFrom_of_lt hpos hlt]
    · rename_i hge
      rw [UInt64.lt_iff_toNat_lt, not_lt] at hge
      rw [grownFrom_of_le hpos (toNat_le_sizeMax _) hge, UInt64.ofNat_toNat]

/-- `new_cap` after so many doublings. -/
def newCapAfter (first : UInt64) : ℕ → UInt64
  | 0 => first
  | n + 1 => newCapAfter first n * 2

/-- The loop doubles once more. -/
def Doubles (needed newCap : UInt64) : Prop := newCap < needed ∧ ¬ newCap > sizeMaxWord / 2

/-- No doubling of the loop has wrapped. -/
theorem toNat_newCapAfter {first needed : UInt64} {n : ℕ}
    (h : ∀ m < n, Doubles needed (newCapAfter first m)) :
    (newCapAfter first n).toNat = first.toNat * 2 ^ n := by
  induction n with
  | zero => rw [newCapAfter, Nat.pow_zero, Nat.mul_one]
  | succ n ih =>
    have hlast := (h n n.lt_succ_self).2
    rw [newCapAfter, toNat_mul_two hlast, ih fun m hm => h m (by omega), Nat.pow_succ,
      Nat.mul_assoc]

/-! ### The reserve -/

/-- The capacity of a buffer that had to grow. -/
def grownCap (cap needed : ℕ) : ℕ := grownFrom (if cap ≠ 0 then cap else 4096) needed

theorem toNat_firstCap (cap : UInt64) :
    (firstCap cap).toNat = if cap.toNat ≠ 0 then cap.toNat else 4096 := by
  have hzero : cap ≠ 0 ↔ cap.toNat ≠ 0 := by
    rw [Ne, ← UInt64.toNat_inj]
    rfl
  rw [firstCap, apply_ite UInt64.toNat]
  simp only [hzero]
  rfl

theorem toNat_firstCap_pos (cap : UInt64) : 0 < (firstCap cap).toNat := by
  rw [toNat_firstCap]
  split <;> omega

theorem lt_firstCap_mul (cap : UInt64) {fuel : ℕ} (hfuel : 64 ≤ fuel) :
    sizeMax < (firstCap cap).toNat * 2 ^ fuel := by
  have hpos := toNat_firstCap_pos cap
  have hpow : 2 ^ 64 ≤ 2 ^ fuel := Nat.pow_le_pow_right (by omega) hfuel
  calc
    sizeMax < 2 ^ 64 := by decide
    _ ≤ 2 ^ fuel := hpow
    _ ≤ (firstCap cap).toNat * 2 ^ fuel := Nat.le_mul_of_pos_left _ hpos

theorem growLoop_firstCap (cap needed : UInt64) {fuel : ℕ} (hfuel : 64 ≤ fuel) :
    growLoop fuel (firstCap cap) needed = some (.ofNat (grownCap cap.toNat needed.toNat)) := by
  rw [growLoop_eq (toNat_firstCap_pos cap) (lt_firstCap_mul cap hfuel), toNat_firstCap, grownCap]

theorem growCap_firstCap {cap : ℕ} (hcap : cap ≤ sizeMax) (needed : ℕ) :
    growCap 64 (if cap ≠ 0 then cap else 4096) needed = grownCap cap needed := by
  have hpos : 0 < if cap ≠ 0 then cap else 4096 := by split <;> omega
  have hmax : (if cap ≠ 0 then cap else 4096) ≤ sizeMax := by
    split
    · exact hcap
    · decide
  refine growCap_eq hpos hmax ?_
  calc
    sizeMax < 2 ^ 64 := by decide
    _ ≤ (if cap ≠ 0 then cap else 4096) * 2 ^ 64 := Nat.le_mul_of_pos_left _ hpos

theorem le_grownCap (cap needed : ℕ) : needed ≤ grownCap cap needed :=
  le_grownFrom (by split <;> omega)

/-- The sum of the lengths wraps exactly where the code gives up. -/
theorem guard_iff (len extraLen : UInt64) :
    extraLen > sizeMaxWord - len ↔ sizeMax < len.toNat + extraLen.toNat := by
  have hlen := toNat_le_sizeMax len
  have hsub : (sizeMaxWord - len).toNat = sizeMax - len.toNat :=
    UInt64.toNat_sub_of_le _ _ (UInt64.le_iff_toNat_le.mpr hlen)
  rw [gt_iff_lt, UInt64.lt_iff_toNat_lt, hsub]
  omega

theorem toNat_add_of_guard {len extraLen : UInt64} (h : ¬ extraLen > sizeMaxWord - len) :
    (len + extraLen).toNat = len.toNat + extraLen.toNat := by
  rw [guard_iff, sizeMax] at h
  rw [UInt64.toNat_add]
  exact Nat.mod_eq_of_lt (by omega)

/-- `realloc` has the block that the loop arrives at. -/
def Realloc.grants (realloc : Realloc) (b : RawByteBuffer) (extraLen : UInt64) : Bool :=
  (realloc.call b.data
    (.ofNat (grownCap b.cap.toNat (b.len.toNat + extraLen.toNat)))).isSome

/-- What a call of `h265_buffer_reserve` leaves behind. -/
structure Reserved (realloc : Realloc) (b : RawByteBuffer) (extraLen : UInt64)
    (r : Bool × RawByteBuffer) : Prop where
  refused_iff : r.1 = false ↔ sizeMax < b.len.toNat + extraLen.toNat ∨
    b.cap.toNat < b.len.toNat + extraLen.toNat ∧ realloc.grants b extraLen = false
  unchanged : r.1 = false → r.2 = b
  room : r.1 = true → b.len.toNat + extraLen.toNat ≤ r.2.cap.toNat
  cap_le : b.cap.toNat ≤ r.2.cap.toNat
  len : r.2.len = b.len
  content : r.2.content = b.content
  wellFormed : r.2.WellFormed
  model : h265BufferReserve (realloc.grants b extraLen) b.toBuffer extraLen.toNat
    = (r.1, r.2.toBuffer)

variable {realloc : Realloc} {b : RawByteBuffer} {extraLen : UInt64}

/-- Nothing happens where the sum would wrap, nor where `realloc` fails. -/
theorem reserved_of_refused (hb : b.WellFormed)
    (hrefused : sizeMax < b.len.toNat + extraLen.toNat ∨
      b.cap.toNat < b.len.toNat + extraLen.toNat ∧ realloc.grants b extraLen = false) :
    Reserved realloc b extraLen (false, b) where
  refused_iff := iff_of_true rfl hrefused
  unchanged _ := rfl
  room h := by cases h
  cap_le := le_rfl
  len := rfl
  content := rfl
  wellFormed := hb
  model := by
    have hlen := toNat_le_sizeMax b.len
    rw [h265BufferReserve, hb.len_toBuffer]
    by_cases hmax : sizeMax < b.len.toNat + extraLen.toNat
    · rw [if_pos (by omega)]
    · obtain ⟨hroom, hgrants⟩ := hrefused.resolve_left hmax
      rw [if_neg (by omega), hgrants]
      exact (if_neg (not_le.mpr hroom)).trans (if_neg (by simp))

/-- Nothing happens where there is room. -/
theorem reserved_of_room (hb : b.WellFormed) (hguard : ¬ extraLen > sizeMaxWord - b.len)
    (hroom : b.len.toNat + extraLen.toNat ≤ b.cap.toNat) :
    Reserved realloc b extraLen (true, b) where
  refused_iff := by
    rw [guard_iff] at hguard
    refine iff_of_false (by simp) ?_
    omega
  unchanged h := by cases h
  room _ := hroom
  cap_le := le_rfl
  len := rfl
  content := rfl
  wellFormed := hb
  model := by
    rw [guard_iff] at hguard
    rw [h265BufferReserve, hb.len_toBuffer, if_neg (by omega)]
    exact if_pos hroom

/-- The new block is as large as the loop says, and begins with what was in use. -/
theorem reserved_of_grown (hb : b.WellFormed) (hguard : ¬ extraLen > sizeMaxWord - b.len)
    (hroom : ¬ b.len.toNat + extraLen.toNat ≤ b.cap.toNat) {newData : List UInt8}
    (hcall : realloc.call b.data
      (.ofNat (grownCap b.cap.toNat (b.len.toNat + extraLen.toNat))) = some newData) :
    Reserved realloc b extraLen (true, { b with
      data := newData, cap := .ofNat (grownCap b.cap.toNat (b.len.toNat + extraLen.toNat)) }) := by
  have hgrants : realloc.grants b extraLen = true := by
    rw [Realloc.grants, hcall]
    rfl
  have hmax : ¬ sizeMax < b.len.toNat + extraLen.toNat := (guard_iff ..).not.mp hguard
  have hcap : (UInt64.ofNat (grownCap b.cap.toNat (b.len.toNat + extraLen.toNat))).toNat
      = grownCap b.cap.toNat (b.len.toNat + extraLen.toNat) := by
    have hle : grownCap b.cap.toNat (b.len.toNat + extraLen.toNat) ≤ sizeMax :=
      grownFrom_le (not_lt.mp hmax)
    rw [sizeMax] at hle
    exact UInt64.toNat_ofNat_of_lt' (show _ < 2 ^ 64 by omega)
  have hle := le_grownCap b.cap.toNat (b.len.toNat + extraLen.toNat)
  have hlen := hb.len_le
  have hcontent : newData.take b.len.toNat = b.data.take b.len.toNat :=
    realloc.take_call hcall (by rw [hb.length_data]; exact hlen) (by omega)
  exact {
    refused_iff := by
      refine iff_of_false (by simp) ?_
      rw [hgrants]
      simpa using hmax
    unchanged := fun h => by cases h
    room := fun _ => by
      dsimp only
      omega
    cap_le := by
      dsimp only
      omega
    len := rfl
    content := hcontent
    wellFormed := ⟨realloc.length_call hcall, by dsimp only; omega⟩
    model := by
      rw [h265BufferReserve, hb.len_toBuffer, if_neg (by omega), hgrants]
      refine (if_neg hroom).trans ((if_pos rfl).trans ?_)
      rw [RawByteBuffer.toBuffer, RawByteBuffer.toBuffer, RawByteBuffer.content,
        RawByteBuffer.content, hcap, ← growCap_firstCap (toNat_le_sizeMax _)]
      dsimp only
      rw [hcontent] }

/-- The call ends, with 64 rounds of the loop or more. -/
theorem exists_reserved (realloc : Realloc) (hb : b.WellFormed) (extraLen : UInt64) :
    ∃ r, (∀ fuel, 64 ≤ fuel → rawBufferReserve fuel realloc b extraLen = some r) ∧
      Reserved realloc b extraLen r := by
  by_cases hguard : extraLen > sizeMaxWord - b.len
  · exact ⟨_, fun fuel _ => if_pos hguard, reserved_of_refused hb (.inl ((guard_iff ..).mp hguard))⟩
  have hsum := toNat_add_of_guard hguard
  have hfits : b.len + extraLen ≤ b.cap ↔ b.len.toNat + extraLen.toNat ≤ b.cap.toNat := by
    rw [UInt64.le_iff_toNat_le, hsum]
  by_cases hroom : b.len.toNat + extraLen.toNat ≤ b.cap.toNat
  · refine ⟨_, fun fuel _ => ?_, reserved_of_room hb hguard hroom⟩
    rw [rawBufferReserve, if_neg hguard]
    exact if_pos (hfits.mpr hroom)
  have hrun : ∀ fuel, 64 ≤ fuel → rawBufferReserve fuel realloc b extraLen =
      match realloc.call b.data
        (.ofNat (grownCap b.cap.toNat (b.len.toNat + extraLen.toNat))) with
      | none => some (false, b)
      | some newData => some (true, { b with
          data := newData
          cap := .ofNat (grownCap b.cap.toNat (b.len.toNat + extraLen.toNat)) }) := by
    intro fuel hfuel
    rw [rawBufferReserve, if_neg hguard]
    dsimp only
    rw [if_neg (hfits.not.mpr hroom), growLoop_firstCap _ _ hfuel, hsum]
  cases hcall : realloc.call b.data
      (.ofNat (grownCap b.cap.toNat (b.len.toNat + extraLen.toNat))) with
  | none =>
    have hgrants : realloc.grants b extraLen = false := by
      rw [Realloc.grants, hcall]
      rfl
    refine ⟨_, fun fuel hfuel => ?_, reserved_of_refused hb (.inr ⟨not_le.mp hroom, hgrants⟩)⟩
    rw [hrun fuel hfuel, hcall]
  | some newData =>
    refine ⟨_, fun fuel hfuel => ?_, reserved_of_grown hb hguard hroom hcall⟩
    rw [hrun fuel hfuel, hcall]

/-- **Growing never wraps.** Every call ends, and leaves the buffer as it was or with the room that
was asked for. The sum of the lengths is exact where the code forms it, so is the capacity after
each doubling, and the loop ends whatever capacity it starts from. -/
theorem reserve_never_wraps (realloc : Realloc) {b : RawByteBuffer} (hb : b.WellFormed)
    (extraLen : UInt64) :
    (∃ r, (∀ fuel, 64 ≤ fuel → rawBufferReserve fuel realloc b extraLen = some r) ∧
      Reserved realloc b extraLen r) ∧
    (¬ extraLen > sizeMaxWord - b.len →
      (b.len + extraLen).toNat = b.len.toNat + extraLen.toNat) ∧
    (∀ needed n, (∀ m < n, Doubles needed (newCapAfter (firstCap b.cap) m)) →
      (newCapAfter (firstCap b.cap) n).toNat = (firstCap b.cap).toNat * 2 ^ n) ∧
    ∀ needed, ∃ newCap, ∀ fuel, 64 ≤ fuel →
      growLoop fuel (firstCap b.cap) needed = some newCap := by
  refine ⟨exists_reserved realloc hb extraLen, toNat_add_of_guard, ?_, ?_⟩
  · intro needed n hdoubles
    exact toNat_newCapAfter hdoubles
  · intro needed
    exact ⟨_, fun fuel hfuel => growLoop_firstCap _ _ hfuel⟩

/-- A `realloc` that always succeeds, and clears what is new. -/
def reallocCleared : Realloc where
  call old size := some (old.take size.toNat ++ List.replicate (size.toNat - old.length) 0)
  length_call h := by
    obtain rfl := Option.some.inj h
    rw [List.length_append, List.length_take, List.length_replicate]
    omega
  take_call h hold hsize := by
    obtain rfl := Option.some.inj h
    rw [List.take_append_of_le_length, List.take_take, Nat.min_eq_left hsize]
    rw [List.length_take]
    omega

theorem reserve_never_wraps_sample :
    ∃ r, rawBufferReserve 64 reallocCleared ⟨[1, 2], 2, 2⟩ 3 = some r ∧
      Reserved reallocCleared ⟨[1, 2], 2, 2⟩ 3 r := by
  obtain ⟨⟨r, hrun, hreserved⟩, -⟩ := reserve_never_wraps reallocCleared
    (show RawByteBuffer.WellFormed ⟨[1, 2], 2, 2⟩ from ⟨rfl, le_rfl⟩) 3
  exact ⟨r, hrun 64 le_rfl, hreserved⟩

/-! ### The append -/

theorem length_overwrite {block bytes : List UInt8} {start : ℕ}
    (h : start + bytes.length ≤ block.length) :
    (overwrite block start bytes).length = block.length := by
  rw [overwrite, List.length_append, List.length_append, List.length_take, List.length_drop]
  omega

theorem take_overwrite {block bytes : List UInt8} {start : ℕ}
    (h : start + bytes.length ≤ block.length) :
    (overwrite block start bytes).take (start + bytes.length) = block.take start ++ bytes := by
  have hlen : (block.take start ++ bytes).length = start + bytes.length := by
    rw [List.length_append, List.length_take]
    omega
  rw [overwrite, ← hlen, List.take_left]

/-- **The append is the one of the model.** It ends, what it copies stays inside the storage, and
the content is what `h265BufferAppend` makes of it. -/
theorem rawBufferAppend_eq (realloc : Realloc) {b : RawByteBuffer} (hb : b.WellFormed)
    {bytes : List UInt8} {len : UInt64} (hlen : bytes.length = len.toNat) :
    ∃ r, (∀ fuel, 64 ≤ fuel → rawBufferAppend fuel realloc b bytes len = some r) ∧
      r.2.WellFormed ∧
      h265BufferAppend (realloc.grants b len) b.toBuffer bytes = (r.1, r.2.toBuffer) := by
  have hzero : len = 0 ↔ bytes.length = 0 := by
    rw [← UInt64.toNat_inj, hlen]
    rfl
  by_cases hempty : len = 0
  · refine ⟨(true, b), fun fuel _ => if_pos hempty, hb, ?_⟩
    rw [h265BufferAppend, if_pos (hzero.mp hempty)]
  obtain ⟨⟨ok, b'⟩, hrun, hreserved⟩ := exists_reserved realloc hb len
  have hmodel := hreserved.model
  rw [← hlen] at hmodel
  cases ok with
  | false =>
    refine ⟨(false, b'), fun fuel hfuel => ?_, hreserved.wellFormed, ?_⟩
    · rw [rawBufferAppend, if_neg hempty, hrun fuel hfuel]
    · rw [h265BufferAppend, if_neg (hzero.not.mp hempty), hmodel]
  | true =>
    have hroom := hreserved.room rfl
    have hstart : b'.len = b.len := hreserved.len
    have hcontent : b'.content = b.content := hreserved.content
    have hlength := hreserved.wellFormed.length_data
    dsimp only at hroom hlength
    have hsum : (b'.len + len).toNat = b.len.toNat + bytes.length := by
      have hmax := toNat_le_sizeMax b'.cap
      rw [hstart, hlen]
      exact toNat_add_of_guard (by
        rw [guard_iff]
        omega)
    have hfits : b'.len.toNat + bytes.length ≤ b'.data.length := by
      rw [hstart, hlen, hlength]
      exact hroom
    refine ⟨(true, { b' with
      data := overwrite b'.data b'.len.toNat bytes, len := b'.len + len }), ?_, ⟨?_, ?_⟩, ?_⟩
    · intro fuel hfuel
      rw [rawBufferAppend, if_neg hempty, hrun fuel hfuel]
    · exact (length_overwrite hfits).trans hlength
    · dsimp only
      rw [hsum, hlen]
      exact hroom
    · rw [h265BufferAppend, if_neg (hzero.not.mp hempty), hmodel]
      have hbytes : (overwrite b'.data b'.len.toNat bytes).take (b'.len + len).toNat
          = b'.content ++ bytes := by
        rw [hsum, ← hstart, take_overwrite hfits, RawByteBuffer.content]
      simp only [RawByteBuffer.toBuffer]
      rw [← hbytes, RawByteBuffer.content]

end LittleCore

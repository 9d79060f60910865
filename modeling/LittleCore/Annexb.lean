import LittleCore.World
import Mathlib.Data.List.DropRight

/-!
# Cutting a buffer at Annex-B start codes

The start code searches of `rtp.c`, `RTSP_Create.c` and `datafifo_snapshot.c`, and the loop around
them that all four splitters of the program share: find a start code, take everything up to the
next one, drop trailing zeros, hand over what is left.

The loop's control never depends on what is done with a piece, except that a failure leaves it, so
it is split into the list of pieces (`annexbPieces`) and a `forEach` over that list at each of the
four places.
-/

namespace LittleCore

/-- The scan of `find_start_code` from position `i`, on the bytes from there on: the position and
the length of the first start code. -/
def findStartCodeFrom : List UInt8 → ℕ → Option (ℕ × ℕ)
  | b₀ :: b₁ :: b₂ :: rest, i =>
    if b₀ = 0x00 ∧ b₁ = 0x00 ∧ b₂ = 0x01 then some (i, 3)
    else if b₀ = 0x00 ∧ b₁ = 0x00 ∧ b₂ = 0x00 ∧ rest.head? = some 0x01 then some (i, 4)
    else findStartCodeFrom (b₁ :: b₂ :: rest) (i + 1)
  | _, _ => none

/-- `find_start_code` of `rtp.c`. -/
def findStartCode (buf : List UInt8) (offset : ℕ) : Option (ℕ × ℕ) :=
  findStartCodeFrom (buf.drop offset) offset

/-- `h265_find_start_code_local` of `RTSP_Create.c`, the same scan. -/
def h265FindStartCodeLocal (buf : List UInt8) (offset : ℕ) : Option (ℕ × ℕ) :=
  findStartCodeFrom (buf.drop offset) offset

/-- `(int)i` for a position `i`, `none` where it comes out negative. -/
def positionAsInt (i : ℕ) : Option ℕ :=
  if i % 2 ^ 32 < 2 ^ 31 then some (i % 2 ^ 32) else none

/-- `h265_find_start_code` of `datafifo_snapshot.c`: it looks at the offset first and returns the
position as an `int`. -/
def h265FindStartCode (buf : List UInt8) (offset : ℕ) : Option (ℕ × ℕ) :=
  if offset ≥ buf.length then none
  else
    match findStartCodeFrom (buf.drop offset) offset with
    | none => none
    | some (i, scLen) => (positionAsInt i).map fun i => (i, scLen)

/-- The entry test of the splitters, `buffer_starts_with_start_code` under its three names. -/
def bufferStartsWithStartCode (buf : List UInt8) : Bool :=
  match buf with
  | b₀ :: b₁ :: b₂ :: rest =>
    (b₀ == 0x00 && b₁ == 0x00 && b₂ == 0x01) ||
      (b₀ == 0x00 && b₁ == 0x00 && b₂ == 0x00 && rest.head? == some 0x01)
  | _ => false

/-- `while (nalu_end > nalu_start && buf[nalu_end - 1] == 0x00) nalu_end--`. -/
def stripTrailingZeros (nalu : List UInt8) : List UInt8 := nalu.rdropWhile (· == 0x00)

/-- The cutting loop from `searchOffset` on: the non-empty pieces in order, each with whether no
start code follows it. `find` is the search of the file at hand. Every round but the last moves
`searchOffset` forward, so the length of the buffer bounds the rounds; see `annexbPieces_fuel`. -/
def annexbPieces (find : List UInt8 → ℕ → Option (ℕ × ℕ)) (buf : List UInt8) :
    ℕ → ℕ → List (List UInt8 × Bool)
  | 0, _ => []
  | fuel + 1, searchOffset =>
    match find buf searchOffset with
    | none => []
    | some (scPos, scLen) =>
      let naluStart := scPos + scLen
      let next := find buf naluStart
      let naluEnd := (next.map Prod.fst).getD buf.length
      let nalu := stripTrailingZeros ((buf.take naluEnd).drop naluStart)
      let piece := if nalu = [] then [] else [(nalu, next.isNone)]
      match next with
      | none => piece
      | some (nextPos, _) => piece ++ annexbPieces find buf fuel nextPos

/-- The pieces of a buffer. -/
def annexbNalus (find : List UInt8 → ℕ → Option (ℕ × ℕ)) (buf : List UInt8) :
    List (List UInt8 × Bool) :=
  annexbPieces find buf (buf.length + 1) 0

/-- Two NALUs behind start codes of different lengths, the first with a trailing zero. -/
example : annexbNalus findStartCode [0, 0, 0, 1, 0x40, 7, 0, 0, 0, 1, 0x26, 8]
    = [([0x40, 7], false), ([0x26, 8], true)] := by decide

/-! ### The loop ends

The search moves forward, so more rounds than there are bytes never make a difference, and
`annexbNalus` is the loop itself. -/

/-- The search moves forward and stays inside the buffer. -/
theorem bounds_of_findStartCodeFrom {l : List UInt8} {i p n : ℕ}
    (h : findStartCodeFrom l i = some (p, n)) : i ≤ p ∧ p + n ≤ i + l.length ∧ 0 < n := by
  induction l, i using findStartCodeFrom.induct with
  | case1 b₀ b₁ b₂ rest i hthree =>
    rw [findStartCodeFrom, if_pos hthree, Option.some.injEq, Prod.mk.injEq] at h
    simp only [List.length_cons]
    omega
  | case2 b₀ b₁ b₂ rest i hthree hfour =>
    rw [findStartCodeFrom, if_neg hthree, if_pos hfour, Option.some.injEq, Prod.mk.injEq] at h
    have hrest : rest ≠ [] := by
      rintro rfl
      simp at hfour
    have hlen := List.length_pos_of_ne_nil hrest
    simp only [List.length_cons]
    omega
  | case3 b₀ b₁ b₂ rest i hthree hfour ih =>
    rw [findStartCodeFrom, if_neg hthree, if_neg hfour] at h
    have := ih h
    simp only [List.length_cons] at this ⊢
    omega
  | case4 => simp [findStartCodeFrom] at h

theorem bounds_of_h265FindStartCodeLocal {buf : List UInt8} {offset p n : ℕ}
    (h : h265FindStartCodeLocal buf offset = some (p, n)) :
    offset ≤ p ∧ p + n ≤ buf.length ∧ 0 < n := by
  have hbounds := bounds_of_findStartCodeFrom h
  have hoffset : offset ≤ buf.length := by
    by_contra hlt
    rw [h265FindStartCodeLocal, List.drop_eq_nil_of_le (by omega)] at h
    simp [findStartCodeFrom] at h
  rw [List.length_drop] at hbounds
  omega

/-! ### Positions as `int`s -/

theorem positionAsInt_of_lt {i : ℕ} (h : i < 2 ^ 31) : positionAsInt i = some i := by
  rw [positionAsInt, Nat.mod_eq_of_lt (by omega), if_pos h]

/-- In a buffer that an `int` can count, the snapshot's search is the search of the others. -/
theorem h265FindStartCode_eq {buf : List UInt8} (hbuf : buf.length < 2 ^ 31) (offset : ℕ) :
    h265FindStartCode buf offset = findStartCode buf offset := by
  rw [h265FindStartCode, findStartCode]
  split
  · rename_i hoff
    rw [List.drop_eq_nil_of_le hoff]
    rfl
  · split <;> rename_i hfind
    · exact hfind.symm
    · obtain ⟨hle, hlen, hpos⟩ := bounds_of_findStartCodeFrom hfind
      rw [List.length_drop] at hlen
      rw [hfind, positionAsInt_of_lt (by omega)]
      rfl

/-- So it is cut in the same places. -/
theorem annexbNalus_h265FindStartCode {buf : List UInt8} (hbuf : buf.length < 2 ^ 31) :
    annexbNalus h265FindStartCode buf = annexbNalus findStartCode buf := by
  have hpieces : ∀ fuel offset, annexbPieces h265FindStartCode buf fuel offset
      = annexbPieces findStartCode buf fuel offset := by
    intro fuel
    induction fuel with
    | zero => exact fun _ => rfl
    | succ fuel ih =>
      intro offset
      rw [annexbPieces, annexbPieces]
      simp only [h265FindStartCode_eq hbuf, ih]
  exact hpieces _ _

/-! ### More rounds make no difference -/

theorem annexbPieces_fuel {find : List UInt8 → ℕ → Option (ℕ × ℕ)} {buf : List UInt8}
    (hfind : ∀ offset p n, find buf offset = some (p, n) →
      offset ≤ p ∧ p + n ≤ buf.length ∧ 0 < n) {fuel searchOffset : ℕ}
    (h : buf.length < fuel + searchOffset) (more : ℕ) :
    annexbPieces find buf (fuel + more) searchOffset = annexbPieces find buf fuel searchOffset := by
  induction fuel generalizing searchOffset with
  | zero =>
    have hnone : find buf searchOffset = none := by
      cases hsome : find buf searchOffset with
      | none => rfl
      | some r =>
        have := hfind _ _ _ hsome
        omega
    rw [Nat.zero_add]
    cases more with
    | zero => rfl
    | succ more => rw [annexbPieces, annexbPieces, hnone]
  | succ fuel ih =>
    rw [Nat.succ_add, annexbPieces, annexbPieces]
    split
    · rfl
    · rename_i scPos scLen hsc
      dsimp only
      split
      · rfl
      · rename_i nextPos nextLen hnext
        have hsc := hfind _ _ _ hsc
        have hnext := hfind _ _ _ hnext
        rw [ih (by omega)]

/-- A piece has no trailing zeros left. -/
theorem stripTrailingZeros_of_mem_annexbPieces {find : List UInt8 → ℕ → Option (ℕ × ℕ)}
    {buf : List UInt8} {p : List UInt8 × Bool} {fuel searchOffset : ℕ}
    (h : p ∈ annexbPieces find buf fuel searchOffset) : stripTrailingZeros p.1 = p.1 := by
  induction fuel generalizing searchOffset with
  | zero => simp [annexbPieces] at h
  | succ fuel ih =>
    have hpiece : ∀ (nalu : List UInt8) (b : Bool),
        p ∈ (if stripTrailingZeros nalu = [] then [] else [(stripTrailingZeros nalu, b)]) →
        stripTrailingZeros p.1 = p.1 := by
      intro nalu b hmem
      split at hmem
      · simp at hmem
      · rw [List.mem_singleton.mp hmem]
        exact List.rdropWhile_idempotent _ nalu
    rw [annexbPieces] at h
    split at h
    · simp at h
    · dsimp only at h
      split at h
      · exact hpiece _ _ h
      · rcases List.mem_append.mp h with h | h
        · exact hpiece _ _ h
        · exact ih h

end LittleCore

import Mathlib.Algebra.Group.Nat.Defs
import Mathlib.Data.Nat.Notation
import Mathlib.Tactic.Common

/-!
# Little-endian words

Words of four and of eight bytes at any place of a byte sequence, and the two halves of the longer
one. Total: what is read behind the end is zero, and a bound appears only where a word is cut in
two.
-/

namespace Library

/-- The number that the bytes are, the lowest digit first. -/
def leNat : List UInt8 → ℕ
  | [] => 0
  | b :: l => b.toNat + 256 * leNat l

theorem leNat_append (l r : List UInt8) :
    leNat (l ++ r) = leNat l + 256 ^ l.length * leNat r := by
  induction l with
  | nil => simp [leNat]
  | cons b l ih =>
    rw [List.cons_append, leNat, leNat, ih, List.length_cons, Nat.pow_succ', Nat.mul_add,
      Nat.mul_assoc, Nat.add_assoc]

theorem leNat_lt (l : List UInt8) : leNat l < 256 ^ l.length := by
  induction l with
  | nil => decide
  | cons b l ih =>
    have hb : b.toNat < 256 := b.toNat_lt
    rw [leNat, List.length_cons, Nat.pow_succ']
    omega

/-- The number that is read from `n` bytes at `off`. -/
def leAt (bytes : List UInt8) (off n : ℕ) : ℕ := leNat ((bytes.drop off).take n)

theorem leAt_lt (bytes : List UInt8) (off n : ℕ) : leAt bytes off n < 256 ^ n :=
  Nat.lt_of_lt_of_le (leNat_lt _) (Nat.pow_le_pow_right (by decide) (List.length_take_le ..))

theorem leAt_add {bytes : List UInt8} {off m : ℕ} (h : off + m ≤ bytes.length) (n : ℕ) :
    leAt bytes off (m + n) = leAt bytes off m + 256 ^ m * leAt bytes (off + m) n := by
  have hlen : ((bytes.drop off).take m).length = m := by
    rw [List.length_take, List.length_drop]
    omega
  rw [leAt, List.take_add, leNat_append, hlen, List.drop_drop, leAt, leAt]

def u32At (bytes : List UInt8) (off : ℕ) : UInt32 := .ofNat (leAt bytes off 4)

def u64At (bytes : List UInt8) (off : ℕ) : UInt64 := .ofNat (leAt bytes off 8)

/-! ### Halves -/

/-- The long word with the two halves. -/
def joinWords (low high : UInt32) : UInt64 := .ofNat (low.toNat + 2 ^ 32 * high.toNat)

def lowWord (x : UInt64) : UInt32 := .ofNat x.toNat

def highWord (x : UInt64) : UInt32 := .ofNat (x.toNat / 2 ^ 32)

theorem toNat_joinWords (low high : UInt32) :
    (joinWords low high).toNat = low.toNat + 2 ^ 32 * high.toNat := by
  have hlow := low.toNat_lt
  have hhigh := high.toNat_lt
  rw [joinWords, UInt64.toNat_ofNat', Nat.mod_eq_of_lt (by omega)]

@[simp] theorem lowWord_joinWords (low high : UInt32) : lowWord (joinWords low high) = low := by
  have hlow := low.toNat_lt
  rw [← UInt32.toNat_inj, lowWord, toNat_joinWords, UInt32.toNat_ofNat', Nat.add_mul_mod_self_left,
    Nat.mod_eq_of_lt hlow]

@[simp] theorem highWord_joinWords (low high : UInt32) : highWord (joinWords low high) = high := by
  have hlow := low.toNat_lt
  have hhigh := high.toNat_lt
  rw [← UInt32.toNat_inj, highWord, toNat_joinWords, UInt32.toNat_ofNat']
  omega

@[simp] theorem joinWords_lowWord_highWord (x : UInt64) :
    joinWords (lowWord x) (highWord x) = x := by
  have hx := x.toNat_lt
  rw [← UInt64.toNat_inj, toNat_joinWords, lowWord, highWord, UInt32.toNat_ofNat',
    UInt32.toNat_ofNat', Nat.mod_eq_of_lt (a := x.toNat / 2 ^ 32) (by omega), Nat.mod_add_div]

theorem joinWords_eq_zero {low high : UInt32} : joinWords low high = 0 ↔ low = 0 ∧ high = 0 := by
  constructor
  · intro h
    exact ⟨by rw [← lowWord_joinWords low high, h]; rfl,
      by rw [← highWord_joinWords low high, h]; rfl⟩
  · rintro ⟨rfl, rfl⟩
    rfl

/-- Two words are one of twice the length. -/
theorem joinWords_u32At {bytes : List UInt8} {off : ℕ} (h : off + 4 ≤ bytes.length) :
    joinWords (u32At bytes off) (u32At bytes (off + 4)) = u64At bytes off := by
  have hlow : leAt bytes off 4 < 2 ^ 32 := leAt_lt bytes off 4
  have hhigh : leAt bytes (off + 4) 4 < 2 ^ 32 := leAt_lt bytes (off + 4) 4
  have hadd : leAt bytes off 8 = leAt bytes off 4 + 2 ^ 32 * leAt bytes (off + 4) 4 :=
    leAt_add h 4
  rw [← UInt64.toNat_inj, toNat_joinWords, u32At, u32At, u64At, UInt32.toNat_ofNat',
    UInt32.toNat_ofNat', UInt64.toNat_ofNat']
  omega

theorem lowWord_u64At {bytes : List UInt8} {off : ℕ} (h : off + 4 ≤ bytes.length) :
    lowWord (u64At bytes off) = u32At bytes off := by
  rw [← joinWords_u32At h, lowWord_joinWords]

theorem highWord_u64At {bytes : List UInt8} {off : ℕ} (h : off + 4 ≤ bytes.length) :
    highWord (u64At bytes off) = u32At bytes (off + 4) := by
  rw [← joinWords_u32At h, highWord_joinWords]

end Library

import LittleCore.Library.Cut
import Mathlib.Algebra.Group.Int.Defs
import Mathlib.Algebra.Group.Nat.Defs
import Mathlib.Data.List.Infix
import Mathlib.Data.List.TakeWhile
import Mathlib.Tactic.Common

/-!
# Strings as the C library reads and prints them

A buffer of characters is a list of them, and a C string is what stands before its first zero. The
functions below are those of the C library: `strstr`, the conversions `%<n>s` of `sscanf` and `%d`
of `printf`, `atoi` and `snprintf`.

What a reader finds in a text is decided by the part it reads: whatever follows a separator, or
follows what is searched for, makes no difference.

## Main results

* `scanWord_of_word`, `strstr_append` — reading from a text that continues
* `strstr_eq_some` — searching finds the first occurrence
* `strtol_digits`, `atoi_toDigits` — a number that is printed and read again
-/

namespace Library

/-- `isspace` in the C locale. -/
def isSpace (c : Char) : Bool := c == ' ' || ('\t' ≤ c && c ≤ '\r')

/-- The string in a buffer. -/
def cstr (buf : List Char) : List Char := buf.takeWhile (· != '\x00')

/-- `strstr`: the text from the first occurrence of `pat` on. -/
def strstr (pat : List Char) : List Char → Option (List Char)
  | [] => if pat = [] then some [] else none
  | c :: s => if pat.isPrefixOf (c :: s) then some (c :: s) else strstr pat s

/-- The conversion `%<width>s` of `sscanf`: the word and what is left. -/
def scanWord (width : ℕ) (s : List Char) : Option (List Char × List Char) :=
  let s := s.dropWhile isSpace
  let word := (s.take width).takeWhile (!isSpace ·)
  if word = [] then none else some (word, s.drop word.length)

/-- `strtol` to base 10, for a `long` of 64 bits. -/
def strtol (s : List Char) : ℤ :=
  let value (s : List Char) : ℤ := Nat.ofDigitChars 10 (s.takeWhile Char.isDigit) 0
  match s.dropWhile isSpace with
  | '-' :: s => max (-2 ^ 63) (-value s)
  | '+' :: s => min (2 ^ 63 - 1) (value s)
  | s => min (2 ^ 63 - 1) (value s)

/-- `atoi`: the `long` cut to an `int` of 32 bits. -/
def atoi (s : List Char) : ℤ := (strtol s).bmod (2 ^ 32)

/-- `%d`. -/
def decimal (n : ℤ) : List Char :=
  if n < 0 then '-' :: Nat.toDigits 10 n.natAbs else Nat.toDigits 10 n.natAbs

/-- `%0<width>u`. -/
def zeroPadded (width n : ℕ) : List Char :=
  List.replicate (width - (Nat.toDigits 10 n).length) '0' ++ Nat.toDigits 10 n

/-- `snprintf` into a buffer of `size` characters. -/
def snprintf (size : ℕ) (s : List Char) : List Char := s.take (size - 1)

example : atoi " -12x".toList = -12 := by decide

/-! ### Words -/

/-- A word that is followed by a space, or by nothing. -/
theorem scanWord_of_word {width : ℕ} {word rest : List Char} (hwidth : 0 < width) (hne : word ≠ [])
    (hword : ∀ c ∈ word, isSpace c = false) (hrest : ∀ c, rest.head? = some c → isSpace c) :
    scanWord width (word ++ rest) = some (word.take width, word.drop width ++ rest) := by
  have hdrop : (word ++ rest).dropWhile isSpace = word ++ rest := by
    rcases word with _ | ⟨c, word⟩
    · exact absurd rfl hne
    · exact List.dropWhile_cons_of_neg (by simp [hword c (List.mem_cons_self ..)])
  have htake : ((word ++ rest).take width).takeWhile (!isSpace ·) = word.take width := by
    rw [List.take_append, List.takeWhile_append_of_pos fun c hc => by
      simp [hword c (List.mem_of_mem_take hc)]]
    rcases rest with _ | ⟨c, rest⟩
    · simp
    · rcases hk : width - word.length with _ | k
      · simp
      · rw [List.take_succ_cons, List.takeWhile_cons_of_neg (by simp [hrest c rfl]),
          List.append_nil]
  have hne' : word.take width ≠ [] := by
    rw [Ne, List.take_eq_nil_iff]
    rintro (h | h)
    · omega
    · exact hne h
  rw [scanWord, hdrop, htake, if_neg hne', List.length_take]
  congr 2
  rcases Nat.le_total width word.length with h | h
  · rw [Nat.min_eq_left h, List.drop_append_of_le_length h]
  · rw [Nat.min_eq_right h, List.drop_of_length_le h, List.drop_left, List.nil_append]

theorem not_isSpace_of_all {word : List Char} (h : word.all (!isSpace ·)) :
    ∀ c ∈ word, isSpace c = false := by
  intro c hc
  simpa using List.all_eq_true.mp h c hc

/-- A word has no space in it, and fits. -/
theorem scanWord_spec {width : ℕ} {s word rest : List Char}
    (h : scanWord width s = some (word, rest)) :
    word.length ≤ width ∧ ∀ c ∈ word, isSpace c = false := by
  rw [scanWord] at h
  split at h
  · cases h
  · obtain ⟨rfl, -⟩ := Prod.mk.inj (Option.some.inj h)
    constructor
    · exact (List.takeWhile_sublist _).length_le.trans (List.length_take_le ..)
    · intro c hc
      simpa using List.mem_takeWhile_imp hc

theorem scanWord_space (width : ℕ) {c : Char} (hc : isSpace c) (s : List Char) :
    scanWord width (c :: s) = scanWord width s := by
  rw [scanWord, scanWord, List.dropWhile_cons_of_pos hc]

/-! ### Searching -/

theorem strstr_spec {pat s p : List Char} (h : strstr pat s = some p) :
    pat <+: p ∧ p <:+ s := by
  induction s with
  | nil =>
    rw [strstr, Option.ite_none_right_eq_some, Option.some.injEq] at h
    rw [h.1, ← h.2]
    exact ⟨List.nil_prefix, List.suffix_refl _⟩
  | cons c s ih =>
    rw [strstr] at h
    split at h
    · rename_i hprefix
      rw [← Option.some.inj h]
      exact ⟨List.isPrefixOf_iff_prefix.mp hprefix, List.suffix_refl _⟩
    · exact ⟨(ih h).1, (ih h).2.trans (List.suffix_cons c s)⟩

/-- What is found in a text is found in the same place when the text continues. -/
theorem strstr_append {pat s p : List Char} (h : strstr pat s = some p) (hpat : pat ≠ [])
    (t : List Char) : strstr pat (s ++ t) = some (p ++ t) := by
  induction s with
  | nil => simp [strstr, hpat] at h
  | cons c s ih =>
    -- The text from here on is at least as long as `pat`, so `pat` cannot reach into `t`.
    have hlen : pat.length ≤ (c :: s).length :=
      Nat.le_trans (strstr_spec h).1.length_le (strstr_spec h).2.length_le
    have hiff : pat.isPrefixOf (c :: (s ++ t)) = pat.isPrefixOf (c :: s) := by
      rw [Bool.eq_iff_iff, List.isPrefixOf_iff_prefix, List.isPrefixOf_iff_prefix]
      exact ⟨fun hp => List.prefix_of_prefix_length_le hp (List.prefix_append (c :: s) t) hlen,
        fun hp => hp.trans (List.prefix_append (c :: s) t)⟩
    rw [strstr] at h
    rw [List.cons_append, strstr, hiff]
    split at h
    · rename_i hprefix
      rw [if_pos hprefix, ← Option.some.inj h]
      rfl
    · rename_i hprefix
      rw [if_neg hprefix]
      exact ih h

theorem strstr_eq_none {pat s : List Char} (hpat : pat ≠ []) :
    strstr pat s = none ↔ ¬ pat <:+: s := by
  induction s with
  | nil => simp [strstr, hpat]
  | cons c s ih =>
    rw [strstr, List.infix_cons_iff, ← List.isPrefixOf_iff_prefix]
    split <;> simp_all

/-- What cannot overlap itself is found where it stands first. -/
theorem strstr_first {pat p : List Char} (hpat : Unbordered pat) (hp : ¬ pat <:+: p)
    (s : List Char) : strstr pat (p ++ (pat ++ s)) = some (pat ++ s) := by
  induction p with
  | nil =>
    obtain ⟨c, q, rfl⟩ := List.exists_cons_of_ne_nil hpat.1
    have hprefix : (c :: q).isPrefixOf (c :: (q ++ s)) :=
      List.isPrefixOf_iff_prefix.mpr (List.prefix_append (c :: q) s)
    rw [List.nil_append, List.cons_append, strstr, if_pos hprefix]
  | cons c p ih =>
    have hno : ¬ pat <+: c :: p := fun h => hp h.isInfix
    rw [List.cons_append, strstr, if_neg, ih fun h => hp (h.trans (List.suffix_cons c p).isInfix)]
    rw [List.isPrefixOf_iff_prefix]
    exact fun h => hno (hpat.isPrefix_append (List.cons_ne_nil c p) h)

theorem strstr_eq_some {pat s t : List Char} (hpat : Unbordered pat) :
    strstr pat s = some t ↔ ∃ p r, s = p ++ (pat ++ r) ∧ ¬ pat <:+: p ∧ t = pat ++ r := by
  constructor
  · intro h
    have hinf : pat <:+: s := by
      by_contra hno
      rw [(strstr_eq_none hpat.1).mpr hno] at h
      cases h
    obtain ⟨p, r, rfl, hp⟩ := exists_append_of_infix hpat.1 hinf
    rw [strstr_first hpat hp] at h
    exact ⟨p, r, rfl, hp, (Option.some.inj h).symm⟩
  · rintro ⟨p, r, rfl, hp, rfl⟩
    exact strstr_first hpat hp r

/-- A text without zeros is read to its end, and beyond. -/
theorem cstr_append {s : List Char} (h : '\x00' ∉ s) (t : List Char) :
    cstr (s ++ t) = s ++ cstr t := by
  rw [cstr, List.takeWhile_append_of_pos fun c hc => ?_]
  · rfl
  · rw [bne_iff_ne]
    rintro rfl
    exact h hc

theorem not_mem_cstr (buf : List Char) : '\x00' ∉ cstr buf := by
  intro hmem
  exact absurd (List.mem_takeWhile_imp hmem) (by decide)

/-! ### Numbers -/

theorem not_mem_zeroPadded (width n : ℕ) : '\x00' ∉ zeroPadded width n := by
  intro hmem
  rcases List.mem_append.mp hmem with hmem | hmem
  · exact absurd (List.eq_of_mem_replicate hmem) (by decide)
  · exact absurd (Nat.isDigit_of_mem_toDigits (by decide) (by decide) hmem) (by decide)

theorem isSpace_eq_false_of_isDigit {c : Char} (h : c.isDigit) : isSpace c = false := by
  rw [Char.isDigit, Bool.and_eq_true, decide_eq_true_eq, decide_eq_true_eq] at h
  simp only [isSpace, Bool.or_eq_false_iff, beq_eq_false_iff_ne, Bool.and_eq_false_iff,
    decide_eq_false_iff_not, Char.le_def]
  refine ⟨?_, .inr fun hle => ?_⟩
  · rintro rfl
    simp at h
  · exact absurd (UInt32.le_trans h.1 hle) (by decide)

/-- **Digits are read as the number they are**, as far as a `long` goes, after any space and before
anything that is no digit. -/
theorem strtol_digits {digits space rest : List Char} (hne : digits ≠ [])
    (hdigits : ∀ c ∈ digits, c.isDigit) (hspace : ∀ c ∈ space, isSpace c)
    (hrest : ∀ c, rest.head? = some c → c.isDigit = false) :
    strtol (space ++ (digits ++ rest)) = min (2 ^ 63 - 1) (Nat.ofDigitChars 10 digits 0 : ℤ) := by
  obtain ⟨c, l, rfl⟩ := List.exists_cons_of_ne_nil hne
  have hc : c.isDigit := hdigits c (List.mem_cons_self ..)
  have htake : (c :: l ++ rest).takeWhile Char.isDigit = c :: l := by
    rw [List.takeWhile_append_of_pos hdigits]
    rcases rest with _ | ⟨c', rest⟩
    · simp
    · rw [List.takeWhile_cons_of_neg (by simp [hrest c' rfl]), List.append_nil]
  have hdrop : (space ++ (c :: l ++ rest)).dropWhile isSpace = c :: l ++ rest := by
    rw [List.dropWhile_append_of_pos hspace]
    exact List.dropWhile_cons_of_neg (by simp [isSpace_eq_false_of_isDigit hc])
  rw [strtol, hdrop]
  split
  · rename_i heq
    rw [List.cons_append, List.cons.injEq] at heq
    rw [heq.1] at hc
    simp at hc
  · rename_i heq
    rw [List.cons_append, List.cons.injEq] at heq
    rw [heq.1] at hc
    simp at hc
  · dsimp only
    rw [htake]

/-- Digits of a number that fits an `int`. -/
theorem atoi_digits {digits space rest : List Char} (hne : digits ≠ [])
    (hdigits : ∀ c ∈ digits, c.isDigit) (hlt : Nat.ofDigitChars 10 digits 0 < 2 ^ 31)
    (hspace : ∀ c ∈ space, isSpace c) (hrest : ∀ c, rest.head? = some c → c.isDigit = false) :
    atoi (space ++ (digits ++ rest)) = Nat.ofDigitChars 10 digits 0 := by
  rw [atoi, strtol_digits hne hdigits hspace hrest, Int.min_eq_right (by omega)]
  exact Int.bmod_eq_of_le (by omega) (by omega)

/-- **A number is read as it was printed.** -/
theorem atoi_toDigits {n : ℕ} (h : n < 2 ^ 31) {space rest : List Char}
    (hspace : ∀ c ∈ space, isSpace c) (hrest : ∀ c, rest.head? = some c → c.isDigit = false) :
    atoi (space ++ (Nat.toDigits 10 n ++ rest)) = n := by
  have hvalue : Nat.ofDigitChars 10 (Nat.toDigits 10 n) 0 = n := Nat.ofDigitChars_ten_toDigits
  rw [atoi_digits Nat.toDigits_ne_nil
    (fun c hc => Nat.isDigit_of_mem_toDigits (by decide) (by decide) hc) (by rwa [hvalue]) hspace
    hrest, hvalue]

/-- An `int` takes at most eleven characters. -/
theorem length_decimal_le {n : ℤ} (hlo : -2 ^ 31 ≤ n) (hhi : n < 2 ^ 31) :
    (decimal n).length ≤ 11 := by
  have hdigits : (Nat.toDigits 10 n.natAbs).length ≤ 10 :=
    (Nat.length_toDigits_le_iff (by decide) (by decide)).mpr (by omega)
  rw [decimal]
  split
  · rw [List.length_cons]
    omega
  · omega

theorem atoi_bounds (s : List Char) : -2 ^ 31 ≤ atoi s ∧ atoi s < 2 ^ 31 := by
  have hlo := Int.le_bmod (x := strtol s) (m := 2 ^ 32) (by decide)
  have hhi := Int.bmod_lt (x := strtol s) (m := 2 ^ 32) (by decide)
  rw [atoi]
  constructor
  · simpa using hlo
  · simpa using hhi

end Library

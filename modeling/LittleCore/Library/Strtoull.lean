import LittleCore.Library.CString

/-!
# Numbers in the C library's notation

`strtoull` to base 0, which reads the base off the text: `0x` in front of a hexadecimal digit, a
leading zero, or neither. The number is read as far as it goes; beyond 64 bits it becomes the
largest `unsigned long long`, and behind a minus sign it is taken modulo `2 ^ 64`.

What is printed with `%llu`, `0%llo` or `0x%llx` is `printed`. It is read again as the number it
was, whatever blanks are in front of it and wherever the text goes on with something that is no
digit.

## Main results

* `strtoull_printed` — a number that is printed and read again
-/

namespace Library

/-! ### Digits -/

/-- The value of a digit or a letter, for bases up to 36. -/
def digitVal (c : Char) : ℕ :=
  if c.isDigit then c.toNat - '0'.toNat
  else if 'a' ≤ c ∧ c ≤ 'z' then c.toNat - 'a'.toNat + 10
  else if 'A' ≤ c ∧ c ≤ 'Z' then c.toNat - 'A'.toNat + 10
  else 36

def isDigitOf (base : ℕ) (c : Char) : Bool := digitVal c < base

def ofDigits (base : ℕ) (l : List Char) : ℕ := l.foldl (fun n c => base * n + digitVal c) 0

theorem ofDigits_concat (base : ℕ) (l : List Char) (c : Char) :
    ofDigits base (l ++ [c]) = base * ofDigits base l + digitVal c := by
  rw [ofDigits, ofDigits, List.foldl_concat]

theorem ofDigits_zero_cons (base : ℕ) (l : List Char) :
    ofDigits base ('0' :: l) = ofDigits base l := by
  rw [ofDigits, ofDigits, List.foldl_cons]
  rfl

theorem digitVal_digitChar {d : ℕ} (h : d < 16) : digitVal d.digitChar = d := by
  have hall : ∀ d : Fin 16, digitVal (d : ℕ).digitChar = d := by decide
  exact hall ⟨d, h⟩

section Base

variable {base : ℕ} (hlo : 1 < base) (hhi : base ≤ 16)

include hlo hhi

theorem ofDigits_toDigits (n : ℕ) : ofDigits base (Nat.toDigits base n) = n := by
  induction n using Nat.base_induction base hlo with
  | single d hd =>
    rw [Nat.toDigits_of_lt_base hd, ← List.nil_append [d.digitChar], ofDigits_concat,
      digitVal_digitChar (by omega)]
    exact Nat.zero_add d
  | digit n d hd hn ih =>
    rw [← Nat.toDigits_append_toDigits hlo hn hd, Nat.toDigits_of_lt_base hd, ofDigits_concat, ih,
      digitVal_digitChar (by omega)]

theorem isDigitOf_of_mem_toDigits {n : ℕ} {c : Char} (h : c ∈ Nat.toDigits base n) :
    isDigitOf base c := by
  induction n using Nat.base_induction base hlo with
  | single d hd =>
    rw [Nat.toDigits_of_lt_base hd, List.mem_singleton] at h
    rw [h, isDigitOf, digitVal_digitChar (by omega)]
    exact decide_eq_true hd
  | digit n d hd hn ih =>
    rw [← Nat.toDigits_append_toDigits hlo hn hd, Nat.toDigits_of_lt_base hd, List.mem_append,
      List.mem_singleton] at h
    rcases h with h | h
    · exact ih h
    · rw [h, isDigitOf, digitVal_digitChar (by omega)]
      exact decide_eq_true hd

/-- Nothing is printed with a zero in front. -/
theorem head_toDigits {n : ℕ} (hn : 0 < n) : (Nat.toDigits base n).head? ≠ some '0' := by
  induction n using Nat.base_induction base hlo with
  | single d hd =>
    rw [Nat.toDigits_of_lt_base hd, List.head?_cons, Ne, Option.some.injEq]
    intro hzero
    have hval := digitVal_digitChar (d := d) (by omega)
    rw [hzero] at hval
    have hnull : digitVal '0' = 0 := by decide
    omega
  | digit n d hd hpos ih =>
    rw [← Nat.toDigits_append_toDigits hlo hpos hd,
      List.head?_append_of_ne_nil _ Nat.toDigits_ne_nil]
    exact ih hpos

end Base

/-! ### Reading -/

/-- The sign: whether it is a minus, and what is behind it. -/
def splitSign : List Char → Bool × List Char
  | '-' :: s => (true, s)
  | '+' :: s => (false, s)
  | s => (false, s)

/-- The base that the text asks for, and the text from its first digit on. -/
def splitBase : List Char → ℕ × List Char
  | '0' :: x :: c :: s =>
    if (x = 'x' ∨ x = 'X') ∧ isDigitOf 16 c then (16, c :: s) else (8, '0' :: x :: c :: s)
  | '0' :: s => (8, '0' :: s)
  | s => (10, s)

theorem splitSign_of_isDigit {c : Char} (hc : c.isDigit) (s : List Char) :
    splitSign (c :: s) = (false, c :: s) := by
  rw [splitSign]
  · rintro _ ⟨⟩
    simp at hc
  · rintro _ ⟨⟩
    simp at hc

theorem splitBase_of_ne {c : Char} (hc : c ≠ '0') (s : List Char) :
    splitBase (c :: s) = (10, c :: s) := by
  rw [splitBase]
  · rintro _ _ _ ⟨⟩
    exact hc rfl
  · rintro _ ⟨⟩
    exact hc rfl

theorem splitBase_zero {c : Char} (hc : ¬(c = 'x' ∨ c = 'X')) (s : List Char) :
    splitBase ('0' :: c :: s) = (8, '0' :: c :: s) := by
  rcases s with _ | ⟨d, s⟩
  · rfl
  · rw [splitBase, if_neg fun h => hc h.1]

/-- What becomes of the number, in 64 bits. -/
def clamp (negative : Bool) (n : ℕ) : ℕ :=
  if 2 ^ 64 ≤ n then 2 ^ 64 - 1 else if negative then (2 ^ 64 - n) % 2 ^ 64 else n

/-- `strtoull` to base 0: the value and where it ends, `none` if there is no number. -/
def strtoull (s : List Char) : Option (ℕ × List Char) :=
  let signed := splitSign (s.dropWhile isSpace)
  let based := splitBase signed.2
  let digits := based.2.takeWhile (isDigitOf based.1)
  if digits = [] then none
  else some (clamp signed.1 (ofDigits based.1 digits), based.2.drop digits.length)

example : strtoull " -0x1Fg".toList = some (2 ^ 64 - 31, ['g']) := by decide

/-! ### What is printed -/

/-- A number as it is printed to the bases 8 and 16, with their prefixes, and otherwise without. -/
def printed (base n : ℕ) : List Char :=
  (if base = 16 then ['0', 'x'] else if base = 8 then ['0'] else []) ++ Nat.toDigits base n

/-- The first character is a decimal digit, so it is no blank and no sign. -/
theorem exists_printed {base : ℕ} (hbase : base = 8 ∨ base = 10 ∨ base = 16) (n : ℕ) :
    ∃ c l, printed base n = c :: l ∧ c.isDigit := by
  rcases hbase with rfl | rfl | rfl
  · exact ⟨'0', _, rfl, by decide⟩
  · obtain ⟨c, l, h⟩ := List.exists_cons_of_ne_nil (Nat.toDigits_ne_nil (n := n) (b := 10))
    have hmem : c ∈ Nat.toDigits 10 n := by
      rw [h]
      exact List.mem_cons_self ..
    exact ⟨c, l, h, Nat.isDigit_of_mem_toDigits (by decide) (by decide) hmem⟩
  · exact ⟨'0', _, rfl, by decide⟩

theorem splitSign_printed {base : ℕ} (hbase : base = 8 ∨ base = 10 ∨ base = 16) (n : ℕ)
    {sign : List Char} (hsign : sign = [] ∨ sign = ['+'] ∨ sign = ['-']) (rest : List Char) :
    splitSign (sign ++ (printed base n ++ rest)) = (sign == ['-'], printed base n ++ rest) := by
  obtain ⟨c, l, hprinted, hc⟩ := exists_printed hbase n
  rw [hprinted]
  rcases hsign with rfl | rfl | rfl
  · exact splitSign_of_isDigit hc _
  · rfl
  · rfl

/-- The base is read off the number, and the digits are those that were printed. -/
theorem splitBase_printed {base : ℕ} (hbase : base = 8 ∨ base = 10 ∨ base = 16) {n : ℕ}
    (hn : 0 < n) (rest : List Char) : ∃ digits, ofDigits base digits = n ∧ digits ≠ [] ∧
      (∀ c ∈ digits, isDigitOf base c) ∧
      splitBase (printed base n ++ rest) = (base, digits ++ rest) := by
  obtain ⟨c, l, hdigits⟩ := List.exists_cons_of_ne_nil (Nat.toDigits_ne_nil (n := n) (b := base))
  have hlo : 1 < base := by omega
  have hhi : base ≤ 16 := by omega
  have hvalue := ofDigits_toDigits hlo hhi n
  have hall : ∀ c ∈ Nat.toDigits base n, isDigitOf base c := fun c =>
    isDigitOf_of_mem_toDigits hlo hhi
  have hhead := head_toDigits hlo hhi hn
  rw [printed]
  rw [hdigits] at hvalue hall hhead ⊢
  rcases hbase with rfl | rfl | rfl
  · refine ⟨'0' :: c :: l, by rw [ofDigits_zero_cons, hvalue], List.cons_ne_nil _ _, ?_, ?_⟩
    · intro d hd
      rcases List.mem_cons.mp hd with rfl | hd
      · decide
      · exact hall d hd
    · -- An octal digit is no `x`.
      have hx : ¬(c = 'x' ∨ c = 'X') := by
        have hc := hall c (List.mem_cons_self ..)
        rintro (rfl | rfl) <;> exact absurd hc (by decide)
      exact splitBase_zero hx _
  · refine ⟨c :: l, hvalue, List.cons_ne_nil _ _, hall, ?_⟩
    refine splitBase_of_ne ?_ _
    rintro rfl
    exact hhead rfl
  · refine ⟨c :: l, hvalue, List.cons_ne_nil _ _, hall, ?_⟩
    exact if_pos ⟨.inl rfl, hall c (List.mem_cons_self ..)⟩

/-- **A number is read as it was printed**, as far as 64 bits go. -/
theorem strtoull_printed {base : ℕ} (hbase : base = 8 ∨ base = 10 ∨ base = 16) {n : ℕ} (hn : 0 < n)
    {space sign rest : List Char} (hspace : ∀ c ∈ space, isSpace c)
    (hsign : sign = [] ∨ sign = ['+'] ∨ sign = ['-'])
    (hrest : ∀ c, rest.head? = some c → isDigitOf base c = false) :
    strtoull (space ++ (sign ++ (printed base n ++ rest)))
      = some (clamp (sign == ['-']) n, rest) := by
  have hdrop : (space ++ (sign ++ (printed base n ++ rest))).dropWhile isSpace
      = sign ++ (printed base n ++ rest) := by
    obtain ⟨c, l, hprinted, hc⟩ := exists_printed hbase n
    rw [List.dropWhile_append_of_pos hspace, hprinted]
    rcases hsign with rfl | rfl | rfl
    · exact List.dropWhile_cons_of_neg (by simp [isSpace_eq_false_of_isDigit hc])
    · rfl
    · rfl
  obtain ⟨digits, hvalue, hne, hall, hbased⟩ := splitBase_printed hbase hn rest
  have htake : (digits ++ rest).takeWhile (isDigitOf base) = digits := by
    rw [List.takeWhile_append_of_pos hall]
    rcases rest with _ | ⟨c, rest⟩
    · simp
    · rw [List.takeWhile_cons_of_neg (by simp [hrest c rfl]), List.append_nil]
  rw [strtoull, hdrop, splitSign_printed hbase n hsign, hbased]
  dsimp only
  rw [htake, if_neg hne, hvalue, List.drop_left]

end Library

import LittleCore.Library.Transducer
import Mathlib.Algebra.Group.Nat.Defs
import Mathlib.Data.List.Chain

/-!
# Rate limits

A limiter is asked with a reading of a clock and lets a reading through if the one it let through
last is at least an interval back. It only remembers that reading, with 0 for none, and a reading of
0 stands for a clock that could not be read. The difference is that of 64-bit words, so a clock that
steps back opens the limiter.

Both halves of what a limiter is for hold whatever the clock does: readings that pass are an
interval apart (`isChain_passed`), and a reading that does not pass is less than an interval behind
one that did (`lt_interval_of_asked`). With a clock that does not step back the first half bounds
how many pass (`length_passed_le`).
-/

namespace Library

/-- What passes of one reading, and the reading that passed last. -/
def limiter (interval last now : UInt64) : List UInt64 × UInt64 :=
  if now = 0 then ([], last)
  else if last = 0 ∨ now - last ≥ interval then ([now], now) else ([], last)

/-- The readings that pass, from a reading that passed last. -/
def passed (interval last : UInt64) (readings : List UInt64) : List UInt64 :=
  (transduce (limiter interval) last readings).1

/-- The reading that passed last. -/
def lastPassed (interval last : UInt64) (readings : List UInt64) : UInt64 :=
  (transduce (limiter interval) last readings).2

variable {interval last now : UInt64} {readings : List UInt64}

theorem passed_concat (interval last now : UInt64) (readings : List UInt64) :
    passed interval last (readings ++ [now])
      = passed interval last readings ++
        (limiter interval (lastPassed interval last readings) now).1 := by
  rw [passed, transduce_append, transduce_singleton]
  rfl

theorem lastPassed_concat (interval last now : UInt64) (readings : List UInt64) :
    lastPassed interval last (readings ++ [now])
      = (limiter interval (lastPassed interval last readings) now).2 := by
  rw [lastPassed, transduce_append, transduce_singleton]
  rfl

/-- The limiter may not be asked at all. -/
theorem passed_append_toList (interval last : UInt64) (readings : List UInt64)
    (asked : Option UInt64) :
    passed interval last (readings ++ asked.toList) = passed interval last readings ++
      asked.elim [] fun now => (limiter interval (lastPassed interval last readings) now).1 := by
  cases asked with
  | none => rw [Option.toList_none, List.append_nil, Option.elim_none, List.append_nil]
  | some now => exact passed_concat interval last now readings

theorem lastPassed_append_toList (interval last : UInt64) (readings : List UInt64)
    (asked : Option UInt64) :
    lastPassed interval last (readings ++ asked.toList)
      = asked.elim (lastPassed interval last readings)
        fun now => (limiter interval (lastPassed interval last readings) now).2 := by
  cases asked with
  | none => rw [Option.toList_none, List.append_nil, Option.elim_none]
  | some now => exact lastPassed_concat interval last now readings

theorem lastPassed_eq (interval last : UInt64) (readings : List UInt64) :
    lastPassed interval last readings = (passed interval last readings).getLast?.getD last := by
  induction readings using List.reverseRecOn with
  | nil => rfl
  | append_singleton readings now ih =>
    rw [lastPassed_concat, passed_concat, limiter]
    split
    · rw [List.append_nil, ih]
    · split
      · rw [List.getLast?_concat, Option.getD_some]
      · rw [List.append_nil, ih]

/-- **Readings that pass are an interval apart.** -/
theorem isChain_passed (interval last : UInt64) (readings : List UInt64) :
    (passed interval last readings).IsChain fun a b => interval ≤ b - a := by
  have hrun : (last = 0 → (passed interval last readings).IsChain fun a b => interval ≤ b - a) ∧
      (last ≠ 0 → (last :: passed interval last readings).IsChain
        fun a b => interval ≤ b - a) := by
    induction readings generalizing last with
    | nil => exact ⟨fun _ => .nil, fun _ => .singleton last⟩
    | cons now readings ih =>
      rw [passed, transduce_cons, ← passed, limiter]
      split
      · exact ih last
      · rename_i hnow
        split
        · rename_i hopen
          have hnext := (ih now).2 hnow
          refine ⟨fun _ => hnext, fun hlast => ?_⟩
          exact .cons_cons (hopen.resolve_left hlast) hnext
        · exact ih last
  by_cases hlast : last = 0
  · exact hrun.1 hlast
  · exact (hrun.2 hlast).tail

/-- **A reading is less than an interval behind one that passed**, itself perhaps. -/
theorem lt_interval_of_asked (hpos : 0 < interval) (hnow : now ≠ 0) (last : UInt64)
    (readings : List UInt64) :
    lastPassed interval last (readings ++ [now]) ≠ 0 ∧
      now - lastPassed interval last (readings ++ [now]) < interval := by
  rw [lastPassed_concat, limiter, if_neg hnow]
  split
  · exact ⟨hnow, by simpa using hpos⟩
  · rename_i hclosed
    rw [not_or] at hclosed
    exact ⟨hclosed.1, Nat.not_le.mp hclosed.2⟩

/-- The reading that passed last is the last of those that passed, if one did from the start. -/
theorem exists_passed_of_asked (hpos : 0 < interval) (hnow : now ≠ 0)
    (hlast : readings.getLast? = some now) :
    ∃ last, (passed interval 0 readings).getLast? = some last ∧ now - last < interval := by
  obtain ⟨before, rfl⟩ := List.getLast?_eq_some_iff.mp hlast
  obtain ⟨hne, hlt⟩ := lt_interval_of_asked hpos hnow 0 before
  rw [lastPassed_eq] at hne hlt
  cases hpassed : (passed interval 0 (before ++ [now])).getLast? with
  | none => simp [hpassed] at hne
  | some last =>
    rw [hpassed] at hlt
    exact ⟨last, rfl, hlt⟩

/-- What passes was asked. -/
theorem sublist_passed (interval last : UInt64) (readings : List UInt64) :
    (passed interval last readings).Sublist readings := by
  induction readings generalizing last with
  | nil => exact .slnil
  | cons now readings ih =>
    rw [passed, transduce_cons, ← passed, limiter]
    split
    · exact .cons now (ih last)
    · split
      · exact .cons_cons now (ih now)
      · exact .cons now (ih last)

/-- Of readings that rise by an interval each there are not many. -/
theorem length_le_of_isChain {l : List UInt64} (happart : l.IsChain fun a b => interval ≤ b - a)
    (hrises : l.IsChain (· ≤ ·)) {first final : UInt64} (hfirst : l.head? = some first)
    (hfinal : l.getLast? = some final) :
    first.toNat + (l.length - 1) * interval.toNat ≤ final.toNat := by
  induction l generalizing first with
  | nil => cases hfirst
  | cons a l ih =>
    obtain rfl := Option.some.inj hfirst
    rcases l with _ | ⟨b, l⟩
    · obtain rfl := Option.some.inj hfinal
      simp
    · obtain ⟨hstep, happart⟩ := List.isChain_cons_cons.mp happart
      obtain ⟨hle, hrises⟩ := List.isChain_cons_cons.mp hrises
      have hrest := ih happart hrises rfl (by simpa using hfinal)
      have hsub := UInt64.toNat_sub_of_le b a hle
      have hgap : interval.toNat ≤ (b - a).toNat := hstep
      have hab : a.toNat ≤ b.toNat := hle
      simp only [List.length_cons, Nat.add_sub_cancel] at hrest ⊢
      rw [Nat.add_mul, Nat.one_mul]
      omega

/-- **How many readings pass** of a clock that does not step back. -/
theorem length_passed_le (hrises : readings.Pairwise (· ≤ ·)) (last : UInt64)
    {first final : UInt64} (hfirst : (passed interval last readings).head? = some first)
    (hfinal : (passed interval last readings).getLast? = some final) :
    first.toNat + ((passed interval last readings).length - 1) * interval.toNat ≤ final.toNat :=
  length_le_of_isChain (isChain_passed interval last readings)
    (hrises.sublist (sublist_passed interval last readings)).isChain hfirst hfinal

end Library

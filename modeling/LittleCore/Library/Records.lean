import LittleCore.Library.Transducer
import Mathlib.Order.BoundedOrder.Basic
import Mathlib.Order.Lattice
import Mathlib.Data.List.Induction
import Mathlib.Data.List.Pairwise

/-!
# Records

An element of a list is a record if its key is larger than that of every record before it. A
program that lets only records through may remember the key of the last one, in a variable whose
least value also says that there was none. `recordStep` is that program. It is right, apart from
lists that begin with two elements of the least key: it lets both through.

## Main results

* `pairwise_records` — the keys of the records increase
* `transduce_recordStep_iff` — when the variable with a double meaning is good enough
-/

namespace Library

variable {α κ : Type*} [LinearOrder κ]

/-- The elements whose key is larger than that of every record before. -/
def records (key : α → κ) (l : List α) : List α :=
  l.foldl (fun taken a => if ∀ t ∈ taken, key t < key a then taken ++ [a] else taken) []

theorem records_concat (key : α → κ) (l : List α) (a : α) : records key (l ++ [a])
    = if ∀ t ∈ records key l, key t < key a then records key l ++ [a] else records key l := by
  rw [records, List.foldl_concat]
  rfl

theorem pairwise_records (key : α → κ) (l : List α) :
    (records key l).Pairwise (key · < key ·) := by
  induction l using List.reverseRecOn with
  | nil => exact List.Pairwise.nil
  | append_singleton l a ih =>
    rw [records_concat]
    split
    · rename_i hlt
      refine List.pairwise_append.mpr ⟨ih, List.pairwise_singleton _ a, fun t ht b hb => ?_⟩
      rw [List.mem_singleton.mp hb]
      exact hlt t ht
    · exact ih

variable [OrderBot κ] {key : α → κ} {l : List α}

/-- Let an element through unless there was one before and its key is no larger. -/
def recordStep (key : α → κ) (last : κ) (a : α) : List α × κ :=
  if last ≠ ⊥ ∧ key a ≤ last then ([], last) else ([a], key a)

/-- The first two elements have the least key. -/
def RepeatsBot (key : α → κ) (l : List α) : Prop :=
  ∃ a b rest, l = a :: b :: rest ∧ key a = ⊥ ∧ key b = ⊥

/-- What is known of a list that has been read: the records and the variable. -/
structure Remembers (key : α → κ) (l : List α) (last : κ) : Prop where
  le_last : ∀ t ∈ records key l, key t ≤ last
  last_mem : l ≠ [] → ∃ t ∈ records key l, key t = last
  last_nil : l = [] → last = ⊥
  /-- The variable is `⊥` before and behind a first element with the least key only. -/
  length_le : last = ⊥ → l.length ≤ 1

namespace Remembers

variable {last : κ}

/-- The test is right: a `⊥` in the variable is only met by a key that is not `⊥`. -/
theorem test_iff (h : Remembers key l last) {a : α} (hbot : ¬ RepeatsBot key (l ++ [a])) :
    ¬ (last ≠ ⊥ ∧ key a ≤ last) ↔ ∀ t ∈ records key l, key t < key a := by
  rw [not_and_or, not_not, not_le]
  constructor
  · rintro (hlast | hlast) t ht
    · obtain ⟨b, rfl⟩ : ∃ b, l = [b] := by
        refine List.length_eq_one_iff.mp (Nat.le_antisymm (h.length_le hlast) ?_)
        refine List.length_pos_of_ne_nil ?_
        rintro rfl
        simp [records] at ht
      obtain ⟨t', ht', hlast'⟩ := h.last_mem (List.cons_ne_nil b [])
      have hb : ∀ t ∈ records key [b], t = b := by simp [records]
      rw [hb t ht]
      have hkey : key b = ⊥ := by rw [← hb t' ht', hlast', hlast]
      rw [hkey, bot_lt_iff_ne_bot]
      exact fun ha => hbot ⟨b, a, [], rfl, hkey, ha⟩
    · exact (h.le_last t ht).trans_lt hlast
  · intro hlt
    by_cases hl : l = []
    · exact .inl (h.last_nil hl)
    · obtain ⟨t, ht, rfl⟩ := h.last_mem hl
      exact .inr (hlt t ht)

theorem step (h : Remembers key l last) {a : α} (hbot : ¬ RepeatsBot key (l ++ [a])) :
    Remembers key (l ++ [a]) (recordStep key last a).2 ∧
      records key (l ++ [a]) = records key l ++ (recordStep key last a).1 := by
  have htest := h.test_iff hbot
  rw [records_concat, recordStep]
  by_cases hdrop : last ≠ ⊥ ∧ key a ≤ last
  · have hrecords : records key (l ++ [a]) = records key l := by
      rw [records_concat, if_neg (by rw [← htest, not_not]; exact hdrop)]
    rw [if_pos hdrop, if_neg (by rw [← htest, not_not]; exact hdrop)]
    refine ⟨⟨?_, fun _ => ?_, by simp, fun hb => absurd hb hdrop.1⟩, by simp⟩
    · rw [hrecords]
      exact h.le_last
    · rw [hrecords]
      exact h.last_mem fun hl => hdrop.1 (h.last_nil hl)
  · have hlt := htest.mp hdrop
    have hrecords : records key (l ++ [a]) = records key l ++ [a] := by
      rw [records_concat, if_pos hlt]
    rw [if_neg hdrop, if_pos hlt]
    refine ⟨⟨?_, fun _ => ⟨a, by simp [hrecords], rfl⟩, by simp, fun hb => ?_⟩, rfl⟩
    · rw [hrecords]
      intro t ht
      rcases List.mem_append.mp ht with ht | ht
      · exact (hlt t ht).le
      · rw [List.mem_singleton.mp ht]
    · -- Nothing is below `⊥`, so there was no record before.
      by_cases hl : l = []
      · simp [hl]
      · obtain ⟨t, ht, -⟩ := h.last_mem hl
        have := hlt t ht
        rw [show key a = ⊥ from hb] at this
        exact absurd this not_lt_bot

end Remembers

theorem remembers_transduce (hbot : ¬ RepeatsBot key l) :
    Remembers key l (transduce (recordStep key) ⊥ l).2 ∧
      (transduce (recordStep key) ⊥ l).1 = records key l := by
  induction l using List.reverseRecOn with
  | nil => exact ⟨⟨by simp [records], by simp, fun _ => rfl, by simp⟩, rfl⟩
  | append_singleton l a ih =>
    have hbot' : ¬ RepeatsBot key l := by
      rintro ⟨b, c, rest, rfl, hb, hc⟩
      exact hbot ⟨b, c, rest ++ [a], rfl, hb, hc⟩
    obtain ⟨hremembers, hrecords⟩ := ih hbot'
    obtain ⟨hremembers', hrecords'⟩ := hremembers.step hbot
    rw [transduce_append, transduce_singleton, hrecords]
    exact ⟨hremembers', hrecords'.symm⟩

/-- **The program lets the records through**, unless the list begins with two least keys. -/
theorem transduce_recordStep_iff (key : α → κ) (l : List α) :
    (transduce (recordStep key) ⊥ l).1 = records key l ↔ ¬ RepeatsBot key l := by
  refine ⟨?_, fun hbot => (remembers_transduce hbot).2⟩
  rintro h ⟨a, b, rest, rfl, ha, hb⟩
  have hpair := pairwise_records key (a :: b :: rest)
  rw [← h, transduce_cons, transduce_cons, recordStep, if_neg (by simp), ha, recordStep,
    if_neg (by simp)] at hpair
  have hlt := (List.pairwise_cons.mp hpair).1 b (by simp)
  rw [ha, hb] at hlt
  exact absurd hlt (lt_irrefl _)

end Library

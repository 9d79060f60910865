import Mathlib.Data.List.Rotate
import Mathlib.Data.Nat.ModEq

/-!
# Ring buffers

The slots of a ring are read from `head` on and around the end. `RingHolds` says that what is read
so is a queue, followed by slots that are empty. `push` writes behind the queue, `pop` empties the
slot at the head and moves the head on.
-/

namespace Library

variable {α : Type*} {empty a : α} {slots q : List α} {head : ℕ}

/-- From `head` on the slots hold `q`, and the others are empty. -/
structure RingHolds (empty : α) (slots : List α) (head : ℕ) (q : List α) : Prop where
  head_lt : head < slots.length
  length_le : q.length ≤ slots.length
  rotate : slots.rotate head = q ++ List.replicate (slots.length - q.length) empty

/-- The place of a slot, counted from the head. -/
theorem rotate_set {k : ℕ} (hk : k < slots.length) (head : ℕ) (a : α) :
    (slots.set ((head + k) % slots.length) a).rotate head = (slots.rotate head).set k a := by
  refine List.ext_getElem (by simp) ?_
  intro i h₁ h₂
  have hi : i < slots.length := by simpa using h₁
  rw [List.getElem_rotate, List.getElem_set, List.getElem_set, List.getElem_rotate]
  have hiff : (head + k) % slots.length = (i + head) % slots.length ↔ k = i := by
    constructor
    · intro h
      rw [Nat.add_comm head] at h
      have hmod : k % slots.length = i % slots.length := Nat.ModEq.add_right_cancel' head h
      rwa [Nat.mod_eq_of_lt hk, Nat.mod_eq_of_lt hi] at hmod
    · rintro rfl
      rw [Nat.add_comm]
  simp [hiff]

namespace RingHolds

theorem of_empty (n : ℕ) (hhead : head < n) :
    RingHolds empty (List.replicate n empty) head [] := by
  refine ⟨by simpa using hhead, Nat.zero_le _, ?_⟩
  rw [List.rotate_replicate, List.length_replicate]
  rfl

/-- A ring that holds nothing has nothing in its slots. -/
theorem slots_eq (h : RingHolds empty slots head []) :
    slots = List.replicate slots.length empty := by
  have hrotate : slots.rotate head = (List.replicate slots.length empty).rotate head := by
    rw [List.rotate_replicate]
    exact h.rotate
  exact List.rotate_eq_rotate.mp hrotate

/-- **Writing behind the queue.** -/
theorem push (h : RingHolds empty slots head q) (hroom : q.length < slots.length) (a : α) :
    RingHolds empty (slots.set ((head + q.length) % slots.length) a) head (q ++ [a]) := by
  have hlength : (slots.set ((head + q.length) % slots.length) a).length = slots.length := by simp
  refine ⟨by rw [hlength]; exact h.head_lt, by rw [hlength, List.length_append]; exact hroom, ?_⟩
  obtain ⟨n, hn⟩ := Nat.exists_eq_add_of_lt hroom
  rw [rotate_set hroom, h.rotate, hlength, List.length_append, List.length_singleton, hn,
    show q.length + n + 1 - q.length = n + 1 by omega,
    show q.length + n + 1 - (q.length + 1) = n by omega, List.replicate_succ,
    List.set_append_right _ _ (Nat.le_refl _), Nat.sub_self]
  simp

theorem front (h : RingHolds empty slots head (a :: q)) : slots[head]? = some a := by
  have hget : (slots.rotate head)[0]? = some a := by
    rw [h.rotate]
    rfl
  rw [List.getElem?_rotate (Nat.zero_lt_of_lt h.head_lt), Nat.zero_add,
    Nat.mod_eq_of_lt h.head_lt] at hget
  exact hget

/-- **Emptying the slot at the head.** -/
theorem pop (h : RingHolds empty slots head (a :: q)) :
    RingHolds empty (slots.set head empty) ((head + 1) % slots.length) q := by
  have hpos : 0 < slots.length := Nat.zero_lt_of_lt h.head_lt
  have hlength : (slots.set head empty).length = slots.length := by simp
  have hle : q.length + 1 ≤ slots.length := h.length_le
  refine ⟨by rw [hlength]; exact Nat.mod_lt _ hpos, by rw [hlength]; omega, ?_⟩
  have hset := rotate_set hpos head empty
  rw [Nat.add_zero, Nat.mod_eq_of_lt h.head_lt, h.rotate, List.cons_append,
    List.set_cons_zero] at hset
  have hmod := List.rotate_mod (slots.set head empty) (head + 1)
  rw [hlength] at hmod ⊢
  rw [hmod, ← List.rotate_rotate, hset, List.rotate_cons_succ, List.rotate_zero, List.append_assoc,
    List.length_cons, ← List.replicate_succ', show slots.length - (q.length + 1) + 1
      = slots.length - q.length by omega]

/-- **A slot outside the queue** is empty. -/
theorem empty_of_outside (h : RingHolds empty slots head q) {i : ℕ} (hi : i < slots.length)
    (hout : ∀ k < q.length, (head + k) % slots.length ≠ i) : slots[i]? = some empty := by
  have hpos : 0 < slots.length := Nat.zero_lt_of_lt hi
  have hhead := h.head_lt
  -- The slot is the `k`-th from the head.
  let k := (i + (slots.length - head)) % slots.length
  have hk : k < slots.length := Nat.mod_lt _ hpos
  have hplace : (k + head) % slots.length = i := by
    rw [Nat.mod_add_mod, show i + (slots.length - head) + head = i + slots.length by omega,
      Nat.add_mod_right, Nat.mod_eq_of_lt hi]
  have hbehind : q.length ≤ k := by
    by_contra hlt
    exact hout k (by omega) (by rw [Nat.add_comm, hplace])
  have hget : (slots.rotate head)[k]? = some empty := by
    rw [h.rotate, List.getElem?_append_right hbehind, List.getElem?_replicate_of_lt (by omega)]
  rwa [List.getElem?_rotate hk, hplace] at hget

end RingHolds

end Library

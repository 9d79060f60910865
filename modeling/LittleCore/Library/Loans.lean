import Mathlib.Data.List.Perm.Basic
import Mathlib.Logic.Function.Basic

/-!
# Memory on loan

An owner fills memory cells and hands over items that are about some of them, through a queue of
bounded length. A borrower takes the items out of the queue and gives them back, and works on the
cells of an item in between. Nothing is copied, so the owner has to leave the cells of an item alone
from the moment it is handed over to the moment it is given back; when exactly the borrower looks at
them is its own affair.

`Lending.Step` has this rule as the guard of the owner's `write`. Everything else follows, for any
interleaving of the two: what an item promised about the cells holds as long as the item is out, the
items are taken in the order they were handed over, and every item taken is given back once or still
out.

The items, the cells and what an item promises are arbitrary; a promise only has to be about the
cells of the item (`frame`).
-/

namespace Library

variable {τ κ ν : Type*}

/-- What is on loan: how many items may be, which cells an item is about, and what it promises about
them. -/
structure Lending (τ κ ν : Type*) where
  capacity : ℕ
  uses : τ → κ → Prop
  holds : τ → (κ → ν) → Prop
  frame : ∀ item mem mem', (∀ cell, uses item cell → mem' cell = mem cell) →
    holds item mem → holds item mem'

/-- The memory, the items handed over and not taken, and the items taken and not given back.
`submitted`, `taken` and `returned` are the history. -/
structure Loans (τ κ ν : Type*) where
  mem : κ → ν
  queue : List τ := []
  out : List τ := []
  submitted : List τ := []
  taken : List τ := []
  returned : List τ := []

inductive LoanEvent (τ κ ν : Type*) where
  | write (cell : κ) (value : ν)
  | submit (item : τ)
  | take (item : τ)
  | giveBack (item : τ)

namespace Lending

variable {L : Lending τ κ ν}

/-- The steps of the owner, `write` and `submit`, and of the borrower, `take` and `giveBack`. -/
inductive Step [DecidableEq τ] [DecidableEq κ] (L : Lending τ κ ν) (s : Loans τ κ ν) :
    LoanEvent τ κ ν → Loans τ κ ν → Prop
  | write {cell value} (hfree : ∀ item ∈ s.queue ++ s.out, ¬ L.uses item cell) :
    Step L s (.write cell value) { s with mem := Function.update s.mem cell value }
  | submit {item} (hroom : s.queue.length + s.out.length < L.capacity)
      (hholds : L.holds item s.mem) :
    Step L s (.submit item)
      { s with queue := s.queue ++ [item], submitted := s.submitted ++ [item] }
  | take {item rest} (hqueue : s.queue = item :: rest) :
    Step L s (.take item)
      { s with queue := rest, out := s.out ++ [item], taken := s.taken ++ [item] }
  | giveBack {item} (hout : item ∈ s.out) :
    Step L s (.giveBack item)
      { s with out := s.out.erase item, returned := s.returned ++ [item] }

/-- What holds of the loans at any time. -/
structure Sound (L : Lending τ κ ν) (s : Loans τ κ ν) : Prop where
  /-- What an item promised still holds. -/
  holds : ∀ item ∈ s.queue ++ s.out, L.holds item s.mem
  bounded : s.queue.length + s.out.length ≤ L.capacity
  /-- The items are taken in the order they were handed over, none is left out. -/
  fifo : s.taken ++ s.queue = s.submitted
  /-- A taken item is given back once or still out. -/
  settled : s.taken.Perm (s.returned ++ s.out)

theorem Sound.initial (L : Lending τ κ ν) (mem : κ → ν) : L.Sound { mem := mem } :=
  ⟨by simp, Nat.zero_le _, rfl, List.Perm.refl _⟩

/-- **The rule of loans.** Every step of either side keeps the loans sound. -/
theorem Sound.step [DecidableEq τ] [DecidableEq κ] {s s' : Loans τ κ ν} {e : LoanEvent τ κ ν}
    (h : L.Sound s) (hstep : L.Step s e s') : L.Sound s' := by
  cases hstep with
  | @write cell value hfree =>
    refine ⟨fun item hitem => ?_, h.bounded, h.fifo, h.settled⟩
    refine L.frame item s.mem _ (fun c hc => ?_) (h.holds item hitem)
    refine Function.update_of_ne ?_ value s.mem
    rintro rfl
    exact hfree item hitem hc
  | @submit item hroom hholds =>
    refine ⟨fun item' hitem' => ?_, ?_, ?_, h.settled⟩
    · change item' ∈ (s.queue ++ [item]) ++ s.out at hitem'
      rw [List.append_assoc, List.mem_append, List.mem_append, List.mem_singleton] at hitem'
      rcases hitem' with hqueue | rfl | hout
      · exact h.holds item' (List.mem_append_left _ hqueue)
      · exact hholds
      · exact h.holds item' (List.mem_append_right _ hout)
    · change (s.queue ++ [item]).length + s.out.length ≤ L.capacity
      rw [List.length_append, List.length_singleton]
      omega
    · change s.taken ++ (s.queue ++ [item]) = s.submitted ++ [item]
      rw [← List.append_assoc, h.fifo]
  | @take item rest hqueue =>
    have hfifo := h.fifo
    have hbounded := h.bounded
    rw [hqueue] at hfifo hbounded
    refine ⟨fun item' hitem' => ?_, ?_, ?_, ?_⟩
    · refine h.holds item' ?_
      change item' ∈ rest ++ (s.out ++ [item]) at hitem'
      rw [hqueue]
      simp only [List.mem_append, List.mem_cons, List.not_mem_nil, or_false] at hitem' ⊢
      rcases hitem' with hrest | hout | rfl
      · exact .inl (.inr hrest)
      · exact .inr hout
      · exact .inl (.inl rfl)
    · change rest.length + (s.out ++ [item]).length ≤ L.capacity
      rw [List.length_cons] at hbounded
      rw [List.length_append, List.length_singleton]
      omega
    · change (s.taken ++ [item]) ++ rest = s.submitted
      rw [List.append_assoc]
      exact hfifo
    · change (s.taken ++ [item]).Perm (s.returned ++ (s.out ++ [item]))
      rw [← List.append_assoc]
      exact h.settled.append_right [item]
  | @giveBack item hout =>
    have hperm := List.perm_cons_erase hout
    refine ⟨fun item' hitem' => ?_, ?_, h.fifo, ?_⟩
    · refine h.holds item' ?_
      rcases List.mem_append.mp hitem' with hqueue | hleft
      · exact List.mem_append_left _ hqueue
      · exact List.mem_append_right _ (List.mem_of_mem_erase hleft)
    · change s.queue.length + (s.out.erase item).length ≤ L.capacity
      have := h.bounded
      have := (List.erase_sublist : (s.out.erase item).Sublist s.out).length_le
      omega
    · change s.taken.Perm ((s.returned ++ [item]) ++ s.out.erase item)
      rw [List.append_assoc]
      exact h.settled.trans (hperm.append_left s.returned)

end Lending

end Library

import Mathlib.Data.Nat.Notation
import Mathlib.Tactic.Common

/-!
# Transfer loops

A loop that hands over data with calls that may take a part of it only: it asks for everything that
is left, and by the result it tries again, gives up or goes on behind what was taken.

What the other side takes with a result and what the loop makes of the result are two functions.
Where they agree (`Faithful`) the loop hands over a prefix, and succeeds exactly with all of it.
-/

namespace Library

/-- What a loop makes of a result. -/
inductive Progress where
  | retry
  | stop
  | advance (n : ℕ)

variable {ρ α : Type*}

/-- The loop: whether it succeeds, `none` where it needs more results, and what the other side has
taken. -/
def transfer (taken : ρ → ℕ) (read : ρ → Progress) : List ρ → List α → Option Bool × List α
  | _, [] => (some true, [])
  | [], _ :: _ => (none, [])
  | r :: rs, a :: data =>
    let got := (a :: data).take (taken r)
    match read r with
    | .retry =>
      let t := transfer taken read rs (a :: data)
      (t.1, got ++ t.2)
    | .stop => (some false, got)
    | .advance n =>
      let t := transfer taken read rs ((a :: data).drop n)
      (t.1, got ++ t.2)

/-- The loop goes on behind what was taken, and nothing was taken where it does not. -/
def Faithful (taken : ρ → ℕ) (read : ρ → Progress) (r : ρ) : Prop :=
  match read r with
  | .advance n => taken r = n
  | _ => taken r = 0

variable {taken : ρ → ℕ} {read : ρ → Progress}

@[simp] theorem transfer_nil (rs : List ρ) :
    transfer taken read rs ([] : List α) = (some true, []) := by
  cases rs <;> rfl

/-- The other side has a prefix of the data, and all of it exactly where the loop succeeds. -/
theorem transfer_spec {rs : List ρ} (hread : ∀ r ∈ rs, Faithful taken read r) (data : List α) :
    (transfer taken read rs data).2 <+: data ∧
      ∀ b, (transfer taken read rs data).1 = some b →
        (b = true ↔ (transfer taken read rs data).2 = data) := by
  induction rs generalizing data with
  | nil =>
    cases data with
    | nil => exact ⟨List.nil_prefix, by simp⟩
    | cons a data => exact ⟨List.nil_prefix, fun b hb => by cases hb⟩
  | cons r rs ih =>
    cases data with
    | nil => exact ⟨List.nil_prefix, by simp⟩
    | cons a data =>
      have hfaithful := hread r List.mem_cons_self
      have ih := ih fun r' hr' => hread r' (List.mem_cons_of_mem _ hr')
      rw [Faithful] at hfaithful
      rw [transfer]
      cases hr : read r with
      | retry =>
        rw [hr] at hfaithful
        simpa [hfaithful] using ih (a :: data)
      | stop =>
        rw [hr] at hfaithful
        simp [hfaithful]
      | advance n =>
        rw [hr] at hfaithful
        obtain ⟨hpart, hall⟩ := ih ((a :: data).drop n)
        simp only [hfaithful]
        have hsplit := List.take_append_drop n (a :: data)
        constructor
        · obtain ⟨rest, hrest⟩ := hpart
          exact ⟨rest, by rw [List.append_assoc, hrest, hsplit]⟩
        · intro b hb
          rw [hall b hb]
          constructor
          · intro heq
            rw [heq, hsplit]
          · intro heq
            exact List.append_cancel_left (heq.trans hsplit.symm)

/-- A loop that needs more results goes on with them. -/
theorem transfer_append {rs : List ρ} {data acc : List α}
    (h : transfer taken read rs data = (none, acc)) :
    ∃ a rest, ∀ more, transfer taken read (rs ++ more) data =
      ((transfer taken read more (a :: rest)).1,
        acc ++ (transfer taken read more (a :: rest)).2) := by
  induction rs generalizing data acc with
  | nil =>
    cases data with
    | nil => cases h
    | cons a data =>
      obtain rfl : [] = acc := congrArg Prod.snd h
      exact ⟨a, data, fun more => rfl⟩
  | cons r rs ih =>
    cases data with
    | nil => cases h
    | cons a data =>
      have hgo : ∀ left : List α, (∀ rs', transfer taken read (r :: rs') (a :: data) =
          ((transfer taken read rs' left).1,
            (a :: data).take (taken r) ++ (transfer taken read rs' left).2)) →
          ∃ a' rest, ∀ more, transfer taken read (r :: rs ++ more) (a :: data) =
            ((transfer taken read more (a' :: rest)).1,
              acc ++ (transfer taken read more (a' :: rest)).2) := by
        intro left hleft
        rw [hleft, Prod.mk.injEq] at h
        obtain ⟨hrunning, rfl⟩ := h
        obtain ⟨a', rest, hmore⟩ := ih (Prod.ext hrunning rfl)
        refine ⟨a', rest, fun more => ?_⟩
        rw [List.cons_append, hleft, hmore, List.append_assoc]
      cases hr : read r with
      | retry => exact hgo (a :: data) fun rs' => by rw [transfer, hr]
      | stop =>
        rw [transfer, hr] at h
        cases h
      | advance n => exact hgo ((a :: data).drop n) fun rs' => by rw [transfer, hr]

/-- A result that it gives up on ends it. -/
theorem transfer_append_of_stop {rs : List ρ} {data acc : List α} {r : ρ}
    (h : transfer taken read rs data = (none, acc)) (hread : read r = .stop) (htaken : taken r = 0)
    (more : List ρ) : transfer taken read (rs ++ r :: more) data = (some false, acc) := by
  obtain ⟨a, rest, hmore⟩ := transfer_append h
  rw [hmore, transfer, hread, htaken]
  exact Prod.ext rfl (List.append_nil acc)

end Library

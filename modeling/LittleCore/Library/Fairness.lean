import LittleCore.Library.Monitor

/-!
# Fair runs

The threads of a program are an automaton that reads steps and refuses the ones that no thread can
make. A run of it goes on for ever, where nothing may happen for a while, and it is fair to a
thread if the thread moves at some time when it could move from then on.

`Run.leadsTo` is the rule for what happens in the end: a thread that can move until it has
happened, and a number that each move of this thread makes smaller and no other step makes larger.
Steps that can be made one after another are the beginning of a run that rests after them
(`exists_rest`), and it is fair to the threads that cannot move there.
-/

namespace Library

namespace Monitor

variable {σ ε : Type*} {M : Monitor σ ε}

/-- The states at all times, and what happens in between. -/
structure Run (M : Monitor σ ε) where
  state : ℕ → σ
  event : ℕ → Option ε
  next : ∀ t, (event t).elim (some (state t)) (M.step (state t)) = some (state (t + 1))

namespace Run

variable {r : M.Run} {t : ℕ}

theorem next_of_none (h : r.event t = none) : r.state (t + 1) = r.state t := by
  have hnext := r.next t
  rw [h] at hnext
  exact (Option.some.inj hnext).symm

theorem next_of_some {e : ε} (h : r.event t = some e) :
    M.step (r.state t) e = some (r.state (t + 1)) := by
  have hnext := r.next t
  rwa [h] at hnext

/-- What every step keeps is kept. -/
theorem induct {P : σ → Prop} (hstep : ∀ s e s', P s → M.step s e = some s' → P s')
    (hP : P (r.state t)) {t' : ℕ} (ht : t ≤ t') : P (r.state t') := by
  induction ht with
  | refl => exact hP
  | @step t' _ ih =>
    cases h : r.event t' with
    | none => rwa [next_of_none h]
    | some e => exact hstep _ _ _ ih (next_of_some h)

/-- A thread that could move from some time on moves. Its steps are `moves`. -/
def Fair (r : M.Run) (moves : ε → Prop) : Prop :=
  ∀ t, (∀ t' ≥ t, ∃ e, moves e ∧ (M.step (r.state t') e).isSome) →
    ∃ t' ≥ t, ∃ e, r.event t' = some e ∧ moves e

/-- **The rule for what happens in the end.** As long as `P` does not hold, `I` is kept, the thread
can move, its moves make `rank` smaller and no step makes it larger. -/
theorem leadsTo {moves : ε → Prop} (hfair : r.Fair moves) (I P : σ → Prop) (rank : σ → ℕ)
    (henabled : ∀ s, I s → ¬ P s → ∃ e, moves e ∧ (M.step s e).isSome)
    (hstep : ∀ s e s', I s → ¬ P s → M.step s e = some s' →
      P s' ∨ I s' ∧ rank s' ≤ rank s ∧ (moves e → rank s' < rank s))
    {t : ℕ} (hI : I (r.state t)) : ∃ t' ≥ t, P (r.state t') := by
  induction hn : rank (r.state t) using Nat.strongRecOn generalizing t with
  | ind n ih =>
    by_contra hnever
    push Not at hnever
    -- Until `P` holds, the invariant does, and the rank does not grow.
    have hkept : ∀ t' ≥ t, I (r.state t') ∧ rank (r.state t') ≤ n := by
      intro t' ht'
      induction ht' with
      | refl => exact ⟨hI, Nat.le_of_eq hn⟩
      | @step t' ht' ihkept =>
        cases hevent : r.event t' with
        | none => rwa [next_of_none hevent]
        | some e =>
          rcases hstep _ e _ ihkept.1 (hnever t' ht') (next_of_some hevent) with hP | ⟨hI', hle, -⟩
          · exact absurd hP (hnever (t' + 1) (Nat.le_succ_of_le ht'))
          · exact ⟨hI', Nat.le_trans hle ihkept.2⟩
    obtain ⟨t', ht', e, hevent, hmoves⟩ :=
      hfair t fun t' ht' => henabled _ (hkept t' ht').1 (hnever t' ht')
    rcases hstep _ e _ (hkept t' ht').1 (hnever t' ht') (next_of_some hevent) with
      hP | ⟨hI', -, hless⟩
    · exact hnever (t' + 1) (Nat.le_succ_of_le ht') hP
    · obtain ⟨t'', ht'', hP⟩ := ih _ (Nat.lt_of_lt_of_le (hless hmoves) (hkept t' ht').2) hI' rfl
      exact hnever t'' (by omega) hP

/-! ### Runs that come to rest -/

/-- The run makes the steps and stays where they lead. -/
theorem exists_rest {s s' : σ} {es : List ε} (h : es.foldlM M.step s = some s') :
    ∃ r : M.Run, r.state 0 = s ∧ ∀ t ≥ es.length, r.state t = s' := by
  induction es generalizing s with
  | nil =>
    obtain rfl := Option.some.inj h
    exact ⟨⟨fun _ => s, fun _ => none, fun _ => rfl⟩, rfl, fun _ _ => rfl⟩
  | cons e es ih =>
    rw [List.foldlM_cons] at h
    obtain ⟨s₁, hs₁, hrest⟩ := Option.bind_eq_some_iff.mp h
    obtain ⟨r, hstart, hstays⟩ := ih hrest
    refine ⟨⟨fun t => t.casesOn s r.state, fun t => t.casesOn (some e) r.event, fun t => ?_⟩, rfl,
      fun t ht => ?_⟩
    · cases t with
      | zero => exact hs₁.trans (congrArg some hstart.symm)
      | succ t => exact r.next t
    · cases t with
      | zero => exact absurd ht (Nat.not_succ_le_zero _)
      | succ t => exact hstays t (Nat.le_of_succ_le_succ ht)

/-- A thread that cannot move where the run rests has had its turn. -/
theorem fair_of_rest {moves : ε → Prop} {s : σ} {n : ℕ} (hrest : ∀ t ≥ n, r.state t = s)
    (hdone : ∀ e, moves e → M.step s e = none) : r.Fair moves := by
  intro t henabled
  obtain ⟨e, hmoves, hstep⟩ := henabled (max t n) (Nat.le_max_left t n)
  rw [hrest _ (Nat.le_max_right t n), hdone e hmoves] at hstep
  cases hstep

end Run

end Monitor

end Library

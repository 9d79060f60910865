import LittleCore.Library.Trace
import Mathlib.Data.List.Induction

/-!
# Monitors

A monitor is a deterministic automaton that reads a trace and may refuse an event. A trace
property is proved in two halves that know nothing of each other: the program is shown to produce
only accepted traces, function by function (`run_concat`, `run_of_grows`), and accepted traces are
shown to have the property, event by event (`invariant`, `exists_step_of_run`).
-/

namespace Library

structure Monitor (σ ε : Type*) where
  start : σ
  /-- `none` refuses the event. -/
  step : σ → ε → Option σ

namespace Monitor

variable {σ ε : Type*} {M : Monitor σ ε} {P : ε → Prop} {l l' : List ε} {e : ε} {s : σ}

/-- An event that is only accepted under a condition. -/
theorem of_guard {α : Type*} {p : Prop} [Decidable p] {a b : α}
    (h : (if p then some a else none) = some b) : p ∧ a = b := by
  obtain ⟨hp, heq⟩ := Option.ite_none_right_eq_some.mp h
  exact ⟨hp, Option.some.inj heq⟩

/-- The state after a trace, if no event was refused. -/
def run (M : Monitor σ ε) (l : List ε) : Option σ := l.foldlM M.step M.start

@[simp] theorem run_nil (M : Monitor σ ε) : M.run [] = some M.start := rfl

theorem run_concat (M : Monitor σ ε) (l : List ε) (e : ε) :
    M.run (l ++ [e]) = (M.run l).bind (M.step · e) := by
  simp [run]

/-- Events that the monitor ignores in its present state can be added. -/
theorem run_of_grows (hP : ∀ e, P e → M.step s e = some s) (h : Grows P l l')
    (hl : M.run l = some s) : M.run l' = some s := by
  obtain ⟨d, rfl, hd⟩ := h
  induction d using List.reverseRecOn with
  | nil => rwa [List.append_nil]
  | append_singleton d e ih =>
    have hrun := ih fun x hx => hd x (List.mem_append_left _ hx)
    rw [← List.append_assoc, run_concat, hrun]
    exact hP e (hd e (by simp))

/-- Up to any event of an accepted trace the monitor has a state, and it accepts that event. -/
theorem exists_step_of_run {r : List ε} (h : M.run (l ++ e :: r) = some s) :
    ∃ t t', M.run l = some t ∧ M.step t e = some t' := by
  rw [run, List.foldlM_append] at h
  obtain ⟨t, ht, hrest⟩ := Option.bind_eq_some_iff.mp h
  rw [List.foldlM_cons] at hrest
  obtain ⟨t', ht', _⟩ := Option.bind_eq_some_iff.mp hrest
  exact ⟨t, t', ht, ht'⟩

/-- A trace is accepted piece by piece. -/
theorem exists_of_run_append {r : List ε} (h : M.run (l ++ r) = some s) :
    ∃ t, M.run l = some t := by
  rw [run, List.foldlM_append] at h
  obtain ⟨t, ht, _⟩ := Option.bind_eq_some_iff.mp h
  exact ⟨t, ht⟩

/-- **The invariant rule.** What holds at the start and is kept by every accepted event holds of
every accepted trace and the state it leads to. -/
theorem invariant {I : List ε → σ → Prop} (hstart : I [] M.start)
    (hstep : ∀ l s e s', I l s → M.step s e = some s' → I (l ++ [e]) s')
    (h : M.run l = some s) : I l s := by
  induction l using List.reverseRecOn generalizing s with
  | nil => rwa [← Option.some.inj h]
  | append_singleton l e ih =>
    rw [run_concat] at h
    obtain ⟨t, ht, he⟩ := Option.bind_eq_some_iff.mp h
    exact hstep l t e s (ih ht) he

end Monitor

end Library

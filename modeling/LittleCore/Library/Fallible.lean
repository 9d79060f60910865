import Mathlib.Data.List.Basic
import Mathlib.Tactic.Common

/-!
# Loops that stop at the first failure

A loop over a list whose body may fail, and which is left at the first failure, is `forEach`.
The state type, the element type and the body are arbitrary: a body takes an element and a state
and returns whether it succeeded together with the new state.

`completed` is the part of the list that the loop gets through.

Eight rules cover what a caller needs:

* `forEach_induct` — a reflexive and transitive relation that every body step satisfies holds
  between the state before and the state after the whole loop;
* `forEach_inv` — an invariant that may depend on whether the loop is still going well;
* `forEach_eq_foldl` — a loop whose body cannot fail is a fold;
* `forEach_prefix` — a loop that records its successful steps has recorded a prefix of its list,
  and has succeeded exactly when the prefix is the whole list;
* `forEach_collects` — a loop whose body succeeds under an invariant adds up what the elements
  bring;
* `forEach_until` — a loop whose body fails at certain elements adds up what is brought up to the
  first of them;
* `forEach_semiconj` — a map of the states that the bodies respect is respected by the loops.
-/

namespace Library

variable {α β σ : Type*}

/-- Run `f` on the elements in turn and stop at the first failure. -/
def forEach (f : α → σ → Bool × σ) : List α → σ → Bool × σ
  | [], s => (true, s)
  | a :: as, s =>
    match f a s with
    | (true, s') => forEach f as s'
    | (false, s') => (false, s')

@[simp] theorem forEach_nil (f : α → σ → Bool × σ) (s : σ) : forEach f [] s = (true, s) := rfl

theorem forEach_cons_of_ok {f : α → σ → Bool × σ} {a : α} {as : List α} {s : σ}
    (h : (f a s).1 = true) : forEach f (a :: as) s = forEach f as (f a s).2 := by
  rw [forEach]
  generalize f a s = r at h
  obtain ⟨ok, s'⟩ := r
  cases h
  rfl

theorem forEach_cons_of_fail {f : α → σ → Bool × σ} {a : α} {as : List α} {s : σ}
    (h : (f a s).1 = false) : forEach f (a :: as) s = (false, (f a s).2) := by
  rw [forEach]
  generalize f a s = r at h
  obtain ⟨ok, s'⟩ := r
  cases h
  rfl

theorem forEach_append (f : α → σ → Bool × σ) (l r : List α) (s : σ) :
    forEach f (l ++ r) s
      = if (forEach f l s).1 then forEach f r (forEach f l s).2 else forEach f l s := by
  induction l generalizing s with
  | nil => rfl
  | cons a l ih =>
    cases h : (f a s).1 with
    | true => rw [List.cons_append, forEach_cons_of_ok h, forEach_cons_of_ok h, ih]
    | false => rw [List.cons_append, forEach_cons_of_fail h, forEach_cons_of_fail h]; rfl

theorem forEach_map (f : α → σ → Bool × σ) (g : β → α) (l : List β) (s : σ) :
    forEach f (l.map g) s = forEach (fun b => f (g b)) l s := by
  induction l generalizing s with
  | nil => rfl
  | cons b l ih =>
    rw [List.map_cons, forEach, forEach]
    split <;> simp only [ih]

/-- The elements that the loop gets through. -/
def completed (f : α → σ → Bool × σ) : List α → σ → List α
  | [], _ => []
  | a :: as, s => if (f a s).1 then a :: completed f as (f a s).2 else []

theorem completed_prefix (f : α → σ → Bool × σ) (l : List α) (s : σ) : completed f l s <+: l := by
  induction l generalizing s with
  | nil => exact List.prefix_refl []
  | cons a as ih =>
    rw [completed]
    split
    · exact (List.prefix_cons_inj a).mpr (ih _)
    · exact List.nil_prefix

/-- A loop succeeds if it gets through its whole list. -/
theorem forEach_ok_iff_completed (f : α → σ → Bool × σ) (l : List α) (s : σ) :
    (forEach f l s).1 = true ↔ completed f l s = l := by
  induction l generalizing s with
  | nil => simp [completed]
  | cons a as ih =>
    rw [completed]
    cases hok : (f a s).1 with
    | true => rw [forEach_cons_of_ok hok, if_pos rfl, List.cons_inj_right, ih]
    | false => simp [forEach_cons_of_fail hok]

/-- **The loop rule.** What every body step relates, the loop relates. -/
theorem forEach_induct {f : α → σ → Bool × σ} {R : σ → σ → Prop} (hrefl : ∀ s, R s s)
    (htrans : ∀ {s t u}, R s t → R t u → R s u) {l : List α}
    (hstep : ∀ a ∈ l, ∀ s, R s (f a s).2) (s : σ) : R s (forEach f l s).2 := by
  induction l generalizing s with
  | nil => exact hrefl s
  | cons a as ih =>
    have ha : R s (f a s).2 := hstep a (List.mem_cons_self ..) s
    cases hok : (f a s).1 with
    | true =>
      rw [forEach_cons_of_ok hok]
      exact htrans ha (ih (fun b hb => hstep b (List.mem_cons_of_mem _ hb)) _)
    | false =>
      rw [forEach_cons_of_fail hok]
      exact ha

/-- **The invariant rule.** `I true` holds while all goes well, `I false` from the first failure
on. -/
theorem forEach_inv {f : α → σ → Bool × σ} {I : Bool → σ → Prop} {l : List α}
    (hstep : ∀ a ∈ l, ∀ s, I true s → I (f a s).1 (f a s).2) {s : σ} (h : I true s) :
    I (forEach f l s).1 (forEach f l s).2 := by
  induction l generalizing s with
  | nil => exact h
  | cons a as ih =>
    have ha : I (f a s).1 (f a s).2 := hstep a (List.mem_cons_self ..) s h
    cases hok : (f a s).1 with
    | true =>
      rw [forEach_cons_of_ok hok]
      rw [hok] at ha
      exact ih (fun b hb => hstep b (List.mem_cons_of_mem _ hb)) ha
    | false =>
      rw [forEach_cons_of_fail hok]
      rwa [hok] at ha

/-- A loop whose body cannot fail succeeds, and is a fold over the states. -/
theorem forEach_eq_foldl {f : α → σ → Bool × σ} {l : List α}
    (hok : ∀ a ∈ l, ∀ s, (f a s).1 = true) (s : σ) :
    forEach f l s = (true, l.foldl (fun s a => (f a s).2) s) := by
  induction l generalizing s with
  | nil => rfl
  | cons a as ih =>
    rw [forEach_cons_of_ok (hok a (List.mem_cons_self ..) s),
      ih (fun b hb => hok b (List.mem_cons_of_mem _ hb)), List.foldl_cons]

/-- **The successes are a prefix.** `obs` reads off the state what was recorded; a successful body
step records `g a` and a failing one records nothing. -/
theorem forEach_prefix {f : α → σ → Bool × σ} {obs : σ → List β} {g : α → β} {l : List α}
    (hok : ∀ a ∈ l, ∀ s, (f a s).1 = true → obs (f a s).2 = obs s ++ [g a])
    (hfail : ∀ a ∈ l, ∀ s, (f a s).1 = false → obs (f a s).2 = obs s) (s : σ) :
    ∃ k ≤ l.length, obs (forEach f l s).2 = obs s ++ (l.take k).map g ∧
      ((forEach f l s).1 = true ↔ k = l.length) := by
  induction l generalizing s with
  | nil => exact ⟨0, Nat.le_refl _, by simp, by simp⟩
  | cons a as ih =>
    cases h : (f a s).1 with
    | true =>
      obtain ⟨k, hk, hobs, hiff⟩ := ih (fun b hb => hok b (List.mem_cons_of_mem _ hb))
        (fun b hb => hfail b (List.mem_cons_of_mem _ hb)) (f a s).2
      have ha : obs (f a s).2 = obs s ++ [g a] := hok a (List.mem_cons_self ..) s h
      refine ⟨k + 1, by simpa using hk, ?_, ?_⟩
      · rw [forEach_cons_of_ok h, hobs, ha]
        simp
      · rw [forEach_cons_of_ok h, hiff]
        simp
    | false =>
      refine ⟨0, Nat.zero_le _, ?_, ?_⟩
      · rw [forEach_cons_of_fail h, hfail a (List.mem_cons_self ..) s h]
        simp
      · rw [forEach_cons_of_fail h]
        simp

/-- **A loop that goes well adds up** what its elements bring, if `R` composes along lists. -/
theorem forEach_collects {f : α → σ → Bool × σ} {I : σ → Prop} {R : List β → σ → σ → Prop}
    {g : α → List β} {l : List α} (hnil : ∀ s, I s → R [] s s)
    (happend : ∀ {l r s t u}, R l s t → R r t u → R (l ++ r) s u)
    (hstep : ∀ a ∈ l, ∀ s, I s → (f a s).1 = true ∧ I (f a s).2 ∧ R (g a) s (f a s).2) {s : σ}
    (h : I s) : (forEach f l s).1 = true ∧ I (forEach f l s).2 ∧
      R (l.flatMap g) s (forEach f l s).2 := by
  induction l generalizing s with
  | nil => exact ⟨rfl, h, hnil s h⟩
  | cons a as ih =>
    obtain ⟨hok, hI, hR⟩ := hstep a (List.mem_cons_self ..) s h
    obtain ⟨hoks, hIs, hRs⟩ := ih (fun b hb => hstep b (List.mem_cons_of_mem _ hb)) hI
    rw [forEach_cons_of_ok hok, List.flatMap_cons]
    exact ⟨hoks, hIs, happend hR hRs⟩

/-- **A loop that is left at the first bad element** adds up what the elements up to there bring. -/
theorem forEach_until {f : α → σ → Bool × σ} {I : σ → Prop} {R : List β → σ → σ → Prop}
    {g : α → List β} {q : α → Bool} {l : List α} (hnil : ∀ s, I s → R [] s s)
    (happend : ∀ {l r s t u}, R l s t → R r t u → R (l ++ r) s u)
    (hgood : ∀ a ∈ l, q a = true → ∀ s, I s →
      (f a s).1 = true ∧ I (f a s).2 ∧ R (g a) s (f a s).2)
    (hbad : ∀ a ∈ l, q a = false → ∀ s, I s → (f a s).1 = false ∧ R (g a) s (f a s).2) {s : σ}
    (h : I s) : R ((l.takeWhile q ++ (l.dropWhile q).take 1).flatMap g) s (forEach f l s).2 := by
  induction l generalizing s with
  | nil => exact hnil s h
  | cons a as ih =>
    cases hq : q a with
    | true =>
      obtain ⟨hok, hI, hR⟩ := hgood a (List.mem_cons_self ..) hq s h
      have hRs := ih (fun b hb => hgood b (List.mem_cons_of_mem _ hb))
        (fun b hb => hbad b (List.mem_cons_of_mem _ hb)) hI
      rw [forEach_cons_of_ok hok, List.takeWhile_cons_of_pos hq, List.dropWhile_cons_of_pos hq,
        List.cons_append, List.flatMap_cons]
      exact happend hR hRs
    | false =>
      obtain ⟨hok, hR⟩ := hbad a (List.mem_cons_self ..) hq s h
      have hq' : ¬ q a = true := by simp [hq]
      rw [forEach_cons_of_fail hok, List.takeWhile_cons_of_neg hq',
        List.dropWhile_cons_of_neg hq', List.nil_append, List.take_succ_cons, List.take_zero,
        List.flatMap_singleton]
      exact hR

/-- **A map of the states.** -/
theorem forEach_semiconj {τ : Type*} {p : σ → τ} {f : α → σ → Bool × σ} {g : α → τ → Bool × τ}
    {l : List α} (h : ∀ a ∈ l, ∀ s, g a (p s) = ((f a s).1, p (f a s).2)) (s : σ) :
    forEach g l (p s) = ((forEach f l s).1, p (forEach f l s).2) := by
  induction l generalizing s with
  | nil => rfl
  | cons a as ih =>
    have ha := h a (List.mem_cons_self ..) s
    cases hok : (f a s).1 with
    | true =>
      rw [forEach_cons_of_ok hok, forEach_cons_of_ok (by rw [ha, hok]), ha]
      exact ih (fun b hb => h b (List.mem_cons_of_mem _ hb)) _
    | false => rw [forEach_cons_of_fail hok, forEach_cons_of_fail (by rw [ha, hok]), ha]

end Library

import LittleCore.Library.Fallible

/-!
# Transducers

A transducer reads a list and, for each element, writes a list and moves to a new state. A stream
processor is specified by one, and the program refines it by a relation between the state of the
transducer, what it has written so far and the state of the program.

The two rules at the end carry such a relation through the loops of a program: through a `forEach`
whose body is shown to succeed along the way, and through a fold.
-/

namespace Library

variable {α β γ σ τ : Type*}

/-- What `step` writes along a list, and the state it ends in. -/
def transduce (step : σ → α → List β × σ) : σ → List α → List β × σ
  | s, [] => ([], s)
  | s, a :: as =>
    let r := transduce step (step s a).2 as
    ((step s a).1 ++ r.1, r.2)

variable {step : σ → α → List β × σ}

@[simp] theorem transduce_nil (s : σ) : transduce step s [] = ([], s) := rfl

theorem transduce_cons (s : σ) (a : α) (as : List α) :
    transduce step s (a :: as) = ((step s a).1 ++ (transduce step (step s a).2 as).1,
      (transduce step (step s a).2 as).2) := rfl

/-- One step that is known. -/
theorem transduce_of_step {s s' : σ} {a : α} {out : List β} (h : step s a = (out, s'))
    (as : List α) : (transduce step s (a :: as)).1 = out ++ (transduce step s' as).1 := by
  rw [transduce_cons, h]

theorem transduce_append (s : σ) (l r : List α) :
    transduce step s (l ++ r)
      = ((transduce step s l).1 ++ (transduce step (transduce step s l).2 r).1,
      (transduce step (transduce step s l).2 r).2) := by
  induction l generalizing s with
  | nil => rfl
  | cons a as ih => rw [List.cons_append, transduce_cons, transduce_cons, ih, List.append_assoc]

@[simp] theorem transduce_singleton (s : σ) (a : α) : transduce step s [a] = step s a := by
  rw [transduce_cons, transduce_nil, List.append_nil]

/-- Nothing is written along elements that are passed over. -/
theorem transduce_of_silent {s : σ} {l : List α} (h : ∀ a ∈ l, step s a = ([], s)) :
    transduce step s l = ([], s) := by
  induction l with
  | nil => rfl
  | cons a as ih =>
    rw [transduce_cons, h a (List.mem_cons_self ..),
      ih fun b hb => h b (List.mem_cons_of_mem _ hb)]
    rfl

/-- An element that is passed over might as well not be there. -/
theorem transduce_filter {p : α → Bool} (hp : ∀ s a, p a = false → step s a = ([], s)) (s : σ)
    (l : List α) : transduce step s (l.filter p) = transduce step s l := by
  induction l generalizing s with
  | nil => rfl
  | cons a as ih =>
    cases h : p a with
    | true => rw [List.filter_cons_of_pos h, transduce_cons, transduce_cons, ih]
    | false => rw [List.filter_cons_of_neg (by simp [h]), transduce_cons, hp s a h, ih]; rfl

theorem transduce_map {δ : Type*} (f : δ → α) (s : σ) (l : List δ) :
    transduce step s (l.map f) = transduce (fun s a => step s (f a)) s l := by
  induction l generalizing s with
  | nil => rfl
  | cons a as ih => rw [List.map_cons, transduce_cons, transduce_cons, ih]

/-- Element by element, or whole parts at a time. -/
theorem transduce_flatMap {δ : Type*} (f : δ → List α) (s : σ) (l : List δ) :
    transduce step s (l.flatMap f) = transduce (fun s a => transduce step s (f a)) s l := by
  induction l generalizing s with
  | nil => rfl
  | cons a as ih => rw [List.flatMap_cons, transduce_append, transduce_cons, ih]

/-- A transducer whose state stands still. -/
theorem transduce_of_still {f : α → List β} {s : σ} {l : List α}
    (h : ∀ a ∈ l, step s a = (f a, s)) : transduce step s l = (l.flatMap f, s) := by
  induction l with
  | nil => rfl
  | cons a as ih =>
    rw [transduce_cons, h a (List.mem_cons_self ..), ih fun b hb => h b (List.mem_cons_of_mem _ hb),
      List.flatMap_cons]

/-- **Two transducers side by side.** What one writes of `q` along a list is part of what the other
writes, if it is so element by element. -/
theorem transduce_sublist {step' : τ → α → List β × τ} {I : σ → τ → Prop} {q : β → Bool}
    (hstep : ∀ s t a, I s t →
      ((step s a).1.filter q).Sublist ((step' t a).1.filter q) ∧ I (step s a).2 (step' t a).2)
    {s : σ} {t : τ} (h : I s t) (l : List α) :
    ((transduce step s l).1.filter q).Sublist ((transduce step' t l).1.filter q) ∧
      I (transduce step s l).2 (transduce step' t l).2 := by
  induction l generalizing s t with
  | nil => exact ⟨List.Sublist.refl _, h⟩
  | cons a as ih =>
    obtain ⟨ha, hI⟩ := hstep s t a h
    obtain ⟨has, hIs⟩ := ih hI
    rw [transduce_cons, transduce_cons, List.filter_append, List.filter_append]
    exact ⟨ha.append has, hIs⟩

/-- A part of the state that moves as a fold. -/
theorem foldl_transduce {f : σ → τ} {g : τ → α → τ} (h : ∀ s a, f (step s a).2 = g (f s) a)
    (s : σ) (l : List α) : f (transduce step s l).2 = l.foldl g (f s) := by
  induction l generalizing s with
  | nil => rfl
  | cons a as ih => rw [transduce_cons, ih, h, List.foldl_cons]

/-- **The rule for loops that may fail.** A body that succeeds and keeps the relation makes a loop
that succeeds and keeps it. -/
theorem forEach_transduce {f : α → τ → Bool × τ} {S : σ → List β → τ → Prop} {l : List α}
    (hstep : ∀ a ∈ l, ∀ s out t, S s out t →
      (f a t).1 = true ∧ S (step s a).2 (out ++ (step s a).1) (f a t).2)
    {s : σ} {out : List β} {t : τ} (h : S s out t) :
    (forEach f l t).1 = true ∧
      S (transduce step s l).2 (out ++ (transduce step s l).1) (forEach f l t).2 := by
  induction l generalizing s out t with
  | nil => exact ⟨rfl, by rwa [transduce_nil, List.append_nil]⟩
  | cons a as ih =>
    obtain ⟨hok, ha⟩ := hstep a (List.mem_cons_self ..) s out t h
    rw [forEach_cons_of_ok hok, transduce_cons, ← List.append_assoc]
    exact ih (fun b hb => hstep b (List.mem_cons_of_mem _ hb)) ha

/-- **The rule for folds.** -/
theorem foldl_simulates {f : τ → α → τ} {S : σ → List β → τ → Prop} {l : List α}
    (hstep : ∀ a ∈ l, ∀ s out t, S s out t → S (step s a).2 (out ++ (step s a).1) (f t a))
    {s : σ} {out : List β} {t : τ} (h : S s out t) :
    S (transduce step s l).2 (out ++ (transduce step s l).1) (l.foldl f t) := by
  induction l generalizing s out t with
  | nil => rwa [transduce_nil, List.append_nil]
  | cons a as ih =>
    rw [transduce_cons, ← List.append_assoc]
    exact ih (fun b hb => hstep b (List.mem_cons_of_mem _ hb))
      (hstep a (List.mem_cons_self ..) s out t h)

end Library

import Mathlib.Data.List.Infix
import Mathlib.Tactic.Common

/-!
# Cutting a list at a separator

`cutAt sep l` cuts `l` at every occurrence of `sep`, from the left: the part in front of the first
occurrence, and what stands behind each of them. It is meant for a separator that cannot overlap
itself (`Unbordered`). Then the cut is the only way to write the list as parts without the
separator in them (`IsCut`), see `isCut_cutAt` and `IsCut.cutAt_eq`.
-/

namespace Library

variable {α : Type*}

/-- No proper part at the front of `sep` is also at its end. -/
def Unbordered (sep : List α) : Prop :=
  sep ≠ [] ∧ ∀ s, s <+: sep → s <:+ sep → s = [] ∨ s = sep

/-- It is enough to look at the proper parts at the front, of which there are finitely many. -/
theorem unbordered_of_take {sep : List α} (hne : sep ≠ [])
    (htake : ∀ n < sep.length, sep.take n <:+ sep → sep.take n = []) : Unbordered sep := by
  refine ⟨hne, ?_⟩
  intro s hprefix hsuffix
  have hs := List.prefix_iff_eq_take.mp hprefix
  rcases Nat.lt_or_ge s.length sep.length with hlt | hge
  · left
    rw [hs]
    exact htake s.length hlt (hs ▸ hsuffix)
  · right
    exact hprefix.eq_of_length_le hge

/-- In front of an occurrence there is no other one that overlaps it. -/
theorem Unbordered.isPrefix_append {sep p : List α} (h : Unbordered sep) (hp : p ≠ [])
    {l : List α} (hsep : sep <+: p ++ (sep ++ l)) : sep <+: p := by
  by_cases hlen : sep.length ≤ p.length
  · exact List.prefix_of_prefix_length_le hsep (List.prefix_append ..) hlen
  · obtain ⟨s, rfl⟩ : p <+: sep :=
      List.prefix_of_prefix_length_le (List.prefix_append ..) hsep (by omega)
    rw [List.prefix_append_right_inj] at hsep
    have hs : s <+: p ++ s :=
      List.prefix_of_prefix_length_le hsep (List.prefix_append ..) (by simp)
    rcases h.2 s hs (List.suffix_append ..) with rfl | heq
    · simp at hlen
    · exact absurd (List.self_eq_append_left.mp heq) hp

section Cut

variable [DecidableEq α]

/-- The cut, where the first `skip` elements are still part of the separator found last. -/
def cutFrom (sep : List α) : ℕ → List α → List α × List (List α)
  | _, [] => ([], [])
  | skip + 1, _ :: l => cutFrom sep skip l
  | 0, a :: l =>
    if sep <+: a :: l then
      let rest := cutFrom sep (sep.length - 1) l
      ([], rest.1 :: rest.2)
    else
      let rest := cutFrom sep 0 l
      (a :: rest.1, rest.2)

/-- What stands in front of the first `sep`, and what stands behind each of them. -/
def cutAt (sep l : List α) : List α × List (List α) := cutFrom sep 0 l

theorem cutFrom_length (sep p l : List α) : cutFrom sep p.length (p ++ l) = cutAt sep l := by
  induction p with
  | nil => rfl
  | cons a p ih => exact ih

variable {sep : List α}

@[simp] theorem cutAt_nil (sep : List α) : cutAt sep [] = ([], []) := rfl

theorem cutAt_cons {a : α} {l : List α} (h : ¬ sep <+: a :: l) :
    cutAt sep (a :: l) = (a :: (cutAt sep l).1, (cutAt sep l).2) := by
  rw [cutAt, cutFrom, if_neg h]
  rfl

theorem cutAt_sep (hsep : sep ≠ []) (l : List α) :
    cutAt sep (sep ++ l) = ([], (cutAt sep l).1 :: (cutAt sep l).2) := by
  obtain ⟨a, s, rfl⟩ := List.exists_cons_of_ne_nil hsep
  have h : a :: s <+: a :: (s ++ l) := ⟨l, rfl⟩
  rw [List.cons_append, cutAt, cutFrom, if_pos h, List.length_cons, Nat.add_sub_cancel]
  dsimp only
  rw [cutFrom_length]

/-- The first occurrence, and the cut behind it. -/
theorem cutAt_append (hsep : Unbordered sep) {p : List α} (hp : ¬ sep <:+: p) (l : List α) :
    cutAt sep (p ++ (sep ++ l)) = (p, (cutAt sep l).1 :: (cutAt sep l).2) := by
  induction p with
  | nil => exact cutAt_sep hsep.1 l
  | cons a p ih =>
    have hno : ¬ sep <+: a :: p := fun h => hp h.isInfix
    have hcons : ¬ sep <+: a :: (p ++ (sep ++ l)) := fun h =>
      hno (hsep.isPrefix_append (List.cons_ne_nil a p) h)
    rw [List.cons_append, cutAt_cons hcons, ih fun h => hp (h.trans (List.suffix_cons a p).isInfix)]

theorem cutAt_uncut {l : List α} (h : ¬ sep <:+: l) : cutAt sep l = (l, []) := by
  induction l with
  | nil => rfl
  | cons a l ih =>
    rw [cutAt_cons fun hpre => h hpre.isInfix,
      ih fun hinf => h (hinf.trans (List.suffix_cons a l).isInfix)]

/-- A cut of parts that were put together gives them back. -/
theorem cutAt_flatMap (hsep : Unbordered sep) {p : List α} (hp : ¬ sep <:+: p)
    {ps : List (List α)} (hps : ∀ q ∈ ps, ¬ sep <:+: q) :
    cutAt sep (p ++ ps.flatMap (sep ++ ·)) = (p, ps) := by
  induction ps generalizing p with
  | nil => rw [List.flatMap_nil, List.append_nil, cutAt_uncut hp]
  | cons q ps ih =>
    rw [List.flatMap_cons, List.append_assoc, cutAt_append hsep hp,
      ih (hps q (List.mem_cons_self ..)) fun r hr => hps r (List.mem_cons_of_mem _ hr)]

end Cut

/-! ### Induction on the occurrences -/

/-- A list with `sep` in it, cut once at its first occurrence. -/
theorem exists_append_of_infix {sep l : List α} (hsep : sep ≠ []) (h : sep <:+: l) :
    ∃ p r, l = p ++ (sep ++ r) ∧ ¬ sep <:+: p := by
  induction l with
  | nil => exact absurd (List.infix_nil.mp h) hsep
  | cons a l ih =>
    by_cases hpre : sep <+: a :: l
    · obtain ⟨r, hr⟩ := hpre
      exact ⟨[], r, hr.symm, fun hnil => hsep (List.infix_nil.mp hnil)⟩
    · obtain ⟨p, r, rfl, hp⟩ := ih ((List.infix_cons_iff.mp h).resolve_left hpre)
      refine ⟨a :: p, r, rfl, fun hinf => ?_⟩
      rcases List.infix_cons_iff.mp hinf with hinf | hinf
      · exact hpre (hinf.trans (List.prefix_append (a :: p) (sep ++ r)))
      · exact hp hinf

/-- **Cut induction**: a list has no `sep` in it, or it is one without followed by `sep` and a
rest. -/
theorem cut_induction {sep : List α} (hsep : sep ≠ []) {P : List α → Prop}
    (last : ∀ l, ¬ sep <:+: l → P l)
    (next : ∀ p l, ¬ sep <:+: p → P l → P (p ++ (sep ++ l))) (l : List α) : P l := by
  induction hn : l.length using Nat.strongRecOn generalizing l with
  | ind n ih =>
    by_cases h : sep <:+: l
    · obtain ⟨p, r, rfl, hp⟩ := exists_append_of_infix hsep h
      have hpos := List.length_pos_iff.mpr hsep
      exact next p r hp (ih r.length (by simp at hn; omega) r rfl)
    · exact last l h

variable [DecidableEq α] {sep : List α}

/-- The parts and the separators make up the list. -/
theorem append_flatMap_cutAt (hsep : Unbordered sep) (l : List α) :
    (cutAt sep l).1 ++ (cutAt sep l).2.flatMap (sep ++ ·) = l := by
  induction l using cut_induction hsep.1 with
  | last l h => rw [cutAt_uncut h, List.flatMap_nil, List.append_nil]
  | next p l hp ih => rw [cutAt_append hsep hp, List.flatMap_cons, List.append_assoc, ih]

/-- No part has the separator in it. -/
theorem not_infix_cutAt (hsep : Unbordered sep) (l : List α) :
    ¬ sep <:+: (cutAt sep l).1 ∧ ∀ p ∈ (cutAt sep l).2, ¬ sep <:+: p := by
  induction l using cut_induction hsep.1 with
  | last l h =>
    rw [cutAt_uncut h]
    exact ⟨h, by simp⟩
  | next p l hp ih =>
    rw [cutAt_append hsep hp]
    refine ⟨hp, fun q hq => ?_⟩
    rcases List.mem_cons.mp hq with rfl | hq
    · exact ih.1
    · exact ih.2 q hq

/-- `l` is `first` and then the parts `rest`, each behind a `sep`, and none of them has `sep` in
it. -/
structure IsCut (sep l first : List α) (rest : List (List α)) : Prop where
  join : first ++ rest.flatMap (sep ++ ·) = l
  not_infix_first : ¬ sep <:+: first
  not_infix_rest : ∀ p ∈ rest, ¬ sep <:+: p

theorem isCut_cutAt (hsep : Unbordered sep) (l : List α) :
    IsCut sep l (cutAt sep l).1 (cutAt sep l).2 :=
  ⟨append_flatMap_cutAt hsep l, (not_infix_cutAt hsep l).1, (not_infix_cutAt hsep l).2⟩

/-- There is only one cut. -/
theorem IsCut.cutAt_eq {l first : List α} {rest : List (List α)} (h : IsCut sep l first rest)
    (hsep : Unbordered sep) : cutAt sep l = (first, rest) := by
  rw [← h.join]
  exact cutAt_flatMap hsep h.not_infix_first h.not_infix_rest

/-- There are parts behind the first one if there is an occurrence. -/
theorem cutAt_snd_eq_nil_iff (hsep : Unbordered sep) {l : List α} :
    (cutAt sep l).2 = [] ↔ ¬ sep <:+: l := by
  refine ⟨fun h hinf => ?_, fun h => by rw [cutAt_uncut h]⟩
  obtain ⟨p, r, rfl, hp⟩ := exists_append_of_infix hsep.1 hinf
  rw [cutAt_append hsep hp] at h
  exact List.cons_ne_nil _ _ h

end Library

import Mathlib.Data.List.Basic
import Mathlib.Data.List.Induction
import Mathlib.Tactic.Common

/-!
# Traces that grow

`Grows P l l'` says that `l'` is `l` followed by entries that all satisfy `P`. It is reflexive,
transitive and monotone in `P`, so it can be the relation of a loop rule, and everything that
ignores the entries satisfying `P` reads the same off both traces.

`lastValue f l` is the last value that `f` reads off a trace, and `sinceLast f l` adds the part of
the trace behind it. `everywhere` checks a trace entry by entry.
-/

namespace Library

variable {ε β : Type*} {P Q : ε → Prop}

/-- `l'` extends `l` by entries satisfying `P`. -/
def Grows (P : ε → Prop) (l l' : List ε) : Prop := ∃ d, l' = l ++ d ∧ ∀ e ∈ d, P e

theorem Grows.refl (P : ε → Prop) (l : List ε) : Grows P l l := ⟨[], by simp⟩

theorem Grows.trans {l m r : List ε} (h₁ : Grows P l m) (h₂ : Grows P m r) : Grows P l r := by
  obtain ⟨d₁, rfl, hd₁⟩ := h₁
  obtain ⟨d₂, rfl, hd₂⟩ := h₂
  refine ⟨d₁ ++ d₂, List.append_assoc .., fun e he => ?_⟩
  rcases List.mem_append.mp he with he | he
  · exact hd₁ e he
  · exact hd₂ e he

theorem Grows.mono {l l' : List ε} (h : Grows P l l') (hPQ : ∀ e, P e → Q e) : Grows Q l l' := by
  obtain ⟨d, rfl, hd⟩ := h
  exact ⟨d, rfl, fun e he => hPQ e (hd e he)⟩

theorem Grows.single {e : ε} (h : P e) (l : List ε) : Grows P l (l ++ [e]) :=
  ⟨[e], rfl, by simpa using h⟩

/-- A reading that skips the new entries is unchanged. -/
theorem Grows.filterMap_eq {l l' : List ε} {f : ε → Option β} (h : Grows P l l')
    (hf : ∀ e, P e → f e = none) : l'.filterMap f = l.filterMap f := by
  obtain ⟨d, rfl, hd⟩ := h
  have : d.filterMap f = [] := List.filterMap_eq_nil_iff.mpr fun e he => hf e (hd e he)
  rw [List.filterMap_append, this, List.append_nil]

theorem Grows.filter_eq {l l' : List ε} {q : ε → Bool} (h : Grows P l l')
    (hq : ∀ e, P e → q e = false) : l'.filter q = l.filter q := by
  obtain ⟨d, rfl, hd⟩ := h
  have : d.filter q = [] := List.filter_eq_nil_iff.mpr fun e he => by simp [hq e (hd e he)]
  rw [List.filter_append, this, List.append_nil]

/-- Where an entry of a trace that has just grown is. -/
theorem concat_eq_append_cons {l a c : List ε} {e p : ε}
    (h : l ++ [e] = a ++ p :: c) :
    (c = [] ∧ e = p ∧ l = a) ∨ ∃ c₀, c = c₀ ++ [e] ∧ l = a ++ p :: c₀ := by
  induction c using List.reverseRecOn with
  | nil =>
    obtain ⟨hl, he⟩ := List.append_inj' h rfl
    exact .inl ⟨rfl, by simpa using he, hl⟩
  | append_singleton c₀ e' _ =>
    rw [← List.cons_append, ← List.append_assoc] at h
    obtain ⟨hl, he⟩ := List.append_inj' h rfl
    rw [List.singleton_inj] at he
    exact .inr ⟨c₀, by rw [he], hl⟩

/-- A prefix of a trace is over before an entry of it, or the entry belongs to it. -/
theorem before_or_within {p l r : List ε} {e : ε} (hp : p <+: r) (hl : l ++ [e] <+: r) :
    p <+: l ∨ l ++ [e] <+: p := by
  rcases Nat.lt_or_ge l.length p.length with hlen | hlen
  · exact .inr (List.prefix_of_prefix_length_le hl hp (by simpa using Nat.succ_le_of_lt hlen))
  · exact .inl (List.prefix_of_prefix_length_le hp ((List.prefix_append l [e]).trans hl) hlen)

/-- The value read off the last entry that has one. -/
def lastValue (f : ε → Option β) (l : List ε) : Option β := (l.filterMap f).getLast?

theorem lastValue_append (f : ε → Option β) (l r : List ε) :
    lastValue f (l ++ r) = (lastValue f r).or (lastValue f l) := by
  rw [lastValue, List.filterMap_append, List.getLast?_append]
  rfl

theorem lastValue_concat (f : ε → Option β) (l : List ε) (e : ε) :
    lastValue f (l ++ [e]) = (f e).or (lastValue f l) := by
  rw [lastValue_append]
  cases h : f e <;> simp [lastValue, h]

/-- If every value in the second part is `b`, it does not matter whether there is one. -/
theorem lastValue_append_of_forall {f : ε → Option β} {l r : List ε} {b : β}
    (hl : lastValue f l = some b) (hr : ∀ e ∈ r, ∀ v, f e = some v → v = b) :
    lastValue f (l ++ r) = some b := by
  rw [lastValue_append, hl]
  cases h : lastValue f r with
  | none => rfl
  | some v =>
    obtain ⟨e, he, hv⟩ := List.mem_filterMap.mp (List.mem_of_getLast? h)
    rw [hr e he v hv]
    rfl

/-- The value read off the last entry that has one, and the entries behind it. -/
def sinceLast (f : ε → Option β) (l : List ε) : Option (β × List ε) :=
  l.foldl (fun s e => match f e with
    | some b => some (b, [])
    | none => s.map fun p => (p.1, p.2 ++ [e])) none

theorem sinceLast_concat_of_some {f : ε → Option β} {e : ε} {b : β} (he : f e = some b)
    (l : List ε) : sinceLast f (l ++ [e]) = some (b, []) := by
  rw [sinceLast, List.foldl_concat, he]

theorem sinceLast_concat_of_none {f : ε → Option β} {e : ε} (he : f e = none) (l : List ε) :
    sinceLast f (l ++ [e]) = (sinceLast f l).map fun p => (p.1, p.2 ++ [e]) := by
  rw [sinceLast, List.foldl_concat, he]
  rfl

/-- What is added without a value belongs to the part behind. -/
theorem sinceLast_append {f : ε → Option β} {r : List ε} (hr : ∀ e ∈ r, f e = none) (l : List ε) :
    sinceLast f (l ++ r) = (sinceLast f l).map fun p => (p.1, p.2 ++ r) := by
  induction r using List.reverseRecOn with
  | nil => simp
  | append_singleton r e ih =>
    rw [← List.append_assoc, sinceLast_concat_of_none (hr e (by simp)),
      ih fun e' he' => hr e' (List.mem_append_left _ he'), Option.map_map]
    congr 1
    funext p
    simp

/-- Whatever entry with a value one looks at, the part starts there or later. -/
theorem exists_sinceLast {f : ε → Option β} {e : ε} {b : β} (he : f e = some b) (a c : List ε) :
    ∃ b' c₀ d, sinceLast f (a ++ e :: c) = some (b', c₀) ∧ c = d ++ c₀ := by
  induction c using List.reverseRecOn with
  | nil => exact ⟨b, [], [], sinceLast_concat_of_some he a, rfl⟩
  | append_singleton c e' ih =>
    obtain ⟨b', c₀, d, hlast, rfl⟩ := ih
    rw [← List.cons_append, ← List.append_assoc]
    cases he' : f e' with
    | some b'' => exact ⟨b'', [], _, sinceLast_concat_of_some he' _, (List.append_nil _).symm⟩
    | none =>
      refine ⟨b', c₀ ++ [e'], d, ?_, by simp⟩
      rw [sinceLast_concat_of_none he', hlast]
      rfl

/-- Where the part of the trace begins. -/
theorem exists_of_sinceLast {f : ε → Option β} {l c : List ε} {b : β}
    (h : sinceLast f l = some (b, c)) :
    ∃ a e, l = a ++ e :: c ∧ f e = some b ∧ ∀ e' ∈ c, f e' = none := by
  induction l using List.reverseRecOn generalizing c with
  | nil => simp [sinceLast] at h
  | append_singleton l e ih =>
    cases he : f e with
    | some b' =>
      rw [sinceLast_concat_of_some he, Option.some.injEq, Prod.mk.injEq] at h
      obtain ⟨rfl, rfl⟩ := h
      exact ⟨l, e, rfl, he, by simp⟩
    | none =>
      rw [sinceLast_concat_of_none he, Option.map_eq_some_iff] at h
      obtain ⟨⟨b', c'⟩, hl, hp⟩ := h
      obtain ⟨rfl, rfl⟩ := Prod.mk.inj hp
      obtain ⟨a, e₀, rfl, hb, hc⟩ := ih hl
      refine ⟨a, e₀, by simp, hb, fun e' he' => ?_⟩
      rcases List.mem_append.mp he' with he' | he'
      · exact hc e' he'
      · rwa [List.mem_singleton.mp he']

/-- Splitting at an entry with a value, if there is none behind it. -/
theorem sinceLast_append_cons {f : ε → Option β} {e : ε} {b : β} (he : f e = some b) (a : List ε)
    {c : List ε} (hc : ∀ e' ∈ c, f e' = none) : sinceLast f (a ++ e :: c) = some (b, c) := by
  rw [← List.singleton_append, ← List.append_assoc, sinceLast_append hc,
    sinceLast_concat_of_some he]
  rfl

/-- A test of what `sinceLast` finds, as a statement about splittings. -/
theorem all_sinceLast_iff {f : ε → Option β} {p : β × List ε → Bool} {l : List ε} :
    (sinceLast f l).all p = true ↔ ∀ a e b c, l = a ++ e :: c → f e = some b →
      (∀ e' ∈ c, f e' = none) → p (b, c) = true := by
  constructor
  · rintro h a e b c rfl he hc
    rwa [sinceLast_append_cons he a hc, Option.all_some] at h
  · intro h
    cases hlast : sinceLast f l with
    | none => rfl
    | some r =>
      obtain ⟨b, c⟩ := r
      obtain ⟨a, e, hl, he, hc⟩ := exists_of_sinceLast hlast
      exact h a e b c hl he hc

/-! ### Checking a trace

A property of traces that speaks of all ways to split them can be decided by going through the
entries. -/

/-- The check succeeds at every entry, with what is in front of it. -/
def everywhere (check : List ε → ε → Bool) (l : List ε) : Bool :=
  (List.range l.length).all fun k => l[k]?.all (check (l.take k))

theorem everywhere_iff {check : List ε → ε → Bool} {l : List ε} :
    everywhere check l = true ↔ ∀ a e c, l = a ++ e :: c → check a e = true := by
  rw [everywhere, List.all_eq_true]
  constructor
  · rintro h a e c rfl
    have hk := h a.length (by simp)
    simpa using hk
  · intro h k hk
    rw [List.mem_range] at hk
    rw [List.getElem?_eq_getElem hk, Option.all_some]
    exact h _ _ (l.drop (k + 1)) (by rw [List.getElem_cons_drop, List.take_append_drop])

/-! ### Sessions

A trace may be made of sessions, one after the other, that all end with the same entry. -/

/-- Where the trace stops in the middle of a session: behind whole sessions, and before the end of
the next one. -/
theorem exists_part_of_flatMap {α : Type*} {f : α → List ε} {b : ε} {sessions : List α} {l : List ε}
    (h : l <+: sessions.flatMap fun a => f a ++ [b]) (hne : l ≠ []) (hlast : l.getLast? ≠ some b) :
    ∃ before a after part, sessions = before ++ a :: after ∧
      l = (before.flatMap fun a => f a ++ [b]) ++ part ∧ part <+: f a ∧ part ≠ [] := by
  induction sessions generalizing l with
  | nil => exact absurd (List.prefix_nil.mp h) hne
  | cons a sessions ih =>
    rw [List.flatMap_cons] at h
    rcases List.prefix_or_prefix_of_prefix h (List.prefix_append _ _) with hin | ⟨rest, rfl⟩
    · rcases List.prefix_concat_iff.mp hin with rfl | hpart
      · exact absurd List.getLast?_concat hlast
      · exact ⟨[], a, sessions, l, rfl, rfl, hpart, hne⟩
    · have hrest : rest ≠ [] := by
        rintro rfl
        rw [List.append_nil] at hlast
        exact hlast List.getLast?_concat
      rw [List.prefix_append_right_inj] at h
      rw [List.getLast?_append_of_ne_nil _ hrest] at hlast
      obtain ⟨before, c, after, part, rfl, rfl, hpart, hne'⟩ := ih h hrest hlast
      refine ⟨a :: before, c, after, part, rfl, ?_, hpart, hne'⟩
      rw [List.flatMap_cons, ← List.append_assoc]

end Library

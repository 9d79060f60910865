import Mathlib.Data.List.Basic
import Mathlib.Tactic.Common

/-!
# Fragment trains and their reassembly

A sender cuts a message into pieces with a flag on the first and a flag on the last one, and may
abandon the train after any piece. A receiver collects pieces: a piece with the first flag starts
a train and drops whatever was unfinished, a piece with the last flag delivers it. Messages may
also be sent whole.

The element type is arbitrary, and the receiver sees only the pieces that arrived. The result is
`reassemble_sent`: from any receiver state, the receiver delivers exactly the messages of which
every piece was sent, in order, whatever was abandoned in between.
-/

namespace Library

variable {α : Type*}

/-- What one packet carries. A piece of a train brings the lead-in that the receiver puts in front
of the data when the piece is the first one. -/
inductive Piece (α : Type*) where
  | whole (message : List α)
  | part (first last : Bool) (lead data : List α)
deriving DecidableEq

/-- The train under construction after a piece. -/
def Piece.extend (train : Option (List α)) : Piece α → Option (List α)
  | .whole _ => train
  | .part true _ lead data => some (lead ++ data)
  | .part false _ _ data => train.map (· ++ data)

/-- The receiver: what it delivers for a sequence of pieces, from the train in hand. -/
def reassemble : Option (List α) → List (Piece α) → List (List α)
  | _, [] => []
  | train, .whole m :: ps => m :: reassemble train ps
  | train, .part first last lead data :: ps =>
    if last then
      (Piece.extend train (.part first last lead data)).toList ++ reassemble none ps
    else reassemble (Piece.extend train (.part first last lead data)) ps

/-- The pieces of a cut message. `first` tells whether the first chunk starts the train. -/
def cutTrain (lead : List α) : Bool → List (List α) → List (Piece α)
  | _, [] => []
  | first, [c] => [.part first true lead c]
  | first, c :: d :: cs => .part first false lead c :: cutTrain lead false (d :: cs)

@[simp] theorem length_cutTrain (lead : List α) (first : Bool) (cs : List (List α)) :
    (cutTrain lead first cs).length = cs.length := by
  fun_induction cutTrain lead first cs <;> simp_all

/-- A message as the sender hands it over: whole, or a lead-in and the chunks of the rest. -/
inductive Outgoing (α : Type*) where
  | whole (message : List α)
  | cut (lead : List α) (chunks : List (List α))

/-- The pieces a message is sent as. -/
def Outgoing.pieces : Outgoing α → List (Piece α)
  | .whole m => [.whole m]
  | .cut lead chunks => cutTrain lead true chunks

/-- The message itself. -/
def Outgoing.content : Outgoing α → List α
  | .whole m => m
  | .cut lead chunks => lead ++ chunks.flatten

/-- A message that is cut is cut into at least one chunk. -/
def Outgoing.Proper : Outgoing α → Prop
  | .whole _ => True
  | .cut _ chunks => chunks ≠ []

/-- The rest of a train, with the data already collected in hand. -/
theorem reassemble_cutTrain_rest (lead : List α) (ps : List (Piece α)) :
    ∀ (cs : List (List α)) (got : List α), cs ≠ [] →
      reassemble (some got) (cutTrain lead false cs ++ ps)
        = (got ++ cs.flatten) :: reassemble none ps := by
  intro cs
  induction cs with
  | nil => intro got h; exact absurd rfl h
  | cons c cs ih =>
    intro got _
    cases cs with
    | nil => simp [cutTrain, reassemble, Piece.extend]
    | cons d cs =>
      simp only [cutTrain, List.cons_append, reassemble, Piece.extend, Option.map_some]
      rw [if_neg (by decide), ih (got ++ c) (by simp)]
      simp

/-- A train of which every piece arrives is delivered, and nothing stays in hand. -/
theorem reassemble_cutTrain (lead : List α) {cs : List (List α)} (hcs : cs ≠ [])
    (train : Option (List α)) (ps : List (Piece α)) :
    reassemble train (cutTrain lead true cs ++ ps)
      = (lead ++ cs.flatten) :: reassemble none ps := by
  cases cs with
  | nil => exact absurd rfl hcs
  | cons c cs =>
    cases cs with
    | nil => simp [cutTrain, reassemble, Piece.extend]
    | cons d cs =>
      simp only [cutTrain, List.cons_append, reassemble, Piece.extend]
      rw [if_neg (by decide), reassemble_cutTrain_rest lead ps _ _ (by simp)]
      simp

/-- A train abandoned before its last piece delivers nothing: it only changes what is in hand. -/
theorem reassemble_take_cutTrain (lead : List α) (ps : List (Piece α)) :
    ∀ (cs : List (List α)) (first : Bool) (train : Option (List α)) {k : ℕ}, k < cs.length →
      ∃ train', reassemble train ((cutTrain lead first cs).take k ++ ps)
        = reassemble train' ps := by
  intro cs
  induction cs with
  | nil => intro first train k hk; simp at hk
  | cons c cs ih =>
    intro first train k hk
    cases k with
    | zero => exact ⟨train, by simp⟩
    | succ k =>
      cases cs with
      | nil => simp at hk
      | cons d cs =>
        obtain ⟨train', h⟩ := ih false (Piece.extend train (.part first false lead c))
          (k := k) (by simpa using hk)
        refine ⟨train', ?_⟩
        simp only [cutTrain, List.take_succ_cons, List.cons_append, reassemble]
        rw [if_neg (by decide), h]

/-- **Reassembly under loss.** Each message is sent up to some number of its pieces. Whatever is
in hand at the start, the receiver delivers the messages sent to the end and nothing else. -/
theorem reassemble_sent (l : List (Outgoing α × ℕ)) (hproper : ∀ x ∈ l, x.1.Proper)
    (hle : ∀ x ∈ l, x.2 ≤ x.1.pieces.length) (train : Option (List α)) :
    reassemble train (l.flatMap fun x => x.1.pieces.take x.2)
      = (l.filter fun x => x.2 == x.1.pieces.length).map fun x => x.1.content := by
  induction l generalizing train with
  | nil => rfl
  | cons x l ih =>
    obtain ⟨m, k⟩ := x
    have ih := fun t => ih (fun y hy => hproper y (List.mem_cons_of_mem _ hy))
      (fun y hy => hle y (List.mem_cons_of_mem _ hy)) t
    have hm : m.Proper := hproper (m, k) (List.mem_cons_self ..)
    have hk : k ≤ m.pieces.length := hle (m, k) (List.mem_cons_self ..)
    simp only [List.flatMap_cons]
    rcases Nat.lt_or_eq_of_le hk with hlt | heq
    · -- an abandoned message: nothing is delivered, whatever it leaves in hand is dropped later
      rw [List.filter_cons_of_neg (by simpa using Nat.ne_of_lt hlt)]
      cases m with
      | whole m =>
        have : k = 0 := by simpa [Outgoing.pieces] using hlt
        subst this
        simpa using ih train
      | cut lead cs =>
        obtain ⟨train', h⟩ := reassemble_take_cutTrain lead
          (l.flatMap fun x => x.1.pieces.take x.2) cs true train (k := k)
          (by simpa [Outgoing.pieces] using hlt)
        rw [Outgoing.pieces, h, ih train']
    · rw [List.filter_cons_of_pos (by simpa using heq), List.map_cons, heq, List.take_length]
      cases m with
      | whole m =>
        have h := congrArg (m :: ·) (ih train)
        exact h
      | cut lead cs =>
        rw [Outgoing.pieces, reassemble_cutTrain lead hm, ih none]
        rfl

end Library

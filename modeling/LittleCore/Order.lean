import LittleCore.Library.Records
import LittleCore.Rounds
import Mathlib.Order.Nat

/-!
# The order of the messages

The sender remembers the sequence number of the last message that it took, in a variable whose
zero also means that there was none. So a message is dropped exactly if it is not newer than all
that were taken before, with one exception: a second message with number 0, right behind a first
one with number 0, is taken as well.

## Main results

* `processed_eq_transduce` — the loop takes messages as `recordStep` does
* `processed_newest` — what a run processes, and what a dropped message leaves alone
-/

namespace LittleCore

open Library World

/-- The number of an item's message. -/
def Item.seq (item : Item) : ℕ := item.msg.seq.toNat

/-- The items whose messages a run processed. -/
def processed (trace : List Event) : List Item := (handled trace).map Prod.fst

theorem staleFrame_iff (last : UInt64) (item : Item) :
    staleFrame last item.msg = true ↔ last.toNat ≠ ⊥ ∧ item.seq ≤ last.toNat := by
  have hzero : last.toNat ≠ ⊥ ↔ last ≠ 0 := by
    rw [Nat.bot_eq_zero, Ne, Ne, ← UInt64.toNat_inj]
    rfl
  rw [staleFrame, Bool.and_eq_true, bne_iff_ne, decide_eq_true_eq, hzero, Item.seq,
    UInt64.le_iff_toNat_le]

/-- The loop drops a valid message as `recordStep` does. -/
theorem freshStep_eq (last : UInt64) {o : Item × Bool} (hvalid : naluDatafifoValidateMsg o.1.msg) :
    (freshStep last o).1.map Prod.fst = (recordStep Item.seq last.toNat o.1).1 ∧
      (freshStep last o).2.toNat = (recordStep Item.seq last.toNat o.1).2 := by
  have hstale := staleFrame_iff last o.1
  rw [freshStep, accepts, hvalid, Bool.true_and, recordStep]
  by_cases hs : staleFrame last o.1.msg
  · rw [if_pos (hstale.mp hs), hs]
    exact ⟨rfl, rfl⟩
  · rw [if_neg fun h => hs (hstale.mpr h), Bool.eq_false_iff.mpr hs]
    exact ⟨rfl, rfl⟩

theorem map_transduce_freshStep {l : List (Item × Bool)}
    (hvalid : ∀ o ∈ l, naluDatafifoValidateMsg o.1.msg) (last : UInt64) :
    (transduce freshStep last l).1.map Prod.fst
      = (transduce (recordStep Item.seq) last.toNat (l.map Prod.fst)).1 := by
  induction l generalizing last with
  | nil => rfl
  | cons o l ih =>
    obtain ⟨hout, hlast⟩ := freshStep_eq last (hvalid o (List.mem_cons_self ..))
    rw [transduce_cons, List.map_cons, transduce_cons, List.map_append,
      ih (fun p hp => hvalid p (List.mem_cons_of_mem _ hp)), hout, hlast]

theorem map_offered_run (env : Env) (inputs : List Input) :
    (offered (datafifoRtpSenderLoop env inputs {}).trace).map Prod.fst = itemsOf inputs := by
  induction inputs using List.reverseRecOn with
  | nil => rfl
  | append_singleton inputs input ih =>
    rw [datafifoRtpSenderLoop_concat, itemsOf_concat]
    rcases input with s | item
    · rw [World.input, offered_rtspStep, ih]
      exact (List.append_nil _).symm
    · rw [World.input, offered_round, List.map_append, ih]
      rfl

/-- **The loop takes messages as `recordStep` does.** -/
theorem processed_eq_transduce (env : Env) {inputs : List Input}
    (hvalid : ∀ item ∈ itemsOf inputs, naluDatafifoValidateMsg item.msg) :
    processed (datafifoRtpSenderLoop env inputs {}).trace
      = (transduce (recordStep Item.seq) ⊥ (itemsOf inputs)).1 := by
  rw [processed, (accounted_run env inputs).handled, map_transduce_freshStep, map_offered_run]
  · rfl
  · intro o ho
    refine hvalid o.1 ?_
    rw [← map_offered_run env inputs]
    exact List.mem_map_of_mem ho

/-- The state of the stream is the same: the RTP sequence number and timestamp, the parameter set
caches, the gate and the snapshot cache. -/
structure World.SameStream (w w' : World) : Prop where
  seq : w'.seq = w.seq
  timestamp : w'.timestamp = w.timestamp
  cache : w'.cache = w.cache
  wait : w'.waitForIdr = w.waitForIdr
  snapshot : w'.gH265SnapshotCache = w.gH265SnapshotCache

/-- A message that is not accepted leaves the stream alone. -/
theorem sameStream_round (env : Env) {item : Item} {w : World}
    (h : accepts w.lastReadSeq item.msg = false) : SameStream w (datafifoRound env item w) := by
  have hsched := Silent.schedule env (w.emit (.read item))
  have hlast : (getRtspTarget env (w.emit (.read item))).2.lastReadSeq = w.lastReadSeq := by
    change ((w.emit (.read item)).schedule env).lastReadSeq = _
    rw [hsched.frame]
    rfl
  have hsends := sends_schedule env ⟨0, 0⟩ (w.emit (.read item))
  have hsame : SameStream (w.emit (.read item)) ((w.emit (.read item)).schedule env) :=
    ⟨by rw [hsched.frame], by rw [hsends.frame], hsends.cache_eq, by rw [hsends.frame],
      by rw [hsends.frame]⟩
  rw [← hlast] at h
  rw [datafifoRound, handleMessage_of_not_accepts _ _ _ _ _ h]
  exact ⟨hsame.seq, hsame.timestamp, hsame.cache, hsame.wait, hsame.snapshot⟩

/-- **The messages that are processed** are the ones newer than every one before, and a message
that is dropped leaves the stream alone, exactly if the run does not begin with two messages that
have the number 0. -/
theorem processed_newest (env : Env) {inputs : List Input}
    (hvalid : ∀ item ∈ itemsOf inputs, naluDatafifoValidateMsg item.msg) :
    (processed (datafifoRtpSenderLoop env inputs {}).trace = records Item.seq (itemsOf inputs) ∧
      (processed (datafifoRtpSenderLoop env inputs {}).trace).Pairwise (·.seq < ·.seq) ∧
      ∀ before item after, inputs = before ++ .item item :: after →
        processed (datafifoRtpSenderLoop env (before ++ [.item item]) {}).trace
          = processed (datafifoRtpSenderLoop env before {}).trace →
        SameStream (datafifoRtpSenderLoop env before {})
          (datafifoRtpSenderLoop env (before ++ [.item item]) {})) ↔
    ¬ RepeatsBot Item.seq (itemsOf inputs) := by
  rw [← transduce_recordStep_iff, processed_eq_transduce env hvalid]
  refine ⟨fun h => h.1, fun h => ⟨h, by rw [h]; exact pairwise_records .., ?_⟩⟩
  rintro before item after - hsame
  rw [datafifoRtpSenderLoop_concat, World.input, processed, processed, handled_round,
    List.map_append] at hsame
  rw [datafifoRtpSenderLoop_concat, World.input]
  refine sameStream_round env ?_
  by_contra haccepts
  rw [Bool.not_eq_false] at haccepts
  rw [if_pos haccepts] at hsame
  simp at hsame

/-- Items with the numbers `seqs`. -/
def sampleItems (seqs : List UInt64) : List Input :=
  seqs.map fun seq => .item ⟨1, onePackMsg seq 0 [0, 0, 1, 0x02, 1] (by decide)⟩

theorem processed_newest_sample :
    processed (datafifoRtpSenderLoop {} (sampleItems [0, 7, 5, 7, 8]) {}).trace
      = records Item.seq (itemsOf (sampleItems [0, 7, 5, 7, 8])) :=
  ((processed_newest {} (show ∀ item ∈ itemsOf (sampleItems [0, 7, 5, 7, 8]),
    naluDatafifoValidateMsg item.msg by decide)).mpr (by
    rintro ⟨a, b, rest, h, -, hb⟩
    injection h with h₁ h
    injection h with h₂ h
    rw [← h₂] at hb
    exact absurd hb (by decide))).1

/-- **The number 0 is taken twice.** -/
theorem processes_zero_twice :
    (processed (datafifoRtpSenderLoop {} (sampleItems [0, 0]) {}).trace).map Item.seq = [0, 0] ∧
      (records Item.seq (itemsOf (sampleItems [0, 0]))).map Item.seq = [0] := by
  decide

end LittleCore

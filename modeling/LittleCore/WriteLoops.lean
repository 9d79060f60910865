import LittleCore.Annexb
import LittleCore.Library.Transfer
import LittleCore.Writer.Files

/-!
# Writing all of it

`send_all` of `rtsp.c` beside `snapshot_write_all` of `snapshot_writer.c`: two loops over a call
that may take a part of what it is given. One hands over a string to the client, the other the
stream of a job to its file. A call takes no more than it is given.

They are `transfer` loops with the same results read differently: `send_all` does not try again
after `EINTR`, and it keeps the result of `send` in an `int`. The responses of the server have
less than 2048 bytes, so this `int` always does; a result that does not fit would be lost.

## Main results

* `writeLoops_deliver` — both hand over a prefix, and return 0 exactly with all of it
-/

namespace LittleCore

open Library

/-- The bytes that a call took. -/
def WriteOutcome.taken : WriteOutcome → ℕ
  | .interrupted | .failed => 0
  | .wrote n => n

/-- The loop of `send_all` on what is left of the text: whether the function returns 0, `none` as
long as the loop runs, and the bytes that `send` took. -/
def sendLoop : List WriteOutcome → List UInt8 → Option Bool × List UInt8
  | [], data => (if data = [] then some true else none, [])
  | o :: os, data =>
    if data = [] then (some true, [])
    else
      match o with
      | .interrupted => (some false, [])
      | .failed => (some false, [])
      | .wrote sent =>
        -- `int n = send(..)`
        match positionAsInt sent with
        | none => (some false, data.take sent)
        | some n =>
          if n = 0 then (some false, data.take sent)
          else
            let t := sendLoop os (data.drop n)
            (t.1, data.take sent ++ t.2)

/-- The string at `text`, `strlen(text)` bytes of it. -/
def cBytes (text : List UInt8) : List UInt8 := text.takeWhile (· != 0x00)

/-- `send_all`. -/
def sendAll (os : List WriteOutcome) (text : List UInt8) : Option Bool × List UInt8 :=
  sendLoop os (cBytes text)

/-! ### The loops as transfers -/

/-- What `snapshot_write_all` makes of a result. -/
def readWrite : WriteOutcome → Progress
  | .interrupted => .retry
  | .failed => .stop
  | .wrote n => if n = 0 then .stop else .advance n

/-- What `send_all` makes of a result. -/
def readSend : WriteOutcome → Progress
  | .interrupted | .failed => .stop
  | .wrote sent =>
    match positionAsInt sent with
    | none => .stop
    | some n => if n = 0 then .stop else .advance n

theorem faithful_of_count {read : WriteOutcome → Progress} {n : ℕ}
    (h : read (.wrote n) = if n = 0 then .stop else .advance n) :
    Faithful WriteOutcome.taken read (.wrote n) := by
  rw [Faithful, h]
  by_cases hn : n = 0
  · rw [if_pos hn]
    exact hn
  · rw [if_neg hn]
    rfl

theorem faithful_readWrite (o : WriteOutcome) : Faithful WriteOutcome.taken readWrite o := by
  rcases o with _ | _ | n
  · rfl
  · rfl
  · exact faithful_of_count rfl

/-- As long as an `int` holds the result. -/
theorem faithful_readSend {o : WriteOutcome} (h : ∀ n, o = .wrote n → n < 2 ^ 31) :
    Faithful WriteOutcome.taken readSend o := by
  rcases o with _ | _ | n
  · rfl
  · rfl
  · refine faithful_of_count ?_
    rw [readSend, positionAsInt_of_lt (h n rfl)]

theorem sendLoop_eq (os : List WriteOutcome) (data : List UInt8) :
    sendLoop os data = transfer WriteOutcome.taken readSend os data := by
  induction os generalizing data with
  | nil => cases data <;> rfl
  | cons o os ih =>
    cases data with
    | nil => rfl
    | cons b data =>
      rw [sendLoop.eq_def, transfer]
      dsimp only
      rw [if_neg (List.cons_ne_nil b data), readSend.eq_def]
      rcases o with _ | _ | sent
      · rfl
      · rfl
      · cases hint : positionAsInt sent with
        | none => simp only [hint, WriteOutcome.taken]
        | some n =>
          simp only [hint, WriteOutcome.taken]
          by_cases hn : n = 0
          · simp only [if_pos hn]
          · simp only [if_neg hn, ih]

/-- `snapshot_write_all` returns what the transfer returns, and the file has grown by what `write`
took. -/
theorem snapshotWriteAll_eq (path : List Char) (os : List WriteOutcome) (data : List UInt8)
    (f : Files) :
    (snapshotWriteAll path os data f).1 = (transfer WriteOutcome.taken readWrite os data).1 ∧
      ((snapshotWriteAll path os data f).2 path).getD []
        = (f path).getD [] ++ (transfer WriteOutcome.taken readWrite os data).2 := by
  induction os generalizing data f with
  | nil =>
    cases data with
    | nil => exact ⟨rfl, (List.append_nil _).symm⟩
    | cons b data => exact ⟨rfl, (List.append_nil _).symm⟩
  | cons o os ih =>
    cases data with
    | nil => exact ⟨rfl, (List.append_nil _).symm⟩
    | cons b data =>
      rw [snapshotWriteAll.eq_def, transfer]
      dsimp only
      rw [if_neg (List.cons_ne_nil b data), readWrite.eq_def]
      rcases o with _ | _ | n
      · exact ih (b :: data) f
      · exact ⟨rfl, (List.append_nil _).symm⟩
      · by_cases hn : n = 0
        · subst hn
          exact ⟨rfl, (List.append_nil _).symm⟩
        · simp only [if_neg hn, WriteOutcome.taken]
          obtain ⟨hret, hcontent⟩ := ih ((b :: data).drop n) (f.append path ((b :: data).take n))
          refine ⟨hret, ?_⟩
          rw [hcontent, Files.append_self, ← List.append_assoc]
          rfl

/-! ### What they deliver -/

/-- A loop that has handed over `accepted`, and returned `result` if it has returned. -/
structure Delivers (data accepted : List UInt8) (result : Option Bool) : Prop where
  isPrefix : accepted <+: data
  success_iff : ∀ ok, result = some ok → (ok = true ↔ accepted = data)

/-- **The loops deliver exactly the data.** The file grows by a prefix of the stream and the client
is sent a prefix of the text, in order and once, and the loops return 0 exactly when this is all of
it. `send_all` ends with -1 at the first result that is not positive. -/
theorem writeLoops_deliver :
    (∀ path os data f, ∃ accepted,
      Delivers data accepted (snapshotWriteAll path os data f).1 ∧
      Files.OnlyTouches (· = path) f (snapshotWriteAll path os data f).2 ∧
      ((snapshotWriteAll path os data f).2 path).getD [] = (f path).getD [] ++ accepted) ∧
    (∀ os text, (∀ n, .wrote n ∈ os → n < 2 ^ 31) →
      Delivers (cBytes text) (sendAll os text).2 (sendAll os text).1) ∧
    ∀ os text sent o more, sendAll os text = (none, sent) → o.taken = 0 →
      sendAll (os ++ o :: more) text = (some false, sent) := by
  refine ⟨?_, ?_, ?_⟩
  · intro path os data f
    obtain ⟨hret, hcontent⟩ := snapshotWriteAll_eq path os data f
    have hfaithful : ∀ o ∈ os, Faithful WriteOutcome.taken readWrite o :=
      fun o _ => faithful_readWrite o
    obtain ⟨hpart, hall⟩ := transfer_spec hfaithful data
    refine ⟨_, ⟨hpart, ?_⟩, (snapshotWriteAll_spec path os data f).1, hcontent⟩
    rw [hret]
    exact hall
  · intro os text hint
    have hfaithful : ∀ o ∈ os, Faithful WriteOutcome.taken readSend o := by
      intro o ho
      refine faithful_readSend ?_
      rintro n rfl
      exact hint n ho
    obtain ⟨hpart, hall⟩ := transfer_spec hfaithful (cBytes text)
    rw [sendAll, sendLoop_eq]
    exact ⟨hpart, hall⟩
  · intro os text sent o more hrunning htaken
    have hstop : readSend o = .stop := by
      rcases o with _ | _ | n
      · rfl
      · rfl
      · obtain rfl : n = 0 := htaken
        rfl
    rw [sendAll, sendLoop_eq] at hrunning ⊢
    exact transfer_append_of_stop hrunning hstop htaken more

theorem writeLoops_deliver_sample :
    sendAll [.wrote 2, .interrupted] [0x4f, 0x4b, 0x0a] = (some false, [0x4f, 0x4b]) ∧
      Delivers [0x4f, 0x4b, 0x0a] [0x4f, 0x4b, 0x0a] (some true) :=
  ⟨writeLoops_deliver.2.2 [.wrote 2] [0x4f, 0x4b, 0x0a] _ .interrupted [] (by decide) rfl,
    writeLoops_deliver.2.1 [.wrote 2, .wrote 1] [0x4f, 0x4b, 0x0a] (by simp)⟩

/-- **Too much for an `int`.** `send` takes a text of 2 GiB at once, and `send_all` returns -1. -/
theorem sendAll_gives_up :
    sendAll [.wrote (2 ^ 31)] (List.replicate (2 ^ 31) 0x41)
      = (some false, List.replicate (2 ^ 31) 0x41) := by
  have hbytes : cBytes (List.replicate (2 ^ 31) 0x41) = List.replicate (2 ^ 31) 0x41 := by
    rw [cBytes, List.takeWhile_eq_self_iff]
    intro b hb
    rw [List.eq_of_mem_replicate hb]
    rfl
  have hne : List.replicate (2 ^ 31) (0x41 : UInt8) ≠ [] := by
    rw [Ne, List.replicate_eq_nil_iff]
    omega
  have hint : positionAsInt (2 ^ 31) = none := by decide
  rw [sendAll, hbytes, sendLoop.eq_def]
  dsimp only
  rw [if_neg hne, hint]
  dsimp only
  rw [List.take_replicate, Nat.min_self]

end LittleCore

import LittleCore.Order

/-!
# The gap in the log

`log_datafifo_stats` is to report how many messages were skipped since the last one that was sent.
The loop writes the number of the message into `last_sent_seq` before it calls it, so that a
message which could be sent is compared with itself. The gap is 0 then, whatever was skipped, and
2 ^ 64 - 1 for the message with the largest number, where `last_seq + 1` wraps.

## Main results

* `reportedGap_iff` — for which messages of a run the gap is the real one
-/

namespace LittleCore

open Library World

/-! ### What a run reports -/

/-- A call of `log_datafifo_stats`: its message, whether this could be sent, the gap, and whether
a line is printed. -/
structure Report where
  item : Item
  canSend : Bool
  gap : UInt64
  logged : Bool
deriving DecidableEq

/-- The message, and whether it could be sent. -/
def Report.message (r : Report) : Item × Bool := (r.item, r.canSend)

/-- Reads the reports off a trace. -/
def reportStep (s : Option Item × Bool) : Event → List Report × Option Item × Bool
  | .read item => ([], some item, false)
  | .target canSend _ => ([], s.1, canSend)
  | .stats gap logged => (s.1.toList.map (⟨·, s.2, gap, logged⟩), s)
  | _ => ([], s)

def reports (trace : List Event) : List Report := (transduce reportStep (none, false) trace).1

theorem reports_rtspStep (w : World) (s : RtspStep) :
    reports (w.rtspStep s).trace = reports w.trace := by
  rw [reports, World.rtspStep, transduce_append]
  exact List.append_nil _

/-- A round reports its message, if that is handled. -/
theorem reports_round (env : Env) (item : Item) (w : World) : ∃ gap logged,
    reports (datafifoRound env item w).trace = reports w.trace ++
      (if accepts w.lastReadSeq item.msg then [⟨item, playingAt env item w, gap, logged⟩] else []) ∧
    (accepts w.lastReadSeq item.msg = true →
      Reported item.msg (playingAt env item w) gap logged) := by
  obtain ⟨pre, post, dest, gap, logged, hpre, hpost, htrace, -, -, hreport⟩ :=
    datafifoRound_inner env item w
  have hinner : ∀ l : List Event, (∀ e ∈ l, e.IsInner) → ∀ s,
      transduce reportStep s l = ([], s) := by
    intro l hl s
    refine transduce_of_silent ?_
    intro e he
    have hin := hl e he
    rcases e <;> first | rfl | exact hin.elim
  refine ⟨gap, logged, ?_, hreport⟩
  rw [reports, reports, htrace, transduce_append, transduce_cons, transduce_append,
    hinner pre hpre, transduce_cons, transduce_append, hinner post hpost, transduce_append]
  split <;> rfl

/-- Every report of a run says what `log_datafifo_stats` computed. -/
theorem reported_run (env : Env) (inputs : List Input) :
    ∀ r ∈ reports (datafifoRtpSenderLoop env inputs {}).trace,
      Reported r.item.msg r.canSend r.gap r.logged := by
  induction inputs using List.reverseRecOn with
  | nil =>
    intro r hr
    cases hr
  | append_singleton inputs input ih =>
    rw [datafifoRtpSenderLoop_concat]
    rcases input with s | item
    · rw [World.input, reports_rtspStep]
      exact ih
    · obtain ⟨gap, logged, hreports, hreport⟩ :=
        reports_round env item (datafifoRtpSenderLoop env inputs {})
      rw [World.input, hreports]
      intro r hr
      rcases List.mem_append.mp hr with hr | hr
      · exact ih r hr
      · split at hr
        · rename_i haccepts
          rw [List.mem_singleton.mp hr]
          exact hreport haccepts
        · cases hr

/-- The messages that are reported are the ones that are handled. -/
theorem map_reports_run (env : Env) (inputs : List Input) :
    (reports (datafifoRtpSenderLoop env inputs {}).trace).map Report.message
      = handled (datafifoRtpSenderLoop env inputs {}).trace := by
  induction inputs using List.reverseRecOn with
  | nil => rfl
  | append_singleton inputs input ih =>
    rw [datafifoRtpSenderLoop_concat]
    rcases input with s | item
    · rw [World.input, reports_rtspStep, handled_rtspStep, ih]
    · obtain ⟨gap, logged, hreports, -⟩ :=
        reports_round env item (datafifoRtpSenderLoop env inputs {})
      rw [World.input, hreports, handled_round, List.map_append, ih]
      split <;> rfl

/-! ### The real gap -/

/-- The number of the last message that could be sent. -/
def lastPlayed (past : List (Item × Bool)) : Option ℕ :=
  ((past.filter (·.2)).getLast?).map (·.1.seq)

/-- How many messages were skipped since the one with number `p`. -/
def skipped (p seq : ℕ) : ℤ := seq - p - 1

/-- The gap of a message behind the one with number `last`; the first one that is sent has none. -/
def realGap (last : Option ℕ) (seq : ℕ) : ℤ := last.elim 0 (skipped · seq)

/-- **A message is compared with itself.** -/
theorem seqGap_self (seq : UInt64) :
    (seqGap seq seq).toNat = if seq.toNat = 2 ^ 64 - 1 then 2 ^ 64 - 1 else 0 := by
  split
  · rename_i hmax
    have hseq : seq = 0xffffffffffffffff := UInt64.toNat_inj.mp (hmax.trans rfl)
    rw [hseq]
    rfl
  · rename_i hmax
    have hlt := seq.toNat_lt
    have hnot : ¬ (seq ≠ 0 ∧ seq > seq + 1) := by
      rintro ⟨-, hgt⟩
      rw [gt_iff_lt, UInt64.lt_iff_toNat_lt, UInt64.toNat_add,
        show (1 : UInt64).toNat = 1 from rfl] at hgt
      omega
    rw [seqGap, if_neg hnot]
    rfl

/-- For which messages of a run the gap is the real one, and when a line is printed. If the numbers
in front of the first message are counted as skipped as well, that one has to be number 1. -/
theorem Reported.realGap_iff {r : Report} (h : Reported r.item.msg r.canSend r.gap r.logged)
    (hsend : r.canSend = true) (last : Option ℕ) :
    ((r.gap.toNat : ℤ) = realGap last r.item.seq ↔
        r.item.seq < 2 ^ 64 - 1 ∧ ∀ p, last = some p → r.item.seq = p + 1) ∧
      ((r.gap.toNat : ℤ) = skipped (last.getD 0) r.item.seq ↔
        r.item.seq < 2 ^ 64 - 1 ∧ r.item.seq = last.getD 0 + 1) := by
  have hlt : r.item.seq < 2 ^ 64 := r.item.msg.seq.toNat_lt
  have hvalue : r.gap.toNat = if r.item.seq = 2 ^ 64 - 1 then 2 ^ 64 - 1 else 0 := by
    rw [h.1 hsend, seqGap_self]
    rfl
  rw [hvalue]
  generalize r.item.seq = seq at hlt
  have hskipped : ∀ p, ((if seq = 2 ^ 64 - 1 then 2 ^ 64 - 1 else 0 : ℕ) : ℤ) = skipped p seq ↔
      seq < 2 ^ 64 - 1 ∧ seq = p + 1 := by
    intro p
    rw [skipped]
    split <;> omega
  refine ⟨?_, hskipped _⟩
  rcases last with _ | p
  · rw [realGap, Option.elim_none]
    constructor
    · intro hzero
      refine ⟨?_, fun p hp => by cases hp⟩
      split at hzero <;> omega
    · rintro ⟨hmax, -⟩
      rw [if_neg (by omega)]
      rfl
  · rw [realGap, Option.elim_some, hskipped]
    constructor
    · rintro ⟨hmax, hnext⟩
      refine ⟨hmax, ?_⟩
      rintro p' hp'
      rw [← Option.some.inj hp']
      exact hnext
    · rintro ⟨hmax, hnext⟩
      exact ⟨hmax, hnext p rfl⟩

/-- **The reported gaps of a run.** Every message that is handled is reported once. The gap of one
that could be sent is the real one exactly if it comes right behind the last one that was sent, and
does not have the largest number. A gap is always printed. -/
theorem reportedGap_iff (env : Env) (inputs : List Input) :
    (reports (datafifoRtpSenderLoop env inputs {}).trace).map Report.message
        = handled (datafifoRtpSenderLoop env inputs {}).trace ∧
      ∀ before r after, reports (datafifoRtpSenderLoop env inputs {}).trace
          = before ++ r :: after →
        (r.canSend = true →
          ((r.gap.toNat : ℤ) = realGap (lastPlayed (before.map Report.message)) r.item.seq ↔
            r.item.seq < 2 ^ 64 - 1 ∧
              ∀ p, lastPlayed (before.map Report.message) = some p → r.item.seq = p + 1) ∧
          ((r.gap.toNat : ℤ)
              = skipped ((lastPlayed (before.map Report.message)).getD 0) r.item.seq ↔
            r.item.seq < 2 ^ 64 - 1 ∧
              r.item.seq = (lastPlayed (before.map Report.message)).getD 0 + 1)) ∧
        (r.gap ≠ 0 → r.logged = true) := by
  refine ⟨map_reports_run env inputs, ?_⟩
  intro before r after h
  have hreported := reported_run env inputs r (by rw [h]; simp)
  exact ⟨fun hsend => hreported.realGap_iff hsend _, hreported.2⟩

/-- A client plays, and of the messages 1 to 3 the second one is lost. -/
def gapInputs : List Input := .rtsp (.setup ⟨7, 5000⟩) :: .rtsp .play :: sampleItems [1, 3]

theorem reports_gapInputs : ∃ first last,
    reports (datafifoRtpSenderLoop {} gapInputs {}).trace = [first, last] ∧
      lastPlayed ([first].map Report.message) = some 1 ∧
      last.item.seq = 3 ∧ last.canSend = true ∧ last.gap = 0 := by
  have hmap : (reports (datafifoRtpSenderLoop {} gapInputs {}).trace).map
      (fun r => (r.item.seq, r.canSend, r.gap)) = [(1, true, 0), (3, true, 0)] := by decide
  obtain ⟨first, rest, hreports, hfirst, hrest⟩ := List.map_eq_cons_iff.mp hmap
  obtain ⟨last, rest', rfl, hlast, hrest'⟩ := List.map_eq_cons_iff.mp hrest
  obtain rfl := List.map_eq_nil_iff.mp hrest'
  simp only [Prod.mk.injEq] at hfirst hlast
  refine ⟨first, last, hreports, ?_, hlast⟩
  simp [lastPlayed, Report.message, hfirst]

theorem reportedGap_iff_sample : ∃ last ∈ reports (datafifoRtpSenderLoop {} gapInputs {}).trace,
    (last.gap.toNat : ℤ) ≠ realGap (some 1) 3 := by
  obtain ⟨first, last, hreports, hpast, hlast, hsend, -⟩ := reports_gapInputs
  refine ⟨last, by rw [hreports]; simp, ?_⟩
  have hgap := (((reportedGap_iff {} gapInputs).2 [first] last [] hreports).1 hsend).1
  rw [hpast, hlast] at hgap
  intro h
  have hnext := (hgap.mp h).2 1 rfl
  omega

/-- **A lost message is not reported**: of the messages 1 and 3 both have the gap 0. -/
theorem lost_message_unreported :
    (reports (datafifoRtpSenderLoop {} gapInputs {}).trace).map
        (fun r => (r.item.seq, r.canSend, r.gap)) = [(1, true, 0), (3, true, 0)] ∧
      ¬ ∀ (env : Env) (inputs : List Input) (before after : List Report) (r : Report),
        reports (datafifoRtpSenderLoop env inputs {}).trace = before ++ r :: after →
        r.canSend = true →
        (r.gap.toNat : ℤ) = realGap (lastPlayed (before.map Report.message)) r.item.seq := by
  refine ⟨by decide, ?_⟩
  intro h
  obtain ⟨first, last, hreports, hpast, hlast, hsend, hgap⟩ := reports_gapInputs
  have hreal := h {} gapInputs [first] [] last hreports hsend
  rw [hpast, hlast, hgap] at hreal
  revert hreal
  decide

end LittleCore

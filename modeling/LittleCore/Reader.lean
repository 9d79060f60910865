import LittleCore.Datafifo
import LittleCore.Library.Monitor
import LittleCore.Library.RateLimit

/-!
# The DATAFIFO reader

`nalu_datafifo_open`, `nalu_datafifo_read` and `nalu_datafifo_read_done` of `nalu_datafifo.c`, and
`datafifo_rtp_sender_loop` as it is: it opens the DATAFIFO and polls it, and most polls find
nothing. The loop over items, which the rest is about, is what is left if those polls are taken out.

The DATAFIFO library is not part of this program. What it answers is an argument, one record of
answers for each poll, and what it is called with is recorded.

## Main results

* `datafifoSenderThread_refines` — how the library is called, and that the polling loop does what
  the loop over items does
* `idleLines_limited` — the lines that an idle reader prints
* `datafifo_drains` — a DATAFIFO that tells the truth is emptied in order
-/

namespace LittleCore

open Library

/-- `MPP_NALU_IPC_ITEM_SIZE`. -/
def mppNaluIpcItemSize : UInt32 := 512

/-- `NALU_DATAFIFO_FIFO_ENTRIES`. -/
def naluDatafifoFifoEntries : UInt32 := 3

/-- `NALU_DATAFIFO_IDLE_LOG_INTERVAL_MS`. -/
def naluDatafifoIdleLogIntervalMs : UInt64 := 3000

/-- A call of the DATAFIFO library, with what it answers. A handle of `none` is
`K_DATAFIFO_INVALID_HANDLE`. -/
inductive KdCall where
  | openByAddr (phyAddr : UInt64) (handle : Option ℕ)
  /-- `DATAFIFO_CMD_GET_AVAIL_READ_LEN`; `none` is an error. -/
  | availReadLen (handle : Option ℕ) (readLen : Option UInt32)
  /-- `kd_datafifo_read`, whether it returns 0, and the item, `none` for `NULL`. -/
  | read (handle : Option ℕ) (ok : Bool) (item : Option Item)
  /-- `DATAFIFO_CMD_READ_DONE`. -/
  | readDone (handle : Option ℕ) (ptr : ℕ) (ok : Bool)
deriving DecidableEq

/-- `nalu_datafifo_reader_t`. -/
structure NaluDatafifoReader where
  handle : Option ℕ := none
  opened : Bool := false
deriving DecidableEq, Repr

/-- What the library and the clock answer during one poll. A reading of 0 is a clock that failed. -/
structure PollAnswers where
  readLen : Option UInt32
  ok : Bool := true
  item : Option Item := none
  done : Bool := true
  /-- The clock in `nalu_datafifo_should_log`, in `datafifo_log_reader_idle` and behind a read. -/
  pollClock : UInt64 := 0
  idleClock : UInt64 := 0
  itemClock : UInt64 := 0

/-- What an idle reader prints, and the reading of the clock that let the line through. -/
inductive IdleLine where
  | poll (now : UInt64) (avail : UInt32) (idlePolls : UInt64)
  | reader (now lastSeq idleMs : UInt64) (idleLoops : UInt32)
deriving DecidableEq, Repr

/-- The reader, the static variables of `nalu_datafifo_read` and `datafifo_log_reader_idle`, the
locals of the loop, and the rest of the sender. -/
structure Polling where
  reader : NaluDatafifoReader := {}
  idlePollCount : UInt64 := 0
  pollLogMs : UInt64 := 0
  readerLogMs : UInt64 := 0
  lastItemSeq : UInt64 := 0
  lastItemMs : UInt64 := 0
  idleLoops : UInt32 := 0
  world : World := {}
  calls : List KdCall := []
  lines : List IdleLine := []

namespace Polling

def call (s : Polling) (c : KdCall) : Polling := { s with calls := s.calls ++ [c] }

def print (s : Polling) (l : IdleLine) : Polling := { s with lines := s.lines ++ [l] }

end Polling

/-- `nalu_datafifo_open`, and whether it returns 0. -/
def naluDatafifoOpen (phyAddr : UInt64) (handle : Option ℕ) (s : Polling) : Bool × Polling :=
  if phyAddr = 0 then (false, s)
  else
    let s := { s with reader := {} }.call (.openByAddr phyAddr handle)
    match handle with
    | none => (false, s)
    | some h => (true, { s with reader := ⟨some h, true⟩ })

/-- `nalu_datafifo_should_log`: whether it returns 1, and `*last_ms` behind it. -/
def naluDatafifoShouldLog (now lastMs intervalMs : UInt64) : Bool × UInt64 :=
  if now = 0 then (false, lastMs)
  else if lastMs = 0 ∨ now - lastMs ≥ intervalMs then (true, now)
  else (false, lastMs)

/-- `nalu_datafifo_read`; the item is `none` where it returns `-1`. -/
def naluDatafifoRead (a : PollAnswers) (s : Polling) : Option Item × Polling :=
  if !s.reader.opened then (none, s)
  else
    let s := s.call (.availReadLen s.reader.handle a.readLen)
    match a.readLen with
    | none => (none, s)
    | some readLen =>
      if readLen < mppNaluIpcItemSize then
        let s := { s with idlePollCount := s.idlePollCount + 1 }
        let log := naluDatafifoShouldLog a.pollClock s.pollLogMs naluDatafifoIdleLogIntervalMs
        let s := { s with pollLogMs := log.2 }
        (none, if log.1 then s.print (.poll a.pollClock readLen s.idlePollCount) else s)
      else
        let s := { s with idlePollCount := 0 }
        if readLen > naluDatafifoFifoEntries * mppNaluIpcItemSize then (none, s)
        else
          let s := s.call (.read s.reader.handle a.ok a.item)
          if !a.ok then (none, s) else (a.item, s)

/-- `nalu_datafifo_read_done`. Its only caller ignores the result. -/
def naluDatafifoReadDone (done : Bool) (item : Item) (s : Polling) : Polling :=
  if !s.reader.opened then s else s.call (.readDone s.reader.handle item.ptr done)

/-- `datafifo_log_reader_idle`. -/
def datafifoLogReaderIdle (now : UInt64) (s : Polling) : Polling :=
  if now = 0 then s
  else if s.readerLogMs = 0 ∨ now - s.readerLogMs ≥ naluDatafifoIdleLogIntervalMs then
    let idleMs := if s.lastItemMs ≠ 0 then now - s.lastItemMs else 0
    { s.print (.reader now s.lastItemSeq idleMs s.idleLoops) with readerLogMs := now }
  else s

/-- One round of the loop in `datafifo_rtp_sender_loop`. -/
def datafifoPoll (env : Env) (a : PollAnswers) (s : Polling) : Polling :=
  match naluDatafifoRead a s with
  | (none, s) => datafifoLogReaderIdle a.idleClock { s with idleLoops := s.idleLoops + 1 }
  | (some item, s) =>
    naluDatafifoReadDone a.done item
      { s with
        idleLoops := 0
        lastItemSeq := item.msg.seq
        lastItemMs := a.itemClock
        world := datafifoRound env item s.world }

/-- What happens next to the sender thread: a critical section of the control thread, or a poll. -/
inductive PollInput where
  | rtsp (step : RtspStep)
  | poll (a : PollAnswers)

def Polling.input (env : Env) (s : Polling) : PollInput → Polling
  | .rtsp step => { s with world := s.world.rtspStep step }
  | .poll a => datafifoPoll env a s

/-- `datafifo_rtp_sender_loop` from its first line on. -/
def datafifoSenderThread (env : Env) (phyAddr : UInt64) (handle : Option ℕ)
    (startClock : UInt64) (inputs : List PollInput) : Polling :=
  match naluDatafifoOpen phyAddr handle { lastItemMs := startClock } with
  | (false, s) => s
  | (true, s) => inputs.foldl (Polling.input env) s

/-! ### One poll -/

/-- The library says that there are between one and `NALU_DATAFIFO_FIFO_ENTRIES` items. -/
def readable (readLen : Option UInt32) : Bool :=
  readLen.any fun n => 512 ≤ n && n ≤ 1536

namespace PollAnswers

/-- The item of a poll, if the library hands one out. -/
def lends (a : PollAnswers) : Option Item :=
  if readable a.readLen && a.ok then a.item else none

/-- The library says that there is less than an item. -/
def empty (a : PollAnswers) : Bool := a.readLen.any (· < 512)

/-- The calls of `nalu_datafifo_read`. -/
def readCalls (a : PollAnswers) (handle : Option ℕ) : List KdCall :=
  .availReadLen handle a.readLen ::
    if readable a.readLen then [.read handle a.ok a.item] else []

/-- The calls of a round of the loop. -/
def calls (a : PollAnswers) (handle : Option ℕ) : List KdCall :=
  a.readCalls handle ++ (a.lends.map fun item => .readDone handle item.ptr a.done).toList

/-- The line of `nalu_datafifo_read`. -/
def pollLines (a : PollAnswers) (s : Polling) : List IdleLine :=
  if a.empty then
    (limiter 3000 s.pollLogMs a.pollClock).1.map
      (.poll · (a.readLen.getD 0) (s.idlePollCount + 1))
  else []

/-- The line of `datafifo_log_reader_idle`. -/
def readerLines (a : PollAnswers) (s : Polling) : List IdleLine :=
  (limiter 3000 s.readerLogMs a.idleClock).1.map fun now =>
    .reader now s.lastItemSeq (if s.lastItemMs ≠ 0 then now - s.lastItemMs else 0) (s.idleLoops + 1)

end PollAnswers

theorem naluDatafifoShouldLog_eq (now lastMs intervalMs : UInt64) :
    naluDatafifoShouldLog now lastMs intervalMs
      = ((limiter intervalMs lastMs now).1 != [], (limiter intervalMs lastMs now).2) := by
  rw [naluDatafifoShouldLog, limiter]
  split
  · rfl
  · split <;> rfl

/-- What passes a limiter is the reading it was asked with. -/
theorem limiter_fst (intervalMs lastMs now : UInt64) : (limiter intervalMs lastMs now).1
    = if (limiter intervalMs lastMs now).1 != [] then [now] else [] := by
  rw [limiter]
  split
  · rfl
  · split <;> rfl

theorem naluDatafifoRead_eq {s : Polling} {handle : Option ℕ} (hopen : s.reader = ⟨handle, true⟩)
    (a : PollAnswers) : naluDatafifoRead a s = (a.lends, { s with
      idlePollCount := if a.empty then s.idlePollCount + 1 else if a.readLen = none then
        s.idlePollCount else 0
      pollLogMs := if a.empty then (limiter 3000 s.pollLogMs a.pollClock).2 else s.pollLogMs
      calls := s.calls ++ a.readCalls handle
      lines := s.lines ++ a.pollLines s }) := by
  have hmax : naluDatafifoFifoEntries * 512 = 1536 := by decide
  have hmin : mppNaluIpcItemSize = 512 := rfl
  obtain ⟨reader, idlePollCount, pollLogMs, _, _, _, _, _, calls, lines⟩ := s
  obtain rfl : reader = ⟨handle, true⟩ := hopen
  obtain ⟨readLen, ok, item, _, pollClock, _, _⟩ := a
  simp only [naluDatafifoRead, Polling.call, Polling.print, hmin, hmax, naluDatafifoShouldLog_eq,
    naluDatafifoIdleLogIntervalMs, Bool.not_true, Bool.false_eq_true, if_false,
    PollAnswers.lends, PollAnswers.empty, PollAnswers.readCalls, PollAnswers.pollLines]
  rcases readLen with _ | n
  · simp [readable]
  · dsimp only [Option.any_some, Option.getD_some]
    by_cases hsmall : n < 512
    · -- There is no whole item.
      have hread : readable (some n) = false := by
        have hle : ¬ (512 : UInt32) ≤ n := by simpa using hsmall
        simp [readable, hle]
      rw [if_pos hsmall, hread, limiter_fst]
      by_cases hlog : ((limiter 3000 pollLogMs pollClock).1 != []) = true
      · simp [hlog, hsmall]
      · simp [hlog, hsmall]
    · by_cases hlarge : n > 1536
      · have hread : readable (some n) = false := by
          have hle : ¬ n ≤ (1536 : UInt32) := by simpa using hlarge
          simp [readable, hle]
        simp [hsmall, hlarge, hread]
      · have hread : readable (some n) = true := by
          simp only [readable, Option.any_some, Bool.and_eq_true, decide_eq_true_eq]
          exact ⟨by simpa using hsmall, by simpa using hlarge⟩
        rw [if_neg hsmall, if_neg hlarge, hread]
        cases ok <;> simp [hsmall]

/-- **What a round of the loop does.** -/
theorem datafifoPoll_eq (env : Env) {s : Polling} {handle : Option ℕ}
    (hopen : s.reader = ⟨handle, true⟩) (a : PollAnswers) : datafifoPoll env a s = { s with
      idlePollCount := if a.empty then s.idlePollCount + 1 else if a.readLen = none then
        s.idlePollCount else 0
      pollLogMs := if a.empty then (limiter 3000 s.pollLogMs a.pollClock).2 else s.pollLogMs
      readerLogMs := if a.lends.isNone then (limiter 3000 s.readerLogMs a.idleClock).2
        else s.readerLogMs
      lastItemSeq := a.lends.elim s.lastItemSeq (·.msg.seq)
      lastItemMs := if a.lends.isNone then s.lastItemMs else a.itemClock
      idleLoops := if a.lends.isNone then s.idleLoops + 1 else 0
      world := a.lends.elim s.world (datafifoRound env · s.world)
      calls := s.calls ++ a.calls handle
      lines := s.lines ++ (a.pollLines s ++ if a.lends.isNone then a.readerLines s else []) } := by
  rw [datafifoPoll, naluDatafifoRead_eq hopen]
  cases hlends : a.lends with
  | none =>
    have hidle : ∀ t : Polling, datafifoLogReaderIdle a.idleClock t = { t with
        readerLogMs := (limiter 3000 t.readerLogMs a.idleClock).2
        lines := t.lines ++ (limiter 3000 t.readerLogMs a.idleClock).1.map fun now =>
          .reader now t.lastItemSeq (if t.lastItemMs ≠ 0 then now - t.lastItemMs else 0)
            t.idleLoops } := by
      intro t
      rw [datafifoLogReaderIdle, limiter, naluDatafifoIdleLogIntervalMs]
      split
      · simp
      · split <;> simp [Polling.print]
    simp [hidle, PollAnswers.calls, PollAnswers.readerLines, hlends]
  | some item =>
    simp [naluDatafifoReadDone, Polling.call, PollAnswers.calls, hlends, hopen]

/-! ### The protocol -/

/-- How far the reader has got with the library. -/
inductive ReaderPhase where
  | unopened
  /-- `kd_datafifo_open_by_addr` has failed. -/
  | stopped
  | idle (h : ℕ)
  /-- There is an item to read. -/
  | checked (h : ℕ)
  /-- An item was handed out and is not marked done. -/
  | lent (h : ℕ) (item : Item)
deriving DecidableEq

/-- The DATAFIFO is opened once and nothing is called before or where that fails; everything is
called with the handle it gave; an item is read only right after the library has said that there are
between one and three; and what is read is marked done before anything else is called. -/
def ReaderPhase.step : ReaderPhase → KdCall → Option ReaderPhase
  | .unopened, .openByAddr phyAddr handle =>
    if phyAddr ≠ 0 then some (handle.elim .stopped .idle) else none
  | .idle h, .availReadLen handle readLen =>
    if handle = some h then some (if readable readLen then .checked h else .idle h) else none
  | .checked h, .read handle ok item =>
    if handle = some h then some (if ok then item.elim (.idle h) (.lent h) else .idle h) else none
  | .lent h item, .readDone handle ptr _ =>
    if handle = some h ∧ ptr = item.ptr then some (.idle h) else none
  | _, _ => none

def readerProtocol : Monitor ReaderPhase KdCall := ⟨.unopened, ReaderPhase.step⟩

/-- The item that a call brings. -/
def KdCall.lent? : KdCall → Option Item
  | .read _ true item => item
  | _ => none

def KdCall.done? : KdCall → Option ℕ
  | .readDone _ ptr _ => some ptr
  | _ => none

/-- The items that the library has handed out. -/
def lentItems (calls : List KdCall) : List Item := calls.filterMap KdCall.lent?

/-- The items that the library was told to be done. -/
def donePtrs (calls : List KdCall) : List ℕ := calls.filterMap KdCall.done?

/-- What a poll is to the loop over items. -/
def PollInput.input? : PollInput → Option Input
  | .rtsp step => some (.rtsp step)
  | .poll a => a.lends.map .item

/-- A round starts and ends with the reader idle. -/
theorem run_calls {calls : List KdCall} {h : ℕ} (hidle : readerProtocol.run calls = some (.idle h))
    (a : PollAnswers) : readerProtocol.run (calls ++ a.calls (some h)) = some (.idle h) := by
  have hstep : ∀ {l c p q}, readerProtocol.run l = some p → p.step c = some q →
      readerProtocol.run (l ++ [c]) = some q := by
    intro l c p q hl hc
    rw [Monitor.run_concat, hl]
    exact hc
  have hcheck := hstep (c := .availReadLen (some h) a.readLen) hidle (if_pos rfl)
  cases hread : readable a.readLen with
  | false => simpa [PollAnswers.calls, PollAnswers.readCalls, PollAnswers.lends, hread] using hcheck
  | true =>
    rw [hread, if_pos rfl] at hcheck
    have hgot := hstep (c := .read (some h) a.ok a.item) hcheck (if_pos rfl)
    rw [List.append_assoc] at hgot
    cases hlends : a.lends with
    | none =>
      have hnone : (if a.ok then a.item.elim (.idle h) (.lent h) else .idle h)
          = ReaderPhase.idle h := by
        cases hok : a.ok with
        | false => rfl
        | true =>
          simp only [PollAnswers.lends, hread, hok, Bool.and_self, if_true] at hlends
          rw [hlends]
          rfl
      rw [hnone] at hgot
      simpa [PollAnswers.calls, PollAnswers.readCalls, hread, hlends] using hgot
    | some item =>
      have hitem : (if a.ok then a.item.elim (.idle h) (.lent h) else .idle h)
          = ReaderPhase.lent h item := by
        cases hok : a.ok with
        | false => simp [PollAnswers.lends, hok] at hlends
        | true =>
          simp only [PollAnswers.lends, hread, hok, Bool.and_self, if_true] at hlends
          rw [hlends]
          rfl
      rw [hitem] at hgot
      have hdone := hstep (c := .readDone (some h) item.ptr a.done) hgot (if_pos ⟨rfl, rfl⟩)
      simpa [PollAnswers.calls, PollAnswers.readCalls, hread, hlends] using hdone

theorem lentItems_calls (handle : Option ℕ) (a : PollAnswers) :
    lentItems (a.calls handle) = a.lends.toList := by
  rw [lentItems, PollAnswers.calls, PollAnswers.readCalls]
  cases hread : readable a.readLen <;> cases hok : a.ok <;> cases hitem : a.item <;>
    simp only [PollAnswers.lends, hread, hok, hitem, Bool.and_true, Bool.and_false, if_true,
      Bool.false_eq_true, if_false, Bool.and_self] <;> rfl

theorem donePtrs_calls (handle : Option ℕ) (a : PollAnswers) :
    donePtrs (a.calls handle) = a.lends.toList.map (·.ptr) := by
  rw [donePtrs, PollAnswers.calls, PollAnswers.readCalls]
  cases a.lends <;> cases readable a.readLen <;> rfl

theorem filterMap_concat {α β : Type*} (f : α → Option β) (l : List α) (x : α) :
    (l ++ [x]).filterMap f = l.filterMap f ++ (f x).toList := by
  rw [List.filterMap_append]
  cases h : f x <;> simp [h]

/-- What a run of the loop leaves, once the DATAFIFO is open. -/
structure Polling.Follows (env : Env) (h : ℕ) (inputs : List PollInput) (s : Polling) : Prop where
  reader : s.reader = ⟨some h, true⟩
  idle : readerProtocol.run s.calls = some (.idle h)
  world : s.world = datafifoRtpSenderLoop env (inputs.filterMap PollInput.input?) {}
  lent : lentItems s.calls = itemsOf (inputs.filterMap PollInput.input?)
  done : donePtrs s.calls = (lentItems s.calls).map (·.ptr)

theorem Polling.Follows.input {env : Env} {h : ℕ} {inputs : List PollInput} {s : Polling}
    (hs : s.Follows env h inputs) (input : PollInput) :
    (s.input env input).Follows env h (inputs ++ [input]) := by
  have hconcat := filterMap_concat PollInput.input? inputs input
  rcases input with step | a
  · refine ⟨hs.reader, hs.idle, ?_, ?_, hs.done⟩
    · rw [hconcat]
      change s.world.rtspStep step = datafifoRtpSenderLoop env (_ ++ [.rtsp step]) {}
      rw [datafifoRtpSenderLoop_concat, ← hs.world]
      rfl
    · rw [hconcat]
      change lentItems s.calls = itemsOf (_ ++ [.rtsp step])
      rw [itemsOf_concat, hs.lent]
      exact (List.append_nil _).symm
  · have hlent : lentItems (s.calls ++ a.calls (some h))
        = itemsOf ((inputs ++ [PollInput.poll a]).filterMap PollInput.input?) := by
      rw [lentItems, List.filterMap_append, ← lentItems, ← lentItems, lentItems_calls, hs.lent,
        hconcat, PollInput.input?]
      cases a.lends with
      | none => simp
      | some item =>
        rw [Option.map_some, Option.toList_some, Option.toList_some, itemsOf_concat]
        rfl
    rw [Polling.input, datafifoPoll_eq env hs.reader]
    refine ⟨hs.reader, run_calls hs.idle a, ?_, hlent, ?_⟩
    · rw [hconcat, PollInput.input?]
      dsimp only
      cases a.lends with
      | none => simpa using hs.world
      | some item =>
        rw [Option.map_some, Option.toList_some, datafifoRtpSenderLoop_concat, ← hs.world]
        rfl
    · dsimp only
      rw [donePtrs, lentItems, List.filterMap_append, List.filterMap_append, ← donePtrs,
        ← donePtrs, ← lentItems, ← lentItems, donePtrs_calls, lentItems_calls, hs.done,
        List.map_append]

theorem polls_follow (env : Env) {h : ℕ} {s : Polling} (hs : s.Follows env h [])
    (inputs : List PollInput) : (inputs.foldl (Polling.input env) s).Follows env h inputs := by
  induction inputs using List.reverseRecOn with
  | nil => exact hs
  | append_singleton inputs input ih =>
    rw [List.foldl_concat]
    exact ih.input input

theorem run_openByAddr {phyAddr : UInt64} (hphy : phyAddr ≠ 0) (handle : Option ℕ) :
    readerProtocol.run [.openByAddr phyAddr handle] = some (handle.elim .stopped .idle) := by
  have hrun := Monitor.run_concat readerProtocol [] (.openByAddr phyAddr handle)
  rw [List.nil_append, Monitor.run_nil] at hrun
  rw [hrun]
  exact if_pos hphy

/-- The DATAFIFO is opened. -/
theorem naluDatafifoOpen_follows (env : Env) {phyAddr : UInt64} (hphy : phyAddr ≠ 0) (h : ℕ)
    (clock : UInt64) : (naluDatafifoOpen phyAddr (some h) { lastItemMs := clock }).1 = true ∧
      (naluDatafifoOpen phyAddr (some h) { lastItemMs := clock }).2.Follows env h [] := by
  rw [naluDatafifoOpen, if_neg hphy]
  exact ⟨rfl, rfl, run_openByAddr hphy (some h), rfl, rfl, rfl⟩

/-- Once the DATAFIFO is open there is nothing but the loop. -/
theorem datafifoSenderThread_opened (env : Env) {phyAddr : UInt64} (hphy : phyAddr ≠ 0) (h : ℕ)
    (clock : UInt64) (inputs : List PollInput) :
    datafifoSenderThread env phyAddr (some h) clock inputs
      = inputs.foldl (Polling.input env)
        (naluDatafifoOpen phyAddr (some h) { lastItemMs := clock }).2 := by
  have hok := (naluDatafifoOpen_follows env hphy h clock).1
  rw [datafifoSenderThread]
  generalize naluDatafifoOpen phyAddr (some h) { lastItemMs := clock } = r at hok
  obtain ⟨ok, s⟩ := r
  obtain rfl : ok = true := hok
  rfl

/-- **The polling loop.** Whatever the library answers, it is called as `readerProtocol` says, every
item it hands out is marked done once and in turn, and what the polls leave of the sender is what
the loop over the items handed out leaves. -/
theorem datafifoSenderThread_refines (env : Env) (phyAddr : UInt64) (handle : Option ℕ)
    (clock : UInt64) (inputs : List PollInput) :
    let s := datafifoSenderThread env phyAddr handle clock inputs
    let items := if phyAddr = 0 ∨ handle = none then [] else inputs.filterMap PollInput.input?
    (∃ phase, readerProtocol.run s.calls = some phase ∧
      (phase = .unopened ∨ phase = .stopped ∨ ∃ h, phase = .idle h)) ∧
    donePtrs s.calls = (lentItems s.calls).map (·.ptr) ∧ lentItems s.calls = itemsOf items ∧
    s.world = datafifoRtpSenderLoop env items {} := by
  intro s items
  by_cases hphy : phyAddr = 0
  · have hs : s = { lastItemMs := clock } := by
      change datafifoSenderThread .. = _
      rw [datafifoSenderThread, naluDatafifoOpen, if_pos hphy]
    have hitems : items = [] := if_pos (.inl hphy)
    rw [hs, hitems]
    exact ⟨⟨.unopened, rfl, .inl rfl⟩, rfl, rfl, rfl⟩
  · cases handle with
    | none =>
      have hs : s = ({ lastItemMs := clock } : Polling).call (.openByAddr phyAddr none) := by
        change datafifoSenderThread .. = _
        rw [datafifoSenderThread, naluDatafifoOpen, if_neg hphy]
      have hitems : items = [] := if_pos (.inr rfl)
      rw [hs, hitems]
      exact ⟨⟨.stopped, run_openByAddr hphy none, .inr (.inl rfl)⟩, rfl, rfl, rfl⟩
    | some h =>
      have hs : s = _ := datafifoSenderThread_opened env hphy h clock inputs
      have hitems : items = inputs.filterMap PollInput.input? := if_neg (by simp [hphy])
      rw [hs, hitems]
      have hrun := polls_follow env (naluDatafifoOpen_follows env hphy h clock).2 inputs
      exact ⟨⟨.idle h, hrun.idle, .inr (.inr ⟨h, rfl⟩)⟩, hrun.done, hrun.lent, hrun.world⟩

/-! ### The lines of an idle reader -/

def IdleLine.pollClock? : IdleLine → Option UInt64
  | .poll now .. => some now
  | .reader .. => none

def IdleLine.idleClock? : IdleLine → Option UInt64
  | .poll .. => none
  | .reader now .. => some now

/-- The reading with which `nalu_datafifo_read` asks whether it may print. -/
def PollInput.pollClock? : PollInput → Option UInt64
  | .rtsp _ => none
  | .poll a => if a.empty then some a.pollClock else none

/-- The reading with which `datafifo_log_reader_idle` does. -/
def PollInput.idleClock? : PollInput → Option UInt64
  | .rtsp _ => none
  | .poll a => if a.lends.isNone then some a.idleClock else none

/-- The polls since the last item. -/
def idlePolls (inputs : List PollInput) : ℕ :=
  inputs.foldl (fun n input => match input with
    | .rtsp _ => n
    | .poll a => if a.lends.isNone then n + 1 else 0) 0

/-- `idle_poll_count`: the polls that found less than an item, since there was one. A length that
cannot be read is not counted. -/
def emptyPolls (inputs : List PollInput) : ℕ :=
  inputs.foldl (fun n input => match input with
    | .rtsp _ => n
    | .poll a => if a.empty then n + 1 else if a.readLen = none then n else 0) 0

/-- The sequence number of the last item, 0 before the first. -/
def lastSeq (inputs : List PollInput) : UInt64 :=
  (itemsOf (inputs.filterMap PollInput.input?)).getLast?.elim 0 (·.msg.seq)

/-- What the lines have to do with the polls. -/
structure Polling.Prints (inputs : List PollInput) (s : Polling) : Prop where
  pollLines : s.lines.filterMap IdleLine.pollClock?
    = passed 3000 0 (inputs.filterMap PollInput.pollClock?)
  pollLogMs : s.pollLogMs = lastPassed 3000 0 (inputs.filterMap PollInput.pollClock?)
  readerLines : s.lines.filterMap IdleLine.idleClock?
    = passed 3000 0 (inputs.filterMap PollInput.idleClock?)
  readerLogMs : s.readerLogMs = lastPassed 3000 0 (inputs.filterMap PollInput.idleClock?)
  idleLoops : s.idleLoops = UInt32.ofNat (idlePolls inputs)
  idlePollCount : s.idlePollCount = UInt64.ofNat (emptyPolls inputs)
  lastItemSeq : s.lastItemSeq = lastSeq inputs
  told : ∀ now seq idleMs n, .reader now seq idleMs n ∈ s.lines → ∃ before a,
    before ++ [.poll a] <+: inputs ∧ a.lends = none ∧ now = a.idleClock ∧ seq = lastSeq before ∧
      n = UInt32.ofNat (idlePolls before + 1)
  pollTold : ∀ now avail n, .poll now avail n ∈ s.lines → ∃ before a,
    before ++ [.poll a] <+: inputs ∧ a.empty ∧ now = a.pollClock ∧ a.readLen = some avail ∧
      n = UInt64.ofNat (emptyPolls before + 1)

theorem pollClock?_pollLines (a : PollAnswers) (s : Polling) :
    (a.pollLines s).filterMap IdleLine.pollClock?
      = if a.empty then (limiter 3000 s.pollLogMs a.pollClock).1 else [] := by
  rw [PollAnswers.pollLines]
  split
  · rw [List.filterMap_map]
    exact List.filterMap_some
  · rfl

theorem idleClock?_pollLines (a : PollAnswers) (s : Polling) :
    (a.pollLines s).filterMap IdleLine.idleClock? = [] := by
  rw [PollAnswers.pollLines]
  split
  · rw [List.filterMap_map]
    exact List.filterMap_eq_nil_iff.mpr fun _ _ => rfl
  · rfl

theorem pollClock?_readerLines (a : PollAnswers) (s : Polling) :
    (a.readerLines s).filterMap IdleLine.pollClock? = [] := by
  rw [PollAnswers.readerLines, List.filterMap_map]
  exact List.filterMap_eq_nil_iff.mpr fun _ _ => rfl

theorem idleClock?_readerLines (a : PollAnswers) (s : Polling) :
    (a.readerLines s).filterMap IdleLine.idleClock?
      = (limiter 3000 s.readerLogMs a.idleClock).1 := by
  rw [PollAnswers.readerLines, List.filterMap_map]
  exact List.filterMap_some

theorem idlePolls_concat (inputs : List PollInput) (a : PollAnswers) :
    idlePolls (inputs ++ [.poll a]) = if a.lends.isNone then idlePolls inputs + 1 else 0 := by
  rw [idlePolls, List.foldl_concat]
  rfl

theorem emptyPolls_concat (inputs : List PollInput) (a : PollAnswers) :
    emptyPolls (inputs ++ [.poll a]) = if a.empty then emptyPolls inputs + 1 else
      if a.readLen = none then emptyPolls inputs else 0 := by
  rw [emptyPolls, List.foldl_concat]
  rfl

theorem lastSeq_concat (inputs : List PollInput) (a : PollAnswers) :
    lastSeq (inputs ++ [.poll a]) = a.lends.elim (lastSeq inputs) (·.msg.seq) := by
  rw [lastSeq, filterMap_concat, PollInput.input?]
  cases a.lends with
  | none => simp [lastSeq]
  | some item =>
    rw [Option.map_some, Option.toList_some, itemsOf_concat]
    simp [Input.item?]

/-- A line is told of whatever comes behind it. -/
theorem Polling.Prints.told_concat {inputs : List PollInput} {s : Polling} (hs : s.Prints inputs)
    (input : PollInput) : ∀ now seq idleMs n, .reader now seq idleMs n ∈ s.lines → ∃ before a,
      before ++ [.poll a] <+: inputs ++ [input] ∧ a.lends = none ∧ now = a.idleClock ∧
        seq = lastSeq before ∧ n = UInt32.ofNat (idlePolls before + 1) := by
  intro now seq idleMs n hmem
  obtain ⟨before, a, hpre, hrest⟩ := hs.told now seq idleMs n hmem
  exact ⟨before, a, hpre.trans (List.prefix_append ..), hrest⟩

theorem Polling.Prints.pollTold_concat {inputs : List PollInput} {s : Polling}
    (hs : s.Prints inputs) (input : PollInput) :
    ∀ now avail n, .poll now avail n ∈ s.lines → ∃ before a,
      before ++ [.poll a] <+: inputs ++ [input] ∧ a.empty ∧ now = a.pollClock ∧
        a.readLen = some avail ∧ n = UInt64.ofNat (emptyPolls before + 1) := by
  intro now avail n hmem
  obtain ⟨before, a, hpre, hrest⟩ := hs.pollTold now avail n hmem
  exact ⟨before, a, hpre.trans (List.prefix_append ..), hrest⟩

/-- A limiter lets through what it was asked with. -/
theorem eq_of_mem_limiter {interval last now now' : UInt64}
    (h : now' ∈ (limiter interval last now).1) : now' = now := by
  rw [limiter_fst] at h
  split at h
  · exact List.mem_singleton.mp h
  · cases h

/-- The line of `nalu_datafifo_read` among the lines of a poll. -/
theorem of_mem_pollLines_poll {a : PollAnswers} {s : Polling} {now : UInt64} {avail : UInt32}
    {n : UInt64}
    (hmem : .poll now avail n ∈ a.pollLines s ++ if a.lends.isNone then a.readerLines s else []) :
    a.empty ∧ now = a.pollClock ∧ a.readLen = some avail ∧ n = s.idlePollCount + 1 := by
  rcases List.mem_append.mp hmem with hmem | hmem
  · rw [PollAnswers.pollLines] at hmem
    split at hmem
    · rename_i hempty
      obtain ⟨now', hnow, heq⟩ := List.mem_map.mp hmem
      obtain rfl := eq_of_mem_limiter hnow
      cases hlen : a.readLen with
      | none => simp [PollAnswers.empty, hlen] at hempty
      | some len =>
        rw [hlen] at heq
        cases heq
        exact ⟨hempty, rfl, rfl, rfl⟩
    · cases hmem
  · split at hmem
    · rw [PollAnswers.readerLines] at hmem
      obtain ⟨now', -, heq⟩ := List.mem_map.mp hmem
      cases heq
    · cases hmem

/-- The lines of a poll that are the reader's. -/
theorem of_mem_pollLines {a : PollAnswers} {s : Polling} {now seq idleMs : UInt64} {n : UInt32}
    (hmem : .reader now seq idleMs n ∈
      a.pollLines s ++ if a.lends.isNone then a.readerLines s else []) :
    a.lends = none ∧ now = a.idleClock ∧ seq = s.lastItemSeq ∧ n = s.idleLoops + 1 := by
  rcases List.mem_append.mp hmem with hmem | hmem
  · rw [PollAnswers.pollLines] at hmem
    split at hmem
    · simp at hmem
    · cases hmem
  · cases hlends : a.lends with
    | some item => simp [hlends] at hmem
    | none =>
      rw [hlends, Option.isNone_none, if_pos rfl, PollAnswers.readerLines, List.mem_map] at hmem
      obtain ⟨now', hnow, heq⟩ := hmem
      obtain rfl := eq_of_mem_limiter hnow
      cases heq
      exact ⟨rfl, rfl, rfl, rfl⟩

theorem Polling.Prints.rtsp {inputs : List PollInput} {s : Polling} (hs : s.Prints inputs)
    (step : RtspStep) (w : World) :
    Polling.Prints (inputs ++ [.rtsp step]) { s with world := w } := by
  have hpoll := filterMap_concat PollInput.pollClock? inputs (.rtsp step)
  have hreader := filterMap_concat PollInput.idleClock? inputs (.rtsp step)
  have hitems := filterMap_concat PollInput.input? inputs (.rtsp step)
  simp only [PollInput.pollClock?, PollInput.idleClock?, Option.toList_none,
    List.append_nil] at hpoll hreader
  refine ⟨?_, ?_, ?_, ?_, ?_, ?_, ?_, hs.told_concat _, hs.pollTold_concat _⟩
  · rw [hpoll]
    exact hs.pollLines
  · rw [hpoll]
    exact hs.pollLogMs
  · rw [hreader]
    exact hs.readerLines
  · rw [hreader]
    exact hs.readerLogMs
  · rw [idlePolls, List.foldl_concat]
    exact hs.idleLoops
  · rw [emptyPolls, List.foldl_concat]
    exact hs.idlePollCount
  · rw [lastSeq, hitems, PollInput.input?, Option.toList_some, itemsOf_concat, Input.item?,
      Option.toList_none, List.append_nil]
    exact hs.lastItemSeq

theorem Polling.Prints.poll {env : Env} {handle : Option ℕ} {inputs : List PollInput}
    {s : Polling} (hopen : s.reader = ⟨handle, true⟩) (hs : s.Prints inputs) (a : PollAnswers) :
    (datafifoPoll env a s).Prints (inputs ++ [.poll a]) := by
  have hpoll := filterMap_concat PollInput.pollClock? inputs (.poll a)
  have hreader := filterMap_concat PollInput.idleClock? inputs (.poll a)
  rw [PollInput.pollClock?] at hpoll
  rw [PollInput.idleClock?] at hreader
  rw [datafifoPoll_eq env hopen]
  refine ⟨?_, ?_, ?_, ?_, ?_, ?_, ?_, ?_, ?_⟩
  · rw [hpoll, passed_append_toList, ← hs.pollLines, ← hs.pollLogMs]
    dsimp only
    rw [List.filterMap_append, List.filterMap_append, pollClock?_pollLines]
    cases a.empty <;> cases a.lends.isNone <;> simp [pollClock?_readerLines]
  · rw [hpoll, lastPassed_append_toList, ← hs.pollLogMs]
    cases a.empty <;> rfl
  · rw [hreader, passed_append_toList, ← hs.readerLines, ← hs.readerLogMs]
    dsimp only
    rw [List.filterMap_append, List.filterMap_append, idleClock?_pollLines, List.nil_append]
    cases a.lends.isNone <;> simp [idleClock?_readerLines]
  · rw [hreader, lastPassed_append_toList, ← hs.readerLogMs]
    cases a.lends.isNone <;> rfl
  · rw [idlePolls_concat]
    dsimp only
    cases a.lends.isNone with
    | false => rfl
    | true => simp [hs.idleLoops]
  · rw [emptyPolls_concat]
    dsimp only
    split
    · simp [hs.idlePollCount]
    · split
      · exact hs.idlePollCount
      · rfl
  · rw [lastSeq_concat, ← hs.lastItemSeq]
  · dsimp only
    intro now seq idleMs n hmem
    rcases List.mem_append.mp hmem with hmem | hmem
    · exact hs.told_concat _ now seq idleMs n hmem
    · obtain ⟨hlends, hnow, hseq, hn⟩ := of_mem_pollLines hmem
      refine ⟨inputs, a, List.prefix_rfl, hlends, hnow, hseq.trans hs.lastItemSeq, ?_⟩
      simp [hn, hs.idleLoops]
  · dsimp only
    intro now avail n hmem
    rcases List.mem_append.mp hmem with hmem | hmem
    · exact hs.pollTold_concat _ now avail n hmem
    · obtain ⟨hempty, hnow, hlen, hn⟩ := of_mem_pollLines_poll hmem
      refine ⟨inputs, a, List.prefix_rfl, hempty, hnow, hlen, ?_⟩
      simp [hn, hs.idlePollCount]

theorem polls_print (env : Env) {h : ℕ} {s : Polling} (hfollows : s.Follows env h [])
    (hs : s.Prints []) (inputs : List PollInput) :
    (inputs.foldl (Polling.input env) s).Prints inputs := by
  induction inputs using List.reverseRecOn with
  | nil => exact hs
  | append_singleton inputs input ih =>
    rw [List.foldl_concat]
    cases input with
    | rtsp step => exact ih.rtsp step _
    | poll a => exact ih.poll (polls_follow env hfollows inputs).reader a

/-- A poll of an empty DATAFIFO. -/
def idlePoll (now : UInt64) : PollAnswers :=
  { readLen := some 0, pollClock := now, idleClock := now }

/-- Three of them: the second is too early for a line, and the third is not. -/
def idlePollRun : List PollInput :=
  [.poll (idlePoll 5000), .poll (idlePoll 5500), .poll (idlePoll 8000)]

/-- A step of the big core, of the control thread or of the sender, which reads three clocks. -/
inductive FifoStep where
  | submit (item : Item)
  | rtsp (step : RtspStep)
  | poll (pollClock idleClock itemClock : UInt64)

/-- A sender that polls a DATAFIFO with what the big core has put into it. -/
structure Fifo where
  queue : List Item := []
  submitted : List Item := []
  polling : Polling

/-- What the library answers while `queue` is in the DATAFIFO. -/
def truthful (queue : List Item) (pollClock idleClock itemClock : UInt64) : PollAnswers :=
  { readLen := some (UInt32.ofNat queue.length * mppNaluIpcItemSize), item := queue.head?
    pollClock, idleClock, itemClock }

/-- The big core has `NALU_DATAFIFO_FIFO_ENTRIES` entries, and an entry is free again once it is
marked done. -/
def Fifo.step (env : Env) (s : Fifo) : FifoStep → Fifo
  | .submit item =>
    if s.queue.length < naluDatafifoFifoEntries.toNat then
      { s with queue := s.queue ++ [item], submitted := s.submitted ++ [item] }
    else s
  | .rtsp step => { s with polling := s.polling.input env (.rtsp step) }
  | .poll pollClock idleClock itemClock =>
    let polling := datafifoPoll env (truthful s.queue pollClock idleClock itemClock) s.polling
    let done := (donePtrs polling.calls).length - (donePtrs s.polling.calls).length
    { s with polling, queue := s.queue.drop done }

/-- What is kept between the two cores. -/
structure Fifo.Conserves (handle : Option ℕ) (s : Fifo) : Prop where
  reader : s.polling.reader = ⟨handle, true⟩
  items : lentItems s.polling.calls ++ s.queue = s.submitted
  bounded : s.queue.length ≤ 3

/-- Up to `NALU_DATAFIFO_FIFO_ENTRIES` items pass the size checks. -/
theorem readable_entries : ∀ n < 4,
    readable (some (UInt32.ofNat n * mppNaluIpcItemSize)) = (n != 0) := by
  decide +kernel

/-- The sender takes the oldest item, whatever is in the DATAFIFO. -/
theorem lends_truthful {queue : List Item} (hqueue : queue.length ≤ 3)
    (pollClock idleClock itemClock : UInt64) :
    (truthful queue pollClock idleClock itemClock).lends = queue.head? := by
  rw [PollAnswers.lends, truthful]
  dsimp only
  rw [readable_entries queue.length (Nat.lt_succ_of_le hqueue)]
  cases queue <;> rfl

theorem Fifo.Conserves.poll {env : Env} {handle : Option ℕ} {s : Fifo} (hs : s.Conserves handle)
    (pollClock idleClock itemClock : UInt64) :
    (s.step env (.poll pollClock idleClock itemClock)).Conserves handle ∧
      (s.step env (.poll pollClock idleClock itemClock)).queue = s.queue.tail := by
  have hlends := lends_truthful hs.bounded pollClock idleClock itemClock
  have hpoll := datafifoPoll_eq env hs.reader (truthful s.queue pollClock idleClock itemClock)
  have hreader : (datafifoPoll env (truthful s.queue pollClock idleClock itemClock)
      s.polling).reader = ⟨handle, true⟩ := by
    rw [hpoll]
    exact hs.reader
  have hcalls : (datafifoPoll env (truthful s.queue pollClock idleClock itemClock)
      s.polling).calls = s.polling.calls ++
        (truthful s.queue pollClock idleClock itemClock).calls handle := by
    rw [hpoll]
  have hlent : lentItems (datafifoPoll env (truthful s.queue pollClock idleClock itemClock)
      s.polling).calls = lentItems s.polling.calls ++ s.queue.head?.toList := by
    rw [hcalls, lentItems, List.filterMap_append, ← lentItems, ← lentItems, lentItems_calls, hlends]
  have hdone : (donePtrs (datafifoPoll env (truthful s.queue pollClock idleClock itemClock)
      s.polling).calls).length
        = (donePtrs s.polling.calls).length + s.queue.head?.toList.length := by
    rw [hcalls, donePtrs, List.filterMap_append, ← donePtrs, ← donePtrs, donePtrs_calls, hlends,
      List.length_append, List.length_map]
  have hqueue : (s.step env (.poll pollClock idleClock itemClock)).queue = s.queue.tail := by
    rw [Fifo.step]
    dsimp only
    rw [hdone, Nat.add_sub_cancel_left]
    cases s.queue <;> rfl
  refine ⟨⟨hreader, ?_, ?_⟩, hqueue⟩
  · rw [hqueue]
    change lentItems (datafifoPoll ..).calls ++ _ = s.submitted
    rw [hlent, ← hs.items]
    cases s.queue <;> simp
  · rw [hqueue, List.length_tail]
    exact (Nat.sub_le ..).trans hs.bounded

theorem Fifo.Conserves.step {env : Env} {handle : Option ℕ} {s : Fifo} (hs : s.Conserves handle)
    (step : FifoStep) : (s.step env step).Conserves handle := by
  rcases step with item | step | ⟨pollClock, idleClock, itemClock⟩
  · rw [Fifo.step]
    split
    · rename_i hroom
      refine ⟨hs.reader, ?_, ?_⟩
      · rw [← List.append_assoc, hs.items]
      · rw [List.length_append, List.length_singleton]
        exact hroom
    · exact hs
  · exact ⟨hs.reader, hs.items, hs.bounded⟩
  · exact (hs.poll pollClock idleClock itemClock).1

theorem Fifo.Conserves.run {env : Env} {handle : Option ℕ} {s : Fifo} (hs : s.Conserves handle)
    (steps : List FifoStep) : (steps.foldl (Fifo.step env) s).Conserves handle := by
  induction steps using List.reverseRecOn with
  | nil => exact hs
  | append_singleton steps step ih =>
    rw [List.foldl_concat]
    exact ih.step step

/-- **Nothing is stuck in the DATAFIFO.** With a library that tells the truth the size checks of
`nalu_datafifo_read` never turn an item away: in any order of the steps of the three threads, what
was handled and what is in the DATAFIFO is what was submitted, and every poll after that handles the
oldest item left, until there is none. -/
theorem datafifo_drains (env : Env) {phyAddr : UInt64} (hphy : phyAddr ≠ 0) (h : ℕ)
    (clock : UInt64) (steps : List FifoStep) (clocks : List (UInt64 × UInt64 × UInt64)) :
    let opened := (naluDatafifoOpen phyAddr (some h) { lastItemMs := clock }).2
    let s := steps.foldl (Fifo.step env) { polling := opened }
    let t := (clocks.map fun c => FifoStep.poll c.1 c.2.1 c.2.2).foldl (Fifo.step env) s
    s.queue.length ≤ 3 ∧ lentItems s.polling.calls ++ s.queue = s.submitted ∧
    t.queue = s.queue.drop clocks.length ∧
    lentItems t.polling.calls = lentItems s.polling.calls ++ s.queue.take clocks.length := by
  intro opened s t
  have hstart : Fifo.Conserves (some h) { polling := opened } := by
    refine ⟨(naluDatafifoOpen_follows env hphy h clock).2.reader, ?_, by simp⟩
    have hlent := (naluDatafifoOpen_follows env hphy h clock).2.lent
    change lentItems opened.calls ++ [] = []
    rw [List.append_nil]
    exact hlent
  have hs : s.Conserves (some h) := hstart.run steps
  have hdrain : t.queue = s.queue.drop clocks.length ∧ t.submitted = s.submitted := by
    change ((clocks.map _).foldl (Fifo.step env) s).queue = _ ∧
      ((clocks.map _).foldl (Fifo.step env) s).submitted = _
    induction clocks using List.reverseRecOn with
    | nil => exact ⟨rfl, rfl⟩
    | append_singleton clocks c ih =>
      obtain ⟨hqueue, hsubmitted⟩ := ih
      rw [List.map_append, List.map_singleton, List.foldl_concat]
      refine ⟨?_, hsubmitted⟩
      rw [((hs.run _).poll c.1 c.2.1 c.2.2).2, hqueue, List.tail_drop, List.length_append,
        List.length_singleton]
  have ht : t.Conserves (some h) := hs.run _
  refine ⟨hs.bounded, hs.items, hdrain.1, ?_⟩
  have hitems := ht.items
  rw [hdrain.1, hdrain.2, ← hs.items] at hitems
  refine List.append_cancel_right (hitems.trans ?_)
  rw [List.append_assoc, List.take_append_drop]

/-- An IDR. -/
def idrFrame : List UInt8 := [0, 0, 1, 0x26, 1]

theorem length_idrFrame : idrFrame.length < 2 ^ 32 := by decide

def idrItem : Item := ⟨1, onePackMsg 1 0 idrFrame length_idrFrame⟩

/-- A client plays while three items are submitted, and one of them is handled in between. -/
def drainSteps : List FifoStep :=
  [.submit idrItem, .rtsp (.setup ⟨1, 5000⟩), .submit { idrItem with ptr := 2 }, .poll 1 1 1,
    .rtsp .play, .submit { idrItem with ptr := 3 }]

theorem datafifo_drains_sample :
    let s := drainSteps.foldl (Fifo.step {})
      { polling := (naluDatafifoOpen 0x1000 (some 7) { lastItemMs := 0 }).2 }
    let t := [FifoStep.poll 2 2 2, .poll 3 3 3].foldl (Fifo.step {}) s
    (s.queue.map (·.ptr) = [2, 3] ∧ lentItems s.polling.calls ++ s.queue = s.submitted) ∧
      t.queue = [] ∧ (lentItems t.polling.calls).map (·.ptr) = [1, 2, 3] := by
  intro s t
  obtain ⟨-, hitems, hqueue, hlent⟩ :=
    @datafifo_drains {} 0x1000 (by decide) 7 0 drainSteps [(2, 2, 2), (3, 3, 3)]
  have hs : s.queue.map (·.ptr) = [2, 3] := by decide +kernel
  refine ⟨⟨hs, hitems⟩, hqueue.trans (by decide +kernel), ?_⟩
  have hptrs := congrArg (List.map (·.ptr)) hlent
  exact hptrs.trans (by decide +kernel)

end LittleCore

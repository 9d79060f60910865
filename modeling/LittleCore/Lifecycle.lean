import LittleCore.Datafifo
import LittleCore.Library.Monitor

/-!
# The life of items and mappings

The big core reuses the memory of an item as soon as the item is marked `READ_DONE`. So an item
must be marked exactly once, after everything that reads its packs: no mapping of theirs may be
left, and no packet with their bytes may still be to be sent.

`Lifecycle` states this of a trace. `ledger` is the monitor that keeps the open item, the mapping
in use and the numbers already given to mappings; it refuses an item read before the last one is
done, a mapping next to another one, a packet sent without a mapping, a NALU sent that is not one
of the mapped pack's, and `READ_DONE` while something is mapped.

## Main results

* `lifecycle_of_run` — what the ledger accepts has the lifecycle
* `datafifoRound_tracked` — a round of the sender is accepted, whatever the item and the answers
  of the environment
* `datafifoRtpSenderLoop_lifecycle` — every run has the lifecycle
-/

namespace LittleCore

open Library World

/-! ### The property -/

namespace Event

def maps (m : Mapping) : Event → Bool
  | .mmap m' _ => m' == m
  | _ => false

def unmaps (m : Mapping) : Event → Bool
  | .munmap m' _ => m' == m
  | _ => false

/-- The event sends something, or is a call that did. -/
def sends : Event → Bool
  | .sendto .. | .parameterSet .. | .nalu .. => true
  | _ => false

end Event

/-- The lifecycle of `items` and of the mappings of their packs. -/
structure Lifecycle (items : List Item) (trace : List Event) : Prop where
  /-- Every item is marked done exactly once, in read order and before the next one is read. -/
  answered : trace.filter Event.isItemStep = items.flatMap fun i => [.read i, .readDone i.ptr]
  mapped_once : ∀ m, trace.countP (Event.maps m) ≤ 1
  /-- Every mapping is unmapped exactly once, and not before it is made. -/
  unmapped_once : ∀ m, trace.countP (Event.unmaps m) = trace.countP (Event.maps m)
  unmapped_after : ∀ pre post, trace = pre ++ post →
    ∀ m, pre.countP (Event.unmaps m) ≤ pre.countP (Event.maps m)
  /-- No mapping is left when an item is marked done. -/
  released : ∀ pre post ptr, trace = pre ++ .readDone ptr :: post →
    ∀ m, pre.countP (Event.unmaps m) = pre.countP (Event.maps m)
  /-- Whatever is sent is sent while an item is open and one of its packs is mapped, and a NALU
  that is sent is one of that pack. -/
  sent : ∀ pre post e, trace = pre ++ e :: post → e.sends →
    ∃ item pack m, (pre.filter Event.isItemStep).getLast? = some (.read item) ∧
      pack ∈ item.msg.usedPacks ∧ .mmap m pack ∈ pre ∧ pre.countP (Event.unmaps m) = 0 ∧
      ∀ dest nalu ok, e = .nalu dest nalu ok → nalu ∈ bufferNalus pack.bytes

/-! ### The monitor -/

/-- What is open, and which mapping numbers have been used. -/
structure Ledger where
  answered : List Item := []
  openItem : Option Item := none
  mapped : Option (Mapping × MppNaluIpcPack) := none
  playbackNext : ℕ := 0
  snapshotNext : ℕ := 0

namespace Ledger

def used (s : Ledger) : Mapping → Bool
  | .playback n => n < s.playbackNext
  | .snapshot n => n < s.snapshotNext

def use (s : Ledger) : Mapping → Ledger
  | .playback n => { s with playbackNext := n + 1 }
  | .snapshot n => { s with snapshotNext := n + 1 }

def step (s : Ledger) : Event → Option Ledger
  | .read item =>
    if s.openItem = none ∧ s.mapped = none then some { s with openItem := some item } else none
  | .readDone ptr =>
    match s.openItem with
    | none => none
    | some item =>
      if s.mapped = none ∧ item.ptr = ptr then
        some { s with openItem := none, answered := s.answered ++ [item] }
      else none
  | .mmap m pack =>
    if s.mapped = none ∧ s.used m = false ∧ s.openItem.any (pack ∈ ·.msg.usedPacks) then
      some { s.use m with mapped := some (m, pack) }
    else none
  | .munmap m _ =>
    if s.mapped.map Prod.fst = some m then some { s with mapped := none } else none
  | .sendto .. | .parameterSet .. => if s.mapped.isSome then some s else none
  | .nalu _ n _ => if s.mapped.any (n ∈ bufferNalus ·.2.bytes) then some s else none
  | _ => some s

end Ledger

def ledger : Monitor Ledger Event := ⟨{}, Ledger.step⟩

/-! ### Accepted traces -/

/-- What the ledger knows of the trace it has read. -/
structure Ledger.Knows (l : List Event) (s : Ledger) : Prop where
  items : l.filter Event.isItemStep
    = (s.answered.flatMap fun i => [.read i, .readDone i.ptr]) ++ (s.openItem.map .read).toList
  used : ∀ m, 0 < l.countP (Event.maps m) → s.used m
  once : ∀ m, l.countP (Event.maps m) ≤ 1
  balance : ∀ m, l.countP (Event.unmaps m) + (if s.mapped.map Prod.fst = some m then 1 else 0)
    = l.countP (Event.maps m)
  mapped : ∀ m pack, s.mapped = some (m, pack) →
    .mmap m pack ∈ l ∧ ∃ item, s.openItem = some item ∧ pack ∈ item.msg.usedPacks

namespace Ledger

theorem used_use (s : Ledger) {m m' : Mapping} (hnew : s.used m = false)
    (h : m' = m ∨ s.used m') : (s.use m).used m' := by
  rcases h with rfl | h
  · rcases m' with n | n <;> simp [used, use]
  · rcases m with n | n <;> rcases m' with n' | n' <;>
      simp only [used, decide_eq_true_eq, decide_eq_false_iff_not] at hnew h <;>
      refine decide_eq_true ?_ <;> simp only [use] <;> omega

/-- An event that is no step of an item and none of a mapping changes nothing. -/
theorem Knows.skip {l : List Event} {s : Ledger} {e : Event} (h : Knows l s)
    (hitem : e.isItemStep = false) (hmaps : ∀ m, e.maps m = false)
    (hunmaps : ∀ m, e.unmaps m = false) : Knows (l ++ [e]) s := by
  refine ⟨?_, fun m => ?_, fun m => ?_, fun m => ?_, fun m pack hm => ?_⟩
  · rw [List.filter_append, h.items]
    simp [hitem]
  · simpa [hmaps m] using h.used m
  · simpa [hmaps m] using h.once m
  · simpa [hmaps m, hunmaps m] using h.balance m
  · exact ⟨List.mem_append_left _ (h.mapped m pack hm).1, (h.mapped m pack hm).2⟩

@[simp] theorem use_answered (s : Ledger) (m : Mapping) : (s.use m).answered = s.answered := by
  rcases m with n | n <;> rfl

@[simp] theorem use_openItem (s : Ledger) (m : Mapping) : (s.use m).openItem = s.openItem := by
  rcases m with n | n <;> rfl

/-- An item is opened or closed while nothing is mapped. -/
theorem Knows.itemStep {l : List Event} {s s' : Ledger} {e : Event} (h : Knows l s)
    (hitem : e.isItemStep) (hmaps : ∀ m, e.maps m = false) (hunmaps : ∀ m, e.unmaps m = false)
    (hmapped : s.mapped = none) (hmapped' : s'.mapped = none) (hused : s'.used = s.used)
    (hitems : (s.answered.flatMap fun i => [.read i, .readDone i.ptr]) ++
        (s.openItem.map Event.read).toList ++ [e]
      = (s'.answered.flatMap fun i => [.read i, .readDone i.ptr]) ++
        (s'.openItem.map Event.read).toList) : Knows (l ++ [e]) s' := by
  refine ⟨?_, fun m => ?_, fun m => ?_, fun m => ?_, fun m pack hm => ?_⟩
  · rw [List.filter_append, h.items, ← hitems]
    simp [hitem]
  · simpa [hmaps m, hused] using h.used m
  · simpa [hmaps m] using h.once m
  · simpa [hmaps m, hunmaps m, hmapped, hmapped'] using h.balance m
  · rw [hmapped'] at hm
    simp at hm

theorem Knows.mmap {l : List Event} {s : Ledger} {m : Mapping} {pack : MppNaluIpcPack}
    {item : Item} (h : Knows l s) (hmapped : s.mapped = none) (hnew : s.used m = false)
    (hopen : s.openItem = some item) (hpack : pack ∈ item.msg.usedPacks) :
    Knows (l ++ [.mmap m pack]) { s.use m with mapped := some (m, pack) } := by
  have hzero : l.countP (Event.maps m) = 0 := by
    by_contra hpos
    rw [h.used m (by omega)] at hnew
    simp at hnew
  have hcount : ∀ m', (l ++ [Event.mmap m pack]).countP (Event.maps m')
      = l.countP (Event.maps m') + (if m = m' then 1 else 0) := fun m' => by
    simp [Event.maps]
  refine ⟨?_, fun m' hm' => ?_, fun m' => ?_, fun m' => ?_, fun m' pack' hm' => ?_⟩
  · rw [List.filter_append, h.items]
    simp [Event.isItemStep]
  · rw [hcount] at hm'
    refine used_use s hnew ?_
    by_cases hmm : m = m'
    · exact .inl hmm.symm
    · rw [if_neg hmm] at hm'
      exact .inr (h.used m' hm')
  · rw [hcount]
    have := h.once m'
    by_cases hmm : m = m'
    · rw [if_pos hmm, ← hmm]
      omega
    · rw [if_neg hmm]
      omega
  · have hbal := h.balance m'
    rw [hcount]
    simpa [Event.unmaps, hmapped] using hbal
  · obtain ⟨rfl, rfl⟩ : m = m' ∧ pack = pack' := by simpa using hm'
    exact ⟨List.mem_append_right _ (List.mem_singleton_self _), item, by simpa using hopen, hpack⟩

theorem Knows.munmap {l : List Event} {s : Ledger} {m : Mapping} (h : Knows l s)
    (hm : s.mapped.map Prod.fst = some m) (ok : Bool) :
    Knows (l ++ [.munmap m ok]) { s with mapped := none } := by
  refine ⟨?_, fun m' hpos => ?_, fun m' => ?_, fun m' => ?_, fun m' pack' hm' => ?_⟩
  · rw [List.filter_append, h.items]
    simp [Event.isItemStep]
  · exact h.used m' (by simpa [Event.maps] using hpos)
  · simpa [Event.maps] using h.once m'
  · have hbal := h.balance m'
    rw [hm] at hbal
    simpa [Event.maps, Event.unmaps] using hbal
  · simp at hm'

/-- **One event.** Whatever the ledger accepts, it goes on knowing the trace. -/
theorem knows_step {l : List Event} {s s' : Ledger} {e : Event} (h : Knows l s)
    (he : s.step e = some s') : Knows (l ++ [e]) s' := by
  cases e <;> simp only [step, Option.ite_none_right_eq_some, Option.some.injEq] at he
  case read =>
    obtain ⟨⟨hopen, hmapped⟩, rfl⟩ := he
    exact h.itemStep rfl (fun _ => rfl) (fun _ => rfl) hmapped hmapped rfl (by simp [hopen])
  case readDone =>
    split at he
    · simp at he
    · rename_i item hopen
      rw [Option.ite_none_right_eq_some, Option.some.injEq] at he
      obtain ⟨⟨hmapped, rfl⟩, rfl⟩ := he
      exact h.itemStep rfl (fun _ => rfl) (fun _ => rfl) hmapped hmapped rfl (by simp [hopen])
  case mmap m pack =>
    obtain ⟨⟨hmapped, hnew, hpack⟩, rfl⟩ := he
    obtain ⟨item, hopen, hpack⟩ := (Option.any_eq_true ..).mp hpack
    exact h.mmap hmapped hnew hopen (of_decide_eq_true hpack)
  case munmap m ok =>
    obtain ⟨hm, rfl⟩ := he
    exact h.munmap hm ok
  case sendto | parameterSet | nalu =>
    obtain ⟨-, rfl⟩ := he
    exact h.skip rfl (fun _ => rfl) (fun _ => rfl)
  all_goals
    subst he
    exact h.skip rfl (fun _ => rfl) (fun _ => rfl)

theorem knows_of_run {l : List Event} {s : Ledger} (h : ledger.run l = some s) : Knows l s := by
  refine Monitor.invariant ⟨rfl, ?_, ?_, ?_, ?_⟩ (fun _ _ _ _ => knows_step) h <;>
    simp [ledger]

end Ledger

/-- **What the ledger accepts has the lifecycle.** -/
theorem lifecycle_of_run {trace : List Event} {s : Ledger} (h : ledger.run trace = some s)
    (hopen : s.openItem = none) (hmapped : s.mapped = none) : Lifecycle s.answered trace := by
  have hknows := Ledger.knows_of_run h
  have hbalance : ∀ {l t}, ledger.run l = some t → t.mapped = none →
      ∀ m, l.countP (Event.unmaps m) = l.countP (Event.maps m) := by
    intro l t hl ht m
    have := (Ledger.knows_of_run hl).balance m
    simpa [ht] using this
  refine ⟨by simpa [hopen] using hknows.items, hknows.once, hbalance h hmapped, ?_, ?_, ?_⟩
  · rintro pre post rfl m
    obtain ⟨t, ht⟩ : ∃ t, ledger.run pre = some t := by
      rcases post with _ | ⟨e, post⟩
      · exact ⟨s, by simpa using h⟩
      · obtain ⟨t, -, ht, -⟩ := Monitor.exists_step_of_run h
        exact ⟨t, ht⟩
    have := (Ledger.knows_of_run ht).balance m
    omega
  · rintro pre post ptr rfl
    obtain ⟨t, t', ht, hstep⟩ := Monitor.exists_step_of_run h
    refine hbalance ht ?_
    simp only [ledger, Ledger.step] at hstep
    split at hstep
    · simp at hstep
    · rw [Option.ite_none_right_eq_some] at hstep
      exact hstep.1.1
  · rintro pre post e rfl hsends
    obtain ⟨t, t', ht, hstep⟩ := Monitor.exists_step_of_run h
    have hk := Ledger.knows_of_run ht
    obtain ⟨m, pack, hmap, hnalu⟩ : ∃ m pack, t.mapped = some (m, pack) ∧
        ∀ dest nalu ok, e = .nalu dest nalu ok → nalu ∈ bufferNalus pack.bytes := by
      rcases e <;>
        simp only [Event.sends, Bool.false_eq_true] at hsends <;>
        rcases hm : t.mapped with _ | ⟨m, pack⟩ <;>
        simp [ledger, Ledger.step, hm] at hstep ⊢
      exact hstep.1
    obtain ⟨hmem, item, hitem, hpack⟩ := hk.mapped m pack hmap
    refine ⟨item, pack, m, ?_, hpack, hmem, ?_, hnalu⟩
    · rw [hk.items, hitem]
      simp
    · have hbal := hk.balance m
      have honce := hk.once m
      rw [hmap] at hbal
      simp only [Option.map_some, if_true] at hbal
      omega

/-! ### The sender is accepted -/

/-- The ledger has accepted the world's trace and is left with what is given. The step counters
are past every mapping number used, so the next mapping gets a new one. -/
def Tracked (answered : List Item) (openItem : Option Item)
    (mapped : Option (Mapping × MppNaluIpcPack)) (w : World) : Prop :=
  ∃ playbackNext snapshotNext,
    ledger.run w.trace = some ⟨answered, openItem, mapped, playbackNext, snapshotNext⟩ ∧
      playbackNext ≤ w.tick ∧ snapshotNext ≤ w.snapshotTick

namespace Tracked

variable {answered : List Item} {openItem : Option Item} {item : Item} {w w' : World}
  {mapped : Option (Mapping × MppNaluIpcPack)} {m : Mapping} {pack : MppNaluIpcPack}

/-- Events that the ledger ignores, and steps that only count, change nothing. -/
theorem of_grows {P : Event → Prop} (h : Tracked answered openItem mapped w)
    (hP : ∀ e, P e → ∀ p q, Ledger.step ⟨answered, openItem, mapped, p, q⟩ e
      = some ⟨answered, openItem, mapped, p, q⟩)
    (hgrows : Grows P w.trace w'.trace) (htick : w.tick ≤ w'.tick)
    (hsnap : w.snapshotTick ≤ w'.snapshotTick) : Tracked answered openItem mapped w' := by
  obtain ⟨p, q, hrun, hp, hq⟩ := h
  exact ⟨p, q, Monitor.run_of_grows (fun e he => hP e he p q) hgrows hrun,
    Nat.le_trans hp htick, Nat.le_trans hq hsnap⟩

theorem quiet (h : Tracked answered openItem mapped w) (htrace : w'.trace = w.trace)
    (htick : w.tick ≤ w'.tick) (hsnap : w.snapshotTick ≤ w'.snapshotTick) :
    Tracked answered openItem mapped w' := by
  refine h.of_grows (P := fun _ => False) (fun _ he => he.elim) ?_ htick hsnap
  rw [htrace]
  exact Grows.refl _ _

/-- An event that the ledger ignores. -/
theorem emit {e : Event} (h : Tracked answered openItem mapped w)
    (he : ∀ p q, Ledger.step ⟨answered, openItem, mapped, p, q⟩ e
      = some ⟨answered, openItem, mapped, p, q⟩) : Tracked answered openItem mapped (w.emit e) := by
  refine h.of_grows (P := Eq e) ?_ (Grows.single rfl _) (Nat.le_refl _) (Nat.le_refl _)
  rintro _ rfl
  exact he

theorem rtspStep (h : Tracked answered openItem mapped w) (s : RtspStep) :
    Tracked answered openItem mapped (w.rtspStep s) := by
  refine h.of_grows (P := Eq (.rtsp s (w.rtsp.apply s))) ?_ (Grows.single rfl _)
    (Nat.le_refl _) (Nat.le_refl _)
  rintro _ rfl p q
  rfl

theorem schedule (h : Tracked answered openItem mapped w) (env : Env) :
    Tracked answered openItem mapped (w.schedule env) := by
  have hcount : Tracked answered openItem mapped { w with tick := w.tick + 1 } :=
    h.quiet rfl (Nat.le_succ _) (Nat.le_refl _)
  exact List.foldlRecOn _ _ hcount fun v hv s _ => hv.rtspStep s

theorem feeds (h : Tracked answered openItem mapped w) (hf : Feeds w w') :
    Tracked answered openItem mapped w' :=
  h.quiet hf.trace_eq (by rw [hf.frame]) hf.tick_le

/-- While a pack is mapped, its NALUs may be processed. -/
theorem plays (h : Tracked answered openItem (some (m, pack)) w)
    (hp : Plays (bufferNalus pack.bytes) w w') :
    Tracked answered openItem (some (m, pack)) w' := by
  refine h.of_grows ?_ hp.grows hp.tick_le (by rw [hp.frame])
  intro e he p q
  rcases e <;>
    first
      | rfl
      | exact False.elim he
      | exact if_pos (decide_eq_true (p := _ ∈ bufferNalus pack.bytes) he)

theorem mmap_playback (h : Tracked answered (some item) none w)
    (hpack : pack ∈ item.msg.usedPacks) :
    Tracked answered (some item) (some (.playback w.tick, pack))
      ({ w with tick := w.tick + 1 }.emit (.mmap (.playback w.tick) pack)) := by
  obtain ⟨p, q, hrun, hp, hq⟩ := h
  refine ⟨w.tick + 1, q, ?_, Nat.le_refl _, hq⟩
  rw [World.emit, Monitor.run_concat, hrun]
  refine if_pos ?_
  exact ⟨rfl, decide_eq_false (by simpa using hp), by simpa using hpack⟩

theorem mmap_snapshot (h : Tracked answered (some item) none w)
    (hpack : pack ∈ item.msg.usedPacks) :
    Tracked answered (some item) (some (.snapshot w.snapshotTick, pack))
      (w.snapshotStep.emit (.mmap (.snapshot w.snapshotTick) pack)) := by
  obtain ⟨p, q, hrun, hp, hq⟩ := h
  refine ⟨p, w.snapshotTick + 1, ?_, hp, Nat.le_refl _⟩
  rw [World.emit, Monitor.run_concat, snapshotStep, hrun]
  refine if_pos ?_
  exact ⟨rfl, decide_eq_false (by simpa using hq), by simpa using hpack⟩

theorem munmap (h : Tracked answered openItem (some (m, pack)) w) (ok : Bool) :
    Tracked answered openItem none (w.emit (.munmap m ok)) := by
  obtain ⟨p, q, hrun, hp, hq⟩ := h
  refine ⟨p, q, ?_, hp, hq⟩
  rw [World.emit, Monitor.run_concat, hrun]
  exact if_pos rfl

theorem read (h : Tracked answered none none w) (item : Item) :
    Tracked answered (some item) none (w.emit (.read item)) := by
  obtain ⟨p, q, hrun, hp, hq⟩ := h
  refine ⟨p, q, ?_, hp, hq⟩
  rw [World.emit, Monitor.run_concat, hrun]
  simp [ledger, Ledger.step]

theorem readDone (h : Tracked answered (some item) none w) :
    Tracked (answered ++ [item]) none none (w.emit (.readDone item.ptr)) := by
  obtain ⟨p, q, hrun, hp, hq⟩ := h
  refine ⟨p, q, ?_, hp, hq⟩
  rw [World.emit, Monitor.run_concat, hrun]
  simp [ledger, Ledger.step]

/-! #### The two paths through a pack -/

theorem datafifoProcessPackForPlayback (h : Tracked answered (some item) none w)
    (hpack : pack ∈ item.msg.usedPacks) (env : Env) (dest : SockAddrIn)
    (timestamp ssrc : UInt32) (marker : UInt8) (canSend : Bool) :
    Tracked answered (some item) none
      (datafifoProcessPackForPlayback env dest pack timestamp ssrc marker canSend w).2 := by
  have hcount : Tracked answered (some item) none { w with tick := w.tick + 1 } :=
    h.quiet rfl (Nat.le_succ _) (Nat.le_refl _)
  rw [LittleCore.datafifoProcessPackForPlayback, naluDatafifoMmapPack]
  split_ifs
  · exact hcount
  · have hbuf := (h.mmap_playback hpack).plays
      (datafifoProcessH265BufferForPlayback_plays env dest pack.bytes timestamp ssrc marker
        canSend _)
    dsimp only
    generalize datafifoProcessH265BufferForPlayback env dest pack.bytes timestamp ssrc marker
      canSend _ = r at hbuf
    have hcounted : Tracked answered (some item) (some (.playback w.tick, pack))
        { r.2 with tick := r.2.tick + 1 } := hbuf.quiet rfl (Nat.le_succ _) (Nat.le_refl _)
    exact hcounted.munmap _
  · exact hcount.emit fun _ _ => rfl

theorem snapshotPack (h : Tracked answered (some item) none w)
    (hpack : pack ∈ item.msg.usedPacks) (env : Env) (frame : H265SnapshotFrame) :
    Tracked answered (some item) none (snapshotPack env pack (frame, w)).2.2 := by
  rw [LittleCore.snapshotPack, naluDatafifoMmapPack]
  split_ifs
  · exact h.feeds (feeds_snapshotStep w)
  · have hfeed := (h.mmap_snapshot hpack).feeds
      (h265SnapshotFeedBuffer_feeds env pack.bytes (frame, _))
    exact (hfeed.feeds (feeds_snapshotStep _)).munmap _
  · exact (h.feeds (feeds_snapshotStep w)).emit fun _ _ => rfl

theorem snapshotEnqueue (h : Tracked answered openItem none w) (env : Env)
    (msg : MppNaluIpcMsg) : Tracked answered openItem none (snapshotEnqueue env msg w).2 := by
  have hcount : Tracked answered openItem none { w with snapshotTick := w.snapshotTick + 4 } :=
    h.feeds ⟨rfl, Nat.le_add_right _ _⟩
  rw [LittleCore.snapshotEnqueue]
  dsimp only
  split
  · exact hcount
  · exact (hcount.feeds (feeds_snapshotStep _)).emit fun _ _ => rfl

theorem datafifoSnapshotProcess (h : Tracked answered (some item) none w) (env : Env) :
    Tracked answered (some item) none (datafifoSnapshotProcess env item.msg w).2 := by
  rw [LittleCore.datafifoSnapshotProcess]
  split
  · exact h
  · have hloop := forEach_induct
      (R := fun (s t : H265SnapshotFrame × World) =>
        Tracked answered (some item) none s.2 → Tracked answered (some item) none t.2)
      (fun _ hs => hs) (fun h₁ h₂ hs => h₂ (h₁ hs))
      (fun pack hpack s hs => hs.snapshotPack hpack env s.1) ({ copyAu := true }, w) h
    split
    · rename_i heq
      rwa [heq] at hloop
    · rename_i frame v heq
      rw [heq] at hloop
      have hcache := hloop.feeds ((h265SnapshotUpdateGopCache_feeds env frame item.msg v).trans
        (updateLastIrap_feeds env frame item.msg _))
      dsimp only
      split
      · exact hcache
      · exact hcache.snapshotEnqueue env item.msg

/-! #### Rounds and runs -/

theorem playbackPacks (h : Tracked answered (some item) none w) (env : Env) (dest : SockAddrIn)
    (canSend : Bool) :
    Tracked answered (some item) none (playbackPacks env dest canSend item.msg w).2 := by
  refine List.foldlRecOn (motive := fun s : Bool × World => Tracked answered (some item) none s.2)
    _ _ h fun s hs pack hpack => ?_
  exact hs.datafifoProcessPackForPlayback (List.fst_mem_of_mem_zipIdx hpack) ..

theorem processMessage (h : Tracked answered (some item) none w) (env : Env) (dest : SockAddrIn)
    (canSend needParameterSets : Bool) :
    Tracked answered (some item) none
      (processMessage env item.msg dest canSend needParameterSets w) := by
  have hsnap : Tracked answered (some item) none (if item.msg.flagged then
      LittleCore.datafifoSnapshotProcess env item.msg w else (true, w)).2 := by
    split
    · exact h.datafifoSnapshotProcess env
    · exact h
  have hpacks := hsnap.playbackPacks env dest canSend
  rw [LittleCore.processMessage]
  dsimp only
  generalize LittleCore.playbackPacks env dest canSend item.msg _ = packs at hpacks
  refine emit (hpacks.quiet ?_ ?_ ?_) fun _ _ => rfl <;> dsimp only <;> split <;> rfl

theorem handleMessage (h : Tracked answered (some item) none w) (env : Env) (dest : SockAddrIn)
    (canSend needParameterSets : Bool) :
    Tracked answered (some item) none
      (handleMessage env item.msg dest canSend needParameterSets w) := by
  rw [LittleCore.handleMessage]
  split
  · split
    · exact h
    · have hread : Tracked answered (some item) none { w with lastReadSeq := item.msg.seq } :=
        h.quiet rfl (Nat.le_refl _) (Nat.le_refl _)
      exact hread.processMessage env dest canSend _
  · exact h

end Tracked

/-- **One round.** Whatever the item is and however the environment answers, the round opens the
item, closes it, and leaves nothing open. -/
theorem datafifoRound_tracked {answered : List Item} {w : World}
    (h : Tracked answered none none w) (env : Env) (item : Item) :
    Tracked (answered ++ [item]) none none (datafifoRound env item w) := by
  have htarget : Tracked answered (some item) none
      (getRtspTarget env (w.emit (.read item))).2 :=
    ((h.read item).schedule env).emit fun _ _ => rfl
  exact (htarget.handleMessage env _ _ _).readDone

theorem datafifoRtpSenderLoop_tracked (env : Env) (inputs : List Input) :
    Tracked (itemsOf inputs) none none (datafifoRtpSenderLoop env inputs {}) := by
  induction inputs using List.reverseRecOn with
  | nil => exact ⟨0, 0, rfl, Nat.le_refl _, Nat.le_refl _⟩
  | append_singleton inputs input ih =>
    rw [datafifoRtpSenderLoop_concat, itemsOf_concat]
    rcases input with s | item
    · rw [Input.item?, Option.toList_none, List.append_nil]
      exact ih.rtspStep s
    · exact datafifoRound_tracked ih env item

/-- **The lifecycle holds in every run.** -/
theorem datafifoRtpSenderLoop_lifecycle (env : Env) (inputs : List Input) :
    Lifecycle (itemsOf inputs) (datafifoRtpSenderLoop env inputs {}).trace := by
  obtain ⟨p, q, hrun, -, -⟩ := datafifoRtpSenderLoop_tracked env inputs
  exact lifecycle_of_run hrun rfl rfl

end LittleCore

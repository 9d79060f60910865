import LittleCore.Library.Loans
import LittleCore.Lifecycle
import LittleCore.Reader

/-!
# The two cores

The big core leaves the encoded frames where the encoder put them and only sends their physical
addresses through the DATAFIFO. It releases an item when it is marked `READ_DONE`, and from then on
the memory may be written again, so the little core may look at a pack between `nalu_datafifo_read`
and `nalu_datafifo_read_done` only.

Elsewhere a pack simply carries its bytes. Here it does not: there is a physical memory that the big
core writes, and a pack says what its range held when the item was handed over. The big core keeps
to its side of the bargain, which is the rule of a `Lending`, and every event of the sender is a
step of its own, so anything the big core may do can happen between any two of them.

## Main results

* `two_cores` — while a pack is mapped its memory is what the big core handed over, and the items
  are handled in order, each once
-/

namespace LittleCore

open Library

/-- What the range of a pack holds. -/
def memoryAt (mem : ℕ → UInt8) (pack : MppNaluIpcPack) : List UInt8 :=
  (List.range pack.len.toNat).map fun i => mem (pack.physAddr.toNat + i)

/-- The DATAFIFO as a queue of loans. An item is about the ranges of its packs, and promises that
they hold the bytes that were encoded. -/
def datafifoLending : Lending Item ℕ UInt8 where
  capacity := naluDatafifoFifoEntries.toNat
  uses item cell := ∃ pack ∈ item.msg.usedPacks,
    pack.physAddr.toNat ≤ cell ∧ cell < pack.physAddr.toNat + pack.len.toNat
  holds item mem := ∀ pack ∈ item.msg.usedPacks, memoryAt mem pack = pack.bytes
  frame := by
    intro item mem mem' hsame hholds pack hpack
    rw [← hholds pack hpack, memoryAt, memoryAt, List.map_inj_left]
    intro i hi
    have hlt := List.mem_range.mp hi
    exact hsame _ ⟨pack, hpack, Nat.le_add_right _ _, Nat.add_lt_add_left hlt _⟩

/-- A step of either core. -/
inductive CoreStep where
  | write (cell : ℕ) (value : UInt8)
  | submit (item : Item)
  | little (e : Event)

/-- `nalu_datafifo_read` takes the oldest item, and `READ_DONE` gives it back. Nothing else that the
sender does is about the DATAFIFO. -/
inductive CoreStep.Takes (s : Loans Item ℕ UInt8) : CoreStep → Loans Item ℕ UInt8 → Prop
  | write {cell value s'} (h : datafifoLending.Step s (.write cell value) s') :
    Takes s (.write cell value) s'
  | submit {item s'} (h : datafifoLending.Step s (.submit item) s') : Takes s (.submit item) s'
  | read {item s'} (h : datafifoLending.Step s (.take item) s') : Takes s (.little (.read item)) s'
  | readDone {item s'} (h : datafifoLending.Step s (.giveBack item) s') :
    Takes s (.little (.readDone item.ptr)) s'
  | inside {e} (he : e.isItemStep = false) : Takes s (.little e) s

/-- The runs of the two cores, from a memory with anything in it. -/
inductive CoreRun (mem : ℕ → UInt8) : List CoreStep → Loans Item ℕ UInt8 → Prop
  | start : CoreRun mem [] { mem := mem }
  | step {steps s c s'} (hrun : CoreRun mem steps s) (hstep : c.Takes s s') :
    CoreRun mem (steps ++ [c]) s'

def CoreStep.little? : CoreStep → Option Event
  | .little e => some e
  | _ => none

/-- What the sender has done in a run of the two cores. -/
def littleTrace (steps : List CoreStep) : List Event := steps.filterMap CoreStep.little?

theorem littleTrace_concat (steps : List CoreStep) (c : CoreStep) :
    littleTrace (steps ++ [c]) = littleTrace steps ++ c.little?.toList := by
  rw [littleTrace, List.filterMap_append]
  rcases c with _ | _ | e <;> rfl

/-- The part of a run in which the sender is inside a round. -/
theorem CoreRun.inside {mem : ℕ → UInt8} {steps : List CoreStep} {s : Loans Item ℕ UInt8}
    (h : CoreRun mem steps s) {l : List Event} (hl : ∀ e ∈ l, e.isItemStep = false) :
    CoreRun mem (steps ++ l.map .little) s := by
  induction l generalizing steps with
  | nil => rwa [List.map_nil, List.append_nil]
  | cons e l ih =>
    have hnext := ih (h.step (.inside (hl e (List.mem_cons_self ..))))
      fun e' he' => hl e' (List.mem_cons_of_mem _ he')
    rwa [List.append_assoc] at hnext

/-- What the sender's ledger knows of the loans. -/
structure Linked (s : Loans Item ℕ UInt8) (l : Ledger) : Prop where
  out : s.out = l.openItem.toList
  taken : s.taken = l.answered ++ l.openItem.toList
  returned : s.returned = l.answered

/-- An event that the ledger does not book. -/
theorem Ledger.step_inside {l l' : Ledger} {e : Event} (he : e.isItemStep = false)
    (h : l.step e = some l') : l'.openItem = l.openItem ∧ l'.answered = l.answered := by
  cases e <;> simp only [Event.isItemStep, Bool.true_eq_false] at he <;>
    simp only [step, Option.ite_none_right_eq_some, Option.some.injEq] at h
  case mmap m pack =>
    rw [← h.2]
    exact ⟨use_openItem l m, use_answered l m⟩
  case munmap | sendto | parameterSet | nalu =>
    rw [← h.2]
    exact ⟨rfl, rfl⟩
  all_goals
    rw [← h]
    exact ⟨rfl, rfl⟩

theorem Linked.step {s s' : Loans Item ℕ UInt8} {l l' : Ledger} {e : Event} (h : Linked s l)
    (hcore : CoreStep.Takes s (.little e) s') (hledger : l.step e = some l') : Linked s' l' := by
  generalize hc : CoreStep.little e = c at hcore
  cases hcore with
  | write | submit => cases hc
  | read hstep =>
    cases hc
    cases hstep with
    | take hqueue =>
      rw [Ledger.step, Option.ite_none_right_eq_some, Option.some.injEq] at hledger
      obtain ⟨⟨hopen, -⟩, rfl⟩ := hledger
      have hout := h.out
      have htaken := h.taken
      rw [hopen] at hout htaken
      refine ⟨by simp [hout], by simp [htaken], h.returned⟩
  | @readDone item _ hstep =>
    cases hc
    cases hstep with
    | giveBack hmem =>
      rw [Ledger.step] at hledger
      split at hledger
      · cases hledger
      · rename_i item' hopen
        rw [Option.ite_none_right_eq_some, Option.some.injEq] at hledger
        obtain ⟨-, rfl⟩ := hledger
        have hout := h.out
        have htaken := h.taken
        rw [hopen, Option.toList_some] at hout htaken
        obtain rfl : item = item' := by
          rw [hout] at hmem
          exact List.mem_singleton.mp hmem
        exact ⟨by simp [hout], by simp [htaken], by simp [h.returned]⟩
  | inside he =>
    cases hc
    obtain ⟨hopen, hanswered⟩ := Ledger.step_inside he hledger
    exact ⟨by rw [hopen, h.out], by rw [hopen, hanswered, h.taken], by rw [hanswered, h.returned]⟩

/-- **The two sides together.** While the ledger accepts what the sender does, the loans are sound
and the ledger knows what is out. -/
theorem CoreRun.sound {mem : ℕ → UInt8} {steps : List CoreStep} {s : Loans Item ℕ UInt8}
    (h : CoreRun mem steps s) {l : Ledger} (hl : ledger.run (littleTrace steps) = some l) :
    datafifoLending.Sound s ∧ Linked s l := by
  induction h generalizing l with
  | start =>
    obtain rfl := Option.some.inj hl
    exact ⟨.initial _ mem, ⟨rfl, rfl, rfl⟩⟩
  | @step steps s c s' hrun hstep ih =>
    rw [littleTrace_concat] at hl
    cases hstep with
    | write hstep =>
      obtain ⟨hsound, hlinked⟩ := ih (by simpa [CoreStep.little?] using hl)
      refine ⟨hsound.step hstep, ?_⟩
      cases hstep
      exact ⟨hlinked.out, hlinked.taken, hlinked.returned⟩
    | submit hstep =>
      obtain ⟨hsound, hlinked⟩ := ih (by simpa [CoreStep.little?] using hl)
      refine ⟨hsound.step hstep, ?_⟩
      cases hstep
      exact ⟨hlinked.out, hlinked.taken, hlinked.returned⟩
    | read hstep =>
      rw [CoreStep.little?, Option.toList_some, Monitor.run_concat] at hl
      obtain ⟨l₀, hl₀, hledger⟩ := Option.bind_eq_some_iff.mp hl
      obtain ⟨hsound, hlinked⟩ := ih hl₀
      exact ⟨hsound.step hstep, hlinked.step (.read hstep) hledger⟩
    | readDone hstep =>
      rw [CoreStep.little?, Option.toList_some, Monitor.run_concat] at hl
      obtain ⟨l₀, hl₀, hledger⟩ := Option.bind_eq_some_iff.mp hl
      obtain ⟨hsound, hlinked⟩ := ih hl₀
      exact ⟨hsound.step hstep, hlinked.step (.readDone hstep) hledger⟩
    | inside he =>
      rw [CoreStep.little?, Option.toList_some, Monitor.run_concat] at hl
      obtain ⟨l₀, hl₀, hledger⟩ := Option.bind_eq_some_iff.mp hl
      obtain ⟨hsound, hlinked⟩ := ih hl₀
      exact ⟨hsound, hlinked.step (.inside he) hledger⟩

/-- A mapping that was made and not unmapped is the one in use. -/
theorem Ledger.Knows.mapped_of_mem {l : List Event} {s : Ledger} (h : Ledger.Knows l s)
    {m : Mapping} {pack : MppNaluIpcPack} (hmem : Event.mmap m pack ∈ l)
    (hunmaps : l.countP (Event.unmaps m) = 0) : s.mapped = some (m, pack) := by
  have hmaps : Event.mmap m pack ∈ l.filter (Event.maps m) :=
    List.mem_filter.mpr ⟨hmem, by simp [Event.maps]⟩
  have honce := h.once m
  have hbalance := h.balance m
  rw [List.countP_eq_length_filter] at honce
  rw [hunmaps, Nat.zero_add, List.countP_eq_length_filter] at hbalance
  obtain ⟨e, hfilter⟩ : ∃ e, l.filter (Event.maps m) = [e] :=
    List.length_eq_one_iff.mp (Nat.le_antisymm honce (List.length_pos_of_mem hmaps))
  rw [hfilter, List.length_singleton] at hbalance
  rcases hmapped : s.mapped with _ | ⟨m', pack'⟩
  · rw [hmapped] at hbalance
    cases hbalance
  · rw [hmapped] at hbalance
    obtain rfl : m' = m := by
      by_contra hne
      rw [Option.map_some, if_neg (fun heq => hne (Option.some.inj heq))] at hbalance
      cases hbalance
    have hmaps' : Event.mmap m' pack' ∈ l.filter (Event.maps m') :=
      List.mem_filter.mpr ⟨(h.mapped m' pack' hmapped).1, by simp [Event.maps]⟩
    rw [hfilter, List.mem_singleton] at hmaps hmaps'
    cases hmaps.trans hmaps'.symm
    rfl

/-- **The two cores.** However the steps of the big core fall between those of the sender, a pack
that is mapped is in memory what the big core handed over, and so is what the NALU that was sent
last was taken from. The items are read in the order they were handed over, each of them is marked
`READ_DONE` once or is the one item being worked on, and no more than three are out. -/
theorem two_cores {mem : ℕ → UInt8} {steps : List CoreStep} {s : Loans Item ℕ UInt8}
    (hrun : CoreRun mem steps s) {env : Env} {inputs : List Input}
    (hlittle : littleTrace steps <+: (datafifoRtpSenderLoop env inputs {}).trace) :
    (∀ m pack, .mmap m pack ∈ littleTrace steps →
      (littleTrace steps).countP (Event.unmaps m) = 0 → memoryAt s.mem pack = pack.bytes) ∧
    (∀ dest nalu ok, (littleTrace steps).getLast? = some (.nalu dest nalu ok) →
      ∃ item ∈ s.out, ∃ pack ∈ item.msg.usedPacks, nalu ∈ bufferNalus (memoryAt s.mem pack)) ∧
    s.taken ++ s.queue = s.submitted ∧ s.taken = s.returned ++ s.out ∧ s.out.length ≤ 1 ∧
    s.queue.length + s.out.length ≤ 3 := by
  obtain ⟨rest, hrest⟩ := hlittle
  obtain ⟨_, _, hledger, -, -⟩ := datafifoRtpSenderLoop_tracked env inputs
  rw [← hrest] at hledger
  obtain ⟨l, hl⟩ := Monitor.exists_of_run_append hledger
  obtain ⟨hsound, hlinked⟩ := hrun.sound hl
  have hknows := Ledger.knows_of_run hl
  -- What is mapped is a pack of the item that is out.
  have hmapped : ∀ m pack, l.mapped = some (m, pack) →
      ∃ item ∈ s.out, pack ∈ item.msg.usedPacks ∧ memoryAt s.mem pack = pack.bytes := by
    intro m pack h
    obtain ⟨-, item, hopen, hpack⟩ := hknows.mapped m pack h
    have hout : item ∈ s.out := by
      rw [hlinked.out, hopen]
      exact List.mem_singleton_self _
    exact ⟨item, hout, hpack, hsound.holds item (List.mem_append_right _ hout) pack hpack⟩
  refine ⟨fun m pack hmem hunmaps => ?_, fun dest nalu ok hlast => ?_, hsound.fifo, ?_, ?_,
    hsound.bounded⟩
  · obtain ⟨_, -, -, hbytes⟩ := hmapped m pack (hknows.mapped_of_mem hmem hunmaps)
    exact hbytes
  · obtain ⟨before, hbefore⟩ := List.getLast?_eq_some_iff.mp hlast
    rw [hbefore] at hl
    rw [Monitor.run_concat] at hl
    obtain ⟨l₀, -, hstep⟩ := Option.bind_eq_some_iff.mp hl
    obtain ⟨hany, heq⟩ := Option.ite_none_right_eq_some.mp hstep
    rw [Option.some.inj heq] at hany
    obtain ⟨⟨m, pack⟩, hpack, hnalu⟩ := (Option.any_eq_true ..).mp hany
    obtain ⟨item, hout, hused, hbytes⟩ := hmapped m pack hpack
    refine ⟨item, hout, pack, hused, ?_⟩
    rw [hbytes]
    exact of_decide_eq_true hnalu
  · rw [hlinked.taken, hlinked.returned, hlinked.out]
  · rw [hlinked.out]
    cases l.openItem <;> simp

/-- `idrFrame` at the physical address `0x1000`. -/
def idrMemory (cell : ℕ) : UInt8 :=
  if cell = 0x1002 ∨ cell = 0x1004 then 1 else if cell = 0x1003 then 0x26 else 0

/-- The big core hands over the IDR, the sender maps it, and the big core writes elsewhere. -/
theorem two_cores_sample : ∃ s, CoreRun idrMemory
      ([.submit idrItem, .little (.read idrItem)] ++
        [.target false ⟨0, 0⟩,
          .mmap (.playback 1) (onePack idrFrame length_idrFrame)].map .little ++
        [.write 0x2000 7]) s ∧
    memoryAt s.mem (onePack idrFrame length_idrFrame) = idrFrame := by
  have hpacks : ∀ pack ∈ idrItem.msg.usedPacks, pack = onePack idrFrame length_idrFrame :=
    fun pack hpack => List.mem_singleton.mp hpack
  have hstart : CoreRun idrMemory [] { mem := idrMemory } := .start
  have hsubmitted := hstart.step (c := .submit idrItem) (.submit (.submit (by decide)
    (fun pack hpack => by rw [hpacks pack hpack]; decide)))
  have hread := hsubmitted.step (c := .little (.read idrItem)) (.read (.take rfl))
  have hmapped := hread.inside (l := [.target false ⟨0, 0⟩,
    .mmap (.playback 1) (onePack idrFrame length_idrFrame)]) (by decide)
  have hrun := hmapped.step (c := .write 0x2000 7) (.write (.write (by
    rintro item hitem ⟨pack, hpack, hle, hlt⟩
    obtain rfl : item = idrItem := List.mem_singleton.mp hitem
    rw [hpacks pack hpack] at hlt
    exact absurd hlt (by decide))))
  exact ⟨_, hrun, (@two_cores _ _ _ hrun {} [.item idrItem] (by decide)).1
    (.playback 1) _ (by decide) (by decide)⟩

end LittleCore

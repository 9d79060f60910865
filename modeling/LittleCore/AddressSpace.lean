import LittleCore.LittleApp
import LittleCore.Windows
import Mathlib.Data.Set.Lattice
import Mathlib.Order.CompletePartialOrder
import Mathlib.Order.Interval.Set.Disjoint

/-!
# The address space of the senders

`Lifecycle` counts mappings and knows nothing of addresses; `Windows` computes addresses, and knows
nothing of what is mapped when. Here a run of a sender is replayed in an address space: each
mapping that it makes is a call of `little_sys_mmap`, each one that it gives back is a call of
`little_sys_munmap` with the pointer, and `munmap` takes every byte away that it is asked for,
whoever has mapped it.

The rest of the process maps and unmaps what it likes in between.

## Main results

* `MappedRight` — what is mapped between two events of a run
* `senders_mappedRight` — every run of either sender, in every address space
-/

namespace LittleCore

open Library

/-- The addresses of a mapping. -/
def MmapWindow.addresses (window : MmapWindow) : Set ℕ :=
  Set.Ico window.base.toNat (window.base.toNat + window.length.toNat)

/-- What `sysconf` and `mmap` are documented to do, for pages of `2 ^ k` bytes. -/
structure MemSystem.HasPages (sys : MemSystem) (k : ℕ) : Prop where
  pageSize : sys.pageSize.toInt = 2 ^ k
  maps : sys.MapsPages (2 ^ k)

structure AddressSpace where
  gDatafifoMemFd : ℤ := -1
  /-- What `open("/dev/mem", ..)` has returned, apart from errors. -/
  opened : List ℤ := []
  /-- `virt_addr`, and the pack for which it has been made. -/
  virtAddr : Option (MppNaluIpcPack × UInt64) := none
  /-- What `little_sys_mmap` has mapped. -/
  own : Set ℕ := ∅
  /-- What everyone else has. -/
  others : Set ℕ

namespace AddressSpace

/-- `little_sys_mmap` has left this in `g_datafifo_mem_fd`. -/
def keepFd (s : AddressSpace) (fd : ℤ) : AddressSpace :=
  { s with
    gDatafifoMemFd := fd
    opened := if s.gDatafifoMemFd < 0 ∧ 0 ≤ fd then s.opened ++ [fd] else s.opened }

/-- `munmap`. -/
def unmap (s : AddressSpace) (addresses : Set ℕ) : AddressSpace :=
  { s with own := s.own \ addresses, others := s.others \ addresses }

/-- What an event of the sender does to the address space. The system may answer each call as it
likes. -/
inductive Step (k : ℕ) (s : AddressSpace) : Event → AddressSpace → Prop
  /-- A mapping is made where nothing is. -/
  | mmap {sys : MemSystem} {m : Mapping} {pack : MppNaluIpcPack} {ptr : UInt64}
      {window : MmapWindow} {fd : ℤ} (hsys : sys.HasPages k)
      (hcall : littleSysMmap sys s.gDatafifoMemFd pack.physAddr pack.len = (ptr, some window, fd))
      (hfree : Disjoint window.addresses (s.own ∪ s.others)) :
      Step k s (.mmap m pack)
        { s.keepFd fd with virtAddr := some (pack, ptr), own := s.own ∪ window.addresses }
  | mmapFailed {sys : MemSystem} {pack : MppNaluIpcPack} {ptr : UInt64} {fd : ℤ}
      (hsys : sys.HasPages k)
      (hcall : littleSysMmap sys s.gDatafifoMemFd pack.physAddr pack.len = (ptr, none, fd)) :
      Step k s .mmapFailed (s.keepFd fd)
  | munmap {sys : MemSystem} {m : Mapping} {pack : MppNaluIpcPack} {ptr addr length : UInt64}
      {ok : Bool} (hsys : sys.HasPages k) (hptr : s.virtAddr = some (pack, ptr))
      (hcall : littleSysMunmap sys pack.physAddr ptr pack.len = (ok, some (addr, length))) :
      Step k s (.munmap m ok)
        { if ok then s.unmap (Set.Ico addr.toNat (addr.toNat + length.toNat)) else s with
          virtAddr := none }
  /-- `little_sys_munmap` returns without a call of `munmap`. -/
  | munmapRefused {sys : MemSystem} {m : Mapping} {pack : MppNaluIpcPack} {ptr : UInt64}
      {ok : Bool} (hsys : sys.HasPages k) (hptr : s.virtAddr = some (pack, ptr))
      (hcall : littleSysMunmap sys pack.physAddr ptr pack.len = (ok, none)) :
      Step k s (.munmap m ok) { s with virtAddr := none }
  | other {e : Event} (hmaps : ∀ m pack, e ≠ .mmap m pack) (hfailed : e ≠ .mmapFailed)
      (hunmaps : ∀ m ok, e ≠ .munmap m ok) : Step k s e s

/-- The events of the sender in an address space, next to whatever the others do where nothing of
the sender's is. -/
inductive Replays (k : ℕ) : List Event → AddressSpace → Prop
  | start (others : Set ℕ) : Replays k [] { others := others }
  | others {l : List Event} {s : AddressSpace} {others : Set ℕ} (h : Replays k l s)
      (hfree : Disjoint s.own others) : Replays k l { s with others := others }
  | step {l : List Event} {s s' : AddressSpace} {e : Event} (h : Replays k l s)
      (hstep : Step k s e s') : Replays k (l ++ [e]) s'

end AddressSpace

/-- What holds of the address space behind `pre` and in front of `post`. -/
structure MappedRight (k : ℕ) (pre post : List Event) (s : AddressSpace) : Prop where
  /-- `/dev/mem` has been opened once at most. -/
  opened : s.opened = if s.gDatafifoMemFd < 0 then [] else [s.gDatafifoMemFd]
  /-- All bytes of a pack can be read through the pointer. -/
  readable : ∀ pack ptr, s.virtAddr = some (pack, ptr) →
    Set.Ico ptr.toNat (ptr.toNat + pack.bytes.length) ⊆ s.own
  /-- Unless `munmap` has failed, one window is mapped while there is a pointer, and none else. -/
  window : (∀ m, .munmap m false ∉ pre) →
    match s.virtAddr with
    | none => s.own = ∅
    | some (pack, _) => ∃ window, Covers (2 ^ k) pack.physAddr pack.len window ∧
      s.own = window.addresses
  /-- Nothing is taken from the others. -/
  others : ∀ m ok s', post.head? = some (.munmap m ok) →
    AddressSpace.Step k s (.munmap m ok) s' → s'.others = s.others
  /-- A NALU is sent while the pack that it is in can be read. -/
  sent : ∀ e, post.head? = some e → e.sends → ∃ pack ptr, s.virtAddr = some (pack, ptr) ∧
    ∀ dest nalu ok, e = .nalu dest nalu ok → nalu ∈ bufferNalus pack.bytes
  /-- There is no pointer when an item is marked done. -/
  released : ∀ ptr, post.head? = some (.readDone ptr) → s.virtAddr = none

/-! ### A mapping that has been made -/

/-- The pointer into a window, and what it leads back to. -/
structure MadeWindow (k : ℕ) (pack : MppNaluIpcPack) (ptr : UInt64) (window : MmapWindow) :
    Prop where
  covers : Covers (2 ^ k) pack.physAddr pack.len window
  readable : Set.Ico ptr.toNat (ptr.toNat + pack.bytes.length) ⊆ window.addresses
  unmapped : ∀ sys : MemSystem, sys.HasPages k →
    (littleSysMunmap sys pack.physAddr ptr pack.len).2 = some (window.base, window.length)

section Windows

variable {k : ℕ}

/-- Two systems with pages of one size have one mask. -/
theorem MemSystem.HasPages.pageSize_eq {sys sys' : MemSystem} (h : sys.HasPages k)
    (h' : sys'.HasPages k) : sys.pageSize = sys'.pageSize :=
  Int64.toInt_inj.mp (h.pageSize.trans h'.pageSize.symm)

theorem madeWindow_of_littleSysMmap (hk : k ≤ 30) {sys : MemSystem} (hsys : sys.HasPages k)
    {fd fd' : ℤ} {pack : MppNaluIpcPack} {ptr : UInt64} {window : MmapWindow}
    (h : littleSysMmap sys fd pack.physAddr pack.len = (ptr, some window, fd')) :
    MadeWindow k pack ptr window := by
  obtain ⟨hcovers, hnull, hptr⟩ := window_of_littleSysMmap hk hsys.pageSize hsys.maps h
  obtain ⟨-, hwindow, hadd⟩ := littleSysMmap_some h
  refine ⟨hcovers, ?_, fun sys' hsys' => ?_⟩
  · obtain ⟨hlow, hhigh⟩ := pack_in_window hk hsys.pageSize hsys.maps h
    exact Set.Ico_subset_Ico hlow hhigh
  · have hsize : pack.len ≠ 0 := by
      intro hzero
      rw [littleSysMmap, if_pos hzero] at h
      simp at h
    rw [littleSysMunmap, if_neg (not_or.mpr ⟨hnull, hsize⟩),
      if_neg (not_pageSize_le_zero hsys'.pageSize)]
    dsimp only
    rw [hsys'.pageSize_eq hsys, hadd, UInt64.add_sub_cancel, hwindow]

/-- The descriptor is kept once there is one. -/
theorem littleSysMmap_fd {sys : MemSystem} {fd fd' : ℤ} {physAddr ptr : UInt64} {size : UInt32}
    {window : Option MmapWindow} (h : littleSysMmap sys fd physAddr size = (ptr, window, fd'))
    (hfd : 0 ≤ fd) : fd' = fd := by
  rw [littleSysMmap] at h
  dsimp only at h
  rw [if_neg (not_lt.mpr hfd)] at h
  split_ifs at h
  · exact (Prod.mk.inj (Prod.mk.inj h).2).2.symm
  · exact (Prod.mk.inj (Prod.mk.inj h).2).2.symm
  · exact (Prod.mk.inj (Prod.mk.inj h).2).2.symm
  · split at h <;> exact (Prod.mk.inj (Prod.mk.inj h).2).2.symm

end Windows

/-! ### The ledger and the address space -/

namespace AddressSpace

variable {k : ℕ} {l : List Event} {s s' : AddressSpace} {t t' : Ledger} {e : Event}

/-- An address space that agrees with the ledger. -/
structure Fits (k : ℕ) (t : Ledger) (l : List Event) (s : AddressSpace) : Prop where
  opened : s.opened = if s.gDatafifoMemFd < 0 then [] else [s.gDatafifoMemFd]
  disjoint : Disjoint s.own s.others
  free : t.mapped = none → s.virtAddr = none ∧ ((∀ m, .munmap m false ∉ l) → s.own = ∅)
  /-- `before` is what earlier calls of `munmap` have failed to take away. -/
  held : ∀ m pack, t.mapped = some (m, pack) → ∃ ptr window before,
    s.virtAddr = some (pack, ptr) ∧ MadeWindow k pack ptr window ∧
    s.own = before ∪ window.addresses ∧ Disjoint window.addresses before ∧
    ((∀ m, .munmap m false ∉ l) → before = ∅)

/-- The descriptor is opened where there is none. -/
theorem opened_keepFd (h : s.opened = if s.gDatafifoMemFd < 0 then [] else [s.gDatafifoMemFd])
    {fd : ℤ} (hfd : 0 ≤ s.gDatafifoMemFd → fd = s.gDatafifoMemFd) :
    (s.keepFd fd).opened = if fd < 0 then [] else [fd] := by
  rw [keepFd]
  dsimp only
  by_cases hold : s.gDatafifoMemFd < 0
  · rw [if_pos hold] at h
    rw [h]
    by_cases hnew : fd < 0
    · rw [if_neg (fun hc => absurd hnew (not_lt.mpr hc.2)), if_pos hnew]
    · rw [if_pos ⟨hold, not_lt.mp hnew⟩, if_neg hnew]
      rfl
  · rw [if_neg hold] at h
    rw [hfd (not_lt.mp hold), if_neg (fun hc => hold hc.1), if_neg hold, h]

theorem noFailure_of_concat (h : ∀ m, .munmap m false ∉ l ++ [e]) (m : Mapping) :
    .munmap m false ∉ l :=
  fun hmem => h m (List.mem_append_left _ hmem)

theorem Fits.mmap (hk : k ≤ 30) (h : Fits k t l s) (hmapped : t.mapped = none)
    {sys : MemSystem} {m : Mapping} {pack : MppNaluIpcPack} {ptr : UInt64} {window : MmapWindow}
    {fd : ℤ} (hsys : sys.HasPages k)
    (hcall : littleSysMmap sys s.gDatafifoMemFd pack.physAddr pack.len = (ptr, some window, fd))
    (hfree : Disjoint window.addresses (s.own ∪ s.others)) (ht' : t'.mapped = some (m, pack)) :
    Fits k t' (l ++ [.mmap m pack])
      { s.keepFd fd with virtAddr := some (pack, ptr), own := s.own ∪ window.addresses } := by
  obtain ⟨hown, hothers⟩ := Set.disjoint_union_right.mp hfree
  refine ⟨opened_keepFd h.opened (littleSysMmap_fd hcall), ?_, ?_, ?_⟩
  · exact Set.disjoint_union_left.mpr ⟨h.disjoint, hothers⟩
  · intro hnone
    rw [ht'] at hnone
    cases hnone
  · intro m' pack' hm'
    rw [ht'] at hm'
    obtain ⟨rfl, rfl⟩ := Prod.mk.inj (Option.some.inj hm')
    exact ⟨ptr, window, s.own, rfl, madeWindow_of_littleSysMmap hk hsys hcall, rfl, hown,
      fun hno => (h.free hmapped).2 (noFailure_of_concat hno)⟩

theorem Fits.mmapFailed (h : Fits k t l s) {sys : MemSystem} {pack : MppNaluIpcPack}
    {ptr : UInt64} {fd : ℤ}
    (hcall : littleSysMmap sys s.gDatafifoMemFd pack.physAddr pack.len = (ptr, none, fd)) :
    Fits k t (l ++ [.mmapFailed]) (s.keepFd fd) := by
  refine ⟨opened_keepFd h.opened (littleSysMmap_fd hcall), h.disjoint, ?_, ?_⟩
  · intro hnone
    obtain ⟨hvirt, hown⟩ := h.free hnone
    exact ⟨hvirt, fun hno => hown (noFailure_of_concat hno)⟩
  · intro m pack hm
    obtain ⟨ptr, window, before, hvirt, hmade, hown, hdisj, hbefore⟩ := h.held m pack hm
    exact ⟨ptr, window, before, hvirt, hmade, hown, hdisj,
      fun hno => hbefore (noFailure_of_concat hno)⟩

/-- `munmap` is asked for the window that has been made, so it takes nothing from the others. -/
theorem Fits.munmap (h : Fits k t l s) {m : Mapping} {ok : Bool}
    (hm : t.mapped.map Prod.fst = some m) (hstep : Step k s (.munmap m ok) s') :
    s'.others = s.others ∧
      ∀ t' : Ledger, t'.mapped = none → Fits k t' (l ++ [.munmap m ok]) s' := by
  obtain ⟨⟨m', pack⟩, hmapped, -⟩ := Option.map_eq_some_iff.mp hm
  obtain ⟨ptr, window, before, hvirt, hmade, hown, hdisj, hbefore⟩ := h.held m' pack hmapped
  have hothers : s.others \ window.addresses = s.others := by
    refine sdiff_eq_left.mpr (h.disjoint.symm.mono_right ?_)
    rw [hown]
    exact Set.subset_union_right
  cases hstep with
  | munmap hsys hptr hcall =>
    obtain ⟨rfl, rfl⟩ := Prod.mk.inj (Option.some.inj (hvirt.symm.trans hptr))
    have hargs := hmade.unmapped _ hsys
    rw [hcall] at hargs
    obtain ⟨rfl, rfl⟩ := Prod.mk.inj (Option.some.inj hargs)
    cases ok with
    | false =>
      refine ⟨rfl, fun t' ht' => ⟨h.opened, h.disjoint, fun _ => ⟨rfl, fun hno => ?_⟩, ?_⟩⟩
      · exact absurd (List.mem_append_right _ (List.mem_singleton_self _)) (hno m)
      · intro m pack hm
        rw [ht'] at hm
        cases hm
    | true =>
      have htaken : s.own \ window.addresses = before := by
        rw [hown, Set.union_sdiff_cancel_right hdisj.symm.inter_eq.le]
      refine ⟨hothers, fun t' ht' => ⟨h.opened, ?_, fun _ => ⟨rfl, fun hno => ?_⟩, ?_⟩⟩
      · exact h.disjoint.mono Set.sdiff_subset Set.sdiff_subset
      · exact htaken.trans (hbefore (noFailure_of_concat hno))
      · intro m pack hm
        rw [ht'] at hm
        cases hm
  | munmapRefused hsys hptr hcall =>
    obtain ⟨rfl, rfl⟩ := Prod.mk.inj (Option.some.inj (hvirt.symm.trans hptr))
    have hargs := hmade.unmapped _ hsys
    rw [hcall] at hargs
    cases hargs
  | other hmaps hfailed hunmaps => exact absurd rfl (hunmaps m ok)

/-- Events that are no mappings leave the ledger's mapping alone. -/
theorem mapped_of_step (ht : t.step e = some t') (hmaps : ∀ m pack, e ≠ .mmap m pack)
    (hunmaps : ∀ m ok, e ≠ .munmap m ok) : t'.mapped = t.mapped := by
  cases e <;> simp only [Ledger.step, Option.ite_none_right_eq_some, Option.some.injEq] at ht
  case mmap m pack => exact absurd rfl (hmaps m pack)
  case munmap m ok => exact absurd rfl (hunmaps m ok)
  case readDone =>
    split at ht
    · cases ht
    · obtain ⟨-, rfl⟩ := Monitor.of_guard ht
      rfl
  case read =>
    obtain ⟨-, rfl⟩ := ht
    rfl
  case sendto | parameterSet | nalu =>
    obtain ⟨-, rfl⟩ := ht
    rfl
  all_goals
    subst ht
    rfl

/-- **One event.** What the ledger accepts keeps the address space in order. -/
theorem Fits.step (hk : k ≤ 30) (h : Fits k t l s) (ht : t.step e = some t')
    (hstep : Step k s e s') : Fits k t' (l ++ [e]) s' := by
  cases hstep with
  | @mmap sys m pack ptr window fd hsys hcall hfree =>
    obtain ⟨⟨hmapped, -, -⟩, rfl⟩ := Monitor.of_guard ht
    exact h.mmap hk hmapped hsys hcall hfree rfl
  | mmapFailed hsys hcall =>
    obtain rfl := Option.some.inj ht
    exact h.mmapFailed hcall
  | munmap hsys hptr hcall =>
    obtain ⟨hm, rfl⟩ := Monitor.of_guard ht
    exact (h.munmap hm (.munmap hsys hptr hcall)).2 _ rfl
  | munmapRefused hsys hptr hcall =>
    obtain ⟨hm, rfl⟩ := Monitor.of_guard ht
    exact (h.munmap hm (.munmapRefused hsys hptr hcall)).2 _ rfl
  | other hmaps hfailed hunmaps =>
    have hmapped := mapped_of_step ht hmaps hunmaps
    refine ⟨h.opened, h.disjoint, fun hnone => ?_, fun m pack hm => ?_⟩
    · obtain ⟨hvirt, hown⟩ := h.free (hmapped ▸ hnone)
      exact ⟨hvirt, fun hno => hown (noFailure_of_concat hno)⟩
    · obtain ⟨ptr, window, before, hvirt, hmade, hown, hdisj, hbefore⟩ :=
        h.held m pack (hmapped ▸ hm)
      exact ⟨ptr, window, before, hvirt, hmade, hown, hdisj,
        fun hno => hbefore (noFailure_of_concat hno)⟩

theorem fits_of_replays (hk : k ≤ 30) (h : Replays k l s) (ht : ledger.run l = some t) :
    Fits k t l s := by
  induction h generalizing t with
  | start others =>
    obtain rfl := Option.some.inj ht
    refine ⟨rfl, Set.empty_disjoint _, fun _ => ⟨rfl, fun _ => rfl⟩, ?_⟩
    rintro m pack hm
    cases hm
  | others h hfree ih =>
    have hfits := ih ht
    exact ⟨hfits.opened, hfree, hfits.free, hfits.held⟩
  | step h hstep ih =>
    rw [Monitor.run_concat] at ht
    obtain ⟨u, hu, he⟩ := Option.bind_eq_some_iff.mp ht
    exact (ih hu).step hk he hstep

/-- Between two events of an accepted trace. -/
theorem Fits.mappedRight {post : List Event} (h : Fits k t l s)
    (hpost : ∀ e, post.head? = some e → ∃ t', t.step e = some t') : MappedRight k l post s where
  opened := h.opened
  readable pack ptr hvirt := by
    rcases hm : t.mapped with _ | ⟨m, pack'⟩
    · rw [(h.free hm).1] at hvirt
      cases hvirt
    · obtain ⟨ptr', window, before, hvirt', hmade, hown, -⟩ := h.held m pack' hm
      obtain ⟨rfl, rfl⟩ := Prod.mk.inj (Option.some.inj (hvirt'.symm.trans hvirt))
      rw [hown]
      exact hmade.readable.trans Set.subset_union_right
  window hno := by
    rcases hm : t.mapped with _ | ⟨m, pack⟩
    · obtain ⟨hvirt, hown⟩ := h.free hm
      rw [hvirt]
      exact hown hno
    · obtain ⟨ptr, window, before, hvirt, hmade, hown, -, hbefore⟩ := h.held m pack hm
      rw [hvirt]
      refine ⟨window, hmade.covers, ?_⟩
      rw [hown, hbefore hno, Set.empty_union]
  others m ok s' he hstep := by
    obtain ⟨t', ht'⟩ := hpost _ he
    exact (h.munmap (Monitor.of_guard ht').1 hstep).1
  sent e he hsends := by
    obtain ⟨t', ht'⟩ := hpost e he
    obtain ⟨m, pack, hm, hnalu⟩ : ∃ m pack, t.mapped = some (m, pack) ∧
        ∀ dest nalu ok, e = .nalu dest nalu ok → nalu ∈ bufferNalus pack.bytes := by
      rcases e <;>
        simp only [Event.sends, Bool.false_eq_true] at hsends <;>
        rcases hm : t.mapped with _ | ⟨m, pack⟩ <;>
        simp [Ledger.step, hm] at ht' ⊢
      exact ht'.1
    obtain ⟨ptr, window, before, hvirt, -⟩ := h.held m pack hm
    exact ⟨pack, ptr, hvirt, hnalu⟩
  released ptr he := by
    obtain ⟨t', ht'⟩ := hpost _ he
    refine (h.free ?_).1
    simp only [Ledger.step] at ht'
    split at ht'
    · cases ht'
    · exact (Monitor.of_guard ht').1.1

end AddressSpace

/-- Whatever the ledger accepts is mapped right. -/
theorem mappedRight_of_run {k : ℕ} (hk : k ≤ 30) {pre post : List Event} {t : Ledger}
    (hrun : ledger.run (pre ++ post) = some t) {s : AddressSpace}
    (h : AddressSpace.Replays k pre s) : MappedRight k pre post s := by
  obtain ⟨u, hu⟩ := Monitor.exists_of_run_append hrun
  refine (AddressSpace.fits_of_replays hk h hu).mappedRight fun e he => ?_
  obtain ⟨rest, rfl⟩ : ∃ rest, post = e :: rest := by
    cases post with
    | nil => cases he
    | cons e' rest =>
      obtain rfl := Option.some.inj he
      exact ⟨rest, rfl⟩
  obtain ⟨v, v', hv, hstep⟩ := Monitor.exists_step_of_run hrun
  rw [hu] at hv
  obtain rfl := Option.some.inj hv
  exact ⟨v', hstep⟩

/-- **The senders in an address space.** Whatever the messages are and however the system answers,
at every point of every run of either sender: `/dev/mem` has been opened once at most, all bytes of
the pack in use can be read through its pointer, no other window is mapped unless `munmap` has
failed, `munmap` takes nothing away that someone else has mapped, what is sent is in the pack in
use, and an item is marked done when no pointer is left. -/
theorem senders_mappedRight {k : ℕ} (hk : k ≤ 30) (env : Env) (inputs : List Input)
    {pre post : List Event}
    (htrace : pre ++ post = (datafifoRtpSenderLoop env inputs {}).trace ∨
      pre ++ post = (LittleApp.datafifoRtpSenderLoop env inputs {}).trace)
    {s : AddressSpace} (h : AddressSpace.Replays k pre s) : MappedRight k pre post s := by
  rcases htrace with htrace | htrace
  · obtain ⟨p, q, hrun, -, -⟩ := datafifoRtpSenderLoop_tracked env inputs
    exact mappedRight_of_run hk (htrace ▸ hrun) h
  · obtain ⟨p, q, hrun, -, -⟩ := LittleApp.datafifoRtpSenderLoop_tracked env inputs
    exact mappedRight_of_run hk (htrace ▸ hrun) h

theorem sampleMemory_hasPages : sampleMemory.HasPages 12 := by
  refine ⟨by decide, ?_⟩
  rintro fd length offset base ⟨⟩
  decide

/-- A flagged message of one pack. -/
def sampleFlagged : Item := ⟨1, onePackMsg 1 1 [0, 0, 1, 0x26, 1] (by decide)⟩

/-- `mmap` finds another place. -/
def movedMemory : MemSystem := { sampleMemory with mmap := fun _ _ _ => some 0x7f1234570000 }

theorem movedMemory_hasPages : movedMemory.HasPages 12 := by
  refine ⟨by decide, ?_⟩
  rintro fd length offset base ⟨⟩
  decide

/-- The pack is mapped for the snapshot and unmapped; someone else gets the page that has become
free, and the pack is mapped again for the player. -/
theorem replays_sample : ∃ s : AddressSpace,
    s.virtAddr = some (onePack [0, 0, 1, 0x26, 1] (by decide), 0x7f1234570000) ∧
    s.others = Set.Ico 0x7f1234560000 0x7f1234561000 ∧
    AddressSpace.Replays 12
      ((datafifoRtpSenderLoop {} [.item sampleFlagged] {}).trace.take 6) s := by
  have htake : (datafifoRtpSenderLoop {} [.item sampleFlagged] {}).trace.take 6
      = [] ++ [.read sampleFlagged] ++ [.target false default] ++
        [.mmap (.snapshot 0) (onePack [0, 0, 1, 0x26, 1] (by decide))] ++
        [.munmap (.snapshot 0) true] ++
        [.mmap (.playback 1) (onePack [0, 0, 1, 0x26, 1] (by decide))] ++
        [.received [0x26, 1]] := by
    decide +kernel
  have hfirst : littleSysMmap sampleMemory (-1) 0x1000 5
      = (0x7f1234560000, some ⟨0x7f1234560000, 0x1000, 0x1000⟩, 3) := by decide
  have hsecond : littleSysMmap movedMemory 3 0x1000 5
      = (0x7f1234570000, some ⟨0x7f1234570000, 0x1000, 0x1000⟩, 3) := by decide
  have hunmap : littleSysMunmap sampleMemory 0x1000 0x7f1234560000 5
      = (true, some (0x7f1234560000, 0x1000)) := by decide
  have htarget := ((AddressSpace.Replays.start (k := 12) ∅).step
    (.other (e := .read sampleFlagged) (by simp) (by simp) (by simp))).step
    (.other (e := .target false default) (by simp) (by simp) (by simp))
  have hmmap : AddressSpace.Step 12 { others := ∅ }
      (.mmap (.snapshot 0) (onePack [0, 0, 1, 0x26, 1] (by decide))) _ :=
    .mmap sampleMemory_hasPages hfirst (by simp)
  have hfree := (htarget.step hmmap).step (e := .munmap (.snapshot 0) true)
    (.munmap sampleMemory_hasPages rfl hunmap)
  have hempty : (∅ ∪ MmapWindow.addresses ⟨0x7f1234560000, 0x1000, 0x1000⟩) \
      Set.Ico (0x7f1234560000 : UInt64).toNat
        ((0x7f1234560000 : UInt64).toNat + (0x1000 : UInt64).toNat) = ∅ := by
    rw [Set.empty_union]
    exact sdiff_self
  have hgiven := hfree.others (show Disjoint ((∅ ∪ MmapWindow.addresses _) \ Set.Ico _ _)
      (Set.Ico 0x7f1234560000 0x7f1234561000) by
    rw [hempty]
    exact Set.empty_disjoint _)
  have hagain := hgiven.step (e := .mmap (.playback 1) (onePack [0, 0, 1, 0x26, 1] (by decide)))
    (.mmap movedMemory_hasPages hsecond (by
      change Disjoint _ (((∅ ∪ MmapWindow.addresses _) \ Set.Ico _ _) ∪ _)
      rw [hempty, Set.empty_union]
      exact Set.Ico_disjoint_Ico.mpr (by decide)))
  rw [htake]
  exact ⟨_, rfl, rfl, hagain.step (.other (by simp) (by simp) (by simp))⟩

/-- And `munmap`, which is next, does not take that page away. -/
theorem senders_mappedRight_sample : ∃ s : AddressSpace,
    s.virtAddr = some (onePack [0, 0, 1, 0x26, 1] (by decide), 0x7f1234570000) ∧
    s.others = Set.Ico 0x7f1234560000 0x7f1234561000 ∧
    MappedRight 12 ((datafifoRtpSenderLoop {} [.item sampleFlagged] {}).trace.take 6)
      ((datafifoRtpSenderLoop {} [.item sampleFlagged] {}).trace.drop 6) s ∧
    ((datafifoRtpSenderLoop {} [.item sampleFlagged] {}).trace.drop 6).head?
      = some (.munmap (.playback 1) true) := by
  obtain ⟨s, hvirt, hothers, hs⟩ := replays_sample
  exact ⟨s, hvirt, hothers, senders_mappedRight (by decide) {} [.item sampleFlagged]
    (.inl (List.take_append_drop 6 _)) hs, by decide +kernel⟩

end LittleCore

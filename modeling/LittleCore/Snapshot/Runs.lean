import LittleCore.Datafifo
import LittleCore.Snapshot.Received

/-!
# Runs of the snapshot path

Calls of `datafifo_snapshot_process` and `datafifo_snapshot_deinit`, one after the other, with a
record of what was received and of every stream that was handed to the writer.

## Main results

* `remembers_snapshotRun`, `knows_snapshotRun` — the invariants hold in every run
* `snapshotRun_represents` — the representation invariant of the caches
-/

namespace LittleCore

open Library World H265SnapshotCache

/-- A call to the snapshot path. -/
inductive SnapshotCall where
  | process (msg : MppNaluIpcMsg)
  | deinit

/-- A stream that was handed to the writer: the message it was built for, what had been received
by then, and the caches it was built from. -/
structure HandOver where
  msg : MppNaluIpcMsg
  past : List Reception
  cache : H265SnapshotCache
  stream : List UInt8
  pts : UInt64

/-- A run: what has been received since the caches were last freed, and all streams. -/
structure SnapshotRun where
  past : List Reception := []
  world : World := {}
  handOvers : List HandOver := []

/-- The streams that a call for `msg` hands over. -/
def handOversOf (env : Env) (msg : MppNaluIpcMsg) (past : List Reception) (w : World) :
    List HandOver :=
  let w' := (datafifoSnapshotProcess env msg w).2
  (handedOver w w').map fun s =>
    { msg := msg, past := past ++ reception env msg w, cache := w'.gH265SnapshotCache
      stream := s.1, pts := s.2 }

def SnapshotRun.call (env : Env) (r : SnapshotRun) : SnapshotCall → SnapshotRun
  | .process msg =>
    { past := r.past ++ reception env msg r.world
      world := (datafifoSnapshotProcess env msg r.world).2
      handOvers := r.handOvers ++ handOversOf env msg r.past r.world }
  | .deinit => { r with past := [], world := datafifoSnapshotDeinit r.world }

def snapshotRun (env : Env) (calls : List SnapshotCall) : SnapshotRun :=
  calls.foldl (SnapshotRun.call env) {}

theorem snapshotRun_concat (env : Env) (calls : List SnapshotCall) (call : SnapshotCall) :
    snapshotRun env (calls ++ [call]) = (snapshotRun env calls).call env call := by
  rw [snapshotRun, List.foldl_concat]
  rfl

theorem mem_handOversOf {env : Env} {msg : MppNaluIpcMsg} {past : List Reception} {w : World}
    {h : HandOver} (hmem : h ∈ handOversOf env msg past w) :
    h.msg = msg ∧ h.past = past ++ reception env msg w ∧
      h.cache = (datafifoSnapshotProcess env msg w).2.gH265SnapshotCache ∧
      (h.stream, h.pts) ∈ handedOver w (datafifoSnapshotProcess env msg w).2 := by
  obtain ⟨s, hs, rfl⟩ := List.mem_map.mp hmem
  exact ⟨rfl, rfl, rfl, hs⟩

/-- A stream that a call hands over is in the record. -/
theorem mem_handOvers_call {env : Env} {msg : MppNaluIpcMsg} {r : SnapshotRun}
    {s : List UInt8 × UInt64}
    (hs : s ∈ handedOver r.world (datafifoSnapshotProcess env msg r.world).2) :
    { msg := msg, past := r.past ++ reception env msg r.world
      cache := (datafifoSnapshotProcess env msg r.world).2.gH265SnapshotCache
      stream := s.1, pts := s.2 } ∈ (r.call env (.process msg)).handOvers :=
  List.mem_append_right _ (List.mem_map_of_mem hs)

/-- Which call a stream of a run is from. -/
theorem mem_handOvers_iff {env : Env} {calls : List SnapshotCall} {h : HandOver} :
    h ∈ (snapshotRun env calls).handOvers ↔ ∃ before msg after,
      calls = before ++ .process msg :: after ∧
        h ∈ handOversOf env msg (snapshotRun env before).past (snapshotRun env before).world := by
  induction calls using List.reverseRecOn with
  | nil => simp [snapshotRun]
  | append_singleton calls call ih =>
    rw [snapshotRun_concat]
    constructor
    · intro hmem
      have hold : h ∈ (snapshotRun env calls).handOvers → ∃ before msg after,
          calls ++ [call] = before ++ .process msg :: after ∧ h ∈ handOversOf env msg
            (snapshotRun env before).past (snapshotRun env before).world := by
        intro hmem
        obtain ⟨before, msg, after, rfl, hh⟩ := ih.mp hmem
        exact ⟨before, msg, after ++ [call], by simp, hh⟩
      cases call with
      | process msg =>
        rcases List.mem_append.mp hmem with hmem | hmem
        · exact hold hmem
        · exact ⟨calls, msg, [], rfl, hmem⟩
      | deinit => exact hold hmem
    · rintro ⟨before, msg, after, hcalls, hh⟩
      rcases concat_eq_append_cons hcalls with ⟨rfl, rfl, rfl⟩ | ⟨after, rfl, rfl⟩
      · exact List.mem_append_right _ hh
      · have hold := ih.mpr ⟨before, msg, after, rfl, hh⟩
        cases call with
        | process msg => exact List.mem_append_left _ hold
        | deinit => exact hold

/-- **The rule for runs.** `I` is kept by every call, and `P` holds of what a call hands over. -/
theorem snapshotRun_rule {env : Env} {I : List Reception → H265SnapshotCache → Prop}
    {P : HandOver → Prop} (hinit : I [] {}) {calls : List SnapshotCall}
    (hprocess : ∀ msg, .process msg ∈ calls → ∀ past w, I past w.gH265SnapshotCache →
      I (past ++ reception env msg w) (datafifoSnapshotProcess env msg w).2.gH265SnapshotCache ∧
        ∀ h ∈ handOversOf env msg past w, P h) :
    I (snapshotRun env calls).past (snapshotRun env calls).world.gH265SnapshotCache ∧
      ∀ h ∈ (snapshotRun env calls).handOvers, P h := by
  induction calls using List.reverseRecOn with
  | nil => exact ⟨hinit, fun h hmem => absurd hmem List.not_mem_nil⟩
  | append_singleton calls call ih =>
    obtain ⟨hI, hP⟩ := ih fun msg hmem => hprocess msg (List.mem_append_left _ hmem)
    rw [snapshotRun_concat]
    cases call with
    | process msg =>
      obtain ⟨hI', hP'⟩ := hprocess msg (by simp) _ _ hI
      refine ⟨hI', fun h hmem => ?_⟩
      rcases List.mem_append.mp hmem with hmem | hmem
      · exact hP h hmem
      · exact hP' h hmem
    | deinit => exact ⟨hinit, hP⟩

/-- A stream was built from caches that remember what was received. -/
def HandOver.Remembered (h : HandOver) : Prop :=
  Remembers (accessUnits h.past) h.cache ∧ Built h.cache h.msg h.stream h.pts

/-- **Every run**, whatever fails. -/
theorem remembers_snapshotRun (env : Env) (calls : List SnapshotCall) :
    Remembers (accessUnits (snapshotRun env calls).past)
        (snapshotRun env calls).world.gH265SnapshotCache ∧
      ∀ h ∈ (snapshotRun env calls).handOvers, h.Remembered := by
  refine snapshotRun_rule (I := fun past c => Remembers (accessUnits past) c) .empty ?_
  intro msg _ past w hI
  obtain ⟨hI', hbuilt⟩ := hI.process env msg
  refine ⟨hI', fun h hmem => ?_⟩
  obtain ⟨hmsg, hpast, hcache, hs⟩ := mem_handOversOf hmem
  rw [HandOver.Remembered, hmsg, hpast, hcache]
  exact ⟨hI', hbuilt _ hs⟩

/-- **Every run** in which memory lasts. -/
theorem knows_snapshotRun {env : Env} (halloc : ∀ n, env.snapshotAlloc n = true)
    (calls : List SnapshotCall) :
    Knows (snapshotRun env calls).past (snapshotRun env calls).world.gH265SnapshotCache ∧
      ∀ h ∈ (snapshotRun env calls).handOvers, Knows h.past h.cache := by
  refine snapshotRun_rule (I := Knows) .empty ?_
  intro msg _ past w hI
  have hI' := hI.process halloc msg w
  refine ⟨hI', fun h hmem => ?_⟩
  obtain ⟨-, hpast, hcache, -⟩ := mem_handOversOf hmem
  rw [hpast, hcache]
  exact hI'

/-! ### Units -/

/-- A NALU as it is stored: one that was received, without its trailing zeros, if that leaves at
least two bytes. -/
structure IsStored (nalus : List (List UInt8)) (nalu : List UInt8) : Prop where
  fed : ∃ n ∈ nalus, nalu = stripTrailingZeros n
  two_le : 2 ≤ nalu.length
  getLast_ne : nalu.getLast? ≠ some 0

/-- A concatenation of stored NALUs, each behind a start code. -/
def IsAnnexb (nalus : List (List UInt8)) (bytes : List UInt8) : Prop :=
  ∃ units : List (List UInt8), bytes = units.flatMap (startCode ++ ·) ∧
    ∀ nalu ∈ units, IsStored nalus nalu

theorem getLast_stripTrailingZeros (nalu : List UInt8) :
    (stripTrailingZeros nalu).getLast? ≠ some 0 := by
  intro h
  have hne : stripTrailingZeros nalu ≠ [] := by
    intro hnil
    rw [hnil] at h
    cases h
  have hlast := List.rdropWhile_last_not (· == 0x00) nalu hne
  rw [List.getLast?_eq_some_getLast hne, Option.some.injEq] at h
  exact hlast (by simpa [stripTrailingZeros] using h)

theorem storedUnit_eq {nalu : List UInt8} (h : storedUnit nalu ≠ []) :
    storedUnit nalu = startCode ++ stripTrailingZeros nalu ∧
      2 ≤ (stripTrailingZeros nalu).length := by
  rw [storedUnit] at h ⊢
  split
  · rename_i hshort
    rw [if_pos hshort] at h
    exact absurd rfl h
  · rename_i hlong
    exact ⟨rfl, by omega⟩

theorem isStored_of_storedUnit {nalus : List (List UInt8)} {nalu : List UInt8} (hmem : nalu ∈ nalus)
    (h : storedUnit nalu ≠ []) : IsStored nalus (stripTrailingZeros nalu) :=
  ⟨⟨nalu, hmem, rfl⟩, (storedUnit_eq h).2, getLast_stripTrailingZeros nalu⟩

/-- The type is in the first byte, and that byte stays. -/
theorem h265NaluType_stripTrailingZeros {nalu : List UInt8} (h : storedUnit nalu ≠ []) :
    h265NaluType (stripTrailingZeros nalu) = h265NaluType nalu := by
  have hlen := (storedUnit_eq h).2
  have hle := length_stripTrailingZeros_le nalu
  obtain ⟨zeros, hzeros⟩ : stripTrailingZeros nalu <+: nalu := List.rdropWhile_prefix _ nalu
  have hfirst : nalu.getD 0 0 = (stripTrailingZeros nalu).getD 0 0 := by
    conv_lhs => rw [← hzeros]
    rw [List.getD_eq_getElem?_getD, List.getD_eq_getElem?_getD,
      List.getElem?_append_left (by omega)]
  rw [h265NaluType, h265NaluType, if_neg (by omega), if_neg (by omega), hfirst]

namespace IsAnnexb

variable {nalus nalus' : List (List UInt8)} {bytes bytes' : List UInt8}

theorem nil (nalus : List (List UInt8)) : IsAnnexb nalus [] := ⟨[], rfl, by simp⟩

theorem append (h : IsAnnexb nalus bytes) (h' : IsAnnexb nalus bytes') :
    IsAnnexb nalus (bytes ++ bytes') := by
  obtain ⟨units, rfl, hunits⟩ := h
  obtain ⟨units', rfl, hunits'⟩ := h'
  refine ⟨units ++ units', by simp, fun nalu hmem => ?_⟩
  rcases List.mem_append.mp hmem with hmem | hmem
  · exact hunits nalu hmem
  · exact hunits' nalu hmem

theorem flatMap {β : Type*} {f : β → List UInt8} {l : List β} (h : ∀ b ∈ l, IsAnnexb nalus (f b)) :
    IsAnnexb nalus (l.flatMap f) := by
  induction l with
  | nil => exact nil nalus
  | cons b l ih =>
    rw [List.flatMap_cons]
    exact (h b (List.mem_cons_self ..)).append (ih fun b' hb' => h b' (List.mem_cons_of_mem _ hb'))

theorem storedUnit {nalu : List UInt8} (hmem : nalu ∈ nalus) :
    IsAnnexb nalus (storedUnit nalu) := by
  by_cases h : LittleCore.storedUnit nalu = []
  · rw [h]
    exact nil nalus
  · refine ⟨[stripTrailingZeros nalu], ?_, fun n hn => ?_⟩
    · rw [(storedUnit_eq h).1]
      simp
    · rw [List.mem_singleton.mp hn]
      exact isStored_of_storedUnit hmem h

end IsAnnexb

/-! ### The representation invariant -/

/-- What a reader of the caches can rely on. -/
structure Represents (past : List Reception) (c : H265SnapshotCache) : Prop where
  hasIrap_iff : c.currentGopHasIrap = true ↔ 0 < c.currentGop.len
  gop_len : c.currentGop.len ≤ h265SnapshotMaxGopBytes
  /-- A parameter set cache is empty or holds one parameter set of its type. -/
  sets : ∀ kind, (c.paramSet kind).bytes = [] ∨ ∃ nalu, IsStored (received past) nalu ∧
    h265ParamCacheForType (h265NaluType nalu) = some kind ∧
    (c.paramSet kind).bytes = startCode ++ nalu
  gop : IsAnnexb (received past) c.currentGop.bytes
  irap : IsAnnexb (received past) c.lastIrap.bytes
  /-- The GOP was put together from the access units of `first` and those behind it. -/
  labels : 0 < c.currentGop.len → ∃ older first rest,
    accessUnits past = older ++ first :: rest ∧ c.currentGop.bytes = gopBytes first rest ∧
    c.currentGopStartSeq = first.msg.seq ∧ c.currentGopPts = first.msg.framePts ∧
    c.currentGopLastSeq = (rest.getLast?.getD first).msg.seq

theorem mem_received {past : List Reception} {r : Reception} (hr : r ∈ past) {nalu : List UInt8}
    (hmem : nalu ∈ r.nalus) : nalu ∈ received past := List.mem_flatMap.mpr ⟨r, hr, hmem⟩

namespace Knows

variable {past : List Reception} {c : H265SnapshotCache}

theorem isAnnexb_unit (h : Knows past c) {u : AccessUnit} (hu : u ∈ accessUnits past) :
    IsAnnexb (received past) u.bytes := by
  obtain ⟨r, hr, -, hbytes, -⟩ := mem_accessUnits hu
  rw [hbytes, (h.faithful r hr).1]
  exact .flatMap fun nalu hmem => .storedUnit (mem_received hr hmem)

theorem isAnnexb_gopBytes (h : Knows past c) {first : AccessUnit} {rest : List AccessUnit}
    (hsince : sinceIrap (accessUnits past) = some (first, rest)) :
    IsAnnexb (received past) (gopBytes first rest) := by
  obtain ⟨older, hunits, -⟩ := exists_of_sinceIrap hsince
  refine (h.isAnnexb_unit (by simp [hunits])).append (.flatMap fun u hu => h.isAnnexb_unit ?_)
  simp [hunits, hu]

/-- **The representation invariant** follows from what the caches know. -/
theorem represents (h : Knows past c) : Represents past c where
  hasIrap_iff := by
    rw [H265ByteBuffer.len, List.length_pos_iff]
    rcases h.remembers.gop with ⟨hnone, hempty⟩ | ⟨first, rest, hsince, hgop⟩
    · simp [hnone, hempty]
    · obtain ⟨older, hunits, -⟩ := exists_of_sinceIrap hsince
      have hfirst : first ∈ accessUnits past := by simp [hunits]
      obtain ⟨r, -, -, -, -, hne, -⟩ := mem_accessUnits hfirst
      simp [hgop.has, hgop.bytes, gopBytes, hne]
  gop_len := by
    rcases h.remembers.gop with ⟨-, hempty⟩ | ⟨first, rest, -, hgop⟩
    · rw [H265ByteBuffer.len, hempty]
      exact Nat.zero_le _
    · exact hgop.size
  sets := by
    intro kind
    rw [h.sets]
    cases hlatest : latest kind (received past) with
    | none => exact .inl rfl
    | some nalu =>
      obtain ⟨hmem, hkind⟩ := mem_of_latest hlatest
      by_cases hstored : storedUnit nalu = []
      · exact .inl hstored
      · refine .inr ⟨_, isStored_of_storedUnit hmem hstored, ?_, (storedUnit_eq hstored).1⟩
        rw [h265NaluType_stripTrailingZeros hstored, hkind]
  gop := by
    rcases h.remembers.gop with ⟨-, hempty⟩ | ⟨first, rest, hsince, hgop⟩
    · rw [hempty]
      exact .nil _
    · rw [hgop.bytes]
      exact h.isAnnexb_gopBytes hsince
  irap := by
    rcases h.remembers.irap with hempty | ⟨first, rest, hsince, hbytes, -⟩
    · rw [hempty]
      exact .nil _
    · obtain ⟨older, hunits, -⟩ := exists_of_sinceIrap hsince
      rw [hbytes]
      exact h.isAnnexb_unit (by simp [hunits])
  labels := by
    intro hpos
    rcases h.remembers.gop with ⟨-, hempty⟩ | ⟨first, rest, hsince, hgop⟩
    · rw [H265ByteBuffer.len, hempty] at hpos
      cases hpos
    · obtain ⟨older, hunits, -⟩ := exists_of_sinceIrap hsince
      exact ⟨older, first, rest, hunits, hgop.bytes, hgop.startSeq, hgop.pts, hgop.lastSeq⟩

end Knows

/-- **The representation invariant of the snapshot caches.** -/
theorem snapshotRun_represents (env : Env) (halloc : ∀ n, env.snapshotAlloc n = true)
    (calls : List SnapshotCall) :
    Represents (snapshotRun env calls).past (snapshotRun env calls).world.gH265SnapshotCache ∧
      ∀ h ∈ (snapshotRun env calls).handOvers, Represents h.past h.cache ∧
        (h.stream = h.cache.vps.bytes ++ h.cache.sps.bytes ++ h.cache.pps.bytes
            ++ h.cache.currentGop.bytes ∨
          h.stream = h.cache.vps.bytes ++ h.cache.sps.bytes ++ h.cache.pps.bytes
            ++ h.cache.lastIrap.bytes) := by
  obtain ⟨hknows, hknowsAll⟩ := knows_snapshotRun halloc calls
  refine ⟨hknows.represents, fun h hmem => ⟨(hknowsAll h hmem).represents, ?_⟩⟩
  exact ((remembers_snapshotRun env calls).2 h hmem).2.stream_eq

/-- A flagged message of one pack. -/
def flaggedMsg (seq framePts : UInt64) (bytes : List UInt8)
    (h : bytes.length < 2 ^ 32 := by decide) : MppNaluIpcMsg :=
  { onePackMsg seq 1 bytes h with framePts := framePts }

/-- The same with a second pack. -/
def twoPackMsg (first second : List UInt8) (h₁ : first.length < 2 ^ 32 := by decide)
    (h₂ : second.length < 2 ^ 32 := by decide) : MppNaluIpcMsg :=
  { flaggedMsg 8 200 first h₁ with
    packCnt := 2
    packs := onePack first h₁ :: List.replicate 7 (onePack second h₂)
    length_packs := rfl }

theorem flagged_flaggedMsg (seq framePts : UInt64) (bytes : List UInt8)
    (h : bytes.length < 2 ^ 32) : (flaggedMsg seq framePts bytes h).flagged = true :=
  (by decide : ((1 : UInt32) &&& mppNaluIpcFlagSnapshot != 0) = true)

theorem mappable_flaggedMsg {seq framePts : UInt64} {bytes : List UInt8}
    (h : bytes.length < 2 ^ 32) (hne : bytes ≠ []) :
    ∀ pack ∈ (flaggedMsg seq framePts bytes h).usedPacks, pack.physAddr ≠ 0 ∧ pack.len ≠ 0 := by
  intro pack hpack
  rw [List.mem_singleton.mp (show pack ∈ [onePack bytes h] from hpack)]
  refine ⟨(by decide : (0x1000 : UInt64) ≠ 0), fun hlen => hne ?_⟩
  have hlength := (onePack bytes h).length_bytes
  rw [hlen] at hlength
  exact List.length_eq_zero_iff.mp hlength

/-- An access unit with its parameter sets, the IDR with a trailing zero. -/
def sampleIrapUnit : List UInt8 :=
  [0, 0, 1, 0x40, 1, 0, 0, 1, 0x42, 1, 0, 0, 1, 0x44, 1, 0, 0, 1, 0x26, 1, 0]

def sampleSliceUnit : List UInt8 := [0, 0, 1, 0x02, 1]

theorem length_sampleIrapUnit : sampleIrapUnit.length < 2 ^ 32 := by decide

theorem length_sampleSliceUnit : sampleSliceUnit.length < 2 ^ 32 := by decide

/-- A GOP of two access units. -/
def sampleCalls : List SnapshotCall :=
  [.deinit, .process (flaggedMsg 7 100 sampleIrapUnit length_sampleIrapUnit),
    .process (flaggedMsg 8 200 sampleSliceUnit length_sampleSliceUnit)]

theorem snapshotRun_represents_sample :
    (snapshotRun {} sampleCalls).world.gH265SnapshotCache.currentGop.len = 30 ∧
      (snapshotRun {} sampleCalls).handOvers.length = 2 ∧
      Represents (snapshotRun {} sampleCalls).past
        (snapshotRun {} sampleCalls).world.gH265SnapshotCache :=
  ⟨by decide, by decide, (snapshotRun_represents {} (fun _ => rfl) sampleCalls).1⟩

end LittleCore

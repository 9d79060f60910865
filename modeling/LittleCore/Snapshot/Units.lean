import LittleCore.Snapshot.Memory

/-!
# What the snapshot caches remember

The access units of the flagged messages go into two caches: the current GOP, from the last one
with an IRAP on, and the last one with an IRAP alone. Here the caches are compared with the list of
all access units so far, whatever fails on the way. `Remembers` is the invariant of runs.

## Main results

* `datafifoSnapshotProcess_spec` — what a flagged message does
* `Remembers.process` — every message keeps the invariant
-/

namespace LittleCore

open Library World H265SnapshotCache

/-! ### The access units so far -/

/-- The access unit of a flagged message. -/
structure AccessUnit where
  msg : MppNaluIpcMsg
  bytes : List UInt8
  hasIrap : Bool

/-- What is gathered from a message whose packs all map, unless it is empty. -/
def unitOf (msg : MppNaluIpcMsg) (frame : H265SnapshotFrame) : List AccessUnit :=
  if frame.au.bytes = [] then [] else [⟨msg, frame.au.bytes, frame.hasIrap⟩]

/-- A flagged message, the packs of it that were mapped, and what was gathered from them. -/
structure Reception where
  msg : MppNaluIpcMsg
  mapped : List MppNaluIpcPack
  frame : H265SnapshotFrame
  mapped_first : mapped <+: msg.usedPacks

/-- The frame and the world behind the pack loop of `datafifo_snapshot_process`. -/
def snapshotPacks (env : Env) (msg : MppNaluIpcMsg) (w : World) :
    Bool × H265SnapshotFrame × World :=
  forEach (snapshotPack env) msg.usedPacks ({ copyAu := true }, w)

/-- What the pack loop receives. -/
def receptionOf (env : Env) (msg : MppNaluIpcMsg) (w : World) : Reception where
  msg := msg
  mapped := completed (snapshotPack env) msg.usedPacks ({ copyAu := true }, w)
  frame := (snapshotPacks env msg w).2.1
  mapped_first := completed_prefix ..

/-- What a call of `datafifo_snapshot_process` receives. -/
def reception (env : Env) (msg : MppNaluIpcMsg) (w : World) : List Reception :=
  if msg.flagged then [receptionOf env msg w] else []

/-- The access unit of a message, if it was mapped as a whole. -/
def Reception.units (r : Reception) : List AccessUnit :=
  if r.mapped = r.msg.usedPacks then unitOf r.msg r.frame else []

theorem units_receptionOf_of_ok {env : Env} {msg : MppNaluIpcMsg} {w : World}
    (h : (snapshotPacks env msg w).1 = true) :
    (receptionOf env msg w).units = unitOf msg (snapshotPacks env msg w).2.1 :=
  if_pos ((forEach_ok_iff_completed ..).mp h)

theorem units_receptionOf_of_fail {env : Env} {msg : MppNaluIpcMsg} {w : World}
    (h : (snapshotPacks env msg w).1 = false) : (receptionOf env msg w).units = [] := by
  refine if_neg ?_
  intro hall
  rw [snapshotPacks, (forEach_ok_iff_completed ..).mpr hall] at h
  cases h

/-- Packs that name memory map as long as the system lets them. -/
theorem snapshotPacks_ok {env : Env} (hmmap : ∀ n, env.snapshotMmap n = true) {msg : MppNaluIpcMsg}
    (hpacks : ∀ pack ∈ msg.usedPacks, pack.physAddr ≠ 0 ∧ pack.len ≠ 0) (w : World) :
    (snapshotPacks env msg w).1 = true ∧ (receptionOf env msg w).mapped = msg.usedPacks := by
  have hok : ∀ pack ∈ msg.usedPacks, ∀ s, (snapshotPack env pack s).1 = true := by
    intro pack hpack s
    obtain ⟨haddr, hlen⟩ := hpacks pack hpack
    rw [snapshotPack, naluDatafifoMmapPack, if_neg (by simp [haddr, hlen]), hmmap, if_pos rfl]
  have hall : (snapshotPacks env msg w).1 = true := by
    rw [snapshotPacks, forEach_eq_foldl hok]
  exact ⟨hall, (forEach_ok_iff_completed ..).mp hall⟩

/-- The access units of the messages that were received. -/
def accessUnits (past : List Reception) : List AccessUnit := past.flatMap Reception.units

theorem accessUnits_concat (past : List Reception) (r : Reception) :
    accessUnits (past ++ [r]) = accessUnits past ++ r.units := by
  simp [accessUnits]

def AccessUnit.irap? (u : AccessUnit) : Option AccessUnit := if u.hasIrap then some u else none

/-- The last access unit with an IRAP, and those behind it. -/
def sinceIrap (units : List AccessUnit) : Option (AccessUnit × List AccessUnit) :=
  sinceLast AccessUnit.irap? units

theorem sinceIrap_concat (units : List AccessUnit) (u : AccessUnit) :
    sinceIrap (units ++ [u]) = if u.hasIrap then some (u, []) else
      (sinceIrap units).map fun p => (p.1, p.2 ++ [u]) := by
  rw [sinceIrap]
  split
  · rename_i h
    exact sinceLast_concat_of_some (f := AccessUnit.irap?)
      (by rw [AccessUnit.irap?, if_pos h]) units
  · rename_i h
    exact sinceLast_concat_of_none (f := AccessUnit.irap?)
      (by rw [AccessUnit.irap?, if_neg h]) units

/-- What is behind the last IRAP has none, and stands at the end. -/
theorem exists_of_sinceIrap {units rest : List AccessUnit} {first : AccessUnit}
    (h : sinceIrap units = some (first, rest)) : ∃ older, units = older ++ first :: rest ∧
      first.hasIrap = true ∧ ∀ u ∈ rest, u.hasIrap = false := by
  obtain ⟨older, u, rfl, hfirst, hrest⟩ := exists_of_sinceLast h
  rw [AccessUnit.irap?] at hfirst
  split at hfirst
  · rename_i hirap
    obtain rfl := Option.some.inj hfirst
    refine ⟨older, rfl, hirap, fun v hv => ?_⟩
    have hnone := hrest v hv
    rw [AccessUnit.irap?] at hnone
    split at hnone
    · cases hnone
    · rename_i hplain
      exact Bool.eq_false_iff.mpr hplain
  · cases hfirst

/-- The content of the GOP that `first` begins. -/
def gopBytes (first : AccessUnit) (rest : List AccessUnit) : List UInt8 :=
  first.bytes ++ rest.flatMap (·.bytes)

theorem gopBytes_concat (first : AccessUnit) (rest : List AccessUnit) (u : AccessUnit) :
    gopBytes first (rest ++ [u]) = gopBytes first rest ++ u.bytes := by
  simp [gopBytes]

/-! ### The invariant -/

/-- The GOP cache holds `first` and the access units behind it. -/
structure GopIs (first : AccessUnit) (rest : List AccessUnit) (c : H265SnapshotCache) : Prop where
  has : c.currentGopHasIrap = true
  bytes : c.currentGop.bytes = gopBytes first rest
  size : c.currentGop.len ≤ h265SnapshotMaxGopBytes
  pts : c.currentGopPts = first.msg.framePts
  startSeq : c.currentGopStartSeq = first.msg.seq
  lastSeq : c.currentGopLastSeq = (rest.getLast?.getD first).msg.seq

/-- The GOP cache is empty, or it holds the access units from the last IRAP on. -/
def GopOf (units : List AccessUnit) (c : H265SnapshotCache) : Prop :=
  c.currentGopHasIrap = false ∧ c.currentGop.bytes = [] ∨
    ∃ first rest, sinceIrap units = some (first, rest) ∧ GopIs first rest c

/-- The IRAP cache is empty, or it holds the last access unit with an IRAP. -/
def IrapOf (units : List AccessUnit) (c : H265SnapshotCache) : Prop :=
  c.lastIrap.bytes = [] ∨ ∃ first rest, sinceIrap units = some (first, rest) ∧
    c.lastIrap.bytes = first.bytes ∧ c.lastIrapPts = first.msg.framePts

theorem GopUpdate.gopOf {memory : Prop} {frame : H265SnapshotFrame} {msg : MppNaluIpcMsg}
    {units : List AccessUnit} {c c' : H265SnapshotCache} (h : GopUpdate memory frame msg c c')
    (hgop : GopOf units c) : GopOf (units ++ unitOf msg frame) c' := by
  cases h with
  | empty hau =>
    rw [unitOf, if_pos hau, List.append_nil]
    exact hgop
  | idle hau hirap hnone =>
    rcases hgop with hgop | ⟨first, rest, -, hgop⟩
    · exact .inl hgop
    · rw [hgop.has] at hnone
      cases hnone
  | dropped hau hbytes => exact .inl ⟨rfl, hbytes⟩
  | @added gop hau hhas hbytes hbacked hsize =>
    rw [unitOf, if_neg hau, GopOf, sinceIrap_concat]
    dsimp only
    cases hirap : frame.hasIrap with
    | true =>
      refine .inr ⟨_, _, if_pos rfl, rfl, ?_, hsize, rfl, rfl, rfl⟩
      rw [hirap] at hbytes
      exact hbytes.trans (List.append_nil _).symm
    | false =>
      rw [hirap] at hhas hbytes
      rcases hgop with ⟨hnone, -⟩ | ⟨first, rest, hsince, hgop⟩
      · rw [hnone] at hhas
        rcases hhas with h | h <;> cases h
      · refine .inr ⟨first, rest ++ [⟨msg, frame.au.bytes, false⟩], ?_, rfl, ?_, hsize, hgop.pts,
          hgop.startSeq, ?_⟩
        · rw [if_neg Bool.false_ne_true, hsince]
          rfl
        · rw [gopBytes_concat, ← hgop.bytes]
          exact hbytes
        · rw [List.getLast?_concat]
          rfl

theorem GopUpdate.backed {memory : Prop} {frame : H265SnapshotFrame} {msg : MppNaluIpcMsg}
    {c c' : H265SnapshotCache} (h : GopUpdate memory frame msg c c') (hc : c.Backed) :
    c'.Backed := by
  cases h with
  | empty | idle => exact hc
  | dropped hau hbytes => exact ⟨hc.sets, hc.irap, fun hne => absurd hbytes hne⟩
  | added hau hhas hbytes hbacked => exact ⟨hc.sets, hc.irap, hbacked⟩

/-- The GOP cache is not looked at when the IRAP cache is updated, and conversely. -/
theorem GopUpdate.irapOf {memory : Prop} {frame : H265SnapshotFrame} {msg : MppNaluIpcMsg}
    {units : List AccessUnit} {c c' : H265SnapshotCache} (h : GopUpdate memory frame msg c c')
    (hirap : IrapOf units c) : IrapOf units c' := by
  cases h <;> exact hirap

theorem IrapUpdate.gopOf {memory : Prop} {frame : H265SnapshotFrame} {msg : MppNaluIpcMsg}
    {units : List AccessUnit} {c c' : H265SnapshotCache} (h : IrapUpdate memory frame msg c c')
    (hgop : GopOf units c) : GopOf units c' := by
  have hsame : ∀ {first rest} {irap : H265ByteBuffer} {pts seq : UInt64} {vps sps pps : Bool},
      GopIs first rest c → GopIs first rest { c with
        lastIrap := irap, lastIrapPts := pts, lastIrapSeq := seq
        lastIrapHasVps := vps, lastIrapHasSps := sps, lastIrapHasPps := pps } :=
    fun h => ⟨h.has, h.bytes, h.size, h.pts, h.startSeq, h.lastSeq⟩
  cases h <;> rcases hgop with hgop | ⟨first, rest, hsince, hgop⟩ <;>
    first | exact .inl hgop | exact .inr ⟨first, rest, hsince, hsame hgop⟩

theorem IrapUpdate.backed {memory : Prop} {frame : H265SnapshotFrame} {msg : MppNaluIpcMsg}
    {c c' : H265SnapshotCache} (h : IrapUpdate memory frame msg c c') (hc : c.Backed) :
    c'.Backed := by
  cases h with
  | none => exact hc
  | copied hau hirap hbytes hbacked => exact ⟨hc.sets, hbacked, hc.gop⟩
  | lost hau hirap hbytes => exact ⟨hc.sets, fun hne => absurd hbytes hne, hc.gop⟩

theorem IrapUpdate.irapOf {memory : Prop} {frame : H265SnapshotFrame} {msg : MppNaluIpcMsg}
    {units : List AccessUnit} {c c' : H265SnapshotCache} (h : IrapUpdate memory frame msg c c')
    (hirap : IrapOf units c) : IrapOf (units ++ unitOf msg frame) c' := by
  cases h with
  | none hwhy =>
    by_cases hau : frame.au.bytes = []
    · rw [unitOf, if_pos hau, List.append_nil]
      exact hirap
    · have hplain := hwhy.resolve_left hau
      rcases hirap with hempty | ⟨first, rest, hsince, hbytes, hpts⟩
      · exact .inl hempty
      · refine .inr ⟨first, rest ++ [⟨msg, frame.au.bytes, frame.hasIrap⟩], ?_, hbytes, hpts⟩
        rw [unitOf, if_neg hau, sinceIrap_concat, if_neg (by simp [hplain]), hsince]
        rfl
  | copied hau hhas hbytes =>
    refine .inr ⟨⟨msg, frame.au.bytes, frame.hasIrap⟩, [], ?_, hbytes, rfl⟩
    rw [unitOf, if_neg hau, sinceIrap_concat, if_pos hhas]
  | lost hau hhas hbytes => exact .inl hbytes

/-- **The invariant of runs.** Each of the two frame caches is empty or holds what the access
units say. -/
structure Remembers (units : List AccessUnit) (c : H265SnapshotCache) : Prop where
  backed : c.Backed
  gop : GopOf units c
  irap : IrapOf units c

namespace Remembers

variable {units : List AccessUnit} {c c' : H265SnapshotCache}

theorem empty : Remembers [] {} where
  backed := ⟨fun kind => by rcases kind <;> exact backed_empty, backed_empty, backed_empty⟩
  gop := .inl ⟨rfl, rfl⟩
  irap := .inl rfl

/-- Parameter sets may come and go. -/
theorem sameFrames (h : Remembers units c) (hsame : SameFrames c c') (hsets : c'.SetsBacked) :
    Remembers units c' := by
  rw [hsame] at hsets ⊢
  refine ⟨⟨hsets, h.backed.irap, h.backed.gop⟩, ?_, h.irap⟩
  rcases h.gop with hgop | ⟨first, rest, hsince, hgop⟩
  · exact .inl hgop
  · exact .inr ⟨first, rest, hsince,
      ⟨hgop.has, hgop.bytes, hgop.size, hgop.pts, hgop.startSeq, hgop.lastSeq⟩⟩

/-- The frame caches are updated one after the other. -/
theorem update (h : Remembers units c) {memory : Prop} {frame : H265SnapshotFrame}
    {msg : MppNaluIpcMsg} {c'' : H265SnapshotCache} (hgop : GopUpdate memory frame msg c c')
    (hirap : IrapUpdate memory frame msg c' c'') : Remembers (units ++ unitOf msg frame) c'' where
  backed := hirap.backed (hgop.backed h.backed)
  gop := hirap.gopOf (hgop.gopOf h.gop)
  irap := hirap.irapOf (hgop.irapOf h.irap)

end Remembers

/-! ### A message -/

/-- The stream of an `enqueue` event, with its time. -/
def Event.stream? : Event → Option (List UInt8 × UInt64)
  | .enqueue stream pts _ => some (stream, pts)
  | _ => none

/-- The streams that are handed to the writer between two worlds. -/
def handedOver (w w' : World) : List (List UInt8 × UInt64) :=
  (w'.trace.drop w.trace.length).filterMap Event.stream?

theorem handedOver_of_append {w w' : World} {d : List Event} (h : w'.trace = w.trace ++ d) :
    handedOver w w' = d.filterMap Event.stream? := by
  rw [handedOver, h, List.drop_left]

/-- Nothing is handed over while packs are parsed. -/
theorem handedOver_of_grows {w w' w'' : World}
    (h : Grows Event.IsMapping w.trace w'.trace) {d : List Event}
    (hd : w''.trace = w'.trace ++ d) : handedOver w w'' = d.filterMap Event.stream? := by
  obtain ⟨e, he, hmapping⟩ := h
  have hnone : e.filterMap Event.stream? = [] := by
    refine List.filterMap_eq_nil_iff.mpr ?_
    intro ev hev
    have hevent := hmapping ev hev
    cases ev <;> first | rfl | exact hevent.elim
  rw [handedOver_of_append (d := e ++ d) (by rw [hd, he, List.append_assoc]),
    List.filterMap_append, hnone, List.nil_append]

/-- The world behind both updates of the frame caches. -/
def cacheFrame (env : Env) (msg : MppNaluIpcMsg) (w : World) : World :=
  updateLastIrap env (snapshotPacks env msg w).2.1 msg
    (h265SnapshotUpdateGopCache env (snapshotPacks env msg w).2.1 msg (snapshotPacks env msg w).2.2)

theorem datafifoSnapshotProcess_of_ok {env : Env} {msg : MppNaluIpcMsg} {w : World}
    (hflag : msg.flagged = true) (h : (snapshotPacks env msg w).1 = true) :
    datafifoSnapshotProcess env msg w = if !env.gSnapshotReady then (false, cacheFrame env msg w)
      else snapshotEnqueue env msg (cacheFrame env msg w) := by
  rw [datafifoSnapshotProcess, hflag, ← snapshotPacks, cacheFrame]
  generalize snapshotPacks env msg w = r at h ⊢
  obtain ⟨ok, frame, v⟩ := r
  cases h
  rfl

theorem datafifoSnapshotProcess_of_fail {env : Env} {msg : MppNaluIpcMsg} {w : World}
    (hflag : msg.flagged = true) (h : (snapshotPacks env msg w).1 = false) :
    datafifoSnapshotProcess env msg w = (false, (snapshotPacks env msg w).2.2) := by
  rw [datafifoSnapshotProcess, hflag, ← snapshotPacks]
  generalize snapshotPacks env msg w = r at h ⊢
  obtain ⟨ok, frame, v⟩ := r
  cases h
  rfl

section

variable {env : Env} {msg : MppNaluIpcMsg} {w : World} (hbacked : w.gH265SnapshotCache.Backed)
include hbacked

theorem backed_snapshotPacks : (snapshotPacks env msg w).2.2.gH265SnapshotCache.Backed := by
  have hparses : Parses ({ copyAu := true }, w) (snapshotPacks env msg w).2 :=
    snapshotPacks_parses env msg.usedPacks _
  have hsets := hparses.sets hbacked.sets
  rw [hparses.frames] at hsets ⊢
  exact ⟨hsets, hbacked.irap, hbacked.gop⟩

variable (env msg) in
/-- **The frame caches** are updated one after the other. -/
theorem cacheFrame_spec :
    ∃ c, GopUpdate (∀ n, env.snapshotAlloc n = true) (snapshotPacks env msg w).2.1 msg
        (snapshotPacks env msg w).2.2.gH265SnapshotCache c ∧
      IrapUpdate (∀ n, env.snapshotAlloc n = true) (snapshotPacks env msg w).2.1 msg c
        (cacheFrame env msg w).gH265SnapshotCache := by
  have hparses : Parses ({ copyAu := true }, w) (snapshotPacks env msg w).2 :=
    snapshotPacks_parses env msg.usedPacks _
  exact ⟨_, h265SnapshotUpdateGopCache_spec env (hparses.au backed_empty) msg _
    (backed_snapshotPacks hbacked).gop, updateLastIrap_spec env _ msg _⟩

theorem backed_cacheFrame : (cacheFrame env msg w).gH265SnapshotCache.Backed := by
  obtain ⟨c, hgop, hirap⟩ := cacheFrame_spec env msg hbacked
  exact hirap.backed (hgop.backed (backed_snapshotPacks hbacked))

omit hbacked in
/-- Nothing has been handed over when the stream is built. -/
theorem handedOver_of_cacheFrame {w' : World} {d : List Event}
    (h : w'.trace = (cacheFrame env msg w).trace ++ d) :
    handedOver w w' = d.filterMap Event.stream? := by
  have hparses : Parses ({ copyAu := true }, w) (snapshotPacks env msg w).2 :=
    snapshotPacks_parses env msg.usedPacks _
  have htrace : (cacheFrame env msg w).trace = (snapshotPacks env msg w).2.2.trace :=
    ((h265SnapshotUpdateGopCache_feeds env _ msg _).trans
      (updateLastIrap_feeds env _ msg _)).trace_eq
  exact handedOver_of_grows hparses.grows (h.trans (congrArg (· ++ d) htrace))

variable (env) in
/-- **What a flagged message does.** A map that fails ends it behind the packs that were parsed.
Otherwise the frame caches are updated, and a stream may be built from the result. -/
theorem datafifoSnapshotProcess_spec (hflag : msg.flagged = true) :
    let r := snapshotPacks env msg w
    let w' := (datafifoSnapshotProcess env msg w).2
    r.1 = false ∧ datafifoSnapshotProcess env msg w = (false, r.2.2) ∧ handedOver w w' = [] ∨
      r.1 = true ∧ w'.gH265SnapshotCache = (cacheFrame env msg w).gH265SnapshotCache ∧
        ∀ s ∈ handedOver w w', Built w'.gH265SnapshotCache msg s.1 s.2 := by
  intro r w'
  cases hok : r.1 with
  | false =>
    have hprocess := datafifoSnapshotProcess_of_fail hflag hok
    have hparses : Parses ({ copyAu := true }, w) r.2 := snapshotPacks_parses env msg.usedPacks _
    refine .inl ⟨rfl, hprocess, ?_⟩
    have hw' : w' = r.2.2 := congrArg Prod.snd hprocess
    rw [hw', handedOver_of_grows hparses.grows (d := []) (List.append_nil _).symm]
    rfl
  | true =>
    have hw' : w' = (datafifoSnapshotProcess env msg w).2 := rfl
    rw [datafifoSnapshotProcess_of_ok hflag hok] at hw'
    refine .inr ⟨rfl, ?_⟩
    split at hw'
    · rw [hw', handedOver_of_cacheFrame (d := []) (List.append_nil _).symm]
      simp
    · obtain ⟨hcache, hsame | ⟨stream, pts, ok, hgrows, hbuilt⟩⟩ :=
        snapshotEnqueue_spec env msg (cacheFrame env msg w) (backed_cacheFrame hbacked)
      · rw [hw', hcache, handedOver_of_cacheFrame (d := []) (by rw [hsame, List.append_nil])]
        simp
      · rw [hw', hcache, handedOver_of_cacheFrame hgrows]
        simpa [Event.stream?] using hbuilt

end

/-- A message without the flag is passed over. -/
theorem datafifoSnapshotProcess_of_not_flagged (env : Env) {msg : MppNaluIpcMsg}
    (hflag : msg.flagged = false) (w : World) :
    datafifoSnapshotProcess env msg w = (true, w) ∧ reception env msg w = [] := by
  rw [datafifoSnapshotProcess, reception, hflag]
  exact ⟨rfl, rfl⟩

/-- **A message.** Whatever it brings and whatever fails, the invariant is kept, and a stream that
is handed over is one that the caches allow. -/
theorem Remembers.process {past : List Reception} {w : World}
    (h : Remembers (accessUnits past) w.gH265SnapshotCache) (env : Env) (msg : MppNaluIpcMsg) :
    let w' := (datafifoSnapshotProcess env msg w).2
    Remembers (accessUnits (past ++ reception env msg w)) w'.gH265SnapshotCache ∧
      ∀ s ∈ handedOver w w', Built w'.gH265SnapshotCache msg s.1 s.2 := by
  cases hflag : msg.flagged with
  | false =>
    obtain ⟨hsame, hnone⟩ := datafifoSnapshotProcess_of_not_flagged env hflag w
    rw [hsame, hnone, List.append_nil]
    exact ⟨h, by simp [handedOver]⟩
  | true =>
    intro w'
    have hparses := snapshotPacks_parses env msg.usedPacks ({ copyAu := true }, w)
    have hmapped := h.sameFrames hparses.frames (hparses.sets h.backed.sets)
    rw [reception, if_pos hflag, accessUnits_concat]
    obtain ⟨c, hgop, hirap⟩ := cacheFrame_spec env msg h.backed
    rcases datafifoSnapshotProcess_spec env h.backed hflag with
      ⟨hfail, hprocess, hnone⟩ | ⟨hok, hcache, hbuilt⟩
    · rw [units_receptionOf_of_fail hfail, List.append_nil]
      refine ⟨?_, by rw [hnone]; simp⟩
      change Remembers _ (datafifoSnapshotProcess env msg w).2.gH265SnapshotCache
      rw [hprocess]
      exact hmapped
    · rw [units_receptionOf_of_ok hok]
      refine ⟨?_, hbuilt⟩
      rw [hcache]
      exact hmapped.update hgop hirap

end LittleCore

import LittleCore.Snapshot.Collect
import LittleCore.Snapshot.Units

/-!
# What the snapshot caches know

As long as memory lasts, the caches are a function of the NALUs received, and nothing but the size
limit keeps a GOP out. `Knows` adds this to `Remembers`.

## Main results

* `Knows.process` — every message keeps it
* `snapshotEnqueue_hands` — a stream that can be built is handed over
-/

namespace LittleCore

open Library World H265SnapshotCache

/-! ### What has been received -/

/-- The NALUs of a message that were accepted, in order. -/
def Reception.nalus (r : Reception) : List (List UInt8) :=
  r.mapped.flatMap fun pack => fedNalus pack.bytes

def received (past : List Reception) : List (List UInt8) := past.flatMap Reception.nalus

/-- The last parameter set of a kind. -/
def latest (kind : ParamSet) (nalus : List (List UInt8)) : Option (List UInt8) :=
  (nalus.filter fun nalu => h265ParamCacheForType (h265NaluType nalu) == some kind).getLast?

theorem received_concat (past : List Reception) (r : Reception) :
    received (past ++ [r]) = received past ++ r.nalus := by
  simp [received]

theorem latest_append (kind : ParamSet) (nalus nalus' : List (List UInt8)) :
    latest kind (nalus ++ nalus') = (latest kind nalus').or (latest kind nalus) := by
  rw [latest, List.filter_append, List.getLast?_append]
  rfl

theorem mem_of_latest {kind : ParamSet} {nalus : List (List UInt8)} {nalu : List UInt8}
    (h : latest kind nalus = some nalu) :
    nalu ∈ nalus ∧ h265ParamCacheForType (h265NaluType nalu) = some kind := by
  obtain ⟨hmem, hkind⟩ := List.mem_filter.mp (List.mem_of_getLast? h)
  exact ⟨hmem, by simpa using hkind⟩

/-- What was gathered from a message is what its NALUs say. -/
def Reception.Faithful (r : Reception) : Prop :=
  r.frame.au.bytes = r.nalus.flatMap storedUnit ∧
    r.frame.hasIrap = r.nalus.any fun nalu => h265NaluIsIrap (h265NaluType nalu)

/-! ### The invariant -/

/-- The GOP cache is in use as long as the access units from the last IRAP on are not too large. -/
def KeepsGop (units : List AccessUnit) (c : H265SnapshotCache) : Prop :=
  ∀ first rest, sinceIrap units = some (first, rest) →
    (gopBytes first rest).length ≤ h265SnapshotMaxGopBytes → c.currentGopHasIrap = true

theorem GopUpdate.keepsGop {memory : Prop} {frame : H265SnapshotFrame} {msg : MppNaluIpcMsg}
    {units : List AccessUnit} {c c' : H265SnapshotCache} (h : GopUpdate memory frame msg c c')
    (hmemory : memory) (hgop : GopOf units c) (hkeeps : KeepsGop units c) :
    KeepsGop (units ++ unitOf msg frame) c' := by
  cases h with
  | empty hau =>
    rw [unitOf, if_pos hau, List.append_nil]
    exact hkeeps
  | idle hau hirap hnone =>
    intro first rest hsince hsize
    rw [unitOf, if_neg hau, sinceIrap_concat, if_neg (by simp [hirap]),
      Option.map_eq_some_iff] at hsince
    obtain ⟨⟨first', rest'⟩, hsince, heq⟩ := hsince
    obtain ⟨rfl, rfl⟩ := Prod.mk.inj heq
    rw [gopBytes_concat, List.length_append] at hsize
    exact hkeeps first' rest' hsince ((Nat.le_add_right _ _).trans hsize)
  | dropped hau hbytes hwhy =>
    intro first rest hsince hsize
    have hlarge := hwhy hmemory
    rw [unitOf, if_neg hau, sinceIrap_concat] at hsince
    dsimp only at hsince
    cases hirap : frame.hasIrap with
    | true =>
      rw [hirap] at hsince hlarge
      obtain ⟨rfl, rfl⟩ := Prod.mk.inj (Option.some.inj hsince)
      simp only [gopBytes, List.flatMap_nil, List.append_nil] at hsize
      simp only [if_pos, List.length_nil, Nat.zero_add] at hlarge
      omega
    | false =>
      rw [hirap, if_neg Bool.false_ne_true, Option.map_eq_some_iff] at hsince
      rw [hirap, if_neg Bool.false_ne_true] at hlarge
      obtain ⟨⟨first', rest'⟩, hsince, heq⟩ := hsince
      obtain ⟨rfl, rfl⟩ := Prod.mk.inj heq
      rw [gopBytes_concat, List.length_append] at hsize
      dsimp only at hsize
      have hhas := hkeeps first' rest' hsince (by omega)
      rcases hgop with ⟨hnone, -⟩ | ⟨first, rest, hsince', hgop⟩
      · rw [hnone] at hhas
        cases hhas
      · rw [hsince] at hsince'
        obtain ⟨rfl, rfl⟩ := Prod.mk.inj (Option.some.inj hsince')
        rw [hgop.bytes] at hlarge
        omega
  | added => exact fun _ _ _ _ => rfl

theorem IrapUpdate.keepsGop {memory : Prop} {frame : H265SnapshotFrame} {msg : MppNaluIpcMsg}
    {units : List AccessUnit} {c c' : H265SnapshotCache} (h : IrapUpdate memory frame msg c c')
    (hkeeps : KeepsGop units c) : KeepsGop units c' := by
  cases h <;> exact hkeeps

/-- The IRAP cache is in use from the first IRAP on. -/
def KeepsIrap (units : List AccessUnit) (c : H265SnapshotCache) : Prop :=
  sinceIrap units ≠ none → c.lastIrap.bytes ≠ []

theorem GopUpdate.keepsIrap {memory : Prop} {frame : H265SnapshotFrame} {msg : MppNaluIpcMsg}
    {units : List AccessUnit} {c c' : H265SnapshotCache} (h : GopUpdate memory frame msg c c')
    (hkeeps : KeepsIrap units c) : KeepsIrap units c' := by
  cases h <;> exact hkeeps

theorem IrapUpdate.keepsIrap {memory : Prop} {frame : H265SnapshotFrame} {msg : MppNaluIpcMsg}
    {units : List AccessUnit} {c c' : H265SnapshotCache} (h : IrapUpdate memory frame msg c c')
    (hmemory : memory) (hlen : frame.au.len ≤ sizeMax) (hkeeps : KeepsIrap units c) :
    KeepsIrap (units ++ unitOf msg frame) c' := by
  cases h with
  | none hwhy =>
    by_cases hau : frame.au.bytes = []
    · rw [unitOf, if_pos hau, List.append_nil]
      exact hkeeps
    · rw [unitOf, if_neg hau, KeepsIrap, sinceIrap_concat, if_neg (by simp [hwhy.resolve_left hau]),
        ne_eq, Option.map_eq_none_iff]
      exact hkeeps
  | copied hau hirap hbytes =>
    intro _
    rw [hbytes]
    exact hau
  | lost hau hirap hbytes hwhy => exact absurd (hwhy hmemory) (Nat.not_lt.mpr hlen)

/-- Only parsing touches the parameter sets. -/
theorem GopUpdate.paramSet {memory : Prop} {frame : H265SnapshotFrame} {msg : MppNaluIpcMsg}
    {c c' : H265SnapshotCache} (h : GopUpdate memory frame msg c c') (kind : ParamSet) :
    c'.paramSet kind = c.paramSet kind := by
  cases h <;> rcases kind <;> rfl

theorem IrapUpdate.paramSet {memory : Prop} {frame : H265SnapshotFrame} {msg : MppNaluIpcMsg}
    {c c' : H265SnapshotCache} (h : IrapUpdate memory frame msg c c') (kind : ParamSet) :
    c'.paramSet kind = c.paramSet kind := by
  cases h <;> rcases kind <;> rfl

/-- **What the caches know** of what has been received, as long as memory lasts. -/
structure Knows (past : List Reception) (c : H265SnapshotCache) : Prop where
  remembers : Remembers (accessUnits past) c
  faithful : ∀ r ∈ past, r.Faithful
  sets : ∀ kind, (c.paramSet kind).bytes
    = ((latest kind (received past)).map storedUnit).getD []
  keepsGop : KeepsGop (accessUnits past) c
  keepsIrap : KeepsIrap (accessUnits past) c

theorem Knows.empty : Knows [] {} where
  remembers := .empty
  faithful := by simp
  sets := by
    intro kind
    rcases kind <;> rfl
  keepsGop := by
    intro first rest hsince
    cases hsince
  keepsIrap := fun h => absurd rfl h

/-! ### A message -/

/-- The NALUs of one message take no more than four times its bytes. -/
theorem length_flatMap_storedUnit_le (packs : List MppNaluIpcPack) :
    ((packs.flatMap fun pack => fedNalus pack.bytes).flatMap storedUnit).length
      ≤ 4 * (packs.map fun pack => pack.bytes.length).sum := by
  induction packs with
  | nil => simp
  | cons pack packs ih =>
    have hfed := room_fedNalus_le (show pack.bytes.length < 2 ^ 32 by
      rw [pack.length_bytes]
      exact pack.len.toNat_lt)
    have hunits : ((fedNalus pack.bytes).flatMap storedUnit).length
        ≤ room (fedNalus pack.bytes) := by
      rw [List.length_flatMap, room]
      exact List.sum_le_sum fun nalu _ => length_storedUnit_le nalu
    rw [List.flatMap_cons, List.flatMap_append, List.length_append, List.map_cons, List.sum_cons]
    omega

/-- An access unit is far from the end of the address space. -/
theorem Reception.Faithful.len_le {r : Reception} (h : r.Faithful) : r.frame.au.len ≤ 2 ^ 37 := by
  obtain ⟨rest, hrest⟩ := r.mapped_first
  have hall := room_usedPacks r.msg
  have hunits := length_flatMap_storedUnit_le r.mapped
  rw [← hrest, List.map_append, List.sum_append] at hall
  rw [H265ByteBuffer.len, h.1, Reception.nalus]
  omega

section

variable {env : Env} (halloc : ∀ n, env.snapshotAlloc n = true) (msg : MppNaluIpcMsg) (w : World)
include halloc

theorem holds_snapshotPacks : Holds ((receptionOf env msg w).nalus.foldl Collected.feed
    { sets := fun kind => (w.gH265SnapshotCache.paramSet kind).bytes })
    (snapshotPacks env msg w).2 :=
  collect_spec halloc msg.usedPacks ⟨rfl, rfl, fun _ => rfl, rfl⟩ (by
    simpa using (room_usedPacks msg).trans (by decide : _ ≤ sizeMax))

theorem faithful_receptionOf : (receptionOf env msg w).Faithful := by
  have hholds := holds_snapshotPacks halloc msg w
  have hbytes := hholds.bytes
  have hirap := hholds.irap
  rw [Collected.bytes_foldl, List.nil_append] at hbytes
  rw [Collected.hasIrap_foldl, Bool.false_or] at hirap
  exact ⟨hbytes, hirap⟩

/-- **The pack loop** leaves the last parameter set of each kind. -/
theorem paramSet_snapshotPacks (kind : ParamSet) :
    ((snapshotPacks env msg w).2.2.gH265SnapshotCache.paramSet kind).bytes
      = ((latest kind (receptionOf env msg w).nalus).map storedUnit).getD
          (w.gH265SnapshotCache.paramSet kind).bytes := by
  rw [(holds_snapshotPacks halloc msg w).sets, Collected.sets_foldl]
  rfl

/-- **A message** keeps what the caches know. -/
theorem Knows.process {past : List Reception} (h : Knows past w.gH265SnapshotCache) :
    Knows (past ++ reception env msg w)
      (datafifoSnapshotProcess env msg w).2.gH265SnapshotCache := by
  have hremembers := (h.remembers.process env msg).1
  cases hflag : msg.flagged with
  | false =>
    obtain ⟨hsame, hnone⟩ := datafifoSnapshotProcess_of_not_flagged env hflag w
    rw [hsame, hnone, List.append_nil]
    exact h
  | true =>
    have hparses : Parses ({ copyAu := true }, w) (snapshotPacks env msg w).2 :=
      snapshotPacks_parses env msg.usedPacks _
    have hsets : ∀ kind, ((snapshotPacks env msg w).2.2.gH265SnapshotCache.paramSet kind).bytes
        = ((latest kind (received (past ++ [receptionOf env msg w]))).map storedUnit).getD [] := by
      intro kind
      rw [paramSet_snapshotPacks halloc, h.sets, received_concat, latest_append]
      cases latest kind (receptionOf env msg w).nalus <;> rfl
    have hgopOf :=
      (h.remembers.sameFrames hparses.frames (hparses.sets h.remembers.backed.sets)).gop
    have hkeepsGop :
        KeepsGop (accessUnits past) (snapshotPacks env msg w).2.2.gH265SnapshotCache := by
      rw [hparses.frames]
      exact h.keepsGop
    have hkeepsIrap :
        KeepsIrap (accessUnits past) (snapshotPacks env msg w).2.2.gH265SnapshotCache := by
      rw [hparses.frames]
      exact h.keepsIrap
    rw [reception, if_pos hflag] at hremembers ⊢
    have hfaithful : ∀ r ∈ past ++ [receptionOf env msg w], r.Faithful := by
      intro r hr
      rcases List.mem_append.mp hr with hr | hr
      · exact h.faithful r hr
      · rw [List.mem_singleton.mp hr]
        exact faithful_receptionOf halloc msg w
    obtain ⟨c, hgop, hirap⟩ := cacheFrame_spec env msg h.remembers.backed
    rcases datafifoSnapshotProcess_spec env h.remembers.backed hflag with
      ⟨hfail, hprocess, -⟩ | ⟨hok, hcache, -⟩
    · have hunits : accessUnits (past ++ [receptionOf env msg w]) = accessUnits past := by
        rw [accessUnits_concat, units_receptionOf_of_fail hfail, List.append_nil]
      rw [hprocess] at hremembers ⊢
      refine ⟨hremembers, hfaithful, hsets, ?_, ?_⟩
      · rw [hunits]
        exact hkeepsGop
      · rw [hunits]
        exact hkeepsIrap
    · have hlen : (receptionOf env msg w).frame.au.len ≤ sizeMax :=
        (faithful_receptionOf halloc msg w).len_le.trans (by decide)
      have hunits : accessUnits (past ++ [receptionOf env msg w])
          = accessUnits past ++ unitOf msg (snapshotPacks env msg w).2.1 := by
        rw [accessUnits_concat, units_receptionOf_of_ok hok]
      rw [hcache] at hremembers ⊢
      refine ⟨hremembers, hfaithful, fun kind => ?_, ?_, ?_⟩
      · rw [hirap.paramSet, hgop.paramSet, hsets]
      · rw [hunits]
        exact hirap.keepsGop (hgop.keepsGop halloc hgopOf hkeepsGop)
      · rw [hunits]
        exact hirap.keepsIrap halloc hlen (hgop.keepsIrap hkeepsIrap)

end

/-! ### A stream is handed over

What is in the caches fits one buffer, so that nothing but missing memory keeps a stream from being
built. -/

theorem Reception.Faithful.length_storedUnit_le {r : Reception} (h : r.Faithful) {nalu : List UInt8}
    (hmem : nalu ∈ r.nalus) : (storedUnit nalu).length ≤ 2 ^ 37 := by
  have hlen := h.len_le
  rw [H265ByteBuffer.len, h.1, List.length_flatMap] at hlen
  exact (List.single_le_sum (fun _ _ => Nat.zero_le _) _ (List.mem_map_of_mem hmem)).trans hlen

theorem Reception.mem_units {r : Reception} {u : AccessUnit} (h : u ∈ r.units) :
    u.msg = r.msg ∧ u.bytes = r.frame.au.bytes ∧ u.hasIrap = r.frame.hasIrap ∧ u.bytes ≠ [] ∧
      r.mapped = r.msg.usedPacks := by
  rw [Reception.units, unitOf] at h
  split_ifs at h with hmapped hbytes
  · simp at h
  · rw [List.mem_singleton.mp h]
    exact ⟨rfl, rfl, rfl, hbytes, hmapped⟩
  · simp at h

theorem mem_accessUnits {past : List Reception} {u : AccessUnit} (h : u ∈ accessUnits past) :
    ∃ r ∈ past, u.msg = r.msg ∧ u.bytes = r.frame.au.bytes ∧ u.hasIrap = r.frame.hasIrap ∧
      u.bytes ≠ [] ∧ r.mapped = r.msg.usedPacks := by
  obtain ⟨r, hr, hu⟩ := List.mem_flatMap.mp h
  exact ⟨r, hr, r.mem_units hu⟩

theorem Knows.paramSet_len_le {past : List Reception} {c : H265SnapshotCache} (h : Knows past c)
    (kind : ParamSet) : (c.paramSet kind).len ≤ 2 ^ 37 := by
  rw [H265ByteBuffer.len, h.sets]
  cases hlatest : latest kind (received past) with
  | none => exact Nat.zero_le _
  | some nalu =>
    obtain ⟨r, hr, hmem⟩ := List.mem_flatMap.mp (mem_of_latest hlatest).1
    exact (h.faithful r hr).length_storedUnit_le hmem

theorem Knows.frames_len_le {past : List Reception} {c : H265SnapshotCache} (h : Knows past c) :
    c.currentGop.len ≤ 2 ^ 37 ∧ c.lastIrap.len ≤ 2 ^ 37 := by
  constructor
  · rcases h.remembers.gop with ⟨-, hempty⟩ | ⟨first, rest, -, hgop⟩
    · rw [H265ByteBuffer.len, hempty]
      exact Nat.zero_le _
    · exact hgop.size.trans (by decide)
  · rcases h.remembers.irap with hempty | ⟨first, rest, hsince, hbytes, -⟩
    · rw [H265ByteBuffer.len, hempty]
      exact Nat.zero_le _
    · obtain ⟨older, hunits, -⟩ := exists_of_sinceIrap hsince
      obtain ⟨r, hr, -, hr', -⟩ := mem_accessUnits (show first ∈ accessUnits past by simp [hunits])
      rw [H265ByteBuffer.len, hbytes, hr']
      exact (h.faithful r hr).len_le

theorem h265SnapshotAppendCachedParams_ok (out source : H265ByteBuffer)
    (hlen : out.len + source.len ≤ sizeMax) :
    (h265SnapshotAppendCachedParams true out source).1 = true := by
  rw [h265SnapshotAppendCachedParams]
  split
  · exact (h265BufferAppend_ok hlen).1
  · rfl

theorem h265SnapshotAppendParams_ok {c : H265SnapshotCache} (out : H265ByteBuffer)
    (hbacked : c.SetsBacked) (hlen : out.len + c.params.length ≤ sizeMax) :
    (h265SnapshotAppendParams (fun _ => true) c out).1 = true := by
  have happend := @h265SnapshotAppendCachedParams_of_ok true
  simp only [params, List.length_append] at hlen
  have hvps := h265SnapshotAppendCachedParams_ok out c.vps (by
    simp only [H265ByteBuffer.len] at hlen ⊢
    omega)
  have hbytes := happend (hbacked .vps) hvps
  rw [h265SnapshotAppendParams]
  change (h265SnapshotAppendCachedParams true out c.vps).2.bytes
    = out.bytes ++ c.vps.bytes at hbytes
  generalize h265SnapshotAppendCachedParams true out c.vps = r at hvps hbytes
  obtain ⟨_ | _, b⟩ := r
  · cases hvps
  have hb : b.bytes = out.bytes ++ c.vps.bytes := hbytes
  have hsps := h265SnapshotAppendCachedParams_ok b c.sps (by
    simp only [H265ByteBuffer.len, hb, List.length_append] at hlen ⊢
    omega)
  have hbytes' := happend (hbacked .sps) hsps
  change (h265SnapshotAppendCachedParams true b c.sps).2.bytes = b.bytes ++ c.sps.bytes at hbytes'
  dsimp only
  generalize h265SnapshotAppendCachedParams true b c.sps = r at hsps hbytes'
  obtain ⟨_ | _, b'⟩ := r
  · cases hsps
  have hb' : b'.bytes = b.bytes ++ c.sps.bytes := hbytes'
  refine h265SnapshotAppendCachedParams_ok b' c.pps ?_
  simp only [H265ByteBuffer.len, hb', hb, List.length_append] at hlen ⊢
  omega

/-- A stream is built if the parameter sets and a frame are there. -/
theorem h265SnapshotBuildOutput_ok {c : H265SnapshotCache} (hbacked : c.Backed)
    (hparams : c.HaveParams) (hframe : c.lastIrap.bytes ≠ [])
    (hgop : c.params.length + c.currentGop.len ≤ sizeMax)
    (hirap : c.params.length + c.lastIrap.len ≤ sizeMax) :
    (h265SnapshotBuildOutput (fun _ => true) c {}).1 = true := by
  have hok := h265SnapshotAppendParams_ok (h265BufferReset {}) hbacked.sets (by
    simp only [H265ByteBuffer.len, bytes_h265BufferReset, List.length_nil]
    omega)
  have hbytes := h265SnapshotAppendParams_of_ok hbacked.sets hok
  rw [h265SnapshotBuildOutput, (haveParams_iff c).mpr hparams, if_neg (by decide),
    hbacked.irap.hasData_and_len, if_pos (decide_eq_true hframe)]
  generalize h265SnapshotAppendParams (fun _ => true) c (h265BufferReset {}) = r at hok hbytes
  obtain ⟨_ | _, out⟩ := r
  · cases hok
  have hlen : out.len = c.params.length := by
    rw [H265ByteBuffer.len]
    exact congrArg List.length hbytes
  split
  · exact (h265BufferAppend_ok (by rw [hlen]; exact hgop)).1
  · exact (h265BufferAppend_ok (by rw [hlen]; exact hirap)).1

/-- **One stream is handed over** for a message that maps as a whole, if the parameter sets and an
IRAP have been received. -/
theorem Knows.hands {env : Env} (halloc : ∀ n, env.snapshotAlloc n = true)
    (hready : env.gSnapshotReady = true) {past : List Reception} {msg : MppNaluIpcMsg} {w : World}
    (h : Knows past w.gH265SnapshotCache) (hflag : msg.flagged = true)
    (hmapped : (snapshotPacks env msg w).1 = true)
    (hparams : (datafifoSnapshotProcess env msg w).2.gH265SnapshotCache.HaveParams)
    (hirap : sinceIrap (accessUnits (past ++ reception env msg w)) ≠ none) :
    ∃ s, handedOver w (datafifoSnapshotProcess env msg w).2 = [s] := by
  have hknows := h.process halloc msg w
  rw [datafifoSnapshotProcess_of_ok hflag hmapped, hready, if_neg (by decide)] at hparams hknows ⊢
  obtain ⟨hcache, -⟩ := snapshotEnqueue_spec env msg (cacheFrame env msg w)
    (backed_cacheFrame h.remembers.backed)
  rw [hcache] at hparams hknows
  obtain ⟨hgopLen, hirapLen⟩ := hknows.frames_len_le
  have hparamsLen : (cacheFrame env msg w).gH265SnapshotCache.params.length ≤ 3 * 2 ^ 37 := by
    have hvps := hknows.paramSet_len_le .vps
    have hsps := hknows.paramSet_len_le .sps
    have hpps := hknows.paramSet_len_le .pps
    simp only [params, List.length_append]
    simp only [paramSet, H265ByteBuffer.len] at hvps hsps hpps
    omega
  have hmax : 4 * 2 ^ 37 ≤ sizeMax := by decide
  have hok := h265SnapshotBuildOutput_ok hknows.remembers.backed hparams (hknows.keepsIrap hirap)
    (by omega) (by omega)
  have hbuilt := h265SnapshotBuildOutput_spec hknows.remembers.backed msg hok
  have hanswers : (fun n => env.snapshotAlloc ((cacheFrame env msg w).snapshotTick + n))
      = fun _ => true := funext fun n => halloc _
  rw [snapshotEnqueue]
  dsimp only
  rw [hanswers]
  generalize h265SnapshotBuildOutput _ _ {} = r at hok hbuilt ⊢
  obtain ⟨ok, out, used⟩ := r
  cases hok
  have hne : out.bytes ≠ [] := Built.stream_ne_nil hbuilt
  have hout : out.len ≠ 0 := Nat.ne_zero_iff_zero_lt.mpr (List.length_pos_iff.mpr hne)
  rw [if_neg (by simp [hout]), handedOver_of_cacheFrame (d := [_]) rfl]
  exact ⟨_, rfl⟩

/-- The GOP cache holds the last IRAP and what came behind it, as long as that is not too large. -/
theorem Knows.gopIs {past : List Reception} {c : H265SnapshotCache} (h : Knows past c)
    {first : AccessUnit} {rest : List AccessUnit}
    (hsince : sinceIrap (accessUnits past) = some (first, rest))
    (hsize : (gopBytes first rest).length ≤ h265SnapshotMaxGopBytes) :
    c.HaveGop ∧ GopIs first rest c := by
  have hhas := h.keepsGop first rest hsince hsize
  rcases h.remembers.gop with ⟨hnone, -⟩ | ⟨first', rest', hsince', hgop⟩
  · rw [hnone] at hhas
    cases hhas
  · rw [hsince] at hsince'
    obtain ⟨rfl, rfl⟩ := Prod.mk.inj (Option.some.inj hsince')
    refine ⟨⟨hhas, ?_⟩, hgop⟩
    obtain ⟨older, hunits, -⟩ := exists_of_sinceIrap hsince
    have hfirst : first ∈ accessUnits past := by simp [hunits]
    obtain ⟨r, -, -, -, -, hne, -⟩ := mem_accessUnits hfirst
    simp [hgop.bytes, gopBytes, hne]

end LittleCore

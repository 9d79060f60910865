import LittleCore.Snapshot.Process

/-!
# What the snapshot path can do

The functions of the snapshot path, each as the content of the caches shows it, whatever fails on
the way. `GopUpdate` is what `h265_snapshot_update_gop_cache` can do, `IrapUpdate` is the update of
`last_irap`, and `Built` is what stream `h265_snapshot_build_output` can build.

## Main results

* `snapshotPacks_parses` — parsing changes no more than parameter sets
* `h265SnapshotUpdateGopCache_spec`, `updateLastIrap_spec` — the updates of the frame caches
* `snapshotEnqueue_spec` — what is handed to the writer
-/

namespace LittleCore

open Library World

/-! ### Parsing leaves the frame caches alone -/

/-- The events of mapping packs for a snapshot. -/
def Event.IsMapping : Event → Prop
  | .mmap (.snapshot _) _ | .munmap (.snapshot _) _ | .mmapFailed => True
  | _ => False

namespace H265SnapshotCache

/-- The parameter set caches have their data. -/
def SetsBacked (c : H265SnapshotCache) : Prop := ∀ kind, (c.paramSet kind).Backed

/-- Nothing but parameter sets has changed. -/
def SameFrames (c c' : H265SnapshotCache) : Prop :=
  c' = { c with vps := c'.vps, sps := c'.sps, pps := c'.pps }

theorem SameFrames.refl (c : H265SnapshotCache) : SameFrames c c := rfl

theorem SameFrames.trans {c c' c'' : H265SnapshotCache} (h₁ : SameFrames c c')
    (h₂ : SameFrames c' c'') : SameFrames c c'' := by
  rw [SameFrames, h₂, h₁]

end H265SnapshotCache

open H265SnapshotCache

/-- Code that parses packs into a frame. -/
structure Parses (s s' : H265SnapshotFrame × World) : Prop where
  frames : SameFrames s.2.gH265SnapshotCache s'.2.gH265SnapshotCache
  grows : Grows Event.IsMapping s.2.trace s'.2.trace
  au : s.1.au.Backed → s'.1.au.Backed
  sets : s.2.gH265SnapshotCache.SetsBacked → s'.2.gH265SnapshotCache.SetsBacked

namespace Parses

variable {s s' s'' : H265SnapshotFrame × World}

theorem refl (s : H265SnapshotFrame × World) : Parses s s :=
  ⟨.refl _, Grows.refl _ _, id, id⟩

theorem trans (h₁ : Parses s s') (h₂ : Parses s' s'') : Parses s s'' :=
  ⟨h₁.frames.trans h₂.frames, h₁.grows.trans h₂.grows, h₂.au ∘ h₁.au, h₂.sets ∘ h₁.sets⟩

end Parses

theorem backed_h265AppendAnnexbNalu {dst : H265ByteBuffer} (h : dst.Backed) (alloc₁ alloc₂ : Bool)
    (nalu : List UInt8) : (h265AppendAnnexbNalu alloc₁ alloc₂ dst nalu).2.Backed := by
  rw [h265AppendAnnexbNalu]
  split
  · exact h
  · have hcode : (h265BufferAppendStartCode alloc₁ dst).2.Backed := h.append _ _
    generalize h265BufferAppendStartCode alloc₁ dst = r at hcode
    obtain ⟨_ | _, b⟩ := r
    · exact hcode
    · exact H265ByteBuffer.Backed.append (b := b) hcode _ _

theorem h265SnapshotUpdateParamSet_parses (env : Env) (nalType : Option UInt8)
    (annexbNalu : List UInt8) (s : H265SnapshotFrame × World) :
    Parses s (h265SnapshotUpdateParamSet env nalType annexbNalu s) := by
  rw [h265SnapshotUpdateParamSet]
  cases h265ParamCacheForType nalType with
  | none => exact .refl s
  | some kind =>
    have hset : ∀ (c : H265SnapshotCache) (b : H265ByteBuffer), b.Backed → c.SetsBacked →
        (c.setParamSet b kind).SetsBacked := by
      intro c b hb hc kind'
      have hc' := hc kind'
      rcases kind <;> rcases kind' <;> first | exact hb | exact hc'
    refine ⟨?_, Grows.refl _ _, ?_, hset _ _ (.replace _ _ _)⟩
    · rcases kind <;> rfl
    · rcases kind <;> exact id

theorem h265SnapshotFeedNalu_parses (env : Env) (nalu : List UInt8)
    (s : H265SnapshotFrame × World) : Parses s (h265SnapshotFeedNalu env nalu s).2 := by
  rw [h265SnapshotFeedNalu]
  split
  · exact .refl s
  · dsimp only
    have hframe : Parses s (if h265NaluIsIrap (h265NaluType nalu) then
        { s.1 with hasIrap := true } else s.1, s.2) := by
      split <;> exact ⟨.refl _, Grows.refl _ _, id, id⟩
    generalize (if h265NaluIsIrap (h265NaluType nalu) = true then _ else s.1) = frame at hframe
    split
    · exact hframe
    · have hau := fun h => backed_h265AppendAnnexbNalu (hframe.au h)
        (env.snapshotAlloc s.2.snapshotTick) (env.snapshotAlloc (s.2.snapshotTick + 1)) nalu
      generalize h265AppendAnnexbNalu _ _ frame.au nalu = r at hau
      have happended : Parses s ({ frame with au := r.2 }, s.2.snapshotStep.snapshotStep) :=
        ⟨.refl _, Grows.refl _ _, hau, id⟩
      obtain ⟨_ | _, au⟩ := r
      · exact happended
      · have hset := happended.trans (h265SnapshotUpdateParamSet_parses env (h265NaluType nalu)
          (au.bytes.drop frame.au.len) _)
        dsimp only
        split
        · exact ⟨hset.frames, hset.grows, hset.au, hset.sets⟩
        · exact hset

theorem snapshotPack_parses (env : Env) (pack : MppNaluIpcPack) (s : H265SnapshotFrame × World) :
    Parses s (snapshotPack env pack s).2 := by
  have hbuffer : ∀ (buf : List UInt8) s, Parses s (h265SnapshotFeedBuffer env buf s).2 := by
    intro buf s
    rw [h265SnapshotFeedBuffer]
    split
    · exact .refl s
    · split
      · exact h265SnapshotFeedNalu_parses env buf s
      · have hnalus : Parses s (forEach (h265SnapshotFeedNalu env)
            ((annexbNalus h265FindStartCode buf).map Prod.fst) s).2 :=
          forEach_induct .refl .trans (fun nalu _ t => h265SnapshotFeedNalu_parses env nalu t) s
        dsimp only
        generalize forEach (h265SnapshotFeedNalu env) _ s = r at hnalus
        obtain ⟨_ | _, s'⟩ := r <;> exact hnalus
  have hemit : ∀ (e : Event) (s : H265SnapshotFrame × World), e.IsMapping →
      Parses s (s.1, s.2.snapshotStep.emit e) := fun e s he =>
    ⟨.refl _, Grows.single he _, id, id⟩
  rw [snapshotPack, naluDatafifoMmapPack]
  split_ifs
  · exact ⟨.refl _, Grows.refl _ _, id, id⟩
  · exact ((hemit (.mmap (.snapshot s.2.snapshotTick) pack) s trivial).trans
      (hbuffer pack.bytes _)).trans (hemit (.munmap (.snapshot _) _) _ trivial)
  · exact hemit .mmapFailed s trivial

/-- **Parsing leaves the frame caches alone**, whatever fails. -/
theorem snapshotPacks_parses (env : Env) (packs : List MppNaluIpcPack)
    (s : H265SnapshotFrame × World) : Parses s (forEach (snapshotPack env) packs s).2 :=
  forEach_induct .refl .trans (fun pack _ s => snapshotPack_parses env pack s) s

/-! ### The GOP cache -/

/-- What `h265_snapshot_update_gop_cache` can do, as the content of the caches shows it. `memory`
says that there was memory for the copy. -/
inductive GopUpdate (memory : Prop) (frame : H265SnapshotFrame) (msg : MppNaluIpcMsg)
    (c : H265SnapshotCache) : H265SnapshotCache → Prop
  /-- There is nothing to add. -/
  | empty (hau : frame.au.bytes = []) : GopUpdate memory frame msg c c
  /-- There is no GOP to add to. -/
  | idle (hau : frame.au.bytes ≠ []) (hirap : frame.hasIrap = false)
    (hgop : c.currentGopHasIrap = false) : GopUpdate memory frame msg c c
  /-- The GOP is lost: it would grow too large, or there is no memory for it. -/
  | dropped {gop : H265ByteBuffer} {pts startSeq : UInt64} (hau : frame.au.bytes ≠ [])
    (hgop : gop.bytes = []) (hwhy : memory → h265SnapshotMaxGopBytes <
      (if frame.hasIrap then [] else c.currentGop.bytes).length + frame.au.bytes.length) :
    GopUpdate memory frame msg c { c with
      currentGop := gop, currentGopHasIrap := false, currentGopPts := pts
      currentGopStartSeq := startSeq }
  /-- The access unit begins a GOP or is added to the one there is. -/
  | added {gop : H265ByteBuffer} (hau : frame.au.bytes ≠ [])
    (hhas : frame.hasIrap = true ∨ c.currentGopHasIrap = true)
    (hgop : gop.bytes = (if frame.hasIrap then [] else c.currentGop.bytes) ++ frame.au.bytes)
    (hbacked : gop.Backed) (hsize : gop.len ≤ h265SnapshotMaxGopBytes) :
    GopUpdate memory frame msg c { c with
      currentGop := gop, currentGopHasIrap := true, currentGopLastSeq := msg.seq
      currentGopPts := if frame.hasIrap then msg.framePts else c.currentGopPts
      currentGopStartSeq := if frame.hasIrap then msg.seq else c.currentGopStartSeq }

/-- An access unit is added to a GOP cache that has been seen to, and fits. -/
theorem addToGop_spec (memory : Prop) {frame : H265SnapshotFrame} (msg : MppNaluIpcMsg)
    {c : H265SnapshotCache} {realloc : Bool} (hmemory : memory → realloc = true)
    {gop : H265ByteBuffer} (hau : frame.au.bytes ≠ [])
    (hhas : frame.hasIrap = true ∨ c.currentGopHasIrap = true)
    (hgop : gop.bytes = if frame.hasIrap then [] else c.currentGop.bytes) (hbacked : gop.Backed)
    (hsize : gop.len + frame.au.len ≤ h265SnapshotMaxGopBytes) (pts startSeq : UInt64) :
    let r := h265BufferAppend realloc gop frame.au.bytes
    (r.1 = true → GopUpdate memory frame msg c { c with
      currentGop := r.2, currentGopHasIrap := true, currentGopLastSeq := msg.seq
      currentGopPts := if frame.hasIrap then msg.framePts else c.currentGopPts
      currentGopStartSeq := if frame.hasIrap then msg.seq else c.currentGopStartSeq }) ∧
    (r.1 = false → GopUpdate memory frame msg c { c with
      currentGop := h265BufferReset r.2, currentGopHasIrap := false, currentGopPts := pts
      currentGopStartSeq := startSeq }) := by
  intro r
  have hmax : h265SnapshotMaxGopBytes ≤ sizeMax := by decide
  constructor
  · intro hok
    have hbytes : r.2.bytes = gop.bytes ++ frame.au.bytes := bytes_h265BufferAppend_of_ok hok
    refine .added hau hhas (by rw [hbytes, hgop]) (hbacked.append _ _) ?_
    rw [H265ByteBuffer.len, hbytes, List.length_append]
    exact hsize
  · intro hfail
    refine .dropped hau rfl ?_
    intro hm
    have hok : r.1 = true := by
      obtain rfl := hmemory hm
      exact (h265BufferAppend_ok (hsize.trans hmax)).1
    rw [hfail] at hok
    cases hok

/-- **The GOP cache is updated in one of four ways.** -/
theorem h265SnapshotUpdateGopCache_spec (env : Env) {frame : H265SnapshotFrame}
    (hbacked : frame.au.Backed) (msg : MppNaluIpcMsg) (w : World)
    (hgop : w.gH265SnapshotCache.currentGop.Backed) :
    GopUpdate (∀ n, env.snapshotAlloc n = true) frame msg w.gH265SnapshotCache
      (h265SnapshotUpdateGopCache env frame msg w).gH265SnapshotCache := by
  rw [h265SnapshotUpdateGopCache]
  by_cases hau : frame.au.bytes = []
  · rw [if_pos (by simp [H265ByteBuffer.len, hau])]
    exact .empty hau
  rw [if_neg (by simp [H265ByteBuffer.len, hau, hbacked hau])]
  dsimp only
  by_cases hidle : (!frame.hasIrap && !w.gH265SnapshotCache.currentGopHasIrap) = true
  · rw [if_pos hidle]
    rw [Bool.and_eq_true, Bool.not_eq_true', Bool.not_eq_true'] at hidle
    exact .idle hau hidle.1 hidle.2
  rw [if_neg hidle]
  have hhas : frame.hasIrap = true ∨ w.gH265SnapshotCache.currentGopHasIrap = true := by
    cases hirap : frame.hasIrap with
    | true => exact .inl rfl
    | false => exact .inr (by simpa [hirap] using hidle)
  -- The cache as the access unit finds it: empty, or the GOP that there is.
  obtain ⟨gop, hbegun, hbytes, hgopBacked⟩ : ∃ gop, (if frame.hasIrap then
        { w.gH265SnapshotCache with
          currentGop := h265BufferReset w.gH265SnapshotCache.currentGop
          currentGopHasIrap := true
          currentGopPts := msg.framePts
          currentGopStartSeq := msg.seq }
      else w.gH265SnapshotCache) = { w.gH265SnapshotCache with
        currentGop := gop, currentGopHasIrap := true
        currentGopPts :=
          if frame.hasIrap then msg.framePts else w.gH265SnapshotCache.currentGopPts
        currentGopStartSeq :=
          if frame.hasIrap then msg.seq else w.gH265SnapshotCache.currentGopStartSeq } ∧
      gop.bytes = (if frame.hasIrap then [] else w.gH265SnapshotCache.currentGop.bytes) ∧
      gop.Backed := by
    cases hirap : frame.hasIrap with
    | true => exact ⟨h265BufferReset w.gH265SnapshotCache.currentGop, rfl, rfl, .reset _⟩
    | false =>
      have hthere := hhas.resolve_left (by simp [hirap])
      refine ⟨w.gH265SnapshotCache.currentGop, ?_, rfl, hgop⟩
      rw [if_neg Bool.false_ne_true, if_neg Bool.false_ne_true, if_neg Bool.false_ne_true, ← hthere]
  rw [hbegun]
  dsimp only
  split
  · rename_i hlarge
    refine .dropped hau rfl ?_
    intro _
    rw [← hbytes]
    have hsize : h265SnapshotMaxGopBytes < frame.au.bytes.length ∨
        h265SnapshotMaxGopBytes - frame.au.bytes.length < gop.bytes.length := by
      simpa [H265ByteBuffer.len] using hlarge
    omega
  · rename_i hfits
    simp only [Bool.or_eq_true, decide_eq_true_eq, not_or] at hfits
    obtain ⟨hok, hfail⟩ := addToGop_spec (∀ n, env.snapshotAlloc n = true)
      msg (fun h => h w.snapshotTick) hau hhas hbytes hgopBacked (by omega)
      (if frame.hasIrap then msg.framePts else w.gH265SnapshotCache.currentGopPts)
      (if frame.hasIrap then msg.seq else w.gH265SnapshotCache.currentGopStartSeq)
    generalize h265BufferAppend _ gop frame.au.bytes = r at hok hfail
    obtain ⟨_ | _, gop'⟩ := r
    · exact hfail rfl
    · exact hok rfl

/-! ### The IRAP cache -/

/-- What the update of `last_irap` can do. -/
inductive IrapUpdate (memory : Prop) (frame : H265SnapshotFrame) (msg : MppNaluIpcMsg)
    (c : H265SnapshotCache) : H265SnapshotCache → Prop
  | none (h : frame.au.bytes = [] ∨ frame.hasIrap = false) : IrapUpdate memory frame msg c c
  | copied {irap : H265ByteBuffer} (hau : frame.au.bytes ≠ []) (hirap : frame.hasIrap = true)
    (hbytes : irap.bytes = frame.au.bytes) (hbacked : irap.Backed) :
    IrapUpdate memory frame msg c { c with
      lastIrap := irap, lastIrapPts := msg.framePts, lastIrapSeq := msg.seq
      lastIrapHasVps := frame.hasVps, lastIrapHasSps := frame.hasSps
      lastIrapHasPps := frame.hasPps }
  /-- There was no memory for the copy, and the old one is gone. -/
  | lost {irap : H265ByteBuffer} (hau : frame.au.bytes ≠ []) (hirap : frame.hasIrap = true)
    (hbytes : irap.bytes = []) (hwhy : memory → sizeMax < frame.au.len) :
    IrapUpdate memory frame msg c { c with lastIrap := irap }

theorem updateLastIrap_spec (env : Env) (frame : H265SnapshotFrame) (msg : MppNaluIpcMsg)
    (w : World) :
    IrapUpdate (∀ n, env.snapshotAlloc n = true) frame msg w.gH265SnapshotCache
      (updateLastIrap env frame msg w).gH265SnapshotCache := by
  rw [updateLastIrap]
  split
  · rename_i h
    rw [Bool.and_eq_true, decide_eq_true_eq] at h
    have hau : frame.au.bytes ≠ [] := List.length_pos_iff.mp h.2
    dsimp only
    have hok := @bytes_h265BufferAppend_of_ok (env.snapshotAlloc w.snapshotTick)
      (h265BufferReset w.gH265SnapshotCache.lastIrap) frame.au.bytes
    have hfail := @bytes_h265BufferAppend_of_fail (env.snapshotAlloc w.snapshotTick)
      (h265BufferReset w.gH265SnapshotCache.lastIrap) frame.au.bytes
    have hbacked := H265ByteBuffer.Backed.replace w.gH265SnapshotCache.lastIrap
      (env.snapshotAlloc w.snapshotTick) frame.au.bytes
    have hwhy : env.snapshotAlloc w.snapshotTick = true → frame.au.len ≤ sizeMax →
        (h265BufferReplace (env.snapshotAlloc w.snapshotTick) w.gH265SnapshotCache.lastIrap
          frame.au.bytes).1 = true := by
      intro hmemory hlen
      rw [hmemory]
      exact (h265BufferReplace_ok _ hlen).1
    rw [← h265BufferReplace] at hok hfail
    generalize h265BufferReplace _ w.gH265SnapshotCache.lastIrap frame.au.bytes = r
      at hok hfail hbacked hwhy
    obtain ⟨_ | _, irap⟩ := r
    · refine .lost hau h.1 (hfail rfl) ?_
      intro hmemory
      by_contra hlen
      cases hwhy (hmemory _) (Nat.le_of_not_lt hlen)
    · exact .copied hau h.1 (hok rfl) hbacked
  · rename_i h
    refine .none ?_
    by_cases hirap : frame.hasIrap = true
    · refine .inl (List.length_eq_zero_iff.mp ?_)
      rw [hirap, Bool.true_and, decide_eq_true_eq, H265ByteBuffer.len] at h
      omega
    · exact .inr (Bool.eq_false_iff.mpr hirap)

/-! ### The stream -/

namespace H265SnapshotCache

/-- The three parameter sets, in the order in which they are put in front. -/
def params (c : H265SnapshotCache) : List UInt8 := c.vps.bytes ++ c.sps.bytes ++ c.pps.bytes

def HaveParams (c : H265SnapshotCache) : Prop := ∀ kind, (c.paramSet kind).bytes ≠ []

/-- There is a GOP to take the stream from. -/
def HaveGop (c : H265SnapshotCache) : Prop :=
  c.currentGopHasIrap = true ∧ c.currentGop.bytes ≠ []

/-- The buffers have their data. -/
structure Backed (c : H265SnapshotCache) : Prop where
  sets : c.SetsBacked
  irap : c.lastIrap.Backed
  gop : c.currentGop.Backed

end H265SnapshotCache

/-- A stream that can be built for a message, with the time it is labelled with. -/
inductive Built (c : H265SnapshotCache) (msg : MppNaluIpcMsg) : List UInt8 → UInt64 → Prop
  | gop (hparams : c.HaveParams) (hgop : c.HaveGop) :
    Built c msg (c.params ++ c.currentGop.bytes) c.currentGopPts
  | irap (hparams : c.HaveParams) (hgop : ¬ c.HaveGop) (hirap : c.lastIrap.bytes ≠ []) :
    Built c msg (c.params ++ c.lastIrap.bytes) msg.framePts

/-- The parameter sets stand in front. -/
theorem Built.exists_rest {c : H265SnapshotCache} {msg : MppNaluIpcMsg} {stream : List UInt8}
    {pts : UInt64} (h : Built c msg stream pts) :
    c.HaveParams ∧ ∃ rest, stream = c.params ++ rest := by
  cases h with
  | gop hparams => exact ⟨hparams, _, rfl⟩
  | irap hparams => exact ⟨hparams, _, rfl⟩

theorem Built.stream_eq {c : H265SnapshotCache} {msg : MppNaluIpcMsg} {stream : List UInt8}
    {pts : UInt64} (h : Built c msg stream pts) :
    stream = c.params ++ c.currentGop.bytes ∨ stream = c.params ++ c.lastIrap.bytes := by
  cases h with
  | gop => exact .inl rfl
  | irap => exact .inr rfl

theorem Built.eq_of_haveGop {c : H265SnapshotCache} {msg : MppNaluIpcMsg} {stream : List UInt8}
    {pts : UInt64} (h : Built c msg stream pts) (hgop : c.HaveGop) :
    stream = c.params ++ c.currentGop.bytes ∧ pts = c.currentGopPts := by
  cases h with
  | gop => exact ⟨rfl, rfl⟩
  | irap _ hnone => exact absurd hgop hnone

theorem Built.stream_ne_nil {c : H265SnapshotCache} {msg : MppNaluIpcMsg} {stream : List UInt8}
    {pts : UInt64} (h : Built c msg stream pts) : stream ≠ [] := by
  obtain ⟨hparams, rest, rfl⟩ := h.exists_rest
  have hvps : c.vps.bytes ≠ [] := hparams .vps
  simp [H265SnapshotCache.params, hvps]

theorem h265SnapshotAppendCachedParams_of_ok {alloc : Bool} {out source : H265ByteBuffer}
    (hbacked : source.Backed) (h : (h265SnapshotAppendCachedParams alloc out source).1 = true) :
    (h265SnapshotAppendCachedParams alloc out source).2.bytes = out.bytes ++ source.bytes := by
  rw [h265SnapshotAppendCachedParams, hbacked.hasData_and_len] at h ⊢
  by_cases hne : source.bytes = []
  · simp [hne]
  · rw [if_pos (decide_eq_true hne)] at h ⊢
    exact bytes_h265BufferAppend_of_ok h

/-- The parameter sets are put in front. -/
theorem h265SnapshotAppendParams_of_ok {alloc : ℕ → Bool} {c : H265SnapshotCache}
    {out : H265ByteBuffer} (hbacked : c.SetsBacked)
    (h : (h265SnapshotAppendParams alloc c out).1 = true) :
    (h265SnapshotAppendParams alloc c out).2.bytes = out.bytes ++ c.params := by
  have hvps := @h265SnapshotAppendCachedParams_of_ok (alloc 0) out c.vps (hbacked .vps)
  rw [h265SnapshotAppendParams] at h ⊢
  generalize h265SnapshotAppendCachedParams (alloc 0) out c.vps = r at h hvps ⊢
  obtain ⟨_ | _, b⟩ := r
  · cases h
  have hsps := @h265SnapshotAppendCachedParams_of_ok (alloc 1) b c.sps (hbacked .sps)
  dsimp only at h ⊢
  generalize h265SnapshotAppendCachedParams (alloc 1) b c.sps = r at h hsps ⊢
  obtain ⟨_ | _, b'⟩ := r
  · cases h
  have hb : b.bytes = out.bytes ++ c.vps.bytes := hvps rfl
  have hb' : b'.bytes = b.bytes ++ c.sps.bytes := hsps rfl
  refine (h265SnapshotAppendCachedParams_of_ok (hbacked .pps) h).trans ?_
  rw [hb', hb]
  simp only [H265SnapshotCache.params, H265SnapshotCache.paramSet, List.append_assoc]

theorem haveParams_iff (c : H265SnapshotCache) : (decide (0 < c.vps.len) &&
    decide (0 < c.sps.len) && decide (0 < c.pps.len)) = true ↔ c.HaveParams := by
  simp only [Bool.and_eq_true, decide_eq_true_eq, H265ByteBuffer.len, List.length_pos_iff]
  constructor
  · rintro ⟨⟨hvps, hsps⟩, hpps⟩ kind
    rcases kind
    · exact hvps
    · exact hsps
    · exact hpps
  · exact fun h => ⟨⟨h .vps, h .sps⟩, h .pps⟩

theorem haveGop_iff {c : H265SnapshotCache} (hbacked : c.currentGop.Backed) :
    (c.currentGopHasIrap && c.currentGop.hasData && decide (0 < c.currentGop.len)) = true ↔
      c.HaveGop := by
  rw [Bool.and_assoc, hbacked.hasData_and_len, Bool.and_eq_true, decide_eq_true_eq]
  rfl

/-- **A stream that is built** is the three parameter sets and the GOP, or the last IRAP. -/
theorem h265SnapshotBuildOutput_spec {alloc : ℕ → Bool} {c : H265SnapshotCache}
    (hbacked : c.Backed) (msg : MppNaluIpcMsg) (h : (h265SnapshotBuildOutput alloc c {}).1 = true) :
    Built c msg (h265SnapshotBuildOutput alloc c {}).2.1.bytes
      (if (h265SnapshotBuildOutput alloc c {}).2.2 then c.currentGopPts else msg.framePts) := by
  rw [h265SnapshotBuildOutput] at h ⊢
  dsimp only at h ⊢
  by_cases hparams : c.HaveParams
  · rw [(haveParams_iff c).mpr hparams, if_neg (by decide)] at h ⊢
    have happend := @h265SnapshotAppendParams_of_ok alloc c (h265BufferReset {}) hbacked.sets
    generalize h265SnapshotAppendParams alloc c (h265BufferReset {}) = r at h happend ⊢
    by_cases hgop : c.HaveGop
    · rw [if_pos ((haveGop_iff hbacked.gop).mpr hgop)] at h ⊢
      obtain ⟨_ | _, out⟩ := r
      · cases h
      · have hout : out.bytes = c.params := happend rfl
        have hbytes := bytes_h265BufferAppend_of_ok h
        dsimp only at hbytes ⊢
        rw [hbytes, hout]
        exact .gop hparams hgop
    · rw [if_neg (fun hhas => hgop ((haveGop_iff hbacked.gop).mp hhas)),
        hbacked.irap.hasData_and_len] at h ⊢
      by_cases hirap : c.lastIrap.bytes = []
      · rw [if_neg (by simp [hirap])] at h
        cases h
      · rw [if_pos (decide_eq_true hirap)] at h ⊢
        obtain ⟨_ | _, out⟩ := r
        · cases h
        · have hout : out.bytes = c.params := happend rfl
          have hbytes := bytes_h265BufferAppend_of_ok h
          dsimp only at hbytes ⊢
          rw [hbytes, hout]
          exact .irap hparams hgop hirap
  · rw [Bool.eq_false_iff.mpr (fun hhave => hparams ((haveParams_iff c).mp hhave)),
      if_pos (by decide)] at h
    cases h

/-- **What is handed to the writer**: nothing, or one stream that can be built. -/
theorem snapshotEnqueue_spec (env : Env) (msg : MppNaluIpcMsg) (w : World)
    (hbacked : w.gH265SnapshotCache.Backed) :
    (snapshotEnqueue env msg w).2.gH265SnapshotCache = w.gH265SnapshotCache ∧
      ((snapshotEnqueue env msg w).2.trace = w.trace ∨ ∃ stream pts ok,
        (snapshotEnqueue env msg w).2.trace = w.trace ++ [.enqueue stream pts ok] ∧
        Built w.gH265SnapshotCache msg stream pts) := by
  have hbuilt := @h265SnapshotBuildOutput_spec (fun n => env.snapshotAlloc (w.snapshotTick + n))
    w.gH265SnapshotCache hbacked msg
  rw [snapshotEnqueue]
  dsimp only
  generalize h265SnapshotBuildOutput _ w.gH265SnapshotCache {} = r at hbuilt
  obtain ⟨ok, out, used⟩ := r
  dsimp only
  split
  · exact ⟨rfl, .inl rfl⟩
  · rename_i h
    have hok : ok = true := by
      rcases ok
      · simp at h
      · rfl
    exact ⟨rfl, .inr ⟨_, _, _, rfl, hbuilt hok⟩⟩

end LittleCore

import LittleCore.Snapshot.Runs
import LittleCore.Snapshot.Updates

/-!
# What a snapshot stream begins with

A stream is the three parameter sets and an access unit with an IRAP, with or without others behind
it. The time it is handed over with should be the one of this access unit.

## Main results

* `HandOver.Remembered.begins` — what a stream begins with, and which time it gets
* `snapshotRun_labelled_iff` — when the time is right, by the caches behind a call and by the ones
  before it
-/

namespace LittleCore

open Library World H265SnapshotCache

/-- **The first access unit** of a stream is the last one with an IRAP. A stream from the GOP cache
has its time; one from the IRAP cache has the time of the message it was built for, and that cache
records the time of its content. -/
theorem HandOver.Remembered.begins {h : HandOver} (hr : h.Remembered) :
    ∃ first rest more, sinceIrap (accessUnits h.past) = some (first, rest) ∧
      h.stream = h.cache.params ++ first.bytes ++ more ∧
      (h.cache.HaveGop ∧ h.pts = first.msg.framePts ∨
        ¬ h.cache.HaveGop ∧ h.pts = h.msg.framePts ∧
          h.cache.lastIrapPts = first.msg.framePts) := by
  obtain ⟨msg, past, c, stream, pts⟩ := h
  obtain ⟨hremembers, hbuilt⟩ := hr
  dsimp only at hremembers hbuilt ⊢
  cases hbuilt with
  | gop hparams hgop =>
    rcases hremembers.gop with ⟨hnone, -⟩ | ⟨first, rest, hsince, hgopIs⟩
    · rw [HaveGop, hnone] at hgop
      cases hgop.1
    · refine ⟨first, rest, rest.flatMap (·.bytes), hsince, ?_, .inl ⟨hgop, hgopIs.pts⟩⟩
      rw [hgopIs.bytes, gopBytes, List.append_assoc]
  | irap hparams hgop hirap =>
    rcases hremembers.irap with hempty | ⟨first, rest, hsince, hbytes, hpts⟩
    · exact absurd hempty hirap
    · exact ⟨first, rest, [], hsince, by rw [hbytes, List.append_nil], .inr ⟨hgop, rfl, hpts⟩⟩

/-! ### The label -/

/-- The time is the one of the message whose access unit comes first. -/
def HandOver.LabelledRight (h : HandOver) : Prop :=
  ∃ first rest more, sinceIrap (accessUnits h.past) = some (first, rest) ∧
    h.stream = h.cache.params ++ first.bytes ++ more ∧ h.pts = first.msg.framePts

theorem HandOver.Remembered.labelledRight_iff {h : HandOver} (hr : h.Remembered) :
    h.LabelledRight ↔ h.cache.HaveGop ∨ h.cache.lastIrapPts = h.msg.framePts := by
  obtain ⟨first, rest, more, hsince, hstream, hcases⟩ := hr.begins
  constructor
  · rintro ⟨first', rest', -, hsince', -, hlabel⟩
    rw [hsince] at hsince'
    obtain ⟨rfl, rfl⟩ := Prod.mk.inj (Option.some.inj hsince')
    rcases hcases with ⟨hgop, -⟩ | ⟨-, hpts, hirapPts⟩
    · exact .inl hgop
    · exact .inr (by rw [hirapPts, ← hlabel, hpts])
  · intro hcond
    refine ⟨first, rest, more, hsince, hstream, ?_⟩
    rcases hcases with ⟨-, hpts⟩ | ⟨hgop, hpts, hirapPts⟩
    · exact hpts
    · rw [hpts, ← hcond.resolve_left hgop, hirapPts]

/-! ### Before the call

What the label depends on can be said of the message and of the caches that it finds. -/

/-- The GOP that there is takes the access unit of a frame without an IRAP. -/
def GopTakes (alloc : Bool) (frame : H265SnapshotFrame) (c : H265SnapshotCache) : Prop :=
  c.HaveGop ∧ (frame.au.bytes = [] ∨
    c.currentGop.len + frame.au.len ≤ h265SnapshotMaxGopBytes ∧
      CanReserve alloc c.currentGop.len c.currentGop.cap frame.au.len)

/-- The message brings an IRAP, or it has the time of the last one, or there is a GOP that takes its
access unit. -/
def KeepsLabel (env : Env) (msg : MppNaluIpcMsg) (w : World) : Prop :=
  let frame := (receptionOf env msg w).frame
  let alloc := env.snapshotAlloc (snapshotPacks env msg w).2.2.snapshotTick
  frame.hasIrap = true ∧ frame.au.bytes ≠ [] ∨
    w.gH265SnapshotCache.lastIrapPts = msg.framePts ∨ GopTakes alloc frame w.gH265SnapshotCache

theorem haveGop_updateGopCache_iff (env : Env) {frame : H265SnapshotFrame}
    (hbacked : frame.au.Backed) (hau : frame.au.bytes ≠ []) (hirap : frame.hasIrap = false)
    (msg : MppNaluIpcMsg) {w : World} (hgop : w.gH265SnapshotCache.currentGopHasIrap = true →
      w.gH265SnapshotCache.currentGop.bytes ≠ []) :
    (h265SnapshotUpdateGopCache env frame msg w).gH265SnapshotCache.HaveGop ↔
      GopTakes (env.snapshotAlloc w.snapshotTick) frame w.gH265SnapshotCache := by
  rw [h265SnapshotUpdateGopCache, if_neg (by simp [H265ByteBuffer.len, hau, hbacked hau])]
  dsimp only
  cases hhas : w.gH265SnapshotCache.currentGopHasIrap with
  | false =>
    rw [if_pos (by simp [hirap])]
    exact iff_of_false (by simp [HaveGop, hhas]) (by simp [GopTakes, HaveGop, hhas])
  | true =>
    rw [if_neg (by simp), hirap, if_neg Bool.false_ne_true]
    split
    · rename_i hlarge
      refine iff_of_false (by simp [HaveGop]) ?_
      rintro ⟨-, hnone | ⟨hfits, -⟩⟩
      · exact hau hnone
      · simp only [Bool.or_eq_true, decide_eq_true_eq] at hlarge
        omega
    · rename_i hfits
      simp only [Bool.or_eq_true, decide_eq_true_eq, not_or] at hfits
      have hiff := @h265BufferAppend_iff (env.snapshotAlloc w.snapshotTick)
        w.gH265SnapshotCache.currentGop frame.au.bytes hau
      have hbytes := @bytes_h265BufferAppend_of_ok (env.snapshotAlloc w.snapshotTick)
        w.gH265SnapshotCache.currentGop frame.au.bytes
      generalize h265BufferAppend _ w.gH265SnapshotCache.currentGop frame.au.bytes = r
        at hiff hbytes ⊢
      obtain ⟨_ | _, gop⟩ := r
      · refine iff_of_false (by simp [HaveGop]) ?_
        rintro ⟨-, hnone | ⟨-, hroom⟩⟩
        · exact hau hnone
        · exact Bool.false_ne_true (hiff.mpr hroom)
      · refine iff_of_true ⟨hhas, ?_⟩ ⟨⟨hhas, hgop hhas⟩, .inr ⟨by omega, hiff.mp rfl⟩⟩
        rw [show gop.bytes = _ from hbytes rfl]
        exact List.append_ne_nil_of_right_ne_nil _ hau

theorem gopTakes_iff_of_sameFrames {c c' : H265SnapshotCache} (h : SameFrames c c') (alloc : Bool)
    (frame : H265SnapshotFrame) : GopTakes alloc frame c' ↔ GopTakes alloc frame c := by
  rw [h]
  rfl

theorem GopUpdate.lastIrapPts_eq {memory : Prop} {frame : H265SnapshotFrame} {msg : MppNaluIpcMsg}
    {c c' : H265SnapshotCache} (h : GopUpdate memory frame msg c c') :
    c'.lastIrapPts = c.lastIrapPts := by
  cases h <;> rfl

/-- A GOP that has an IRAP is not empty. -/
theorem Remembers.gop_ne_nil {past : List Reception} {c : H265SnapshotCache}
    (h : Remembers (accessUnits past) c) (hhas : c.currentGopHasIrap = true) :
    c.currentGop.bytes ≠ [] := by
  rcases h.gop with ⟨hnone, -⟩ | ⟨first, rest, hsince, hgop⟩
  · rw [hnone] at hhas
    cases hhas
  · obtain ⟨older, hunits, -⟩ := exists_of_sinceIrap hsince
    have hfirst : first ∈ accessUnits past := by simp [hunits]
    obtain ⟨r, -, -, -, -, hne, -⟩ := mem_accessUnits hfirst
    rw [hgop.bytes, gopBytes]
    exact List.append_ne_nil_of_left_ne_nil hne _

/-- What the updates of the frame caches leave for the label of a stream that can be built then. -/
theorem haveGop_or_iff_of_frame (env : Env) {frame : H265SnapshotFrame} {msg : MppNaluIpcMsg}
    {c : H265SnapshotCache} {w : World} (hau : frame.au.Backed)
    (hgop : w.gH265SnapshotCache.currentGop.Backed) (hsame : SameFrames c w.gH265SnapshotCache)
    (hne : c.currentGopHasIrap = true → c.currentGop.bytes ≠ []) {stream : List UInt8}
    {pts : UInt64} (hbuilt : Built (updateLastIrap env frame msg
      (h265SnapshotUpdateGopCache env frame msg w)).gH265SnapshotCache msg stream pts) :
    ((updateLastIrap env frame msg
        (h265SnapshotUpdateGopCache env frame msg w)).gH265SnapshotCache.HaveGop ∨
      (updateLastIrap env frame msg
        (h265SnapshotUpdateGopCache env frame msg w)).gH265SnapshotCache.lastIrapPts
          = msg.framePts) ↔
      frame.hasIrap = true ∧ frame.au.bytes ≠ [] ∨ c.lastIrapPts = msg.framePts ∨
        GopTakes (env.snapshotAlloc w.snapshotTick) frame c := by
  rw [← gopTakes_iff_of_sameFrames hsame]
  have hpts : w.gH265SnapshotCache.lastIrapPts = c.lastIrapPts := by rw [hsame]
  have hthere : w.gH265SnapshotCache.currentGopHasIrap = true →
      w.gH265SnapshotCache.currentGop.bytes ≠ [] := by
    rw [hsame]
    exact hne
  have hupdate := h265SnapshotUpdateGopCache_spec env hau msg w hgop
  have hlast := updateLastIrap_spec env frame msg (h265SnapshotUpdateGopCache env frame msg w)
  by_cases hempty : frame.au.bytes = []
  · -- Nothing is added anywhere.
    have hkept : h265SnapshotUpdateGopCache env frame msg w = w := by
      rw [h265SnapshotUpdateGopCache, if_pos (by simp [H265ByteBuffer.len, hempty])]
    rw [hkept, updateLastIrap, if_neg (by simp [H265ByteBuffer.len, hempty]), GopTakes, hpts]
    simp only [hempty, ne_eq, not_true_eq_false, and_false, true_or, and_true, false_or]
    exact or_comm
  · cases hirap : frame.hasIrap with
    | true =>
      -- The IRAP cache gets the message's time, or nothing can be built from it.
      refine iff_of_true ?_ (.inl ⟨rfl, hempty⟩)
      generalize (updateLastIrap env frame msg _).gH265SnapshotCache = c'' at hlast hbuilt ⊢
      cases hlast with
      | none hwhy => exact absurd hirap (by simp [hwhy.resolve_left hempty])
      | copied => exact .inr rfl
      | lost _ _ hlost =>
        cases hbuilt with
        | gop _ hgop => exact .inl hgop
        | irap _ _ hirap => exact absurd hlost hirap
    | false =>
      rw [updateLastIrap, if_neg (by simp [hirap]),
        haveGop_updateGopCache_iff env hau hempty hirap msg hthere, hupdate.lastIrapPts_eq, hpts]
      simp only [Bool.false_eq_true, false_and, false_or]
      exact or_comm

/-- **The label before the call.** The caches that a stream is built from are as they should be
exactly if the message and the caches before the call are. -/
theorem haveGop_or_iff_keepsLabel {env : Env} {msg : MppNaluIpcMsg} {past : List Reception}
    {w : World} (hr : Remembers (accessUnits past) w.gH265SnapshotCache)
    {s : List UInt8 × UInt64} (hs : s ∈ handedOver w (datafifoSnapshotProcess env msg w).2) :
    ((datafifoSnapshotProcess env msg w).2.gH265SnapshotCache.HaveGop ∨
        (datafifoSnapshotProcess env msg w).2.gH265SnapshotCache.lastIrapPts = msg.framePts) ↔
      KeepsLabel env msg w := by
  have hflag : msg.flagged = true := by
    by_contra hplain
    rw [datafifoSnapshotProcess, if_pos (by simpa using hplain)] at hs
    simp [handedOver] at hs
  rcases datafifoSnapshotProcess_spec env hr.backed hflag with ⟨-, -, hnone⟩ | ⟨-, hcache, hbuilt⟩
  · rw [hnone] at hs
    cases hs
  · have hparses : Parses ({ copyAu := true }, w) (snapshotPacks env msg w).2 :=
      snapshotPacks_parses env msg.usedPacks _
    have hbuilt := hbuilt s hs
    rw [hcache] at hbuilt ⊢
    exact haveGop_or_iff_of_frame env (hparses.au backed_empty) (backed_snapshotPacks hr.backed).gop
      hparses.frames hr.gop_ne_nil hbuilt

/-- The stream of one call of a run. -/
theorem labelledRight_iff_keepsLabel {env : Env} {calls : List SnapshotCall} {msg : MppNaluIpcMsg}
    {h : HandOver} (hmem : h ∈ handOversOf env msg (snapshotRun env calls).past
      (snapshotRun env calls).world) :
    h.LabelledRight ↔ KeepsLabel env msg (snapshotRun env calls).world := by
  have hrun : h ∈ (snapshotRun env (calls ++ [.process msg])).handOvers :=
    mem_handOvers_iff.mpr ⟨calls, msg, [], rfl, hmem⟩
  rw [((remembers_snapshotRun env _).2 h hrun).labelledRight_iff]
  obtain ⟨hmsg, -, hcache, hs⟩ := mem_handOversOf hmem
  rw [hmsg, hcache]
  exact haveGop_or_iff_keepsLabel (remembers_snapshotRun env calls).1 hs

/-- **When snapshots are labelled with the time of the picture they show.** Either they are built
from a GOP, or the IRAP they are built from is of the time of the message. Before the call this
means that the message brings an IRAP, or has the time of the last one, or that there is a GOP and
takes the access unit. -/
theorem snapshotRun_labelled_iff (env : Env) (calls : List SnapshotCall) :
    ((∀ h ∈ (snapshotRun env calls).handOvers, h.LabelledRight) ↔
      ∀ h ∈ (snapshotRun env calls).handOvers,
        h.cache.HaveGop ∨ h.cache.lastIrapPts = h.msg.framePts) ∧
    ((∀ h ∈ (snapshotRun env calls).handOvers, h.LabelledRight) ↔
      ∀ before msg after, calls = before ++ .process msg :: after →
        handOversOf env msg (snapshotRun env before).past (snapshotRun env before).world ≠ [] →
          KeepsLabel env msg (snapshotRun env before).world) := by
  have hall := (remembers_snapshotRun env calls).2
  refine ⟨forall₂_congr fun h hmem => (hall h hmem).labelledRight_iff, ?_⟩
  constructor
  · intro hright before msg after hcalls hne
    obtain ⟨h, hmem⟩ := List.exists_mem_of_ne_nil _ hne
    exact (labelledRight_iff_keepsLabel hmem).mp
      (hright h (mem_handOvers_iff.mpr ⟨before, msg, after, hcalls, hmem⟩))
  · intro hkeeps h hmem
    obtain ⟨before, msg, after, hcalls, hh⟩ := mem_handOvers_iff.mp hmem
    exact (labelledRight_iff_keepsLabel hh).mpr
      (hkeeps before msg after hcalls (List.ne_nil_of_mem hh))

/-- A slice of `n + 4` bytes. -/
def longSlice (n : ℕ) : List UInt8 := 0x02 :: 0x01 :: 0x01 :: List.replicate n 0x01 ++ [0x01]

@[simp] theorem length_longSlice (n : ℕ) : (longSlice n).length = n + 4 := by
  simp only [longSlice, List.length_append, List.length_cons, List.length_replicate,
    List.length_nil]

theorem type_longSlice (n : ℕ) : h265NaluType (longSlice n) = some 1 := by
  rw [h265NaluType, length_longSlice, if_neg (by omega)]
  exact (by decide : some (naluTypeBits 0x02) = some 1)

theorem storedUnit_longSlice (n : ℕ) : storedUnit (longSlice n) = startCode ++ longSlice n := by
  have hstrip : stripTrailingZeros (longSlice n) = longSlice n :=
    List.rdropWhile_concat_neg _ _ _ (by decide)
  rw [storedUnit, hstrip, length_longSlice, if_neg (by omega)]

theorem fedNalus_longSlice (n : ℕ) : fedNalus (longSlice n) = [longSlice n] := by
  rw [fedNalus, length_longSlice, if_neg (by omega), if_pos (by rfl)]

/-- A GOP that begins with an access unit of 24 bytes and goes on with a long slice. -/
def longCalls (n : ℕ) (h : (longSlice n).length < 2 ^ 32) : List SnapshotCall :=
  [.process (flaggedMsg 7 100 sampleIrapUnit length_sampleIrapUnit),
    .process (flaggedMsg 8 200 (longSlice n) h)]

theorem sampleIrapUnit_received :
    (sinceIrap (accessUnits (snapshotRun {} [.process (flaggedMsg 7 100 sampleIrapUnit)]).past)).map
        (fun p => (p.1.msg.framePts, p.1.bytes.length, p.2.length)) = some (100, 24, 0) ∧
      ∀ kind, ((latest kind (received
        (snapshotRun {} [.process (flaggedMsg 7 100 sampleIrapUnit)]).past)).map
          storedUnit).getD [] ≠ [] := by
  refine ⟨by decide, fun kind => ?_⟩
  rcases kind <;> decide

/-- The access unit of a long slice. -/
theorem reception_longSlice (n : ℕ) (h : (longSlice n).length < 2 ^ 32) (w : World) :
    (receptionOf {} (flaggedMsg 8 200 (longSlice n) h) w).nalus = [longSlice n] ∧
      (receptionOf {} (flaggedMsg 8 200 (longSlice n) h) w).units
        = [⟨flaggedMsg 8 200 (longSlice n) h, startCode ++ longSlice n, false⟩] := by
  obtain ⟨hok, hmapped⟩ := @snapshotPacks_ok {} (fun _ => rfl)
    (flaggedMsg 8 200 (longSlice n) h) (mappable_flaggedMsg h (by simp [longSlice])) w
  have hnalus : (receptionOf {} (flaggedMsg 8 200 (longSlice n) h) w).nalus = [longSlice n] := by
    rw [Reception.nalus, hmapped]
    exact (List.flatMap_singleton ..).trans (fedNalus_longSlice n)
  obtain ⟨hbytes, hirap⟩ := @faithful_receptionOf {} (fun _ => rfl)
    (flaggedMsg 8 200 (longSlice n) h) w
  rw [hnalus, List.flatMap_singleton, storedUnit_longSlice] at hbytes
  rw [hnalus, List.any_cons, List.any_nil, type_longSlice, Bool.or_false] at hirap
  refine ⟨hnalus, ?_⟩
  rw [units_receptionOf_of_ok hok, unitOf]
  change (if (receptionOf {} (flaggedMsg 8 200 (longSlice n) h) w).frame.au.bytes = [] then [] else
    [AccessUnit.mk _ (receptionOf {} (flaggedMsg 8 200 (longSlice n) h) w).frame.au.bytes
      (receptionOf {} (flaggedMsg 8 200 (longSlice n) h) w).frame.hasIrap]) = _
  rw [hbytes, hirap, if_neg (by simp [startCode])]
  rfl

/-- **A GOP that grows too large** is left for the last IRAP, which is handed over with the time of
the message that was too much. -/
theorem longCalls_mislabelled {n : ℕ} (h : (longSlice n).length < 2 ^ 32)
    (hlarge : h265SnapshotMaxGopBytes < 24 + (4 + (n + 4))) :
    ¬ ∀ s ∈ (snapshotRun {} (longCalls n h)).handOvers, s.LabelledRight := by
  have hrun : snapshotRun {} (longCalls n h)
      = (snapshotRun {} [.process (flaggedMsg 7 100 sampleIrapUnit)]).call {}
          (.process (flaggedMsg 8 200 (longSlice n) h)) :=
    snapshotRun_concat {} [.process (flaggedMsg 7 100 sampleIrapUnit)] _
  have hknows := (@knows_snapshotRun {} (fun _ => rfl)
    [.process (flaggedMsg 7 100 sampleIrapUnit)]).1
  obtain ⟨hfirst, hsets⟩ := sampleIrapUnit_received
  generalize snapshotRun {} [.process (flaggedMsg 7 100 sampleIrapUnit)] = r at *
  obtain ⟨⟨first, rest⟩, hsince, heq⟩ := Option.map_eq_some_iff.mp hfirst
  obtain ⟨hpts, hlen, hrest⟩ : first.msg.framePts = 100 ∧ first.bytes.length = 24 ∧ rest = [] := by
    simpa using heq
  obtain ⟨hnalus, hunits⟩ := reception_longSlice n h r.world
  have hflag := flagged_flaggedMsg 8 200 (longSlice n) h
  have hreception : reception {} (flaggedMsg 8 200 (longSlice n) h) r.world
      = [receptionOf {} (flaggedMsg 8 200 (longSlice n) h) r.world] := if_pos hflag
  have hknows' := @Knows.process {} (fun _ => rfl) (flaggedMsg 8 200 (longSlice n) h) _ _ hknows
  have hsince' : sinceIrap (accessUnits (r.past
      ++ reception {} (flaggedMsg 8 200 (longSlice n) h) r.world))
      = some (first, [⟨flaggedMsg 8 200 (longSlice n) h, startCode ++ longSlice n, false⟩]) := by
    rw [hreception, accessUnits_concat, hunits, sinceIrap_concat, if_neg Bool.false_ne_true, hsince,
      hrest]
    rfl
  have hparams : (datafifoSnapshotProcess {} (flaggedMsg 8 200 (longSlice n) h)
      r.world).2.gH265SnapshotCache.HaveParams := by
    intro kind
    have hother : latest kind [longSlice n] = none := by
      rw [latest, List.filter_cons_of_neg, List.filter_nil, List.getLast?_nil]
      rw [type_longSlice]
      rcases kind <;> decide
    rw [hknows'.sets, hreception, received_concat, hnalus, latest_append, hother]
    exact hsets kind
  obtain ⟨s, hs⟩ := @Knows.hands {} (fun _ => rfl) rfl _ _ _ hknows hflag
    (snapshotPacks_ok (fun _ => rfl) (mappable_flaggedMsg h (by simp [longSlice])) _).1 hparams
    (by simp [hsince'])
  have hmem := mem_handOvers_call (by rw [hs]; exact List.mem_singleton_self s)
  rw [← hrun] at hmem
  intro hall
  rcases ((remembers_snapshotRun {} _).2 _ hmem).labelledRight_iff.mp (hall _ hmem) with
    ⟨hhas, -⟩ | hlabel
  · -- The GOP would have to hold both access units.
    rcases hknows'.remembers.gop with ⟨hnone, -⟩ | ⟨first', rest', hsince'', hgop⟩
    · rw [hnone] at hhas
      cases hhas
    · rw [hsince'] at hsince''
      obtain ⟨rfl, rfl⟩ := Prod.mk.inj (Option.some.inj hsince'')
      have hsize := hgop.size
      rw [H265ByteBuffer.len, hgop.bytes, gopBytes] at hsize
      simp [hlen, startCode] at hsize
      omega
  · rcases hknows'.remembers.irap with hempty | ⟨first', rest', hsince'', -, hpts'⟩
    · exact hknows'.keepsIrap (by simp [hsince']) hempty
    · rw [hsince'] at hsince''
      obtain ⟨rfl, rfl⟩ := Prod.mk.inj (Option.some.inj hsince'')
      have htimes : first.msg.framePts = 200 := hpts'.symm.trans hlabel
      rw [hpts] at htimes
      exact absurd htimes (by decide)

/-- An access unit of 24 bytes and a slice of 8 MiB, the most that a pack may have. -/
theorem snapshotRun_mislabelled :
    ¬ ∀ s ∈ (snapshotRun {} (longCalls 8388604 (by rw [length_longSlice]; decide))).handOvers,
      s.LabelledRight :=
  longCalls_mislabelled _ (by decide)

end LittleCore

import LittleCore.Gate.Exact
import LittleCore.Rounds

/-!
# The parameter set caches and the stream

Every NALU is looked at for the caches before anything is decided about sending it, so what the
caches hold should depend on the stream alone. There is one way around it: a NALU that is not sent
completely ends the walk over its pack, and the NALUs behind it are never looked at. If no
parameter set is among them, the caches hold the last set of each kind in the stream, whoever
plays and whatever fails.

## Main results

* `judgeNalu_judged` — deciding about a NALU leaves the caches alone
* `walk_spec` — how far the walk over a pack gets
* `caches_follow_stream` — what the caches hold after a run
-/

namespace LittleCore

open Library World

/-! ### The condition -/

namespace Event

/-- The pack that was mapped for playback. -/
def mappedPack : Event → Option MppNaluIpcPack
  | .mmap (.playback _) pack => some pack
  | _ => none

/-- A NALU of the stream was not sent completely. -/
def isLost : Event → Bool
  | .nalu _ _ false => true
  | _ => false

/-- The NALU that came. -/
def receivedNalu : Event → Option (List UInt8)
  | .received bytes => some bytes
  | _ => none

end Event

/-- The NALU is a parameter set of this kind and fits its cache. -/
def fits (kind : ParamSet) (nalu : List UInt8) : Bool :=
  h265ParamCacheForType (h265NaluType nalu) == some kind &&
    decide (nalu.length ≤ h265ParamSetMaxSize)

/-- The NALUs of a pack. Those of less than two bytes are passed over. -/
def packNalus (pack : MppNaluIpcPack) : List (List UInt8) :=
  (bufferNalus pack.bytes).filter (2 ≤ ·.length)

/-- The NALUs of the pack at hand that have not come yet. -/
def toCome (trace : List Event) : List (List UInt8) :=
  match sinceLast Event.mappedPack trace with
  | some (pack, since) => (packNalus pack).drop (since.filterMap Event.receivedNalu).length
  | none => []

/-- Whenever a NALU of the stream is not sent completely, no parameter set that fits its cache
stands behind it in its pack. -/
def SkipsNoSet (trace : List Event) : Prop :=
  ∀ before dest nalu after, trace = before ++ .nalu dest nalu false :: after →
    ∀ set ∈ toCome before, ∀ kind, fits kind set = false

/-- What holds of a trace holds up to any point of it. -/
theorem SkipsNoSet.of_prefix {l l' : List Event} (h : SkipsNoSet l') (hl : l <+: l') :
    SkipsNoSet l := by
  obtain ⟨d, rfl⟩ := hl
  intro before dest nalu after htrace
  exact h before dest nalu (after ++ d) (by rw [htrace, List.append_assoc, List.cons_append])

/-- The condition, entry by entry. -/
theorem skipsNoSet_iff {l : List Event} : SkipsNoSet l ↔ ∀ k < l.length,
    ∀ set ∈ (if l[k]?.any Event.isLost then toCome (l.take k) else []),
      fits .vps set = false ∧ fits .sps set = false ∧ fits .pps set = false := by
  constructor
  · intro h k hk set hset
    rw [List.getElem?_eq_getElem hk, Option.any_some] at hset
    split at hset
    · rename_i hlost
      have hsplit := (List.take_append_drop k l).symm
      rw [List.drop_eq_getElem_cons hk] at hsplit
      cases he : l[k] with
      | nalu dest nalu ok =>
        rw [he] at hlost hsplit
        obtain rfl : ok = false := by
          rcases ok
          · rfl
          · cases hlost
        have hnone := h _ dest nalu _ hsplit set hset
        exact ⟨hnone .vps, hnone .sps, hnone .pps⟩
      | _ =>
        rw [he] at hlost
        cases hlost
    · simp at hset
  · rintro h before dest nalu after rfl set hset kind
    have hat := h before.length (by simp) set (by simpa [Event.isLost] using hset)
    rcases kind
    · exact hat.1
    · exact hat.2.1
    · exact hat.2.2

instance (l : List Event) : Decidable (SkipsNoSet l) := decidable_of_iff _ skipsNoSet_iff.symm

/-- What is to come inside a pack. -/
theorem toCome_of_mapped {l since : List Event} {n : ℕ} {pack : MppNaluIpcPack}
    (hsince : ∀ e ∈ since, e.mappedPack = none) :
    toCome (l ++ .mmap (.playback n) pack :: since)
      = (packNalus pack).drop (since.filterMap Event.receivedNalu).length := by
  have hlast : sinceLast Event.mappedPack (l ++ .mmap (.playback n) pack :: since)
      = some (pack, since) := by
    induction since using List.reverseRecOn with
    | nil => exact sinceLast_concat_of_some (f := Event.mappedPack) rfl l
    | append_singleton since e ih =>
      have he := hsince e (by simp)
      rw [← List.cons_append, ← List.append_assoc, sinceLast_concat_of_none he,
        ih fun e' he' => hsince e' (List.mem_append_left _ he')]
      rfl
  rw [toCome, hlast]

/-! ### What the stream asks for -/

theorem storeSet_of_short (cache : ParamSet → Option (List UInt8)) {nalu : List UInt8}
    (h : ¬ 2 ≤ nalu.length) : storeSet cache nalu = cache := by
  rw [storeSet, h265NaluType, if_pos (by omega)]
  rfl

/-- A NALU that fits no cache changes none. -/
theorem storeSet_of_not_fits (cache : ParamSet → Option (List UInt8)) {nalu : List UInt8}
    (h : ∀ kind, fits kind nalu = false) : storeSet cache nalu = cache := by
  rw [storeSet]
  split
  · rfl
  · rename_i kind hkind
    have hfits := h kind
    rw [fits, hkind, beq_self_eq_true, Bool.true_and, decide_eq_false_iff_not] at hfits
    rw [if_pos (by omega)]

theorem storeSet_apply (cache : ParamSet → Option (List UInt8)) (nalu : List UInt8)
    (kind : ParamSet) :
    storeSet cache nalu kind = if fits kind nalu then some nalu else cache kind := by
  rw [storeSet, fits]
  cases h265ParamCacheForType (h265NaluType nalu) with
  | none => rfl
  | some kind' =>
    by_cases hsize : nalu.length ≤ h265ParamSetMaxSize
    · rw [decide_eq_true hsize, Bool.and_true]
      dsimp only
      rw [if_neg (by omega), Function.update_apply]
      by_cases hkind : kind = kind'
      · rw [if_pos hkind, hkind, if_pos (beq_self_eq_true _)]
      · rw [if_neg hkind, if_neg fun h => hkind (Option.some.inj (eq_of_beq h)).symm]
    · rw [decide_eq_false hsize, Bool.and_false]
      dsimp only
      rw [if_pos (by omega)]
      rfl

/-- The caches after a stream hold the last set of each kind. -/
theorem setsOf_apply (nalus : List (List UInt8)) (kind : ParamSet) :
    setsOf nalus kind = (nalus.filter (fits kind)).getLast? := by
  induction nalus using List.reverseRecOn with
  | nil => rfl
  | append_singleton nalus nalu ih =>
    rw [setsOf, List.foldl_concat, ← setsOf, storeSet_apply, ih, List.filter_append]
    cases hfits : fits kind nalu <;> simp [hfits]

/-- Short NALUs can be left out. -/
theorem foldl_storeSet_filter (nalus : List (List UInt8)) (cache : ParamSet → Option (List UInt8)) :
    (nalus.filter (2 ≤ ·.length)).foldl storeSet cache = nalus.foldl storeSet cache := by
  induction nalus generalizing cache with
  | nil => rfl
  | cons nalu nalus ih =>
    by_cases hlen : 2 ≤ nalu.length
    · rw [List.filter_cons_of_pos (by simpa using hlen), List.foldl_cons, List.foldl_cons, ih]
    · rw [List.filter_cons_of_neg (by simpa using hlen), List.foldl_cons,
        storeSet_of_short cache hlen, ih]

theorem foldl_storeSet_of_not_fits {nalus : List (List UInt8)}
    (h : ∀ nalu ∈ nalus, 2 ≤ nalu.length → ∀ kind, fits kind nalu = false)
    (cache : ParamSet → Option (List UInt8)) : nalus.foldl storeSet cache = cache := by
  induction nalus generalizing cache with
  | nil => rfl
  | cons nalu nalus ih =>
    have hstep : storeSet cache nalu = cache := by
      by_cases hlen : 2 ≤ nalu.length
      · exact storeSet_of_not_fits cache (h nalu (List.mem_cons_self ..) hlen)
      · exact storeSet_of_short cache hlen
    rw [List.foldl_cons, hstep]
    exact ih (fun n hn => h n (List.mem_cons_of_mem _ hn)) cache

/-! ### Deciding about a NALU -/

/-- The events of deciding about a NALU. -/
def Event.IsJudging : Event → Prop
  | .rtsp .. | .needs _ | .parameterSet .. | .marked | .idrFound | .nalu .. | .sendto .. => True
  | _ => False

/-- Code that decides about a NALU: no cache changes, no NALU comes and no pack is mapped. -/
structure World.Judges (w w' : World) : Prop where
  grows : Grows Event.IsJudging w.trace w'.trace
  cache : w'.cache = w.cache

namespace World.Judges

variable {w w' w'' : World}

theorem refl (w : World) : Judges w w := ⟨Grows.refl _ _, rfl⟩

theorem trans (h₁ : Judges w w') (h₂ : Judges w' w'') : Judges w w'' :=
  ⟨h₁.grows.trans h₂.grows, h₂.cache.trans h₁.cache⟩

theorem emit (e : Event) (h : e.IsJudging) (w : World) : Judges w (w.emit e) :=
  ⟨Grows.single h _, rfl⟩

theorem of_sends {env : Env} {dest : SockAddrIn} (h : Sends env dest w w') : Judges w w' := by
  refine ⟨h.grows.mono fun e he => ?_, h.cache_eq⟩
  rcases e <;> trivial

theorem schedule (env : Env) (w : World) : Judges w (w.schedule env) :=
  of_sends (sends_schedule env ⟨0, 0⟩ w)

end World.Judges

/-- The result of deciding: where it is `false`, the send of the NALU failed just before. -/
structure Judged (dest : SockAddrIn) (nalu : List UInt8) (w : World) (r : Bool × World) : Prop where
  judges : Judges w r.2
  failed : r.1 = false → ∃ v, Judges w v ∧ r.2 = v.emit (.nalu dest nalu false)

theorem sendNaluForPlayback_judged (env : Env) (dest : SockAddrIn) (nalu : List UInt8)
    (timestamp ssrc : UInt32) (marker : UInt8) (w : World) :
    Judged dest nalu w (sendNaluForPlayback env dest nalu timestamp ssrc marker w) := by
  have hsends : Judges w (sendH265NaluRtp env dest nalu timestamp ssrc marker w).2 :=
    .of_sends (sendH265NaluRtp_sends ..)
  rw [sendNaluForPlayback]
  refine ⟨hsends.trans (.emit (.nalu ..) trivial _), fun hfail => ⟨_, hsends, ?_⟩⟩
  exact congrArg (fun ok => World.emit _ (.nalu dest nalu ok)) hfail

theorem Judged.after {dest : SockAddrIn} {nalu : List UInt8} {w v : World} {r : Bool × World}
    (h : Judges w v) (hr : Judged dest nalu v r) : Judged dest nalu w r := by
  refine ⟨h.trans hr.judges, fun hfail => ?_⟩
  obtain ⟨u, hu, heq⟩ := hr.failed hfail
  exact ⟨u, h.trans hu, heq⟩

theorem Judged.done {dest : SockAddrIn} {nalu : List UInt8} {w v : World} (h : Judges w v) :
    Judged dest nalu w (true, v) := ⟨h, by simp⟩

theorem passIdrGate_judged (env : Env) (dest : SockAddrIn) (nalu : List UInt8)
    (timestamp ssrc : UInt32) (marker : UInt8) (w : World) :
    Judged dest nalu w (passIdrGate env dest nalu timestamp ssrc marker w) := by
  have hopen : Judges w ({ w with waitForIdr := false }.emit .idrFound) :=
    ⟨Grows.single trivial _, rfl⟩
  rw [passIdrGate]
  split
  · split
    · exact .done (.refl w)
    · exact .after hopen (sendNaluForPlayback_judged ..)
  · exact sendNaluForPlayback_judged ..

/-- **Deciding about a NALU leaves the caches alone.** -/
theorem judgeNalu_judged (env : Env) (dest : SockAddrIn) (timestamp ssrc : UInt32)
    (nalu : List UInt8) (marker : UInt8) (w : World) :
    Judged dest nalu w (judgeNalu env dest timestamp ssrc nalu marker w) := by
  have hneeds : Judges w (rtspSessionNeedsParameterSets env w).2 :=
    (Judges.schedule env w).trans (.emit (.needs _) trivial _)
  have hsets : ∀ v, Judges v (sendCachedParameterSets env dest timestamp ssrc v).2 := by
    intro v
    rw [sendCachedParameterSets]
    split
    · exact .refl v
    · exact forEach_induct (R := Judges) .refl .trans (fun kind _ u =>
        (Judges.of_sends (sendH265NaluRtp_sends ..)).trans (.emit (.parameterSet ..) trivial _)) v
  have hmarked : ∀ v, Judges v { rtspMarkParameterSetsSent env v with waitForIdr := true } := by
    intro v
    have hclear : ∀ u : World, Judges u { { u with rtsp :=
        { u.rtsp with gNeedParameterSets := false } }.emit .marked with waitForIdr := true } :=
      fun u => ⟨Grows.single trivial _, rfl⟩
    exact (Judges.schedule env v).trans (hclear _)
  rw [judgeNalu]
  generalize rtspSessionNeedsParameterSets env w = r at hneeds
  obtain ⟨_ | _, v⟩ := r
  · exact .after hneeds (passIdrGate_judged ..)
  · have hv := hneeds.trans (hsets v)
    dsimp only
    generalize sendCachedParameterSets env dest timestamp ssrc v = r at hv
    obtain ⟨_ | _, u⟩ := r
    · exact .done hv
    · exact .after (hv.trans (hmarked u)) (passIdrGate_judged ..)

/-! ### The walk over a pack -/

/-- The NALUs have been walked over. -/
structure World.Walks (nalus : List (List UInt8)) (w w' : World) : Prop where
  trace : ∃ d, w'.trace = w.trace ++ d ∧ (∀ e ∈ d, e.mappedPack = none) ∧
    d.filterMap Event.receivedNalu = nalus.filter (2 ≤ ·.length)
  cache : w'.cache = nalus.foldl storeSet w.cache

namespace World.Walks

variable {nalus nalus' : List (List UInt8)} {w w' w'' : World}

theorem refl (w : World) : Walks [] w w := ⟨⟨[], by simp⟩, rfl⟩

theorem trans (h₁ : Walks nalus w w') (h₂ : Walks nalus' w' w'') :
    Walks (nalus ++ nalus') w w'' := by
  obtain ⟨d, hd, hmapped, hreceived⟩ := h₁.trace
  obtain ⟨d', hd', hmapped', hreceived'⟩ := h₂.trace
  refine ⟨⟨d ++ d', ?_, fun e he => ?_, ?_⟩, ?_⟩
  · rw [hd', hd, List.append_assoc]
  · exact (List.mem_append.mp he).elim (hmapped e) (hmapped' e)
  · rw [List.filterMap_append, hreceived, hreceived', List.filter_append]
  · rw [h₂.cache, h₁.cache, List.foldl_append]

theorem judges (h₁ : Walks nalus w w') (h₂ : Judges w' w'') : Walks nalus w w'' := by
  obtain ⟨d, hd, hjudging⟩ := h₂.grows
  have hrest : Walks [] w' w'' := by
    refine ⟨⟨d, hd, fun e he => ?_, List.filterMap_eq_nil_iff.mpr fun e he => ?_⟩, h₂.cache⟩ <;>
      have := hjudging e he <;> rcases e <;> first | rfl | exact this.elim
  rw [← List.append_nil nalus]
  exact h₁.trans hrest

end World.Walks

/-- A NALU is copied into its cache, unless it is there already. -/
theorem h265CacheParameterSet_stores {env : Env} (hmalloc : ∀ n, env.malloc n = true)
    {nalu : List UInt8} (hlen : 2 ≤ nalu.length) (w : World) :
    (h265CacheParameterSet env nalu w).cache = storeSet w.cache nalu ∧
      ((h265CacheParameterSet env nalu w).trace = w.trace ∨ ∃ kind,
        (h265CacheParameterSet env nalu w).trace = w.trace ++ [.cached kind nalu]) := by
  rw [h265CacheParameterSet, if_neg (by omega), storeSet]
  cases h265ParamCacheForType (h265NaluType nalu) with
  | none => exact ⟨rfl, .inl rfl⟩
  | some kind =>
    dsimp only
    split
    · exact ⟨rfl, .inl rfl⟩
    · split
      · rename_i hsame
        exact ⟨(Function.update_eq_self_iff.mpr hsame.symm).symm, .inl rfl⟩
      · rw [if_pos (hmalloc _)]
        refine ⟨cache_setCache { w with tick := w.tick + 1 } nalu kind, .inr ⟨kind, ?_⟩⟩
        rcases kind <;> rfl

theorem receive_walks {env : Env} (hmalloc : ∀ n, env.malloc n = true) {nalu : List UInt8}
    (hlen : 2 ≤ nalu.length) (w : World) :
    Walks [nalu] w (h265CacheParameterSet env nalu (w.emit (.received nalu))) := by
  obtain ⟨hcache, htrace⟩ := h265CacheParameterSet_stores hmalloc hlen (w.emit (.received nalu))
  refine ⟨?_, hcache⟩
  rcases htrace with htrace | ⟨kind, htrace⟩
  · exact ⟨[.received nalu], htrace, by simp [Event.mappedPack],
      by simp [Event.receivedNalu, hlen]⟩
  · refine ⟨[.received nalu, .cached kind nalu], ?_, by simp [Event.mappedPack],
      by simp [Event.receivedNalu, hlen]⟩
    rw [htrace]
    exact List.append_assoc ..

/-- One NALU. Where the result is `false`, its send failed just before. -/
theorem datafifoProcessNaluForPlayback_walks {env : Env} (hmalloc : ∀ n, env.malloc n = true)
    (dest : SockAddrIn) (timestamp ssrc : UInt32) (canSend : Bool) (nalu : List UInt8)
    (marker : UInt8) (w : World) :
    let r := datafifoProcessNaluForPlayback env dest timestamp ssrc canSend nalu marker w
    Walks [nalu] w r.2 ∧
      (r.1 = false → ∃ v, Walks [nalu] w v ∧ r.2 = v.emit (.nalu dest nalu false)) := by
  intro r
  by_cases hlen : 2 ≤ nalu.length
  · have hreceive := receive_walks hmalloc hlen w
    have hr : r = if canSend then judgeNalu env dest timestamp ssrc nalu marker
          (h265CacheParameterSet env nalu (w.emit (.received nalu)))
        else (true, h265CacheParameterSet env nalu (w.emit (.received nalu))) :=
      datafifoProcessNaluForPlayback_eq env dest timestamp ssrc canSend hlen marker w
    rw [hr]
    split
    · obtain ⟨hjudges, hfailed⟩ := judgeNalu_judged env dest timestamp ssrc nalu marker
        (h265CacheParameterSet env nalu (w.emit (.received nalu)))
      refine ⟨hreceive.judges hjudges, fun hfail => ?_⟩
      obtain ⟨v, hv, heq⟩ := hfailed hfail
      exact ⟨v, hreceive.judges hv, heq⟩
    · exact ⟨hreceive, by simp⟩
  · have hr : r = (true, w) := if_pos (by omega)
    rw [hr]
    refine ⟨⟨⟨[], by simp [hlen]⟩, ?_⟩, by simp⟩
    exact (storeSet_of_short w.cache hlen).symm

/-- **How far the walk over a pack gets.** Either it has gone over all NALUs, or over those up to
the first one whose send failed. -/
theorem walk_spec {env : Env} (hmalloc : ∀ n, env.malloc n = true) (dest : SockAddrIn)
    (timestamp ssrc : UInt32) (canSend : Bool) (nalus : List (List UInt8 × UInt8)) (w : World) :
    let r := forEach (fun p w =>
      datafifoProcessNaluForPlayback env dest timestamp ssrc canSend p.1 p.2 w) nalus w
    Walks (nalus.map Prod.fst) w r.2 ∨ ∃ done rest nalu v,
      nalus.map Prod.fst = done ++ rest ∧ Walks done w v ∧
        r.2 = v.emit (.nalu dest nalu false) := by
  induction nalus generalizing w with
  | nil => exact .inl (.refl w)
  | cons p nalus ih =>
    obtain ⟨hwalks, hfailed⟩ := datafifoProcessNaluForPlayback_walks hmalloc dest timestamp ssrc
      canSend p.1 p.2 w
    intro r
    cases hok : (datafifoProcessNaluForPlayback env dest timestamp ssrc canSend p.1 p.2 w).1 with
    | true =>
      have hr : r = _ := forEach_cons_of_ok hok
      rw [hr]
      rcases ih (datafifoProcessNaluForPlayback env dest timestamp ssrc canSend p.1 p.2 w).2 with
        hall | ⟨done, rest, nalu, v, hsplit, hdone, heq⟩
      · exact .inl (hwalks.trans hall)
      · exact .inr ⟨p.1 :: done, rest, nalu, v, by rw [List.map_cons, hsplit, List.cons_append],
          hwalks.trans hdone, heq⟩
    | false =>
      have hr : r = _ := forEach_cons_of_fail hok
      obtain ⟨v, hv, heq⟩ := hfailed hok
      rw [hr]
      exact .inr ⟨[p.1], nalus.map Prod.fst, p.1, v, rfl, hv, heq⟩

/-! ### Packs, messages and runs -/

/-- The playback path only adds to the trace. -/
theorem trace_rule (env : Env) (dest : SockAddrIn) (timestamp : UInt32) :
    PlaybackRule env dest timestamp (fun w w' => w.trace <+: w'.trace) := by
  have hgrows : ∀ {P : Event → Prop} {l l' : List Event}, Grows P l l' → l <+: l' := by
    rintro P l l' ⟨d, rfl, -⟩
    exact List.prefix_append l d
  exact ⟨List.IsPrefix.trans, fun nalu marker w => hgrows (sendH265NaluRtp_sends ..).grows,
    fun h => hgrows h.grows⟩

section

variable {env : Env} (hmalloc : ∀ n, env.malloc n = true) (hmmap : ∀ n, env.mmap n = true)

include hmalloc hmmap

/-- A pack that skips no set is seen by the caches as a whole. -/
theorem datafifoProcessPackForPlayback_cache {pack : MppNaluIpcPack} (hphys : pack.physAddr ≠ 0)
    (hlen : pack.len ≠ 0) (dest : SockAddrIn) (timestamp : UInt32) (marker : UInt8)
    (canSend : Bool) (w : World) (hskips : SkipsNoSet
      (datafifoProcessPackForPlayback env dest pack timestamp rtpSsrc marker canSend w).2.trace) :
    (datafifoProcessPackForPlayback env dest pack timestamp rtpSsrc marker canSend w).2.cache
      = (bufferNalus pack.bytes).foldl storeSet w.cache := by
  have hmapped : ∀ v : World, naluDatafifoMmapPack (env.mmap w.tick) (.playback w.tick) pack v
      = (some (.playback w.tick), v.emit (.mmap (.playback w.tick) pack)) := by
    intro v
    rw [naluDatafifoMmapPack, if_neg (by simp [hphys, hlen]), if_pos (hmmap _)]
  rw [datafifoProcessPackForPlayback, hmapped] at hskips ⊢
  dsimp only at hskips ⊢
  have hwalk := walk_spec hmalloc dest timestamp rtpSsrc canSend (playbackNalus pack.bytes marker)
    (World.emit { w with tick := w.tick + 1 } (.mmap (.playback w.tick) pack))
  rw [map_fst_playbackNalus] at hwalk
  rw [datafifoProcessH265BufferForPlayback] at hskips ⊢
  generalize forEach _ (playbackNalus pack.bytes marker) _ = r at hskips hwalk ⊢
  change r.2.cache = _
  rcases hwalk with hall | ⟨done, rest, nalu, v, hsplit, hdone, heq⟩
  · exact hall.cache
  · obtain ⟨d, hd, hnone, hreceived⟩ := hdone.trace
    have hcome : toCome v.trace = rest.filter (2 ≤ ·.length) := by
      have htrace : v.trace = w.trace ++ .mmap (.playback w.tick) pack :: d := by
        rw [hd]
        exact List.append_assoc ..
      rw [htrace, toCome_of_mapped hnone, hreceived, packNalus, hsplit, List.filter_append,
        List.drop_left']
      rfl
    have hfailed : SkipsNoSet (v.trace ++ [.nalu dest nalu false]) := by
      refine hskips.of_prefix ?_
      change _ <+: r.2.trace ++ [_]
      rw [heq]
      exact List.prefix_append _ _
    have hrest : ∀ set ∈ rest, 2 ≤ set.length → ∀ kind, fits kind set = false := by
      intro set hset hlong
      refine hfailed v.trace dest nalu [] rfl set ?_
      rw [hcome]
      exact List.mem_filter.mpr ⟨hset, by simpa using hlong⟩
    have hcache : r.2.cache = v.cache := by rw [heq]; rfl
    rw [hcache, hdone.cache, hsplit, List.foldl_append, foldl_storeSet_of_not_fits hrest]
    rfl

theorem playbackPacks_cache {msg : MppNaluIpcMsg} (hvalid : naluDatafifoValidateMsg msg)
    (dest : SockAddrIn) (canSend : Bool) (w : World)
    (hskips : SkipsNoSet (playbackPacks env dest canSend msg w).2.trace) :
    (playbackPacks env dest canSend msg w).2.cache = (messageNalus msg).foldl storeSet w.cache := by
  have hloop : ∀ (packs : List (MppNaluIpcPack × ℕ)),
      (∀ p ∈ packs, p.1.physAddr ≠ 0 ∧ p.1.len ≠ 0) → ∀ s : Bool × World,
      let r := packs.foldl (playbackPack env dest w.timestamp canSend msg.packCnt.toNat) s
      s.2.trace <+: r.2.trace ∧ (SkipsNoSet r.2.trace → r.2.cache =
        (packs.flatMap fun p => bufferNalus p.1.bytes).foldl storeSet s.2.cache) := by
    intro packs
    induction packs with
    | nil => exact fun _ s => ⟨List.prefix_rfl, fun _ => rfl⟩
    | cons p packs ih =>
      intro hpacks s
      obtain ⟨hphys, hlen⟩ := hpacks p (List.mem_cons_self ..)
      obtain ⟨hbefore, hcache⟩ := ih (fun q hq => hpacks q (List.mem_cons_of_mem _ hq))
        (playbackPack env dest w.timestamp canSend msg.packCnt.toNat s p)
      have hpack := (trace_rule env dest w.timestamp).datafifoProcessPackForPlayback canSend p.1
        (if p.2 + 1 = msg.packCnt.toNat then 1 else 0) s.2
      refine ⟨hpack.trans hbefore, fun hskips => ?_⟩
      have hfirst := datafifoProcessPackForPlayback_cache hmalloc hmmap hphys hlen dest w.timestamp
        (if p.2 + 1 = msg.packCnt.toNat then 1 else 0) canSend s.2 (hskips.of_prefix hbefore)
      rw [List.foldl_cons, hcache hskips, List.flatMap_cons, List.foldl_append, ← hfirst]
      rfl
  have hmapped : ∀ p ∈ msg.usedPacks.zipIdx, p.1.physAddr ≠ 0 ∧ p.1.len ≠ 0 := fun p hp =>
    mappable_of_valid hvalid p.1 (List.fst_mem_of_mem_zipIdx hp)
  rw [messageNalus, foldl_storeSet_filter, playbackPacks,
    (hloop msg.usedPacks.zipIdx hmapped (false, w)).2 hskips, ← List.zipIdx_map_fst 0 msg.usedPacks,
    List.flatMap_map, List.zipIdx_map_fst]

theorem processMessage_cache {msg : MppNaluIpcMsg} (hvalid : naluDatafifoValidateMsg msg)
    (dest : SockAddrIn) (canSend needParameterSets : Bool) (w : World)
    (hskips : SkipsNoSet (processMessage env msg dest canSend needParameterSets w).trace) :
    (processMessage env msg dest canSend needParameterSets w).cache
      = (messageNalus msg).foldl storeSet w.cache := by
  have hsnap : (if msg.flagged then datafifoSnapshotProcess env msg w else (true, w)).2.cache
      = w.cache := by
    split
    · rw [(datafifoSnapshotProcess_snapshots env msg w).frame]
      rfl
    · rfl
  have hpacks := playbackPacks_cache hmalloc hmmap hvalid dest canSend
    (if msg.flagged then datafifoSnapshotProcess env msg w else (true, w)).2
  rw [hsnap] at hpacks
  rw [processMessage] at hskips ⊢
  dsimp only at hskips ⊢
  generalize playbackPacks env dest canSend msg _ = packs at hpacks hskips
  have hcache : ∀ (v : World) lastSeq frameCount force,
      (logDatafifoStats msg lastSeq frameCount force v).cache = v.cache := fun _ _ _ _ => rfl
  refine Eq.trans ?_ (hpacks (hskips.of_prefix ?_))
  · rw [hcache]
    split <;> exact cache_congr rfl rfl rfl
  · obtain ⟨logged, htrace, -⟩ := logDatafifoStats_trace msg _ _ _ _
    rw [htrace]
    refine ⟨[.stats _ logged], congrArg (· ++ _) ?_⟩
    split <;> rfl

theorem handleMessage_cache (msg : MppNaluIpcMsg) (dest : SockAddrIn)
    (canSend needParameterSets : Bool) (w : World)
    (hskips : SkipsNoSet (handleMessage env msg dest canSend needParameterSets w).trace) :
    (handleMessage env msg dest canSend needParameterSets w).cache
      = if accepts w.lastReadSeq msg then (messageNalus msg).foldl storeSet w.cache
        else w.cache := by
  by_cases haccepts : accepts w.lastReadSeq msg
  · obtain ⟨hvalid, hfresh⟩ := Bool.and_eq_true_iff.mp haccepts
    rw [handleMessage, if_pos hvalid, if_neg (by simpa using hfresh)] at hskips ⊢
    rw [if_pos haccepts, processMessage_cache hmalloc hmmap hvalid dest canSend _ _ hskips]
    rfl
  · rw [if_neg haccepts, handleMessage_of_not_accepts _ _ _ _ _ (Bool.not_eq_true _ ▸ haccepts)]

theorem datafifoRound_cache (item : Item) (w : World)
    (hskips : SkipsNoSet (datafifoRound env item w).trace) :
    (datafifoRound env item w).cache
      = if accepts w.lastReadSeq item.msg then (messageNalus item.msg).foldl storeSet w.cache
        else w.cache := by
  have hsched := sends_schedule env ⟨0, 0⟩ (w.emit (.read item))
  have hcache : (getRtspTarget env (w.emit (.read item))).2.cache = w.cache := hsched.cache_eq
  have hlast : (getRtspTarget env (w.emit (.read item))).2.lastReadSeq = w.lastReadSeq := by
    change ((w.emit (.read item)).schedule env).lastReadSeq = _
    rw [hsched.frame]
    rfl
  rw [datafifoRound] at hskips ⊢
  generalize getRtspTarget env _ = target at hcache hlast hskips
  rw [← hcache, ← hlast]
  exact handleMessage_cache hmalloc hmmap item.msg target.1.2.1 (target.1.1 && target.1.2.2.1)
    target.1.2.2.2 target.2 (hskips.of_prefix (List.prefix_append _ _))

end

/-- The NALUs of the messages that are valid and not stale; the state is the number of the last
one of these. -/
def streamStep (lastReadSeq : UInt64) (item : Item) : List (List UInt8) × UInt64 :=
  if accepts lastReadSeq item.msg then (messageNalus item.msg, item.msg.seq)
  else ([], lastReadSeq)

def streamNalus (items : List Item) : List (List UInt8) := (transduce streamStep 0 items).1

theorem lastReadSeq_run (env : Env) (inputs : List Input) :
    (datafifoRtpSenderLoop env inputs {}).lastReadSeq
      = (transduce streamStep 0 (itemsOf inputs)).2 := by
  induction inputs using List.reverseRecOn with
  | nil => rfl
  | append_singleton inputs input ih =>
    rw [datafifoRtpSenderLoop_concat, itemsOf_concat, transduce_append]
    rcases input with s | item
    · exact ih
    · obtain ⟨-, -, -, -, -, -, -, -, -, hlast, -⟩ :=
        datafifoRound_inner env item (datafifoRtpSenderLoop env inputs {})
      refine hlast.trans ?_
      rw [← ih]
      change _ = (transduce streamStep _ [item]).2
      rw [transduce_singleton, streamStep]
      split <;> rfl

theorem datafifoRtpSenderLoop_cache {env : Env} (hmalloc : ∀ n, env.malloc n = true)
    (hmmap : ∀ n, env.mmap n = true) (inputs : List Input)
    (hskips : SkipsNoSet (datafifoRtpSenderLoop env inputs {}).trace) :
    (datafifoRtpSenderLoop env inputs {}).cache = setsOf (streamNalus (itemsOf inputs)) := by
  induction inputs using List.reverseRecOn with
  | nil =>
    funext kind
    rcases kind <;> rfl
  | append_singleton inputs input ih =>
    rw [datafifoRtpSenderLoop_concat] at hskips ⊢
    rw [itemsOf_concat, streamNalus, transduce_append, setsOf, List.foldl_append, ← setsOf,
      ← streamNalus, ← lastReadSeq_run env inputs]
    rcases input with s | item
    · rw [← ih (hskips.of_prefix (List.prefix_append _ _))]
      exact cache_congr rfl rfl rfl
    · obtain ⟨pre, post, dest, gap, logged, -, -, htrace, -⟩ :=
        datafifoRound_inner env item (datafifoRtpSenderLoop env inputs {})
      rw [World.input] at hskips ⊢
      have hcaches := ih (hskips.of_prefix (by rw [htrace]; exact List.prefix_append _ _))
      rw [datafifoRound_cache hmalloc hmmap item _ hskips, hcaches]
      change _ = (transduce streamStep _ [item]).1.foldl storeSet _
      rw [transduce_singleton, streamStep]
      split <;> rfl

/-- **The caches depend on the stream alone**, whoever plays, whatever is asked for and whichever
packets are lost: after every run that skips no parameter set behind a lost NALU, each cache holds
the last NALU of its kind in the stream, of those that fit it. -/
theorem caches_follow_stream {env : Env} (hmalloc : ∀ n, env.malloc n = true)
    (hmmap : ∀ n, env.mmap n = true) (inputs : List Input)
    (hskips : SkipsNoSet (datafifoRtpSenderLoop env inputs {}).trace) (kind : ParamSet) :
    (datafifoRtpSenderLoop env inputs {}).cache kind
      = ((streamNalus (itemsOf inputs)).filter (fits kind)).getLast? := by
  rw [datafifoRtpSenderLoop_cache hmalloc hmmap inputs hskips, setsOf_apply]

/-- Three sets, a client, and an IDR in front of another `VPS`. -/
def sampleLoss : List Input :=
  [.item ⟨1, onePackMsg 1 0 sampleSets length_sampleSets⟩, .rtsp (.setup ⟨1, 5000⟩), .rtsp .play,
    .item ⟨2, onePackMsg 2 0 [0, 0, 1, 0x26, 1, 0, 0, 1, 0x40, 2] (by decide)⟩]

/-- Nothing stands behind the NALU that is lost. -/
theorem caches_follow_stream_sample :
    (datafifoRtpSenderLoop { sendto := (· != 16) } sampleLoss {}).cache .vps = some [0x40, 2] :=
  caches_follow_stream (fun _ => rfl) (fun _ => rfl) sampleLoss (by decide) .vps

/-- **A loss hides a set.** The same messages leave another `VPS` in its cache when the packet of
the IDR is lost. -/
theorem caches_depend_on_losses :
    (datafifoRtpSenderLoop {} sampleLoss {}).cache .vps = some [0x40, 2] ∧
      (datafifoRtpSenderLoop { sendto := (· != 13) } sampleLoss {}).cache .vps
        = some [0x40, 1] := by
  decide

end LittleCore

import LittleCore.Snapshot.Labels

/-!
# The parameter sets of a snapshot stream

The parameter set caches follow the stream, and the frame caches do not look at them: a stream
begins with the sets that were received last.

## Main results

* `snapshotRun_paramSets` — what the sets of a stream are, and when they are those of its first
  picture
-/

namespace LittleCore

open Library World H265SnapshotCache

/-- The first picture of a stream: `known` had been received at its first IRAP NALU, which is
`irap`, and `since` has been received behind it. -/
def HandOver.StartsAt (h : HandOver) (known : List (List UInt8)) (irap : List UInt8)
    (since : List (List UInt8)) : Prop :=
  ∃ first rest more older r newer before after,
    sinceIrap (accessUnits h.past) = some (first, rest) ∧
    h.stream = h.cache.params ++ first.bytes ++ more ∧
    h.past = older ++ r :: newer ∧ r.units = [first] ∧ accessUnits newer = rest ∧
    r.nalus = before ++ irap :: after ∧ h265NaluIsIrap (h265NaluType irap) = true ∧
    (∀ nalu ∈ before, h265NaluIsIrap (h265NaluType nalu) = false) ∧
    known = received older ++ before ∧ since = after ++ received newer

/-- Where an access unit came from. -/
theorem exists_of_accessUnits {past : List Reception} {older rest : List AccessUnit}
    {u : AccessUnit} (h : accessUnits past = older ++ u :: rest) :
    ∃ before r after, past = before ++ r :: after ∧ r.units = [u] ∧ accessUnits after = rest := by
  induction past generalizing older with
  | nil => simp [accessUnits] at h
  | cons r past ih =>
    have hsplit : accessUnits (r :: past) = r.units ++ accessUnits past := rfl
    have hlater : ∀ {older' : List AccessUnit}, accessUnits past = older' ++ u :: rest →
        ∃ before r' after, r :: past = before ++ r' :: after ∧ r'.units = [u] ∧
          accessUnits after = rest := by
      intro older' h'
      obtain ⟨before, r', after, rfl, hu, hrest⟩ := ih h'
      exact ⟨r :: before, r', after, rfl, hu, hrest⟩
    have hunits : r.units = [] ∨ ∃ v, r.units = [v] := by
      rw [Reception.units, unitOf]
      split_ifs
      · exact .inl rfl
      · exact .inr ⟨_, rfl⟩
      · exact .inl rfl
    rw [hsplit] at h
    rcases hunits with hnone | ⟨v, hone⟩
    · rw [hnone, List.nil_append] at h
      exact hlater h
    · rw [hone] at h
      rcases older with _ | ⟨v', older⟩
      · obtain ⟨rfl, hrest⟩ := List.cons.inj h
        exact ⟨[], r, past, rfl, hone, hrest⟩
      · exact hlater (List.cons.inj h).2

/-- **Every stream has a first picture.** -/
theorem HandOver.Remembered.exists_startsAt {h : HandOver} (hr : h.Remembered)
    (hknows : Knows h.past h.cache) : ∃ known irap since, h.StartsAt known irap since := by
  obtain ⟨first, rest, more, hsince, hstream, -⟩ := hr.begins
  obtain ⟨before, hunits, hirap, -⟩ := exists_of_sinceIrap hsince
  obtain ⟨older, r, newer, hpast, hr, hnewer⟩ := exists_of_accessUnits hunits
  have hfirst : r.nalus.any fun nalu => h265NaluIsIrap (h265NaluType nalu) := by
    rw [← (hknows.faithful r (by simp [hpast])).2,
      ← (r.mem_units (u := first) (by simp [hr])).2.2.1]
    exact hirap
  obtain ⟨irap, hirap⟩ := Option.isSome_iff_exists.mp (List.find?_isSome.trans List.any_eq_true.symm
    |>.mpr hfirst)
  obtain ⟨htype, before', after, hnalus, hbefore⟩ := List.find?_eq_some_iff_append.mp hirap
  refine ⟨_, irap, _, first, rest, more, older, r, newer, before', after, hsince, hstream, hpast,
    hr, hnewer, hnalus, htype, fun nalu hmem => ?_, rfl, rfl⟩
  simpa using hbefore nalu hmem

/-- What is known and what comes since is all that has been received. -/
theorem HandOver.StartsAt.received_eq {h : HandOver} {known since : List (List UInt8)}
    {irap : List UInt8} (hstart : h.StartsAt known irap since) :
    received h.past = known ++ irap :: since ∧ h265NaluIsIrap (h265NaluType irap) = true := by
  obtain ⟨first, rest, more, older, r, newer, before, after, -, -, hpast, -, -, hnalus, htype, -,
    rfl, rfl⟩ := hstart
  refine ⟨?_, htype⟩
  have happend :
      received (older ++ r :: newer) = received older ++ (r.nalus ++ received newer) := by
    rw [received, List.flatMap_append, List.flatMap_cons]
    rfl
  rw [hpast, happend, hnalus]
  simp

/-- An IRAP is no parameter set. -/
theorem paramCache_of_irap {nalType : Option UInt8} (h : h265NaluIsIrap nalType = true) :
    h265ParamCacheForType nalType = none := by
  rw [h265ParamCacheForType]
  split_ifs with hvps hsps hpps
  · rw [hvps] at h
    exact absurd h (by decide)
  · rw [hsps] at h
    exact absurd h (by decide)
  · rw [hpps] at h
    exact absurd h (by decide)
  · rfl

theorem latest_of_irap {kind : ParamSet} {known since : List (List UInt8)} {irap : List UInt8}
    (hirap : h265NaluIsIrap (h265NaluType irap) = true) :
    latest kind (known ++ irap :: since) = (latest kind since).or (latest kind known) := by
  have hcons : latest kind (irap :: since) = latest kind since := by
    rw [latest, List.filter_cons_of_neg (by simp [paramCache_of_irap hirap])]
    rfl
  rw [latest_append, hcons]

/-- **The parameter sets of a stream** are the ones received last when it is built. They are the
ones that were last at its first IRAP NALU as long as no others have been received since. -/
theorem snapshotRun_paramSets (env : Env) (halloc : ∀ n, env.snapshotAlloc n = true)
    (calls : List SnapshotCall) : ∀ h ∈ (snapshotRun env calls).handOvers,
      (∃ known irap since, h.StartsAt known irap since) ∧
      ∀ known irap since, h.StartsAt known irap since → ∀ kind,
        (∃ nalu, latest kind (known ++ irap :: since) = some nalu ∧
          (h.cache.paramSet kind).bytes = storedUnit nalu) ∧
        ((∀ nalu ∈ since, h265ParamCacheForType (h265NaluType nalu) = some kind →
            some (storedUnit nalu) = (latest kind known).map storedUnit) →
          some (h.cache.paramSet kind).bytes = (latest kind known).map storedUnit) := by
  intro h hmem
  have hr := (remembers_snapshotRun env calls).2 h hmem
  have hknows := (knows_snapshotRun halloc calls).2 h hmem
  refine ⟨hr.exists_startsAt hknows, fun known irap since hstart kind => ?_⟩
  obtain ⟨hreceived, htype⟩ := hstart.received_eq
  have hset := hknows.sets kind
  have hne := hr.2.exists_rest.1 kind
  rw [hreceived] at hset
  cases hlatest : latest kind (known ++ irap :: since) with
  | none =>
    rw [hset, hlatest] at hne
    exact absurd rfl hne
  | some nalu =>
    rw [hlatest] at hset
    refine ⟨⟨nalu, rfl, hset⟩, fun hsame => ?_⟩
    rw [latest_of_irap htype] at hlatest
    rw [hset]
    cases hsince : latest kind since with
    | none =>
      rw [hsince, Option.none_or] at hlatest
      rw [hlatest]
      rfl
    | some nalu' =>
      rw [hsince, Option.some_or, Option.some.injEq] at hlatest
      obtain ⟨hmem', hkind⟩ := mem_of_latest hsince
      rw [← hlatest]
      exact hsame nalu' hmem' hkind

theorem snapshotRun_paramSets_sample : ∃ h ∈ (snapshotRun {} sampleCalls).handOvers,
    (h.cache.paramSet .sps).bytes = startCode ++ [0x42, 1] ∧
      ∃ known irap since, h.StartsAt known irap since := by
  obtain ⟨h, hmem, hsps⟩ : ∃ h ∈ (snapshotRun {} sampleCalls).handOvers,
    (h.cache.paramSet .sps).bytes = startCode ++ [0x42, 1] := by decide
  exact ⟨h, hmem, hsps, (snapshotRun_paramSets {} (fun _ => rfl) sampleCalls h hmem).1⟩

/-- A new SPS comes with a later access unit of the GOP. -/
def newSpsCalls : List SnapshotCall :=
  [.process (flaggedMsg 7 100 sampleIrapUnit length_sampleIrapUnit),
    .process (flaggedMsg 8 200 [0, 0, 1, 0x42, 2, 0, 0, 1, 0x02, 1])]

/-- **The first picture gets a later SPS.** -/
theorem snapshotRun_newSps : ¬ ∀ h ∈ (snapshotRun {} newSpsCalls).handOvers,
    ∀ known irap since, h.StartsAt known irap since → ∀ kind,
      some (h.cache.paramSet kind).bytes = (latest kind known).map storedUnit := by
  have hlast : ∃ h ∈ (snapshotRun {} newSpsCalls).handOvers,
      (h.cache.paramSet .sps).bytes = startCode ++ [0x42, 2] ∧ received h.past
        = [[0x40, 1], [0x42, 1], [0x44, 1], [0x26, 1], [0x42, 2], [0x02, 1]] := by decide
  obtain ⟨h, hmem, hsps, hreceived⟩ := hlast
  intro hall
  obtain ⟨known, irap, since, hstart⟩ := ((remembers_snapshotRun {} newSpsCalls).2 h
    hmem).exists_startsAt ((knows_snapshotRun (fun _ => rfl) newSpsCalls).2 h hmem)
  have hknown := hall h hmem known irap since hstart .sps
  obtain ⟨hsplit, htype⟩ := hstart.received_eq
  rw [hreceived] at hsplit
  -- The IDR is the only IRAP, so the sets in front of it are all that was known.
  have hlt : known.length < 6 := by
    have hlen := congrArg List.length hsplit
    simp only [List.length_append, List.length_cons, List.length_nil] at hlen
    omega
  have honly : ∀ i < 6, h265NaluIsIrap (h265NaluType (([[0x40, 1], [0x42, 1], [0x44, 1], [0x26, 1],
      [0x42, 2], [0x02, 1]] : List (List UInt8)).getD i [])) = true → i = 3 := by decide
  have hthree : known.length = 3 := by
    refine honly known.length hlt ?_
    rw [hsplit]
    simpa using htype
  have hfront : known = [[0x40, 1], [0x42, 1], [0x44, 1]] := by
    have htake := congrArg (List.take 3) hsplit
    rw [← hthree, List.take_left, hthree] at htake
    exact htake.symm
  rw [hfront, hsps] at hknown
  exact absurd hknown (by decide)

end LittleCore

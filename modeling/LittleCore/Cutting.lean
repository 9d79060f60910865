import LittleCore.Annexb
import LittleCore.Library.Cut

/-!
# What the splitters cut

The cutting loop searches from moving offsets, takes a start code for one of three or of four
bytes, and trims backwards. What comes out is simpler than that: the buffer is cut at every
`00 00 01`, what stands in front of the first one is dropped, zeros at the end of a part are
dropped, and so are the parts of which nothing is left.

A zero in front of a `00 00 01` is the only thing that the search for four bytes adds. It is the
end of the part in front, which loses its zeros anyway.

## Main results

* `annexbNalus_eq` — the cutting loop gives `trimParts` of the cut
-/

namespace LittleCore

open Library

/-- `00 00 01`, which is also the end of a start code of four bytes. -/
def shortStartCode : List UInt8 := [0x00, 0x00, 0x01]

theorem unbordered_shortStartCode : Unbordered shortStartCode := by
  refine ⟨by decide, fun s hpre hsuf => ?_⟩
  obtain ⟨k, rfl⟩ : ∃ k, s = shortStartCode.take k := ⟨_, List.prefix_iff_eq_take.mp hpre⟩
  rcases k with _ | _ | _ | k
  · exact .inl rfl
  · exact absurd hsuf (by decide)
  · exact absurd hsuf (by decide)
  · exact .inr (by simp [shortStartCode])

/-- What stands behind each `00 00 01` of a buffer. -/
def startCodeParts (buf : List UInt8) : List (List UInt8) := (cutAt shortStartCode buf).2

/-- The parts without the zeros at their ends, as far as there is something left, each with
whether it is behind the last start code. -/
def trimParts : List (List UInt8) → List (List UInt8 × Bool)
  | [] => []
  | p :: ps =>
    (if stripTrailingZeros p = [] then [] else [(stripTrailingZeros p, ps.isEmpty)]) ++
      trimParts ps

/-! ### Searching -/

theorem length_of_bufferStartsWithStartCode {buf : List UInt8}
    (h : bufferStartsWithStartCode buf = true) : 3 ≤ buf.length := by
  rcases buf with _ | ⟨b₀, _ | ⟨b₁, _ | ⟨b₂, rest⟩⟩⟩
  · cases h
  · cases h
  · cases h
  · simp

theorem findStartCodeFrom_cons {b : UInt8} {l : List UInt8} (i : ℕ)
    (hthree : ¬ shortStartCode <+: b :: l) (hfour : ¬ (b = 0x00 ∧ shortStartCode <+: l)) :
    findStartCodeFrom (b :: l) i = findStartCodeFrom l (i + 1) := by
  rcases l with _ | ⟨c, _ | ⟨d, rest⟩⟩
  · rfl
  · rfl
  · rw [findStartCodeFrom, if_neg, if_neg]
    · rintro ⟨rfl, rfl, rfl, hhead⟩
      obtain ⟨rest, rfl⟩ := List.head?_eq_some_iff.mp hhead
      exact hfour ⟨rfl, rest, rfl⟩
    · rintro ⟨rfl, rfl, rfl⟩
      exact hthree ⟨rest, rfl⟩

theorem findStartCodeFrom_uncut {l : List UInt8} (h : ¬ shortStartCode <:+: l) (i : ℕ) :
    findStartCodeFrom l i = none := by
  induction l generalizing i with
  | nil => rfl
  | cons b l ih =>
    have hl : ¬ shortStartCode <:+: l := fun hinf => h (hinf.trans (List.suffix_cons b l).isInfix)
    rw [findStartCodeFrom_cons i (fun hpre => h hpre.isInfix) fun hfour => hl hfour.2.isInfix,
      ih hl]

/-- One if the part ends in a zero, which makes the start code behind it one of four bytes. -/
def zeroBefore (p : List UInt8) : ℕ := if p.getLast? = some 0x00 then 1 else 0

theorem zeroBefore_le (p : List UInt8) : zeroBefore p ≤ p.length := by
  rcases p with _ | ⟨b, p⟩
  · decide
  · rw [zeroBefore]
    split <;> simp

/-- The first start code is found, with the zero in front of it if there is one. -/
theorem findStartCodeFrom_append {p : List UInt8} (hp : ¬ shortStartCode <:+: p)
    (r : List UInt8) (i : ℕ) :
    findStartCodeFrom (p ++ (shortStartCode ++ r)) i
      = some (i + p.length - zeroBefore p, 3 + zeroBefore p) := by
  induction p generalizing i with
  | nil => rfl
  | cons b p ih =>
    have hp' : ¬ shortStartCode <:+: p := fun h => hp (h.trans (List.suffix_cons b p).isInfix)
    have hthree : ¬ shortStartCode <+: b :: (p ++ (shortStartCode ++ r)) := fun h =>
      hp (unbordered_shortStartCode.isPrefix_append (List.cons_ne_nil b p) h).isInfix
    by_cases hfour : b = 0x00 ∧ p = []
    · obtain ⟨rfl, rfl⟩ := hfour
      rfl
    · have hpos : ¬ (b = 0x00 ∧ shortStartCode <+: p ++ (shortStartCode ++ r)) := by
        rintro ⟨hb, hpre⟩
        by_cases hnil : p = []
        · exact hfour ⟨hb, hnil⟩
        · exact hp' (unbordered_shortStartCode.isPrefix_append hnil hpre).isInfix
      have hzero : zeroBefore (b :: p) = zeroBefore p := by
        rcases p with _ | ⟨c, p⟩
        · simp only [and_true] at hfour
          simp [zeroBefore, hfour]
        · simp [zeroBefore]
      rw [List.cons_append, findStartCodeFrom_cons i hthree hpos, ih hp', hzero, List.length_cons,
        Nat.add_right_comm, ← Nat.add_assoc]

/-! ### Zeros at the end -/

theorem stripTrailingZeros_append {nalu : List UInt8} (h : nalu.getLast? ≠ some 0x00) (k : ℕ) :
    stripTrailingZeros (nalu ++ List.replicate k 0x00) = nalu := by
  induction k with
  | zero =>
    rw [List.replicate_zero, List.append_nil, stripTrailingZeros, List.rdropWhile_eq_self_iff]
    intro hne hlast
    rw [List.getLast?_eq_some_getLast hne] at h
    exact h (by simpa using hlast)
  | succ k ih =>
    rw [List.replicate_succ', ← List.append_assoc, stripTrailingZeros,
      List.rdropWhile_concat_pos _ _ _ (by rfl)]
    exact ih

/-- Zeros complete no start code. -/
theorem not_infix_append_zeros {p : List UInt8} (h : ¬ shortStartCode <:+: p) (k : ℕ) :
    ¬ shortStartCode <:+: p ++ List.replicate k 0x00 := by
  induction k with
  | zero => rwa [List.replicate_zero, List.append_nil]
  | succ k ih =>
    rw [List.replicate_succ', ← List.append_assoc, List.infix_concat_iff]
    rintro (hsuf | hinf)
    · obtain ⟨t, ht⟩ := hsuf
      have hlast := congrArg List.getLast? ht
      rw [List.getLast?_concat, List.getLast?_append] at hlast
      simp [shortStartCode] at hlast
    · exact ih hinf

/-! ### Cutting -/

theorem stripTrailingZeros_take (p : List UInt8) :
    stripTrailingZeros (p.take (p.length - zeroBefore p)) = stripTrailingZeros p := by
  induction p using List.reverseRecOn with
  | nil => rfl
  | append_singleton p b _ =>
    rw [zeroBefore, List.getLast?_concat]
    split
    · rename_i hb
      obtain rfl : b = 0x00 := Option.some.inj hb
      rw [List.length_append, List.length_singleton, Nat.add_sub_cancel, List.take_left,
        stripTrailingZeros, stripTrailingZeros, List.rdropWhile_concat_pos _ _ _ (by rfl)]
    · rw [Nat.sub_zero, List.take_length]

/-- **The cutting loop.** -/
theorem annexbPieces_eq {buf : List UInt8} {fuel off : ℕ}
    (hfuel : (startCodeParts (buf.drop off)).length ≤ fuel) :
    annexbPieces findStartCode buf fuel off = trimParts (startCodeParts (buf.drop off)) := by
  induction fuel generalizing off with
  | zero =>
    rw [List.eq_nil_of_length_eq_zero (Nat.le_zero.mp hfuel)]
    rfl
  | succ fuel ih =>
    by_cases hinf : shortStartCode <:+: buf.drop off
    · obtain ⟨p, r, hbuf, hp⟩ := exists_append_of_infix unbordered_shortStartCode.1 hinf
      have hle := zeroBefore_le p
      have hfirst : findStartCode buf off
          = some (off + p.length - zeroBefore p, 3 + zeroBefore p) := by
        rw [findStartCode, hbuf, findStartCodeFrom_append hp]
      have hstart : off + p.length - zeroBefore p + (3 + zeroBefore p) = off + (p.length + 3) := by
        omega
      have hdrop : buf.drop (off + (p.length + 3)) = r := by
        rw [← List.drop_drop, hbuf, ← List.append_assoc]
        exact List.drop_left' (by simp [shortStartCode])
      rw [startCodeParts, hbuf, cutAt_append unbordered_shortStartCode hp] at hfuel ⊢
      rw [annexbPieces, hfirst]
      dsimp only
      rw [hstart]
      by_cases hinf' : shortStartCode <:+: r
      · -- The part ends at the next start code, and the rest goes on from there.
        obtain ⟨p', r', rfl, hp'⟩ := exists_append_of_infix unbordered_shortStartCode.1 hinf'
        have hle' := zeroBefore_le p'
        have hnext : findStartCode buf (off + (p.length + 3)) = some
            (off + (p.length + 3) + (p'.length - zeroBefore p'), 3 + zeroBefore p') := by
          rw [findStartCode, hdrop, findStartCodeFrom_append hp', ← Nat.add_sub_assoc hle']
        have hpart : (buf.take (off + (p.length + 3) + (p'.length - zeroBefore p'))).drop
            (off + (p.length + 3)) = p'.take (p'.length - zeroBefore p') := by
          rw [List.drop_take, hdrop, Nat.add_sub_cancel_left,
            List.take_append_of_le_length (Nat.sub_le _ _)]
        have hrest : buf.drop (off + (p.length + 3) + (p'.length - zeroBefore p'))
            = p'.drop (p'.length - zeroBefore p') ++ (shortStartCode ++ r') := by
          rw [← List.drop_drop, hdrop, List.drop_append_of_le_length (Nat.sub_le _ _)]
        have hno : ¬ shortStartCode <:+: p'.drop (p'.length - zeroBefore p') := fun h =>
          hp' (h.trans (List.drop_suffix _ _).isInfix)
        have hparts : startCodeParts
            (buf.drop (off + (p.length + 3) + (p'.length - zeroBefore p')))
            = (cutAt shortStartCode r').1 :: (cutAt shortStartCode r').2 := by
          rw [startCodeParts, hrest, cutAt_append unbordered_shortStartCode hno]
        rw [cutAt_append unbordered_shortStartCode hp'] at hfuel ⊢
        rw [hnext]
        simp only [Option.map_some, Option.getD_some, Option.isNone_some]
        rw [hpart, stripTrailingZeros_take, ih (by rw [hparts]; simpa using hfuel), hparts,
          trimParts]
        rfl
      · -- The part goes on to the end of the buffer.
        have hnext : findStartCode buf (off + (p.length + 3)) = none := by
          rw [findStartCode, hdrop, findStartCodeFrom_uncut hinf']
        rw [hnext, cutAt_uncut hinf']
        simp only [Option.map_none, Option.getD_none, List.take_length, Option.isNone_none]
        rw [hdrop]
        simp [trimParts]
    · rw [startCodeParts, cutAt_uncut hinf, annexbPieces, findStartCode,
        findStartCodeFrom_uncut hinf]
      rfl

theorem length_startCodeParts_le (buf : List UInt8) : (startCodeParts buf).length ≤ buf.length := by
  have hsum : ∀ ps : List (List UInt8), ps.length ≤ (ps.flatMap (shortStartCode ++ ·)).length := by
    intro ps
    induction ps with
    | nil => exact Nat.le_refl _
    | cons p ps ih =>
      rw [List.flatMap_cons, List.length_append, List.length_append]
      simp only [shortStartCode, List.length_cons, List.length_nil] at ih ⊢
      omega
  have hcut := congrArg List.length (append_flatMap_cutAt unbordered_shortStartCode buf)
  rw [List.length_append] at hcut
  exact (hsum _).trans (by rw [startCodeParts]; omega)

theorem annexbNalus_eq (buf : List UInt8) :
    annexbNalus findStartCode buf = trimParts (startCodeParts buf) :=
  annexbPieces_eq ((length_startCodeParts_le buf).trans (Nat.le_succ _))

/-! ### The parts -/

theorem map_fst_trimParts (ps : List (List UInt8)) :
    (trimParts ps).map Prod.fst = (ps.map stripTrailingZeros).filter (· ≠ []) := by
  induction ps with
  | nil => rfl
  | cons p ps ih =>
    rw [trimParts, List.map_append, ih, List.map_cons, List.filter_cons]
    split <;> simp_all

end LittleCore

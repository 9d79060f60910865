import LittleCore.Library.CString
import LittleCore.Library.Fallible
import LittleCore.Library.Shell
import LittleCore.Writer.Threads
import Mathlib.Logic.Function.Basic

/-!
# The command line of the converter

`snapshot_shell_quote` of `snapshot_writer.c` and what it is for: the paths that
`snapshot_convert_h265_to_image` gives to `system` come back as words of the shell.

A destination is the memory behind a pointer, with a record of the places that are written. Its
size is a number and not a `size_t`: no object is so large that the sums of the two tests wrap.

## Main results

* `append_pieces` — pieces are appended as long as they fit
* `snapshotShellQuote_exact` — the quoting, for every text and every size
-/

namespace LittleCore

open Library

/-- `SNAPSHOT_CMD_MAX`. -/
def snapshotCmdMax : ℕ := 1024

/-- `SNAPSHOT_FFMPEG_BIN`. -/
def snapshotFfmpegBin : List Char := "ffmpeg".toList

/-- The memory behind a pointer, and where it has been written. -/
structure CharBuffer where
  cell : ℕ → Char
  written : List ℕ := []

namespace CharBuffer

def store (m : CharBuffer) (i : ℕ) (c : Char) : CharBuffer :=
  ⟨Function.update m.cell i c, m.written ++ [i]⟩

/-- `memcpy` to the place `i`. -/
def memcpy : CharBuffer → ℕ → List Char → CharBuffer
  | m, _, [] => m
  | m, i, c :: s => (m.store i c).memcpy (i + 1) s

/-- The first `size` characters. -/
def contents (m : CharBuffer) (size : ℕ) : List Char := (List.range size).map m.cell

end CharBuffer

/-- `snapshot_append_text`; `s` is `*offset` and `dst`. -/
def snapshotAppendText (dstSize : ℕ) (src : List Char) (s : ℕ × CharBuffer) :
    Bool × ℕ × CharBuffer :=
  if s.1 + src.length ≥ dstSize then (false, s)
  else
    (true, s.1 + src.length, (s.2.memcpy s.1 src).store (s.1 + src.length) '\x00')

/-- The loop body of `snapshot_shell_quote`. -/
def quoteChar (dstSize : ℕ) (c : Char) (s : ℕ × CharBuffer) : Bool × ℕ × CharBuffer :=
  if c = '\x27' then snapshotAppendText dstSize ['\x27', '\x5c', '\x27', '\x27'] s
  else if s.1 + 1 ≥ dstSize then (false, s)
  else (true, s.1 + 1, (s.2.store s.1 c).store (s.1 + 1) '\x00')

/-- `snapshot_shell_quote`. -/
def snapshotShellQuote (dstSize : ℕ) (src : List Char) (dst : CharBuffer) : Bool × CharBuffer :=
  match snapshotAppendText dstSize ['\x27'] (0, dst) with
  | (false, s) => (false, s.2)
  | (true, s) =>
    match forEach (quoteChar dstSize) src s with
    | (false, s) => (false, s.2)
    | (true, s) =>
      let r := snapshotAppendText dstSize ['\x27'] s
      (r.1, r.2.2)

/-- `snapshot_convert_h265_to_image` up to the call of `system`: the text it is given, `none` where
it is not called. The first two arguments are what is in the two arrays at the start. -/
def ffmpegCommand (quotedH265 quotedImage : ℕ → Char) (h265Path imagePath : List Char) :
    Option (List Char) :=
  let h265 := snapshotShellQuote snapshotCmdMax h265Path ⟨quotedH265, []⟩
  let image := snapshotShellQuote snapshotCmdMax imagePath ⟨quotedImage, []⟩
  if !h265.1 || !image.1 then none
  else
    let cmd := snapshotFfmpegBin ++ (" -hide_banner -loglevel error -y -f hevc -i ".toList ++
      (cstr (h265.2.contents snapshotCmdMax) ++ (" -frames:v 1 ".toList ++
        cstr (image.2.contents snapshotCmdMax))))
    if cmd.length ≥ snapshotCmdMax then none else some cmd

/-! ### What is in the memory -/

namespace CharBuffer

theorem cell_store_self (m : CharBuffer) (i : ℕ) (c : Char) : (m.store i c).cell i = c :=
  Function.update_self ..

theorem cell_store_of_ne (m : CharBuffer) {i j : ℕ} (h : j ≠ i) (c : Char) :
    (m.store i c).cell j = m.cell j :=
  Function.update_of_ne h ..

theorem written_memcpy (m : CharBuffer) (i : ℕ) (s : List Char) :
    (m.memcpy i s).written = m.written ++ List.range' i s.length := by
  induction s generalizing m i with
  | nil => exact (List.append_nil _).symm
  | cons c s ih =>
    rw [memcpy, ih, store, List.append_assoc, List.length_cons, List.range'_succ]
    rfl

theorem cell_memcpy (m : CharBuffer) (i : ℕ) (s : List Char) (j : ℕ) :
    (m.memcpy i s).cell j = if i ≤ j then (s[j - i]?).getD (m.cell j) else m.cell j := by
  induction s generalizing m i with
  | nil => simp [memcpy]
  | cons c s ih =>
    rw [memcpy, ih]
    rcases Nat.lt_trichotomy j i with hlt | rfl | hgt
    · rw [if_neg (by omega), if_neg (by omega), cell_store_of_ne m (by omega)]
    · rw [if_neg (by omega), if_pos (Nat.le_refl _), Nat.sub_self, cell_store_self]
      rfl
    · obtain ⟨k, rfl⟩ : ∃ k, j = i + (k + 1) := ⟨j - i - 1, by omega⟩
      rw [if_pos (by omega), if_pos (by omega), cell_store_of_ne m (by omega),
        Nat.add_sub_cancel_left, List.getElem?_cons_succ]
      congr 2
      omega

end CharBuffer

/-- The text is in the first cells, with a zero behind it, and nothing was written outside. -/
structure TextHolds (dstSize : ℕ) (text : List Char) (s : ℕ × CharBuffer) : Prop where
  offset : s.1 = text.length
  cells : ∀ i c, text[i]? = some c → s.2.cell i = c
  /-- At the start there is no zero yet. -/
  stop : text ≠ [] → s.2.cell text.length = '\x00' ∧ text.length < dstSize
  inside : ∀ i ∈ s.2.written, i < dstSize

theorem TextHolds.append {dstSize : ℕ} {text src : List Char} {s : ℕ × CharBuffer}
    (h : TextHolds dstSize text s) (hfit : text.length + src.length < dstSize) :
    (snapshotAppendText dstSize src s).1 = true ∧
      TextHolds dstSize (text ++ src) (snapshotAppendText dstSize src s).2 := by
  rw [snapshotAppendText, h.offset, if_neg (Nat.not_le.mpr hfit)]
  refine ⟨rfl, ?_, fun i c hc => ?_, fun _ => ⟨?_, ?_⟩, fun i hi => ?_⟩
  · exact List.length_append.symm
  · have hlt : i < text.length + src.length := by
      rw [← List.length_append]
      exact (List.getElem?_eq_some_iff.mp hc).1
    dsimp only
    rw [CharBuffer.cell_store_of_ne _ (by omega), CharBuffer.cell_memcpy]
    by_cases hi : text.length ≤ i
    · rw [List.getElem?_append_right hi] at hc
      rw [if_pos hi, hc]
      rfl
    · rw [List.getElem?_append_left (by omega)] at hc
      rw [if_neg hi]
      exact h.cells i c hc
  · dsimp only
    rw [List.length_append, CharBuffer.cell_store_self]
  · rwa [List.length_append]
  · dsimp only at hi
    rw [CharBuffer.store, CharBuffer.written_memcpy, List.mem_append, List.mem_append,
      List.mem_range'_1, List.mem_singleton] at hi
    rcases hi with (hi | hi) | hi
    · exact h.inside i hi
    · omega
    · omega

/-- **Pieces are appended as long as they fit**, and then nothing more is written. -/
theorem append_pieces {dstSize : ℕ} {text : List Char} {s : ℕ × CharBuffer}
    (h : TextHolds dstSize text s) (pieces : List (List Char)) :
    ((forEach (snapshotAppendText dstSize) pieces s).1 = true →
        TextHolds dstSize (text ++ pieces.flatten)
          (forEach (snapshotAppendText dstSize) pieces s).2) ∧
      ((forEach (snapshotAppendText dstSize) pieces s).1 = true
        ↔ pieces = [] ∨ text.length + pieces.flatten.length < dstSize) ∧
      ∀ i ∈ (forEach (snapshotAppendText dstSize) pieces s).2.2.written, i < dstSize := by
  induction pieces generalizing text s with
  | nil =>
    rw [List.flatten_nil, List.append_nil]
    exact ⟨fun _ => h, iff_of_true rfl (.inl rfl), h.inside⟩
  | cons p ps ih =>
    rw [List.flatten_cons, List.length_append]
    by_cases hfit : text.length + p.length < dstSize
    · obtain ⟨hok, happ⟩ := h.append hfit
      obtain ⟨hholds, hiff, hinside⟩ := ih happ
      rw [forEach_cons_of_ok hok, ← List.append_assoc]
      refine ⟨hholds, hiff.trans ?_, hinside⟩
      rw [List.length_append, ← Nat.add_assoc]
      constructor
      · rintro (rfl | hlt)
        · exact .inr (by simpa using hfit)
        · exact .inr hlt
      · exact fun hlt => .inr (hlt.resolve_left (List.cons_ne_nil _ _))
    · have hfail : snapshotAppendText dstSize p s = (false, s) := by
        rw [snapshotAppendText, h.offset, if_pos (Nat.not_lt.mp hfit)]
      rw [forEach_cons_of_fail (by rw [hfail]), hfail]
      refine ⟨fun hok => absurd hok Bool.false_ne_true,
        iff_of_false Bool.false_ne_true fun hlt => ?_, h.inside⟩
      have hlt := hlt.resolve_left (List.cons_ne_nil _ _)
      omega

/-! ### Quoting -/

/-- The two forms of the bounds test are one. -/
theorem quoteChar_eq (dstSize : ℕ) (c : Char) (s : ℕ × CharBuffer) :
    quoteChar dstSize c s = snapshotAppendText dstSize (quotedChar c) s := by
  rw [quoteChar, quotedChar]
  split <;> rfl

theorem snapshotShellQuote_eq (dstSize : ℕ) (src : List Char) (dst : CharBuffer) :
    snapshotShellQuote dstSize src dst
      = ((forEach (snapshotAppendText dstSize)
          (['\x27'] :: (src.map quotedChar ++ [['\x27']])) (0, dst)).1,
        (forEach (snapshotAppendText dstSize)
          (['\x27'] :: (src.map quotedChar ++ [['\x27']])) (0, dst)).2.2) := by
  have hloop : ∀ s, forEach (quoteChar dstSize) src s
      = forEach (snapshotAppendText dstSize) (src.map quotedChar) s := by
    intro s
    rw [forEach_map]
    congr 1
    funext c s
    exact quoteChar_eq dstSize c s
  have hlast : ∀ s, forEach (snapshotAppendText dstSize) [['\x27']] s
      = snapshotAppendText dstSize ['\x27'] s := by
    intro s
    rw [forEach]
    split <;> rename_i heq <;> exact heq.symm
  rw [snapshotShellQuote]
  split <;> rename_i s hfirst
  · rw [forEach_cons_of_fail (by rw [hfirst]), hfirst]
  · rw [forEach_cons_of_ok (by rw [hfirst]), hfirst, forEach_append, hlast, hloop]
    split <;> rename_i s heq
    · rw [heq]
      rfl
    · rw [heq]
      rfl

/-- The pieces of a quoted text. -/
theorem flatten_pieces (src : List Char) :
    (['\x27'] :: (src.map quotedChar ++ [['\x27']])).flatten = shellQuoted src := by
  rw [List.flatten_cons, List.flatten_append, List.flatten_singleton, ← List.flatMap_def]
  rfl

theorem not_mem_shellQuoted {src : List Char} (h : '\x00' ∉ src) : '\x00' ∉ shellQuoted src := by
  intro hmem
  rw [shellQuoted, List.mem_cons, List.mem_append, List.mem_flatMap, List.mem_singleton] at hmem
  rcases hmem with heq | ⟨c, hc, hmem⟩ | heq
  · exact absurd heq (by decide)
  · rw [quotedChar] at hmem
    split at hmem
    · exact absurd hmem (by decide)
    · rw [List.mem_singleton] at hmem
      exact h (hmem ▸ hc)
  · exact absurd heq (by decide)

/-- The memory begins with the text and its zero. -/
theorem TextHolds.contents_eq {dstSize : ℕ} {text : List Char} {s : ℕ × CharBuffer}
    (h : TextHolds dstSize text s) (hne : text ≠ []) :
    ∃ rest, s.2.contents dstSize = text ++ '\x00' :: rest := by
  obtain ⟨hzero, hlt⟩ := h.stop hne
  refine ⟨(s.2.contents dstSize).drop (text.length + 1), ?_⟩
  have hget : ∀ i < dstSize, (s.2.contents dstSize)[i]? = some (s.2.cell i) := by
    intro i hi
    rw [CharBuffer.contents, List.getElem?_map, List.getElem?_range hi]
    rfl
  refine List.ext_getElem? ?_
  intro i
  rcases Nat.lt_trichotomy i text.length with hi | rfl | hi
  · rw [hget i (by omega), List.getElem?_append_left hi, List.getElem?_eq_getElem hi,
      h.cells i _ (List.getElem?_eq_getElem hi)]
  · rw [hget _ hlt, List.getElem?_append_right (Nat.le_refl _), Nat.sub_self, hzero]
    rfl
  · obtain ⟨k, rfl⟩ : ∃ k, i = text.length + (k + 1) := ⟨i - text.length - 1, by omega⟩
    rw [List.getElem?_append_right (by omega), Nat.add_sub_cancel_left, List.getElem?_cons_succ,
      List.getElem?_drop]
    congr 1
    omega

/-- What `snapshot_shell_quote` is to do with a text. -/
structure QuotesExactly (src : List Char) (dstSize : ℕ) (r : Bool × CharBuffer) : Prop where
  success : r.1 = true ↔ src.length + 3 * src.count '\x27' + 2 < dstSize
  /-- A shell reads it back, with nothing interpreted. -/
  word : r.1 = true → ∃ text rest, r.2.contents dstSize = text ++ '\x00' :: rest ∧
    '\x00' ∉ text ∧ shellWords text = some [src]
  inside : ∀ i ∈ r.2.written, i < dstSize

/-- A quoted text as it stands in the memory. -/
theorem snapshotShellQuote_spec (dstSize : ℕ) (src : List Char) (cell : ℕ → Char) :
    ((snapshotShellQuote dstSize src ⟨cell, []⟩).1 = true
        ↔ (shellQuoted src).length < dstSize) ∧
      ((snapshotShellQuote dstSize src ⟨cell, []⟩).1 = true → ∃ rest,
        (snapshotShellQuote dstSize src ⟨cell, []⟩).2.contents dstSize
          = shellQuoted src ++ '\x00' :: rest) ∧
      ∀ i ∈ (snapshotShellQuote dstSize src ⟨cell, []⟩).2.written, i < dstSize := by
  have hstart : TextHolds dstSize [] (0, ⟨cell, []⟩) :=
    ⟨rfl, fun i c hc => by simp at hc, fun h => absurd rfl h, fun i hi => by simp at hi⟩
  obtain ⟨hholds, hiff, hinside⟩ :=
    append_pieces hstart (['\x27'] :: (src.map quotedChar ++ [['\x27']]))
  rw [flatten_pieces, List.nil_append] at hholds
  rw [flatten_pieces, List.length_nil, Nat.zero_add, or_iff_right (List.cons_ne_nil _ _)] at hiff
  rw [snapshotShellQuote_eq]
  exact ⟨hiff, fun hok => (hholds hok).contents_eq (List.cons_ne_nil _ _), hinside⟩

theorem quotesExactly {src : List Char} (h : '\x00' ∉ src) (dstSize : ℕ) (cell : ℕ → Char) :
    QuotesExactly src dstSize (snapshotShellQuote dstSize src ⟨cell, []⟩) := by
  obtain ⟨hiff, hcontents, hinside⟩ := snapshotShellQuote_spec dstSize src cell
  refine ⟨by rw [hiff, length_shellQuoted], fun hok => ?_, hinside⟩
  obtain ⟨rest, hrest⟩ := hcontents hok
  exact ⟨_, rest, hrest, not_mem_shellQuoted h, shellWords_shellQuoted src⟩

/-! ### The command -/

/-- The words in front of the path of the stream. -/
def ffmpegOptions : List (List Char) :=
  ["ffmpeg".toList, "-hide_banner".toList, "-loglevel".toList, "error".toList, "-y".toList,
    "-f".toList, "hevc".toList, "-i".toList]

theorem shellWords_ffmpegCommand {quotedH265 quotedImage : ℕ → Char}
    {h265Path imagePath cmd : List Char} (hh265 : '\x00' ∉ h265Path) (himage : '\x00' ∉ imagePath)
    (h : ffmpegCommand quotedH265 quotedImage h265Path imagePath = some cmd) :
    shellWords cmd
      = some (ffmpegOptions ++ [h265Path, "-frames:v".toList, "1".toList, imagePath]) := by
  obtain ⟨-, hcontents, -⟩ := snapshotShellQuote_spec snapshotCmdMax h265Path quotedH265
  obtain ⟨-, hcontents', -⟩ := snapshotShellQuote_spec snapshotCmdMax imagePath quotedImage
  rw [ffmpegCommand] at h
  dsimp only at h
  split_ifs at h with hfail hlong
  rw [Bool.or_eq_true, not_or, Bool.not_eq_true', Bool.not_eq_true', Bool.not_eq_false,
    Bool.not_eq_false] at hfail
  obtain ⟨rest, hrest⟩ := hcontents hfail.1
  obtain ⟨rest', hrest'⟩ := hcontents' hfail.2
  have hstr : ∀ {path : List Char} (rest : List Char), '\x00' ∉ path →
      cstr (shellQuoted path ++ '\x00' :: rest) = shellQuoted path := by
    intro path rest hpath
    rw [cstr_append (not_mem_shellQuoted hpath), cstr, List.takeWhile_cons_of_neg (by decide),
      List.append_nil]
  rw [hrest, hrest', hstr rest hh265, hstr rest' himage] at h
  have hfirst : ShellReader.readAll {}
      (snapshotFfmpegBin ++ " -hide_banner -loglevel error -y -f hevc -i ".toList)
      = some { words := ffmpegOptions } := by decide
  have hsecond : ShellReader.readAll { words := ffmpegOptions, word := some h265Path }
      " -frames:v 1 ".toList
      = some { words := ffmpegOptions ++ [h265Path, "-frames:v".toList, "1".toList] } := by rfl
  have hpath : ShellReader.readAll { words := ffmpegOptions } (shellQuoted h265Path)
      = some { words := ffmpegOptions, word := some h265Path } :=
    ShellReader.readAll_shellQuoted rfl h265Path
  rw [← Option.some.inj h, shellWords, ← List.append_assoc, ShellReader.readAll_append, hfirst,
    Option.bind_some, ShellReader.readAll_append, hpath, Option.bind_some,
    ShellReader.readAll_append, hsecond, Option.bind_some, ShellReader.readAll_shellQuoted rfl]
  rfl

/-- **The quoting is exact**, for every text and every size, and the paths come back from the
command line. -/
theorem snapshotShellQuote_exact :
    (∀ (src : List Char) (dstSize : ℕ) (cell : ℕ → Char), '\x00' ∉ src →
      QuotesExactly src dstSize (snapshotShellQuote dstSize src ⟨cell, []⟩)) ∧
    ∀ (quotedH265 quotedImage : ℕ → Char) (h265Path imagePath cmd : List Char),
      '\x00' ∉ h265Path → '\x00' ∉ imagePath →
      ffmpegCommand quotedH265 quotedImage h265Path imagePath = some cmd →
      shellWords cmd
        = some (ffmpegOptions ++ [h265Path, "-frames:v".toList, "1".toList, imagePath]) :=
  ⟨fun _ dstSize cell h => quotesExactly h dstSize cell,
    fun _ _ _ _ _ hh265 himage h => shellWords_ffmpegCommand hh265 himage h⟩

set_option maxRecDepth 20000 in
/-- An apostrophe takes four characters. Short paths get to the converter. -/
theorem snapshotShellQuote_sample :
    (snapshotShellQuote 9 ['a', '\x27', 'b'] ⟨fun _ => 'x', []⟩).1 = true ∧
      (snapshotShellQuote 8 ['a', '\x27', 'b'] ⟨fun _ => 'x', []⟩).1 = false ∧
      ∃ cmd, ffmpegCommand (fun _ => 'x') (fun _ => 'x') ['a'] ['b'] = some cmd ∧
        shellWords cmd
          = some (ffmpegOptions ++ [['a'], "-frames:v".toList, "1".toList, ['b']]) := by
  have hexact := snapshotShellQuote_exact.1 ['a', '\x27', 'b']
  obtain ⟨cmd, hcmd⟩ : ∃ cmd, ffmpegCommand (fun _ => 'x') (fun _ => 'x') ['a'] ['b'] = some cmd :=
    Option.isSome_iff_exists.mp (by decide)
  refine ⟨(hexact 9 _ (by decide)).success.mpr (by decide), ?_, cmd, hcmd,
    snapshotShellQuote_exact.2 _ _ _ _ _ (by decide) (by decide) hcmd⟩
  exact Bool.eq_false_iff.mpr fun h => absurd ((hexact 8 _ (by decide)).success.mp h) (by decide)

end LittleCore

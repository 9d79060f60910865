import LittleCore.Library.Strtoull

/-!
# The command line

`parse_args` of `RTSP_Create.c`, with `parse_u64_arg`. The globals it writes are its state. What
`load_file_source` makes of a path is left open here.

The loop takes the options as they come and looks only behind them at how they go together, so the
last `--fifo` counts, every one of them has to have an address that can be read, and a path next to
one is refused wherever it stands.

An address may be written to any of the three bases. One that does not fit 64 bits is not refused,
but becomes the largest that does; a zero is refused, as is a number with anything behind it.

## Main results

* `parseU64Arg_printed` — which numbers are taken for which addresses
* `parseArgs_iff` — exactly which command lines start the program, and in which mode
-/

namespace LittleCore

open Library

/-! ### Addresses -/

/-- `parse_u64_arg`, which returns 0 for what is no number. -/
def parseU64Arg (text : List Char) : UInt64 :=
  if text = [] then 0
  else
    match strtoull text with
    | none => 0
    | some (value, end_) => if end_ ≠ [] then 0 else .ofNat value

/-- **An address is read as it was printed** to any of the three bases, if it fits and if nothing is
behind it. A number that does not fit becomes the largest one, and a negative one is wrapped. -/
theorem parseU64Arg_printed {base : ℕ} (hbase : base = 8 ∨ base = 10 ∨ base = 16) {n : ℕ}
    (hn : 0 < n) {space sign rest : List Char} (hspace : ∀ c ∈ space, isSpace c)
    (hsign : sign = [] ∨ sign = ['+'] ∨ sign = ['-'])
    (hrest : ∀ c, rest.head? = some c → isDigitOf base c = false) :
    parseU64Arg (space ++ (sign ++ (printed base n ++ rest)))
      = if rest ≠ [] then 0 else if 2 ^ 64 ≤ n then .ofNat (2 ^ 64 - 1)
        else if sign = ['-'] then .ofNat (2 ^ 64 - n) else .ofNat n := by
  have hne : space ++ (sign ++ (printed base n ++ rest)) ≠ [] := by
    obtain ⟨c, l, hprinted, -⟩ := exists_printed hbase n
    simp [hprinted]
  rw [parseU64Arg, if_neg hne, strtoull_printed hbase hn hspace hsign hrest]
  dsimp only
  by_cases hend : rest = []
  · rw [if_neg (not_not.mpr hend), if_neg (not_not.mpr hend), clamp]
    by_cases hbig : 2 ^ 64 ≤ n
    · rw [if_pos hbig, if_pos hbig]
    · rw [if_neg hbig, if_neg hbig]
      by_cases hminus : sign = ['-']
      · rw [if_pos (beq_iff_eq.mpr hminus), if_pos hminus, Nat.mod_eq_of_lt (by omega)]
      · rw [if_neg (fun h => hminus (beq_iff_eq.mp h)), if_neg hminus]
  · rw [if_pos hend, if_pos hend]

theorem parseU64Arg_printed_sample : parseU64Arg " +0x12ffa000".toList = 0x12ffa000 := by
  have htext : " +0x12ffa000".toList = [' '] ++ (['+'] ++ (printed 16 0x12ffa000 ++ [])) := by
    decide +kernel
  have hspace : ∀ c ∈ [' '], isSpace c := by simp [isSpace]
  rw [htext, parseU64Arg_printed (n := 0x12ffa000) (.inr (.inr rfl)) (by omega) hspace
    (.inr (.inl rfl)) (by simp)]
  decide

/-! ### Options -/

/-- `stream_source_t`. -/
inductive StreamSource where
  | file
  | datafifo
deriving DecidableEq, Repr

/-- `g_source`, `g_fifo_phy_addr` and the local `input_path`. -/
structure ArgState where
  gSource : StreamSource := .file
  gFifoPhyAddr : UInt64 := 0
  inputPath : Option (List Char) := none
deriving DecidableEq

def fifoFlag : List Char := "--fifo".toList

/-- The loop of `parse_args` over the arguments behind the program's name; `none` where it returns
`-1`. -/
def parseArgsLoop : List (List Char) → ArgState → Option ArgState
  | [], s => some s
  | arg :: rest, s =>
    if arg = fifoFlag then
      match rest with
      | [] => none
      | text :: rest =>
        if parseU64Arg text = 0 then none
        else parseArgsLoop rest { s with gSource := .datafifo, gFifoPhyAddr := parseU64Arg text }
    else if arg.head? = some '-' then none
    else if s.inputPath.isSome then none
    else parseArgsLoop rest { s with inputPath := some arg }

/-- What the program starts with. -/
inductive Source (α : Type*) where
  | datafifo (fifoPhyAddr : UInt64)
  | file (loaded : α)
deriving DecidableEq

/-- `parse_args`. -/
def parseArgs {α : Type*} (loadFileSource : List Char → Option α) (args : List (List Char)) :
    Option (Source α) :=
  match parseArgsLoop args {} with
  | none => none
  | some s =>
    if s.gSource = .datafifo then
      if s.inputPath.isSome then none else some (.datafifo s.gFifoPhyAddr)
    else
      match s.inputPath with
      | none => none
      | some path => (loadFileSource path).map .file

/-! #### What the loop takes -/

/-- One turn of the loop. -/
inductive Argument where
  | fifo (text : List Char)
  | path (text : List Char)

namespace Argument

def words : Argument → List (List Char)
  | fifo text => [fifoFlag, text]
  | path text => [text]

def Good : Argument → Prop
  | fifo text => parseU64Arg text ≠ 0
  | path text => text.head? ≠ some '-'

def apply (s : ArgState) : Argument → ArgState
  | fifo text => { s with gSource := .datafifo, gFifoPhyAddr := parseU64Arg text }
  | path text => { s with inputPath := some text }

def isPath : Argument → Bool
  | fifo _ => false
  | path _ => true

@[simp] theorem isPath_fifo (text : List Char) : (fifo text).isPath = false := rfl

@[simp] theorem isPath_path (text : List Char) : (path text).isPath = true := rfl

end Argument

/-- How many paths there are. -/
def ArgState.paths (s : ArgState) (l : List Argument) : ℕ :=
  l.countP Argument.isPath + s.inputPath.toList.length

theorem parseArgsLoop_fifo (text : List Char) (rest : List (List Char)) (s : ArgState) :
    parseArgsLoop (fifoFlag :: text :: rest) s
      = if parseU64Arg text = 0 then none
        else parseArgsLoop rest ((Argument.fifo text).apply s) := by
  rw [parseArgsLoop, if_pos rfl]
  rfl

theorem parseArgsLoop_path {arg : List Char} (harg : arg ≠ fifoFlag) (rest : List (List Char))
    (s : ArgState) :
    parseArgsLoop (arg :: rest) s
      = if arg.head? = some '-' then none else if s.inputPath.isSome then none
        else parseArgsLoop rest ((Argument.path arg).apply s) := by
  rw [parseArgsLoop.eq_def]
  exact if_neg harg

/-- What the loop gets through is a row of turns, with one path at most. -/
theorem parseArgsLoop_sound {args : List (List Char)} {s s' : ArgState}
    (h : parseArgsLoop args s = some s') : ∃ l : List Argument, args = l.flatMap Argument.words ∧
      (∀ a ∈ l, a.Good) ∧ s' = l.foldl Argument.apply s ∧ s.paths l ≤ 1 := by
  induction args, s using parseArgsLoop.induct with
  | case1 s =>
    rw [parseArgsLoop, Option.some.injEq] at h
    refine ⟨[], rfl, by simp, h.symm, ?_⟩
    rw [ArgState.paths]
    cases s.inputPath <;> simp
  | case2 s =>
    rw [parseArgsLoop, if_pos rfl] at h
    cases h
  | case3 s text rest hzero =>
    rw [parseArgsLoop_fifo, if_pos hzero] at h
    cases h
  | case4 s text rest hne ih =>
    rw [parseArgsLoop_fifo, if_neg hne] at h
    obtain ⟨l, rfl, hgood, rfl, hpaths⟩ := ih h
    exact ⟨.fifo text :: l, rfl, List.forall_mem_cons.mpr ⟨hne, hgood⟩, rfl, hpaths⟩
  | case5 arg rest s hflag hdash =>
    rw [parseArgsLoop_path hflag, if_pos hdash] at h
    cases h
  | case6 arg rest s hflag hdash hpath =>
    rw [parseArgsLoop_path hflag, if_neg hdash, if_pos hpath] at h
    cases h
  | case7 arg rest s hflag hdash hpath ih =>
    rw [parseArgsLoop_path hflag, if_neg hdash, if_neg hpath] at h
    obtain ⟨l, rfl, hgood, rfl, hpaths⟩ := ih h
    refine ⟨.path arg :: l, rfl, List.forall_mem_cons.mpr ⟨hdash, hgood⟩, rfl, ?_⟩
    rw [ArgState.paths] at hpaths ⊢
    rw [Option.not_isSome_iff_eq_none] at hpath
    rw [List.countP_cons_of_pos (Argument.isPath_path arg), hpath, Option.toList_none]
    exact hpaths

theorem parseArgsLoop_complete {l : List Argument} {s : ArgState} (hgood : ∀ a ∈ l, a.Good)
    (hpaths : s.paths l ≤ 1) :
    parseArgsLoop (l.flatMap Argument.words) s = some (l.foldl Argument.apply s) := by
  induction l generalizing s with
  | nil => rfl
  | cons a l ih =>
    obtain ⟨ha, hrest⟩ := List.forall_mem_cons.mp hgood
    rw [List.flatMap_cons, List.foldl_cons]
    cases a with
    | fifo text =>
      rw [Argument.words, List.cons_append, List.singleton_append, parseArgsLoop_fifo, if_neg ha]
      exact ih hrest hpaths
    | path text =>
      have hflag : text ≠ fifoFlag := by
        rintro rfl
        exact ha rfl
      have hone : l.countP Argument.isPath + 1 + s.inputPath.toList.length ≤ 1 := by
        rwa [ArgState.paths, List.countP_cons_of_pos (Argument.isPath_path text)] at hpaths
      have hnone : s.inputPath = none := by
        cases hpath : s.inputPath with
        | none => rfl
        | some path =>
          rw [hpath, Option.toList_some, List.length_singleton] at hone
          omega
      rw [Argument.words, List.singleton_append, parseArgsLoop_path hflag, if_neg ha,
        if_neg (by simp [hnone])]
      refine ih hrest ?_
      rw [ArgState.paths]
      simp only [Argument.apply, Option.toList_some, List.length_singleton]
      omega

/-! #### The two modes -/

/-- Without a path the turns are options. -/
theorem exists_texts {l : List Argument} (h : l.countP Argument.isPath = 0) :
    ∃ texts : List (List Char), l = texts.map .fifo := by
  induction l with
  | nil => exact ⟨[], rfl⟩
  | cons a l ih =>
    cases a with
    | fifo text =>
      obtain ⟨texts, rfl⟩ := ih (by simpa using h)
      exact ⟨text :: texts, rfl⟩
    | path text => simp at h

theorem foldl_apply_fifo (texts : List (List Char)) (s : ArgState) :
    (texts.map Argument.fifo).foldl Argument.apply s
      = match texts.getLast? with
        | none => s
        | some text => { s with gSource := .datafifo, gFifoPhyAddr := parseU64Arg text } := by
  induction texts using List.reverseRecOn with
  | nil => rfl
  | append_singleton texts text ih =>
    rw [List.map_append, List.foldl_append, ih, List.getLast?_concat]
    cases texts.getLast? <;> rfl

theorem foldl_apply_inputPath (l : List Argument) (s : ArgState) :
    (l.foldl Argument.apply s).inputPath = none ↔
      s.inputPath = none ∧ l.countP Argument.isPath = 0 := by
  induction l generalizing s with
  | nil => simp
  | cons a l ih =>
    rw [List.foldl_cons, ih]
    cases a <;> simp [Argument.apply]

theorem foldl_apply_gSource (l : List Argument) (s : ArgState) :
    (l.foldl Argument.apply s).gSource = .file ↔ s.gSource = .file ∧ ∀ a ∈ l, a.isPath := by
  induction l generalizing s with
  | nil => simp
  | cons a l ih =>
    rw [List.foldl_cons, ih]
    cases a <;> simp [Argument.apply]

theorem flatMap_words_fifo (texts : List (List Char)) :
    (texts.map Argument.fifo).flatMap Argument.words = texts.flatMap fun text => [fifoFlag, text] :=
  List.flatMap_map ..

section Modes

variable {α : Type*} {loadFileSource : List Char → Option α} {args : List (List Char)}

theorem parseArgs_datafifo_iff (fifoPhyAddr : UInt64) :
    parseArgs loadFileSource args = some (.datafifo fifoPhyAddr) ↔
      ∃ texts : List (List Char), args = (texts.flatMap fun text => [fifoFlag, text]) ∧
        (∀ text ∈ texts, parseU64Arg text ≠ 0) ∧
        texts.getLast?.map parseU64Arg = some fifoPhyAddr := by
  rw [parseArgs]
  constructor
  · intro h
    cases hloop : parseArgsLoop args {} with
    | none =>
      rw [hloop] at h
      cases h
    | some s =>
      rw [hloop] at h
      dsimp only at h
      split_ifs at h with hsource hpath
      · obtain ⟨l, rfl, hgood, rfl, -⟩ := parseArgsLoop_sound hloop
        rw [Option.not_isSome_iff_eq_none, foldl_apply_inputPath] at hpath
        obtain ⟨texts, rfl⟩ := exists_texts hpath.2
        rw [foldl_apply_fifo] at hsource h
        refine ⟨texts, flatMap_words_fifo texts, fun text htext => ?_, ?_⟩
        · exact hgood _ (List.mem_map_of_mem htext)
        · cases hlast : texts.getLast? with
          | none =>
            rw [hlast] at hsource
            cases hsource
          | some text =>
            rw [hlast, Option.some.injEq, Source.datafifo.injEq] at h
            rw [Option.map_some, ← h]
      · split at h
        · cases h
        · obtain ⟨_, -, h⟩ := Option.map_eq_some_iff.mp h
          cases h
  · rintro ⟨texts, rfl, hgood, hlast⟩
    obtain ⟨text, htext, rfl⟩ := Option.map_eq_some_iff.mp hlast
    have hloop := parseArgsLoop_complete (l := texts.map .fifo) (s := {})
      (fun a ha => by
        obtain ⟨text, htext, rfl⟩ := List.mem_map.mp ha
        exact hgood text htext)
      (by simp [ArgState.paths, List.countP_eq_zero.mpr])
    rw [flatMap_words_fifo, foldl_apply_fifo, htext] at hloop
    rw [hloop]
    rfl

theorem parseArgs_file_iff (loaded : α) :
    parseArgs loadFileSource args = some (.file loaded) ↔
      ∃ path, args = [path] ∧ path.head? ≠ some '-' ∧ loadFileSource path = some loaded := by
  rw [parseArgs]
  constructor
  · intro h
    cases hloop : parseArgsLoop args {} with
    | none =>
      rw [hloop] at h
      cases h
    | some s =>
      have hsource : s.gSource ≠ .datafifo := by
        intro hsource
        rw [hloop] at h
        dsimp only at h
        rw [if_pos hsource] at h
        split_ifs at h
        cases h
      rw [hloop] at h
      dsimp only at h
      rw [if_neg hsource] at h
      obtain ⟨l, rfl, hgood, rfl, hpaths⟩ := parseArgsLoop_sound hloop
      have hfile : (l.foldl Argument.apply {}).gSource = .file := by
        cases hs : (l.foldl Argument.apply {}).gSource with
        | file => rfl
        | datafifo => exact absurd hs hsource
      have hall := ((foldl_apply_gSource l {}).mp hfile).2
      rw [ArgState.paths, List.countP_eq_length.mpr hall] at hpaths
      rcases l with _ | ⟨a, l⟩
      · cases h
      · obtain rfl : l = [] := by
          rw [← List.length_eq_zero_iff]
          simp only [List.length_cons, Option.toList_none, List.length_nil] at hpaths
          omega
        cases a with
        | fifo text => exact absurd (hall _ (List.mem_singleton_self _)) (by simp)
        | path text =>
          obtain ⟨loaded', hload, heq⟩ := Option.map_eq_some_iff.mp h
          rw [Source.file.injEq] at heq
          exact ⟨text, rfl, hgood _ (List.mem_singleton_self _), by rw [hload, heq]⟩
  · rintro ⟨path, rfl, hdash, hload⟩
    have hflag : path ≠ fifoFlag := by
      rintro rfl
      exact hdash rfl
    rw [parseArgsLoop_path hflag, if_neg hdash]
    simp [Argument.apply, parseArgsLoop, hload]

/-- **The command lines that start the program.** In DATAFIFO mode these are the rows of one or more
`--fifo` with an address each, of which the last counts; in file mode it is a single path that does
not look like an option and can be loaded. Every other one gets the usage text. -/
theorem parseArgs_iff (source : Source α) :
    parseArgs loadFileSource args = some source ↔
      match source with
      | .datafifo fifoPhyAddr => ∃ texts : List (List Char),
          args = (texts.flatMap fun text => [fifoFlag, text]) ∧
          (∀ text ∈ texts, parseU64Arg text ≠ 0) ∧
          texts.getLast?.map parseU64Arg = some fifoPhyAddr
      | .file loaded => ∃ path, args = [path] ∧ path.head? ≠ some '-' ∧
          loadFileSource path = some loaded := by
  cases source with
  | datafifo fifoPhyAddr => exact parseArgs_datafifo_iff fifoPhyAddr
  | file loaded => exact parseArgs_file_iff loaded

end Modes

end LittleCore

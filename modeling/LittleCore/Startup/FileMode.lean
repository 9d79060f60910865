import LittleCore.Reception
import LittleCore.Startup.Main

/-!
# The file mode from end to end

From the command line and the bytes of a file to what comes out at a receiver: the file is read, cut
into its NALUs, and once a client plays they are cut into packets, which a receiver puts together
again. Each stage has its own module and its own failures; here they are one.

The file is written as an encoder writes it, NALUs behind start codes with any number of zeros in
front of each.

## Main results

* `file_mode_delivers`
-/

namespace LittleCore

open Library World

namespace Startup

/-- NALUs that survive being written one behind the other, with types that a receiver knows. -/
structure Playable (nalu : List UInt8) : Prop where
  ne_nil : nalu ≠ []
  last : nalu.getLast? ≠ some 0x00
  noStartCode : ¬ shortStartCode <:+: nalu
  readable : Readable nalu

/-- Cutting gives back what was joined. -/
theorem loadFileSource_annexbJoin {realloc : ℕ → Bool} {units : List (ℕ × List UInt8)}
    (hunits : ∀ u ∈ units, Playable u.2) {gNalus : List (List UInt8)}
    (h : LittleCore.loadFileSource realloc (annexbJoin units) = some gNalus) :
    gNalus = units.map Prod.snd := by
  have hparts := (map_startCodeParts_annexbJoin (p := []) (fun u hu => (hunits u hu).last)
    (fun u hu => (hunits u hu).noStartCode) (by decide) (by decide)).2
  rw [List.nil_append] at hparts
  rw [(loadFileSource_eq h).2, hparts, List.filter_eq_self.mpr]
  intro nalu hmem
  obtain ⟨u, hu, rfl⟩ := List.mem_map.mp hmem
  simpa using (hunits u hu).ne_nil

/-- In file mode `main` serves what is in the file. -/
theorem main_file {env : BootEnv} {path : List Char} {content : List UInt8}
    (hopen : env.fopen path = some content) {source : Source (List (List UInt8))}
    (h : (main env [path]).1 = some source) : ∃ gNalus, source = .file gNalus ∧
      LittleCore.loadFileSource env.realloc content = some gNalus := by
  rw [main] at h
  cases hargs : parseArgs (fun path => some (loadFileSource env path [])) [path] with
  | none =>
    rw [hargs] at h
    cases h
  | some s =>
    rw [hargs] at h
    cases s with
    | datafifo gFifoPhyAddr =>
      -- One argument is no `--fifo` with its address.
      obtain ⟨texts, heq, -, hlast⟩ := (parseArgs_datafifo_iff gFifoPhyAddr).mp hargs
      rcases texts with _ | ⟨text, texts⟩
      · cases hlast
      · simp at heq
    | file loaded =>
      obtain ⟨path', hpath, -, hload⟩ := (parseArgs_file_iff loaded).mp hargs
      obtain rfl : path = path' := by simpa using hpath
      have hspec := loadFileSource_spec env path
      rw [Option.some.inj hload] at hspec
      obtain ⟨nalus, t⟩ := loaded
      rcases hspec with ⟨content', gNalus, hopen', rfl, hnalus, hholds⟩ | ⟨rfl, -⟩
      · rw [hopen, Option.some.injEq] at hopen'
        dsimp only at h
        rcases @startThreads_holds _ env false true (Source.file gNalus) _ hholds
          with ⟨hnone, -⟩ | ⟨hsome, -⟩
        · rw [hnone] at h
          cases h
        · rw [hsome, Option.some.injEq] at h
          exact ⟨gNalus, h.symm, hopen' ▸ hnalus⟩
      · cases h

/-- **The file mode from end to end.** If the program serves a file of NALUs at all, then what it
serves are these NALUs; and whatever is lost, and whenever clients come and go, a receiver at an
address outputs the NALUs of the passes to it, each in its turn and byte for byte. -/
theorem file_mode_delivers {env : BootEnv} {path : List Char} {units : List (ℕ × List UInt8)}
    (hopen : env.fopen path = some (annexbJoin units)) (hunits : ∀ u ∈ units, Playable u.2)
    {source : Source (List (List UInt8))} (hmain : (main env [path]).1 = some source) :
    source = .file (units.map Prod.snd) ∧ ∀ (net : Env) (rounds : ℕ) (addr : SockAddrIn),
      depacketize (packetsFor addr
          (fileRtpSenderLoop net (units.map Prod.snd) rounds).2.trace)
        = inTurn (units.map Prod.snd) addr (filePasses net (units.map Prod.snd) rounds) := by
  obtain ⟨gNalus, rfl, hload⟩ := main_file hopen hmain
  obtain rfl := loadFileSource_annexbJoin hunits hload
  have hread : ∀ nalu ∈ units.map Prod.snd, Readable nalu := by
    intro nalu hmem
    obtain ⟨u, hu, rfl⟩ := List.mem_map.mp hmem
    exact (hunits u hu).readable
  exact ⟨rfl, fun net rounds addr =>
    ((fileRtpSenderLoop_brings net hread rounds).1 addr).depacketize_eq⟩

/-- A VPS behind a long start code, and an IDR behind a short one. -/
def samplePlayable : List (ℕ × List UInt8) := [(1, [0x40, 1]), (0, [0x26, 1])]

def samplePlayableBoot : BootEnv where
  fopen _ := some (annexbJoin samplePlayable)
  fread := 11

/-- The first packet is lost, and its NALU is sent again. -/
theorem file_mode_delivers_sample :
    depacketize (packetsFor ⟨7, 5000⟩
      (fileRtpSenderLoop lossyPlayingEnv [[0x40, 1], [0x26, 1]] 4).2.trace)
        = [[0x40, 1], [0x26, 1], [0x40, 1]] := by
  have hunits : ∀ u ∈ samplePlayable, Playable u.2 := by
    intro u hu
    rcases List.mem_pair.mp hu with rfl | rfl <;>
      exact ⟨by decide, by decide, by decide, by decide⟩
  have hmain : (main samplePlayableBoot ["a.h265".toList]).1
      = some (.file [[0x40, 1], [0x26, 1]]) := by
    decide +kernel
  exact ((file_mode_delivers rfl hunits hmain).2 lossyPlayingEnv 4 ⟨7, 5000⟩).trans
    (by decide +kernel)

end Startup

end LittleCore

import Mathlib.Data.Nat.Notation
import Mathlib.Tactic.Common

/-!
# Words of the shell

How a POSIX shell takes a command line apart. The reader knows single quotes, backslashes, blanks
and the characters that never mean anything. It refuses everything else, so what it returns are
words in which nothing was interpreted.

A text in single quotes is read as it is. An apostrophe cannot stand there: the quotes are closed,
it is given with a backslash, and they are opened again.

## Main results

* `shellWords_shellQuoted` — a quoted text is one word, the text itself
* `readAll_shellQuoted` — the same in the middle of a command line
-/

namespace Library

/-- The quotes the reader is in. -/
inductive ShellQuote where
  | unquoted
  | single
  /-- Behind a backslash. -/
  | escaped
deriving DecidableEq, Repr

/-- The words that are complete, and the one that has been begun. -/
structure ShellReader where
  words : List (List Char) := []
  word : Option (List Char) := none
  quote : ShellQuote := .unquoted
deriving DecidableEq, Repr

/-- A character that has no meaning to the shell, wherever it stands. -/
def isPlainShellChar (c : Char) : Bool := c.isAlphanum || "-_./:,+@".toList.contains c

namespace ShellReader

/-- A character of a word. -/
def push (r : ShellReader) (c : Char) : ShellReader :=
  { r with word := some (r.word.getD [] ++ [c]) }

/-- Reads a character; `none` where it may be interpreted. -/
def step (r : ShellReader) (c : Char) : Option ShellReader :=
  match r.quote with
  | .single => if c = '\x27' then some { r with quote := .unquoted } else some (r.push c)
  | .escaped => if c = '\n' then none else some { r.push c with quote := .unquoted }
  | .unquoted =>
    if c = '\x27' then some { r with word := some (r.word.getD []), quote := .single }
    else if c = '\x5c' then some { r with word := some (r.word.getD []), quote := .escaped }
    else if c = ' ' ∨ c = '\t' then some { r with words := r.words ++ r.word.toList, word := none }
    else if isPlainShellChar c then some (r.push c)
    else none

def readAll (r : ShellReader) (text : List Char) : Option ShellReader := text.foldlM step r

end ShellReader

/-- The words of a command line. -/
def shellWords (text : List Char) : Option (List (List Char)) :=
  (ShellReader.readAll {} text).bind fun r =>
    if r.quote = .unquoted then some (r.words ++ r.word.toList) else none

/-- A character between single quotes. -/
def quotedChar (c : Char) : List Char :=
  if c = '\x27' then ['\x27', '\x5c', '\x27', '\x27'] else [c]

/-- A text in single quotes. -/
def shellQuoted (s : List Char) : List Char := '\x27' :: (s.flatMap quotedChar ++ ['\x27'])

theorem length_shellQuoted (s : List Char) :
    (shellQuoted s).length = s.length + 3 * s.count '\x27' + 2 := by
  have hchars : (s.flatMap quotedChar).length = s.length + 3 * s.count '\x27' := by
    induction s with
    | nil => rfl
    | cons c s ih =>
      rw [List.flatMap_cons, List.length_append, ih, quotedChar, List.length_cons]
      split
      · rename_i hc
        rw [hc, List.count_cons_self]
        simp only [List.length_cons, List.length_nil]
        omega
      · rename_i hc
        rw [List.count_cons_of_ne hc]
        simp only [List.length_cons, List.length_nil]
        omega
  rw [shellQuoted, List.length_cons, List.length_append, List.length_singleton, hchars]

namespace ShellReader

theorem readAll_append (r : ShellReader) (s t : List Char) :
    r.readAll (s ++ t) = (r.readAll s).bind fun r => r.readAll t := by
  rw [readAll, List.foldlM_append]
  rfl

theorem readAll_cons (r : ShellReader) (c : Char) (s : List Char) :
    r.readAll (c :: s) = (r.step c).bind fun r => r.readAll s := by
  rw [readAll, List.foldlM_cons]
  rfl

/-- Between single quotes. -/
theorem readAll_quotedChar {r : ShellReader} (hr : r.quote = .single) (c : Char) :
    r.readAll (quotedChar c) = some (r.push c) := by
  obtain ⟨words, word, quote⟩ := r
  obtain rfl : quote = .single := hr
  rw [quotedChar]
  split
  · rename_i hc
    rw [hc]
    cases word <;> rfl
  · rename_i hc
    rw [readAll_cons, step, if_neg hc]
    rfl

theorem readAll_quotedChars {r : ShellReader} (hr : r.quote = .single) {w : List Char}
    (hw : r.word = some w) (s : List Char) :
    r.readAll (s.flatMap quotedChar) = some { r with word := some (w ++ s) } := by
  induction s generalizing r w with
  | nil =>
    rw [List.append_nil, ← hw]
    rfl
  | cons c s ih =>
    have hpush : (r.push c).word = some (w ++ [c]) := by rw [push, hw]; rfl
    rw [List.flatMap_cons, readAll_append, readAll_quotedChar hr, Option.bind_some,
      ih (r := r.push c) hr hpush, List.append_assoc]
    rfl

/-- **A quoted text** goes to the word as it is. -/
theorem readAll_shellQuoted {r : ShellReader} (hr : r.quote = .unquoted) (s : List Char) :
    r.readAll (shellQuoted s) = some { r with word := some (r.word.getD [] ++ s) } := by
  have hopen : r.step '\x27' = some { r with word := some (r.word.getD []), quote := .single } := by
    rw [step, hr]
    rfl
  rw [shellQuoted, readAll_cons, hopen, Option.bind_some, readAll_append,
    readAll_quotedChars rfl rfl, Option.bind_some]
  obtain ⟨words, word, quote⟩ := r
  obtain rfl : quote = .unquoted := hr
  rfl

end ShellReader

/-- **A quoted text is one word.** -/
theorem shellWords_shellQuoted (s : List Char) : shellWords (shellQuoted s) = some [s] := by
  rw [shellWords, ShellReader.readAll_shellQuoted rfl]
  rfl

example : shellWords "ls -l 'a b'.c".toList
    = some ["ls".toList, "-l".toList, "a b.c".toList] := by
  decide

end Library

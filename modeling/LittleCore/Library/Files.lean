import Mathlib.Data.Nat.Notation
import Mathlib.Tactic.Common

/-!
# Files

The regular files of a file system, by their paths. What a program does to them is bounded by the
paths that it touches: `OnlyTouches P` is the frame of a call, and frames compose.

## Main results

* `Files.OnlyTouches.trans` — calls after one another
* `Files.OnlyTouches.keeps` — a call that touches new paths only keeps every file
-/

namespace Library

/-- The content of each file; `none` where there is none. -/
abbrev Files := List Char → Option (List UInt8)

namespace Files

variable {P Q : List Char → Prop} {f g h : Files} {path : List Char}

/-- The file at `path` is given a content, or taken away. -/
def set (f : Files) (path : List Char) (content : Option (List UInt8)) : Files := fun p =>
  if p = path then content else f p

/-- `open` with `O_CREAT` for a file that is not there. -/
def create (f : Files) (path : List Char) : Files := f.set path (some [])

/-- `write` at the end of a file. -/
def append (f : Files) (path : List Char) (bytes : List UInt8) : Files :=
  f.set path (some ((f path).getD [] ++ bytes))

def unlink (f : Files) (path : List Char) : Files := f.set path none

@[simp] theorem set_self (f : Files) (path : List Char) (content : Option (List UInt8)) :
    f.set path content path = content :=
  if_pos rfl

@[simp] theorem create_self (f : Files) (path : List Char) : f.create path path = some [] :=
  set_self ..

@[simp] theorem append_self (f : Files) (path : List Char) (bytes : List UInt8) :
    f.append path bytes path = some ((f path).getD [] ++ bytes) :=
  set_self ..

/-- Files outside of `P` are as they were. -/
def OnlyTouches (P : List Char → Prop) (f g : Files) : Prop := ∀ path, ¬ P path → g path = f path

namespace OnlyTouches

theorem refl (P : List Char → Prop) (f : Files) : OnlyTouches P f f := fun _ _ => rfl

theorem trans (h₁ : OnlyTouches P f g) (h₂ : OnlyTouches P g h) : OnlyTouches P f h :=
  fun path hpath => (h₂ path hpath).trans (h₁ path hpath)

theorem mono (h : OnlyTouches P f g) (hPQ : ∀ path, P path → Q path) : OnlyTouches Q f g :=
  fun path hpath => h path fun hP => hpath (hPQ path hP)

theorem set (h : P path) (f : Files) (content : Option (List UInt8)) :
    OnlyTouches P f (f.set path content) := by
  intro p hp
  refine if_neg ?_
  rintro rfl
  exact hp h

theorem create (h : P path) (f : Files) : OnlyTouches P f (f.create path) := set h f _

theorem append (h : P path) (f : Files) (bytes : List UInt8) :
    OnlyTouches P f (f.append path bytes) := set h f _

theorem unlink (h : P path) (f : Files) : OnlyTouches P f (f.unlink path) := set h f _

/-- **What was not there when it was chosen** is all that is touched, so every file is kept. -/
theorem keeps (h : OnlyTouches P f g) (hnew : ∀ path, P path → f path = none) {bytes : List UInt8}
    (hfile : f path = some bytes) : g path = some bytes := by
  rw [h path fun hP => ?_, hfile]
  rw [hnew path hP] at hfile
  cases hfile

end OnlyTouches

end Files

end Library

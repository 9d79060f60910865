import Mathlib.Data.List.Basic
import Mathlib.Data.List.Induction
import Mathlib.Data.Nat.Notation
import Mathlib.Tactic.Common

/-!
# Directories

The directories of a file system and `mkdir`. A node is a number, and a directory is a node with
entries; `.` and `..` are entries like others. Links have been followed: an entry is the node that
is reached by it. What is no directory is here a node without entries, and so is a directory that
may not be searched.

Nothing is ever removed. `Extends` is the order in which such a file system grows: what was there
stays as it is.

## Main results

* `Directories.mkdir_eexist_iff` — `EEXIST` says that the path leads somewhere
* `Directories.of_mkdir_made` — a new directory, and the path leads to it
* `Directories.resolve_of_failed` — any other error says that the path leads nowhere
-/

namespace Library

/-- The nodes of a file system and their entries. -/
structure Directories where
  /-- The nodes are the numbers below it. -/
  size : ℕ
  isDir : ℕ → Bool
  entry : ℕ → List Char → Option ℕ
  root : ℕ
  /-- Where relative paths begin. -/
  cwd : ℕ
  isDir_of_entry : ∀ {i name j}, entry i name = some j → isDir i = true
  entry_lt : ∀ {i name j}, entry i name = some j → j < size
  lt_size : ∀ {i}, isDir i = true → i < size
  isDir_root : isDir root = true
  isDir_cwd : isDir cwd = true

/-- The names in a path. Slashes that follow one another count once, and at the end they do not
count. -/
def pathNames (path : List Char) : List (List Char) :=
  (path.splitOnP (· = '/')).filter (· ≠ [])

theorem pathNames_append_slash (path rest : List Char) :
    pathNames (path ++ '/' :: rest) = pathNames path ++ pathNames rest := by
  have hsplit := List.splitOnP_append_cons (p := (· = '/')) path rest (decide_eq_true rfl)
  rw [pathNames, hsplit, List.filter_append]
  rfl

/-- A path without a slash is a name, if it is not empty. -/
theorem pathNames_of_notMem {path : List Char} (hslash : '/' ∉ path) (hpath : path ≠ []) :
    pathNames path = [path] := by
  have hsplit : path.splitOnP (· = '/') = [path] := by
    refine List.splitOnP_eq_singleton fun c hc => decide_eq_false ?_
    rintro rfl
    exact hslash hc
  rw [pathNames, hsplit]
  exact List.filter_cons_of_pos (decide_eq_true hpath)

/-- All names but the last are the names of the path in front of some slash. -/
theorem exists_dropLast_pathNames {path : List Char} (h : (pathNames path).dropLast ≠ []) :
    ∃ front rest, path = front ++ '/' :: rest ∧ front ≠ [] ∧
      pathNames front = (pathNames path).dropLast := by
  induction path using List.reverseRecOn with
  | nil => exact absurd rfl h
  | append_singleton path c ih =>
    by_cases hc : c = '/'
    · -- A slash at the end is no name.
      have hnames : pathNames (path ++ [c]) = pathNames path := by
        rw [hc, pathNames_append_slash]
        exact List.append_nil _
      rw [hnames] at h ⊢
      obtain ⟨front, rest, rfl, hfront, hdrop⟩ := ih h
      exact ⟨front, rest ++ [c], by simp, hfront, hdrop⟩
    · by_cases hslash : '/' ∈ path
      · -- The last slash is in front of the last name.
        obtain ⟨back, front, hrev, hback⟩ :=
          List.eq_append_cons_of_mem (List.mem_reverse.mpr hslash)
        have hpath : path ++ [c] = front.reverse ++ '/' :: (back.reverse ++ [c]) := by
          have := congrArg List.reverse hrev
          simp only [List.reverse_reverse, List.reverse_append, List.reverse_cons] at this
          simp [this]
        have hlast : pathNames (back.reverse ++ [c]) = [back.reverse ++ [c]] := by
          refine pathNames_of_notMem ?_ (by simp)
          simp [hback, Ne.symm hc]
        have hdrop : (pathNames (path ++ [c])).dropLast = pathNames front.reverse := by
          rw [hpath, pathNames_append_slash, hlast, List.dropLast_concat]
        refine ⟨front.reverse, _, hpath, ?_, hdrop.symm⟩
        rintro hnil
        rw [hdrop, hnil] at h
        exact h rfl
      · rw [pathNames_of_notMem (by simp [hslash, Ne.symm hc]) (by simp)] at h
        exact absurd rfl h

/-- What `mkdir` answers: it has made a directory, it has set `errno` to `EEXIST`, or to another
value. -/
inductive MkdirResult where
  | made (t : Directories)
  | eexist
  | failed

namespace Directories

variable {t t' t'' : Directories} {i j parent : ℕ} {name : List Char} {names : List (List Char)}
  {path : List Char}

/-- Where the names lead from a node. -/
def walk (t : Directories) (i : ℕ) (names : List (List Char)) : Option ℕ := names.foldlM t.entry i

/-- Where a path begins. -/
def start (t : Directories) (path : List Char) : ℕ :=
  if path.head? = some '/' then t.root else t.cwd

/-- Where a path leads. -/
def resolve (t : Directories) (path : List Char) : Option ℕ :=
  if path = [] then none else t.walk (t.start path) (pathNames path)

/-- An empty directory more. -/
def add (t : Directories) (parent : ℕ) (name : List Char) (hparent : t.isDir parent = true) :
    Directories where
  size := t.size + 1
  isDir i := t.isDir i || i == t.size
  entry i name' :=
    if i = t.size then
      if name' = ['.'] then some t.size else if name' = ['.', '.'] then some parent else none
    else if i = parent ∧ name' = name then some t.size
    else t.entry i name'
  root := t.root
  cwd := t.cwd
  isDir_of_entry {i name' j} h := by
    split_ifs at h with hi hdot hdots hnew
    · simp [hi]
    · simp [hi]
    · simp [hnew.1, hparent]
    · simp [t.isDir_of_entry h]
  entry_lt {i name' j} h := by
    have hlt := t.lt_size hparent
    split_ifs at h with hi hdot hdots hnew
    · obtain rfl := Option.some.inj h
      exact Nat.lt_succ_self _
    · obtain rfl := Option.some.inj h
      exact Nat.lt_succ_of_lt hlt
    · obtain rfl := Option.some.inj h
      exact Nat.lt_succ_self _
    · exact Nat.lt_succ_of_lt (t.entry_lt h)
  lt_size {i} h := by
    rcases Bool.or_eq_true_iff.mp h with h | h
    · exact Nat.lt_succ_of_lt (t.lt_size h)
    · rw [eq_of_beq h]
      exact Nat.lt_succ_self _
  isDir_root := by simp [t.isDir_root]
  isDir_cwd := by simp [t.isDir_cwd]

/-- `mkdir`. The last name is the one to be made; `mayMake` says whether the file system makes a
name that is free. -/
def mkdir (mayMake : Directories → ℕ → List Char → Bool) (t : Directories) (path : List Char) :
    MkdirResult :=
  if path = [] then .failed
  else
    match (pathNames path).getLast? with
    | none => .eexist
    | some name =>
      match t.walk (t.start path) (pathNames path).dropLast with
      | none => .failed
      | some parent =>
        match t.entry parent name with
        | some _ => .eexist
        | none =>
          if hparent : t.isDir parent = true then
            if mayMake t parent name then .made (t.add parent name hparent) else .failed
          else .failed

/-! ### Growth -/

/-- What was there stays as it is. -/
structure Extends (t t' : Directories) : Prop where
  size_le : t.size ≤ t'.size
  entry : ∀ {i name j}, t.entry i name = some j → t'.entry i name = some j
  isDir_old : ∀ {i}, i < t.size → t'.isDir i = t.isDir i
  root : t'.root = t.root
  cwd : t'.cwd = t.cwd

namespace Extends

theorem refl (t : Directories) : t.Extends t :=
  ⟨Nat.le_refl _, id, fun _ => rfl, rfl, rfl⟩

theorem trans (h : t.Extends t') (h' : t'.Extends t'') : t.Extends t'' where
  size_le := Nat.le_trans h.size_le h'.size_le
  entry he := h'.entry (h.entry he)
  isDir_old {i} hi := by
    rw [h'.isDir_old (Nat.lt_of_lt_of_le hi h.size_le), h.isDir_old hi]
  root := h'.root.trans h.root
  cwd := h'.cwd.trans h.cwd

theorem start (h : t.Extends t') (path : List Char) : t'.start path = t.start path := by
  rw [Directories.start, Directories.start, h.root, h.cwd]

theorem walk (h : t.Extends t') (hw : t.walk i names = some j) : t'.walk i names = some j := by
  induction names generalizing i with
  | nil => exact hw
  | cons name names ih =>
    rw [Directories.walk, List.foldlM_cons, Option.bind_eq_bind, Option.bind_eq_some_iff] at hw ⊢
    obtain ⟨k, hk, hw⟩ := hw
    exact ⟨k, h.entry hk, ih hw⟩

/-- A path goes on leading where it leads. -/
theorem resolve (h : t.Extends t') (hr : t.resolve path = some i) : t'.resolve path = some i := by
  rw [Directories.resolve] at hr ⊢
  split_ifs at hr ⊢ with hpath
  rw [h.start]
  exact h.walk hr

theorem add (t : Directories) (name : List Char) (hparent : t.isDir parent = true)
    (hfree : t.entry parent name = none) : t.Extends (t.add parent name hparent) where
  size_le := Nat.le_succ _
  entry {i name' j} he := by
    have hi := t.lt_size (t.isDir_of_entry he)
    have hne : ¬ (i = parent ∧ name' = name) := by
      rintro ⟨rfl, rfl⟩
      rw [hfree] at he
      cases he
    change (if i = t.size then _ else if _ then _ else _) = _
    rw [if_neg (Nat.ne_of_lt hi), if_neg hne, he]
  isDir_old {i} hi := by
    change (t.isDir i || i == t.size) = _
    rw [beq_false_of_ne (Nat.ne_of_lt hi), Bool.or_false]
  root := rfl
  cwd := rfl

end Extends

/-! ### Paths -/

theorem walk_append (t : Directories) (i : ℕ) (names names' : List (List Char)) :
    t.walk i (names ++ names') = (t.walk i names).bind fun j => t.walk j names' :=
  List.foldlM_append

theorem walk_concat (t : Directories) (i : ℕ) (names : List (List Char)) (name : List Char) :
    t.walk i (names ++ [name]) = (t.walk i names).bind fun j => t.entry j name := by
  rw [walk_append]
  congr 1
  funext j
  exact Option.bind_fun_some _

theorem start_append (t : Directories) (hpath : path ≠ []) (rest : List Char) :
    t.start (path ++ rest) = t.start path := by
  obtain ⟨c, path, rfl⟩ := List.exists_cons_of_ne_nil hpath
  rfl

/-- What leads somewhere does so at every slash. -/
theorem resolve_of_append_slash (hpath : path ≠ []) {rest : List Char}
    (h : t.resolve (path ++ '/' :: rest) = some i) : ∃ j, t.resolve path = some j := by
  rw [resolve, if_neg (by simp), pathNames_append_slash, start_append t hpath, walk_append,
    Option.bind_eq_some_iff] at h
  obtain ⟨j, hj, -⟩ := h
  rw [resolve, if_neg hpath]
  exact ⟨j, hj⟩

/-! ### What `mkdir` says -/

variable {mayMake : Directories → ℕ → List Char → Bool}

/-- A path with a last name, and its node from the node before. -/
theorem resolve_of_getLast? (hpath : path ≠ []) (hlast : (pathNames path).getLast? = some name) :
    t.resolve path
      = (t.walk (t.start path) (pathNames path).dropLast).bind fun j => t.entry j name := by
  rw [resolve, if_neg hpath, ← walk_concat, List.dropLast_append_getLast? name hlast]

/-- **`EEXIST` says that the path leads somewhere.** -/
theorem mkdir_eexist_iff : t.mkdir mayMake path = .eexist ↔ ∃ i, t.resolve path = some i := by
  by_cases hpath : path = []
  · simp [mkdir, resolve, hpath]
  rw [mkdir, if_neg hpath]
  cases hlast : (pathNames path).getLast? with
  | none =>
    rw [List.getLast?_eq_none_iff] at hlast
    rw [resolve, if_neg hpath, hlast]
    exact iff_of_true rfl ⟨_, rfl⟩
  | some name =>
    rw [resolve_of_getLast? hpath hlast]
    cases t.walk (t.start path) (pathNames path).dropLast with
    | none => simp
    | some parent =>
      dsimp only [Option.bind_some]
      cases t.entry parent name with
      | some j => simp
      | none =>
        dsimp only
        split_ifs <;> simp

/-- Where `mkdir` makes a directory. -/
theorem exists_add_of_made (h : t.mkdir mayMake path = .made t') :
    ∃ parent name, ∃ hparent : t.isDir parent = true, path ≠ [] ∧
      (pathNames path).getLast? = some name ∧
      t.walk (t.start path) (pathNames path).dropLast = some parent ∧
      t.entry parent name = none ∧ t' = t.add parent name hparent := by
  rw [mkdir] at h
  split at h
  · cases h
  rename_i hpath
  split at h
  · cases h
  rename_i name hlast
  split at h
  · cases h
  rename_i parent hwalk
  split at h
  · cases h
  rename_i hfree
  split at h
  · rename_i hparent
    split at h
    · obtain rfl := MkdirResult.made.inj h
      exact ⟨parent, name, hparent, hpath, hlast, hwalk, hfree, rfl⟩
    · cases h
  · cases h

/-- **A new directory**: it is the only new node, and the path leads to it. -/
theorem of_mkdir_made (h : t.mkdir mayMake path = .made t') :
    t.Extends t' ∧ t'.size = t.size + 1 ∧ t'.isDir t.size = true ∧
      t'.resolve path = some t.size := by
  obtain ⟨parent, name, hparent, hpath, hlast, hwalk, hfree, rfl⟩ := exists_add_of_made h
  have hext := Extends.add t name hparent hfree
  refine ⟨hext, rfl, Bool.or_eq_true_iff.mpr (.inr (beq_self_eq_true _)), ?_⟩
  rw [resolve_of_getLast? hpath hlast, hext.start, hext.walk hwalk]
  change (if parent = t.size then _ else if parent = parent ∧ name = name then _ else _) = _
  rw [if_neg (Nat.ne_of_lt (t.lt_size hparent)), if_pos ⟨rfl, rfl⟩]

/-- Why `mkdir` fails: there is no directory for the name, or it is not made there. -/
theorem cases_of_failed (h : t.mkdir mayMake path = .failed) (hpath : path ≠ []) :
    t.walk (t.start path) (pathNames path).dropLast = none ∨
    ∃ parent, t.walk (t.start path) (pathNames path).dropLast = some parent ∧
      (t.isDir parent = false ∨ ∃ name, (pathNames path).getLast? = some name ∧
        t.entry parent name = none ∧ mayMake t parent name = false) := by
  rw [mkdir, if_neg hpath] at h
  split at h
  · cases h
  rename_i name hlast
  split at h
  · exact .inl (by assumption)
  rename_i parent hwalk
  refine .inr ⟨parent, hwalk, ?_⟩
  split at h
  · cases h
  rename_i hfree
  split at h
  · split at h
    · cases h
    · rename_i hmay
      exact .inr ⟨name, hlast, hfree, Bool.not_eq_true _ ▸ hmay⟩
  · rename_i hparent
    exact .inl (Bool.not_eq_true _ ▸ hparent)

/-- **Any other error** says that the path leads nowhere. -/
theorem resolve_of_failed (h : t.mkdir mayMake path = .failed) : t.resolve path = none := by
  by_contra hne
  obtain ⟨i, hi⟩ := Option.ne_none_iff_exists'.mp hne
  rw [mkdir_eexist_iff.mpr ⟨i, hi⟩] at h
  cases h

end Directories

end Library

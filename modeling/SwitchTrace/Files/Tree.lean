import SwitchTrace.Files.Path
import SwitchTrace.Text.Quoted
import SwitchTrace.Text.Utf8

/-!
# Trees of files

A tree of files is known by its entries: which files and directories there are, and what the
files hold. A path leads through directories that have to be there, the last name excepted.

## Main definitions

* `FileTree` — the entries of a tree, and the directory from which paths start.
* `FileTree.locate` — the place to which a path leads.
* `FileTree.read`, `FileTree.write`, `FileTree.makeDirectory` — what is done with files.
* `FileTree.makeDirectories`, `FileTree.writeInside` — what is done together with directories.
* `FileFault` — why a file cannot be used.

## Main results

* `FileTree.content?_put`, `FileTree.content?_put_of_ne` — an entry that is put is there, and no
  other place changes.
-/

namespace SwitchTrace

/-- Why a file cannot be used. -/
inductive FileFault
  /-- There is nothing at the place, or a directory on the way is missing. -/
  | missing
  /-- Something is there already. -/
  | alreadyThere
  /-- What is on the way is a file. -/
  | notDirectory
  /-- A directory is at the place. -/
  | isDirectory
  /-- A name or the whole path is too long. -/
  | nameTooLong
  /-- A name has a NUL. -/
  | nulInName
deriving DecidableEq, Repr

namespace FileFault

/-- The number and the words of the system for a fault that it reports. -/
def report? : FileFault → Option (Nat × String)
  | .missing => some (2, "No such file or directory")
  | .alreadyThere => some (17, "File exists")
  | .notDirectory => some (20, "Not a directory")
  | .isDirectory => some (21, "Is a directory")
  | .nameTooLong => some (36, "File name too long")
  | .nulInName => none

/-- The message for a fault at a path. -/
def message (fault : FileFault) (path : Path) : String :=
  match fault.report? with
  | some (number, words) =>
    "[Errno " ++ toString number ++ "] " ++ words ++ ": " ++ Quoted.text path.text
  | none => "embedded null byte"

end FileFault

/-- What is at a place. -/
inductive Entry
  | file (data : Bytes)
  | directory
deriving DecidableEq, Repr

/-- The names from the root to a place. -/
abbrev Place := List String

/-- Files and directories. -/
structure FileTree where
  /-- What is at the places other than the root. -/
  entries : List (Place × Entry)
  /-- Where paths start that do not start at the root. -/
  working : Place
deriving DecidableEq, Repr

namespace FileTree

/-! ### Entries -/

/-- What is at a place. The root is a directory. -/
def content? (t : FileTree) (place : Place) : Option Entry :=
  if place.isEmpty then some .directory else t.entries.lookup place

/-- The entries with an entry at a place. -/
def putEntry (place : Place) (entry : Entry) : List (Place × Entry) → List (Place × Entry)
  | [] => [(place, entry)]
  | (p, e) :: rest =>
    if place = p then (p, entry) :: rest else (p, e) :: putEntry place entry rest

/-- The tree with an entry at a place. -/
def put (t : FileTree) (place : Place) (entry : Entry) : FileTree :=
  { t with entries := putEntry place entry t.entries }

theorem lookup_putEntry (place : Place) (entry : Entry) (l : List (Place × Entry)) :
    (putEntry place entry l).lookup place = some entry := by
  induction l with
  | nil => simp [putEntry]
  | cons e rest ih =>
    obtain ⟨p, e⟩ := e
    rw [putEntry]
    split
    · next h => simp [h]
    · next h => simpa [List.lookup_cons, beq_eq_false_iff_ne.mpr h] using ih

theorem lookup_putEntry_of_ne {place other : Place} (entry : Entry) (l : List (Place × Entry))
    (h : other ≠ place) : (putEntry place entry l).lookup other = l.lookup other := by
  induction l with
  | nil => simp [putEntry, List.lookup_cons, beq_eq_false_iff_ne.mpr h]
  | cons e rest ih =>
    obtain ⟨p, e⟩ := e
    rw [putEntry]
    split
    · next hp => simp [List.lookup_cons, ← hp, beq_eq_false_iff_ne.mpr h]
    · simp only [List.lookup_cons, ih]

/-- An entry that is put is there. -/
theorem content?_put (t : FileTree) {place : Place} (entry : Entry) (h : place ≠ []) :
    (t.put place entry).content? place = some entry := by
  simp [content?, put, h, lookup_putEntry]

/-- No other place changes. -/
theorem content?_put_of_ne (t : FileTree) {place other : Place} (entry : Entry)
    (h : other ≠ place) :
    (t.put place entry).content? other = t.content? other := by
  simp [content?, put, lookup_putEntry_of_ne entry t.entries h]

/-! ### Places of paths -/

/-- The number of bytes that a name may have. -/
def nameLimit : Nat := 255

/-- The number of bytes that the text of a path may have. -/
def pathLimit : Nat := 4095

/-- The place to which names lead from a place. Every name needs a directory to start from. -/
def walk (t : FileTree) (place : Place) : List String → Except FileFault Place
  | [] => .ok place
  | name :: rest =>
    match t.content? place with
    | none => .error .missing
    | some (.file _) => .error .notDirectory
    | some .directory =>
      if name = ".." then walk t place.dropLast rest
      else if nameLimit < Utf8.size name then .error .nameTooLong
      else walk t (place ++ [name]) rest

/-- The place to which a path leads. The last name need not be there. -/
def locate (t : FileTree) (path : Path) : Except FileFault Place :=
  if path.text.toList.contains '\x00' then .error .nulInName
  else if pathLimit < Utf8.size path.text then .error .nameTooLong
  else t.walk (if path.root.isEmpty then t.working else []) path.names

/-- What is at a path. -/
def find (t : FileTree) (path : Path) : Except FileFault Entry := do
  match t.content? (← t.locate path) with
  | some entry => return entry
  | none => .error .missing

/-- Something is at the path. A path that leads nowhere is no fault, unless it is too long. -/
def exists? (t : FileTree) (path : Path) : Except FileFault Bool :=
  match t.find path with
  | .ok _ => .ok true
  | .error .nameTooLong => .error .nameTooLong
  | .error _ => .ok false

/-- What a file holds. -/
def read (t : FileTree) (path : Path) : Except FileFault Bytes := do
  match ← t.find path with
  | .file data => return data
  | .directory => .error .isDirectory

/-- The tree with the given data in a file. A file that was there is replaced. -/
def write (t : FileTree) (path : Path) (data : Bytes) : Except FileFault FileTree := do
  let place ← t.locate path
  match t.content? place with
  | some .directory => .error .isDirectory
  | _ => return t.put place (.file data)

/-- The tree with one more directory. -/
def makeDirectory (t : FileTree) (path : Path) : Except FileFault FileTree := do
  let place ← t.locate path
  match t.content? place with
  | some _ => .error .alreadyThere
  | none => return t.put place .directory

/-- A directory is at the path. -/
def isDirectory (t : FileTree) (path : Path) : Bool := t.find path matches .ok .directory

/-- The tree with one more directory, if there is none yet. -/
def makeDirectoryUnless (t : FileTree) (path : Path) : Except FileFault FileTree :=
  match t.makeDirectory path with
  | .ok t => .ok t
  | .error fault => if fault ≠ .missing ∧ t.isDirectory path then .ok t else .error fault

/-- A tree after something that may have failed on the way. -/
structure Attempt where
  tree : FileTree
  fault : Option FileFault

/-- The tree that an outcome leaves, `t` being the tree before it. -/
def attempted (t : FileTree) : Except FileFault FileTree → Attempt
  | .ok t => ⟨t, none⟩
  | .error fault => ⟨t, some fault⟩

/-- What comes after an attempt, unless it failed. -/
def Attempt.thenTry (a : Attempt) (next : FileTree → Except FileFault FileTree) : Attempt :=
  match a.fault with
  | none => attempted a.tree (next a.tree)
  | some _ => a

/-- The tree with a directory at a path, if there is none yet, and with those on the way to it. The
way is looked at from its end, and only as far as something is missing. -/
def ensureDirectory (t : FileTree) (path : Path) : Attempt :=
  match t.makeDirectoryUnless path with
  | .error .missing =>
    if path.names.isEmpty then ⟨t, some .missing⟩
    else (t.ensureDirectory path.parent).thenTry (makeDirectoryUnless · path)
  | outcome => attempted t outcome
termination_by path.names.length
decreasing_by exact Path.length_names_parent_lt ‹_›

/-- The tree with one more directory, and with those on the way to it. -/
def makeDirectories (t : FileTree) (path : Path) : Attempt :=
  match t.makeDirectory path with
  | .error .missing =>
    if path.names.isEmpty then ⟨t, some .missing⟩
    else (t.ensureDirectory path.parent).thenTry (makeDirectory · path)
  | outcome => attempted t outcome

/-- The tree with the given data in a file, and with the directories on the way to it. -/
def writeInside (t : FileTree) (path : Path) (data : Bytes) : Attempt :=
  (t.ensureDirectory path.parent).thenTry (write · path data)

end FileTree

end SwitchTrace

import SwitchTrace.Text.Given
import SwitchTrace.Text.Split

/-!
# Paths

A path names a place by the names on the way to it. Empty names and single dots are left out, so
that paths that differ in those only are the same; two dots stay.

## Main definitions

* `Path.ofText`, `Path.text` — a path from its text, and its text.
* `FileName` — the name of a file as it is given.
-/

namespace SwitchTrace

/-- A way through directories. -/
structure Path where
  /-- The slashes with which a path from the root begins. -/
  root : String
  names : List String
deriving DecidableEq, Repr, Inhabited

namespace Path

/-- The slashes at the start of a path: none, one, or two. More than two count as one. -/
def rootOf : List Char → String
  | ['/', '/'] => "//"
  | '/' :: '/' :: c :: _ => if c = '/' then "/" else "//"
  | '/' :: _ => "/"
  | _ => ""

/-- The name is left out of a path. -/
def isIdle (name : List Char) : Bool := name.isEmpty || name == ['.']

/-- The path that a text gives. -/
def ofText (s : String) : Path where
  root := rootOf s.toList
  names := ((parts '/' s.toList).filter fun name => !isIdle name).map String.ofList

/-- The path that a text gives, if there is a text. -/
def ofText? (s : String) : Option Path := if s.isEmpty then none else some (ofText s)

/-- The text of a path: a dot for the path without names. -/
def text (p : Path) : String :=
  if p.root.isEmpty && p.names.isEmpty then "." else p.root ++ "/".intercalate p.names

/-- The path one name shorter. -/
def parent (p : Path) : Path := { p with names := p.names.dropLast }

theorem length_names_parent_lt {p : Path} (h : ¬p.names.isEmpty = true) :
    p.parent.names.length < p.names.length := by
  have hpos : 0 < p.names.length := by
    rw [List.length_pos_iff]
    simpa using h
  simp only [parent, List.length_dropLast]
  omega

end Path

/-- The name of a file as it is given. It may have surrogates, with which the system has no file.
Surrogates that stand for the bytes of a name that is no text are left out. -/
structure FileName where
  given : GivenText
  not_hasByte : ¬ given.HasByte
deriving DecidableEq

namespace FileName

/-- The name of the given code points, if none of them stands for a byte. -/
def ofGiven? (given : GivenText) : Option FileName :=
  if h : given.HasByte then none else some ⟨given, h⟩

/-- The name as a text, if it has no surrogates. -/
def text? (name : FileName) : Option String := name.given.text?

end FileName

end SwitchTrace

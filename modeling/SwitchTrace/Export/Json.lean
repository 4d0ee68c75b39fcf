import SwitchTrace.Numeric.FloatText
import SwitchTrace.Text.Pad

/-!
# JSON texts

Texts are written in ASCII: every other character is escaped by the numbers of its UTF-16 units.
Numbers that are not finite are written as words, which other readers may refuse.

## Main definitions

* `JsonValue` — the values that documents are made of.
* `JsonLayout` — on one line, or an item a line.
* `JsonValue.render` — the text of a value.
-/

namespace SwitchTrace

/-- A value of a document. -/
inductive JsonValue
  | text (s : String)
  | int (n : Int)
  | float (x : Binary64)
  | list (items : List JsonValue)
  | object (members : List (String × JsonValue))

/-- How the items of lists and objects are laid out. -/
inductive JsonLayout
  /-- On one line, with a blank after every comma. -/
  | oneLine
  /-- Every item on a line of its own, which begins with the given text once for every list and
  object around it. -/
  | lines (indent : String)

namespace JsonLayout

/-- The beginning of a line at a depth. -/
def newline (layout : JsonLayout) (depth : Nat) : String :=
  match layout with
  | .oneLine => ""
  | .lines indent => "\n" ++ String.join (List.replicate depth indent)

/-- What stands between two items at a depth. -/
def separator (layout : JsonLayout) (depth : Nat) : String :=
  match layout with
  | .oneLine => ", "
  | .lines _ => "," ++ layout.newline depth

end JsonLayout

namespace JsonValue

/-- The UTF-16 units of a character. -/
def units16 (c : Char) : List Nat :=
  if c.toNat < 0x10000 then [c.toNat]
  else [0xD800 + (c.toNat - 0x10000) / 0x400, 0xDC00 + (c.toNat - 0x10000) % 0x400]

/-- A character inside quotes. -/
def escapeChar (c : Char) : String :=
  if c = '"' then "\\\""
  else if c = '\\' then "\\\\"
  else if c = '\n' then "\\n"
  else if c = '\r' then "\\r"
  else if c = '\t' then "\\t"
  else if c = '\x08' then "\\b"
  else if c = '\x0C' then "\\f"
  else if 0x20 ≤ c.toNat ∧ c.toNat < 0x7F then String.singleton c
  else String.join ((units16 c).map fun n => "\\u" ++ Pad.hexNat 4 n)

/-- A text in quotes. -/
def quoted (s : String) : String := "\"" ++ String.join (s.toList.map escapeChar) ++ "\""

mutual

/-- The text of a value at a depth. -/
def renderAt (layout : JsonLayout) (depth : Nat) : JsonValue → String
  | .text s => quoted s
  | .int n => toString n
  | .float x => FloatStyle.json.render x
  | .list [] => "[]"
  | .list (v :: rest) =>
    "[" ++ layout.newline (depth + 1) ++ renderAt layout (depth + 1) v ++
      renderItems layout (depth + 1) rest ++ layout.newline depth ++ "]"
  | .object [] => "\x7b\x7d"
  | .object ((key, v) :: rest) =>
    "\x7b" ++ layout.newline (depth + 1) ++ quoted key ++ ": " ++ renderAt layout (depth + 1) v ++
      renderMembers layout (depth + 1) rest ++ layout.newline depth ++ "\x7d"

/-- The texts of the items after the first. -/
def renderItems (layout : JsonLayout) (depth : Nat) : List JsonValue → String
  | [] => ""
  | v :: rest =>
    layout.separator depth ++ renderAt layout depth v ++ renderItems layout depth rest

/-- The texts of the members after the first. -/
def renderMembers (layout : JsonLayout) (depth : Nat) : List (String × JsonValue) → String
  | [] => ""
  | (key, v) :: rest =>
    layout.separator depth ++ quoted key ++ ": " ++ renderAt layout depth v ++
      renderMembers layout depth rest

end

/-- The text of a value. -/
def render (layout : JsonLayout) (v : JsonValue) : String := renderAt layout 0 v

end JsonValue

end SwitchTrace

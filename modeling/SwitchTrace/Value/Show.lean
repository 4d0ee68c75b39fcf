import SwitchTrace.Calendar.Text
import SwitchTrace.Numeric.FloatText
import SwitchTrace.Text.Quoted
import SwitchTrace.Value.Basic

/-!
# The text of plain data

In messages a text stands as it is, and in quotes inside a list or a mapping; days and moments
stand in figures, and with their kind inside a list or a mapping.

## Main definitions

* `Value.shown` — the text of a value in a message.
* `Value.quoted` — the text of a value inside another one.
* `WordingFault` — why a value cannot be put into words.
-/

namespace SwitchTrace

/-- Why a value cannot be put into words. -/
inductive WordingFault
  /-- A number has too many digits. -/
  | longNumber
deriving DecidableEq, Repr

/-- The message for a fault. -/
def WordingFault.message : WordingFault → String
  | .longNumber => longNumberMessage

/-- The text of a scalar inside a list or a mapping. -/
def Scalar.quoted : Scalar → String
  | .null => "None"
  | .bool true => "True"
  | .bool false => "False"
  | .int n => toString n
  | .float x => FloatStyle.plain.render x
  | .text s => Quoted.text s
  | .day d => d.built
  | .moment m => m.built

/-- The text of a scalar in a message. -/
def Scalar.shown : Scalar → String
  | .text s => s
  | .day d => d.text
  | .moment m => m.text
  | k => k.quoted

mutual

/-- The text of a value inside a list or a mapping. -/
def Value.quoted : Value → String
  | .scalar s => s.quoted
  | .list items => "[" ++ Value.quotedItems items ++ "]"
  | .map entries => "\x7b" ++ Value.quotedEntries entries ++ "\x7d"

/-- The texts of the items of a list, with commas between them. -/
def Value.quotedItems : List Value → String
  | [] => ""
  | [v] => v.quoted
  | v :: rest => v.quoted ++ ", " ++ Value.quotedItems rest

/-- The texts of the entries of a mapping, with commas between them. -/
def Value.quotedEntries : List (Scalar × Value) → String
  | [] => ""
  | [(k, v)] => k.quoted ++ ": " ++ v.quoted
  | (k, v) :: rest => k.quoted ++ ": " ++ v.quoted ++ ", " ++ Value.quotedEntries rest

end

/-- The text of a value in a message. -/
def Value.shown : Value → String
  | .scalar s => s.shown
  | v => v.quoted

/-- The text of a mapping in a message. -/
def Mapping.shown (m : Mapping) : String := (Value.map m).quoted

end SwitchTrace

import SwitchTrace.Calendar.Moment
import SwitchTrace.Numeric.DigitLimit
import SwitchTrace.Numeric.Number

/-!
# Plain data

The data of settings and of error contexts: scalars, lists, and mappings from scalars in the
order of their first entries.

## Main definitions

* `Scalar`, `Value` — plain data.
* `Mapping` — the entries of a mapping, with `Mapping.get?`, `Mapping.put` and `Mapping.ofList`.
* `Value.isTruthy`, `Value.wholeNumber?`, `Value.number?` — the views of a value that settings use.
* `Value.holdsLong` — a number in the value has too many digits to be written.
-/

namespace SwitchTrace

/-- A value without parts. -/
inductive Scalar
  | null
  | bool (b : Bool)
  | int (n : Int)
  | float (x : Binary64)
  | text (s : String)
  | day (d : Day)
  | moment (m : Moment)
deriving DecidableEq, Inhabited

/-- Plain data. -/
inductive Value
  | scalar (s : Scalar)
  | list (items : List Value)
  | map (entries : List (Scalar × Value))
deriving Inhabited

/-- The entries of a mapping, in the order in which their keys came first. -/
abbrev Mapping := List (Scalar × Value)

namespace Scalar

/-- The whole number that a scalar is; the truth values are one and zero. -/
def wholeNumber? : Scalar → Option Int
  | .bool b => some b.toInt
  | .int n => some n
  | _ => none

/-- Two scalars are the same key: numbers by their value, whatever their kind, moments by their
instant, and all others by kind and content. -/
def sameKey : Scalar → Scalar → Bool
  | .null, .null => true
  | .text s, .text t => s == t
  | .day d, .day e => d == e
  | .moment m, .moment n => m.sameInstant n
  | .float x, .float y => x.sameNumber y
  | .float x, k => (wholeNumber? k).any x.equalsInt
  | k, .float y => (wholeNumber? k).any y.equalsInt
  | k, l => (wholeNumber? k).isSome && wholeNumber? k == wholeNumber? l

/-- A scalar counts as true unless it is nothing, zero or empty. -/
def isTruthy : Scalar → Bool
  | .null => false
  | .bool b => b
  | .int n => n != 0
  | .float x => !x.isZero
  | .text s => s != ""
  | .day _ | .moment _ => true

/-- The scalar is a number with too many digits to be written. -/
def holdsLong : Scalar → Bool
  | .int n => isLong n
  | _ => false

end Scalar

namespace Mapping

/-- The value at a key. -/
def get? (m : Mapping) (key : Scalar) : Option Value :=
  (m.find? fun entry => entry.1.sameKey key).map Prod.snd

/-- The mapping with a value at a key. A key that is there keeps its place and its first form. -/
def put : Mapping → Scalar → Value → Mapping
  | [], key, value => [(key, value)]
  | (k, v) :: rest, key, value =>
    if k.sameKey key then (k, value) :: rest else (k, v) :: put rest key value

/-- The mapping of a list of entries, the last of those with one key counting. -/
def ofList (entries : List (Scalar × Value)) : Mapping :=
  entries.foldl (fun m entry => put m entry.1 entry.2) []

end Mapping

namespace Value

mutual

/-- Two values are equal or not. -/
def decEq : (v w : Value) → Decidable (v = w)
  | .scalar s, .scalar t => decidable_of_iff (s = t) ⟨congrArg _, Value.scalar.inj⟩
  | .list vs, .list ws =>
    match decEqItems vs ws with
    | isTrue h => isTrue (congrArg _ h)
    | isFalse h => isFalse fun h' => h (Value.list.inj h')
  | .map es, .map fs =>
    match decEqEntries es fs with
    | isTrue h => isTrue (congrArg _ h)
    | isFalse h => isFalse fun h' => h (Value.map.inj h')
  | .scalar _, .list _ | .scalar _, .map _ | .list _, .scalar _ | .list _, .map _
  | .map _, .scalar _ | .map _, .list _ => isFalse nofun

/-- Two lists of values are equal or not. -/
def decEqItems : (vs ws : List Value) → Decidable (vs = ws)
  | [], [] => isTrue rfl
  | v :: vs, w :: ws =>
    match decEq v w, decEqItems vs ws with
    | isTrue h, isTrue h' => isTrue (h ▸ h' ▸ rfl)
    | isFalse h, _ => isFalse fun h' => h (List.cons.inj h').1
    | _, isFalse h => isFalse fun h' => h (List.cons.inj h').2
  | [], _ :: _ | _ :: _, [] => isFalse nofun

/-- Two lists of entries are equal or not. -/
def decEqEntries : (es fs : List (Scalar × Value)) → Decidable (es = fs)
  | [], [] => isTrue rfl
  | (k, v) :: es, (l, w) :: fs =>
    match decEq v w, decEqEntries es fs with
    | isTrue h, isTrue h' => decidable_of_iff (k = l) (by simp [h, h'])
    | isFalse h, _ => isFalse fun h' => h (Prod.mk.inj (List.cons.inj h').1).2
    | _, isFalse h => isFalse fun h' => h (List.cons.inj h').2
  | [], _ :: _ | _ :: _, [] => isFalse nofun

end

instance : DecidableEq Value := decEq

def null : Value := .scalar .null
def bool (b : Bool) : Value := .scalar (.bool b)
def int (n : Int) : Value := .scalar (.int n)
def float (x : Binary64) : Value := .scalar (.float x)
def text (s : String) : Value := .scalar (.text s)

/-- A value counts as true unless it is nothing, zero or empty. -/
def isTruthy : Value → Bool
  | .scalar s => s.isTruthy
  | .list items => !items.isEmpty
  | .map entries => !entries.isEmpty

/-- The whole number that a value is; the truth values are one and zero. -/
def wholeNumber? : Value → Option Int
  | .scalar s => s.wholeNumber?
  | _ => none

/-- The number that a value is. -/
def number? : Value → Option Number
  | .scalar (.float x) => some (.float x)
  | v => v.wholeNumber?.map .whole

mutual

/-- A number in the value has too many digits to be written. -/
def holdsLong : Value → Bool
  | .scalar s => s.holdsLong
  | .list items => anyHoldsLong items
  | .map entries => anyEntryHoldsLong entries

/-- A number in one of the values has too many digits to be written. -/
def anyHoldsLong : List Value → Bool
  | [] => false
  | v :: rest => holdsLong v || anyHoldsLong rest

/-- A number in one of the entries has too many digits to be written. -/
def anyEntryHoldsLong : List (Scalar × Value) → Bool
  | [] => false
  | (k, v) :: rest => k.holdsLong || holdsLong v || anyEntryHoldsLong rest

end

end Value

end SwitchTrace

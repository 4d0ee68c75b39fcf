import SwitchTrace.Yaml.Node
import SwitchTrace.Yaml.Plain

/-!
# Values of YAML texts

## Main definitions

* `Yaml.Node.value` — the value of a tree.
* `Yaml.Node.DeepFault` — the fault of a value, the one nearest to the root of its tree.
* `Yaml.loadWithin`, `Yaml.load` — the value of a text.
-/

namespace SwitchTrace.Yaml

namespace Node

/-- The node is the key whose value is merged into the mapping. -/
def isMerge : Node → Bool
  | .scalar true text => PlainKind.of text == .merge
  | _ => false

/-- The value of a scalar. In quotes it is a text. -/
def scalarValue (plain : Bool) (text : String) : Except Fault Scalar :=
  if plain then plainValue text else .ok (.text text)

/-- The key of an entry. Only scalars can be keys, and as a key the mark of a lone value is a
text. -/
def key : Node → Except Fault Scalar
  | .scalar plain text =>
    if plain && PlainKind.of text == .lone then .ok (.text text) else scalarValue plain text
  | _ => .error .malformed

/-! ### Faults -/

/-- A fault of a value, and how deep in a tree it is found. -/
structure DeepFault where
  depth : Nat
  fault : Fault

/-- An outcome with the more important of two faults: the one that is less deep, and of two faults
at the same depth the first. -/
def both {α β : Type} (a : Except DeepFault α) (b : Except DeepFault β) :
    Except DeepFault (α × β) :=
  match a, b with
  | .ok a, .ok b => .ok (a, b)
  | .error f, .ok _ => .error f
  | .ok _, .error g => .error g
  | .error f, .error g => .error (if f.depth ≤ g.depth then f else g)

/-- The outcome one step further down in a tree. -/
def deeper {α : Type} (a : Except DeepFault α) : Except DeepFault α :=
  a.mapError fun f => { f with depth := f.depth + 1 }

/-- Two lists one after the other, with the more important of two faults. -/
def chain {α : Type} (a b : Except DeepFault (List α)) : Except DeepFault (List α) :=
  (fun (xs, ys) => xs ++ ys) <$> both a b

/-- An item before a list, with the more important of two faults. -/
def consBoth {α : Type} (a : Except DeepFault α) (b : Except DeepFault (List α)) :
    Except DeepFault (List α) :=
  (fun (x, xs) => x :: xs) <$> both a b

/-- The outcome of a scalar. -/
def ofScalar {α : Type} (a : Except Fault α) : Except DeepFault α := a.mapError (DeepFault.mk 0)

/-! ### Merged entries -/

mutual

/-- All that is merged into a mapping can be: a mapping, or a list of mappings. -/
def mergesWell : List (Node × Node) → Bool
  | [] => true
  | (k, n) :: rest => (!isMerge k || isMergeable n) && mergesWell rest

/-- A tree can be merged into a mapping. -/
def isMergeable : Node → Bool
  | .mapping entries => mergesWell entries
  | .sequence items => areMergeable items
  | .scalar _ _ => false

/-- The trees are mappings that can be merged into a mapping. -/
def areMergeable : List Node → Bool
  | [] => true
  | .mapping entries :: rest => mergesWell entries && areMergeable rest
  | _ :: _ => false

end

/-! ### Values -/

mutual

/-- The value of a tree. Of entries with the same key the last counts. What is merged into a
mapping is looked at before its entries. -/
def value : Node → Except DeepFault Value
  | .scalar plain text => ofScalar (.scalar <$> scalarValue plain text)
  | .sequence items => deeper (.list <$> values items)
  | .mapping entries =>
    deeper <|
      if mergesWell entries then
        (.map ∘ Mapping.ofList) <$> chain (mergedEntries entries) (ownEntries entries)
      else .error ⟨0, .malformed⟩

/-- The values of trees. -/
def values : List Node → Except DeepFault (List Value)
  | [] => .ok []
  | n :: rest => consBoth (value n) (values rest)

/-- The entries of a mapping that are not merged into it. -/
def ownEntries : List (Node × Node) → Except DeepFault Mapping
  | [] => .ok []
  | (k, n) :: rest =>
    if isMerge k then ownEntries rest
    else consBoth (both (ofScalar (key k)) (value n)) (ownEntries rest)

/-- The entries that are merged into a mapping. -/
def mergedEntries : List (Node × Node) → Except DeepFault Mapping
  | [] => .ok []
  | (k, n) :: rest =>
    if isMerge k then chain (given n) (mergedEntries rest) else mergedEntries rest

/-- The entries that a merged tree gives: those of a mapping, or of a list of mappings. What is
merged into a mapping comes before its own entries. -/
def given : Node → Except DeepFault Mapping
  | .mapping entries => chain (mergedEntries entries) (ownEntries entries)
  | .sequence items => givenByAll items
  | .scalar _ _ => .ok []

/-- The entries that a list of mappings gives. The first mapping counts most and so comes last. -/
def givenByAll : List Node → Except DeepFault Mapping
  | [] => .ok []
  | n :: rest => chain (givenByAll rest) (given n)

end

end Node

/-- The value of a text as far as it can be read; a text without content is nothing. The whole
text is read before its values are looked at. -/
def loadSource (nesting : Nat) (source : Source) : Except Fault Value := do
  match ← Node.read nesting source with
  | none => return .null
  | some node => node.value.mapError Node.DeepFault.fault

/-- The value of a text that can be read to its end, with room for so many collections inside one
another. -/
def loadWithin (nesting : Nat) (text : String) : Except Fault Value := do
  loadSource nesting (← Source.ofText text)

/-- The value of a text that can be read to its end, with the usual room. -/
def load (text : String) : Except Fault Value := loadWithin standardNesting text

end SwitchTrace.Yaml

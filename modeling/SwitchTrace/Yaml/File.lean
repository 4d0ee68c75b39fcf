import SwitchTrace.Text.Stream
import SwitchTrace.Yaml.Load

/-!
# Values of files

A file is read as a text that comes in pieces, and no more of it is read than is needed to find a
fault. That it is no text counts only if nothing before is wrong with it.

## Main definitions

* `Yaml.readable` — what can be read of a text that comes in pieces.
* `Yaml.loadFileWithin`, `Yaml.loadFile` — the value of a file.
-/

namespace SwitchTrace.Yaml

/-- What can be read of a text that comes in pieces, up to a fault after them or to a piece with a
character that may not stand there, and the fault. The first two pieces are read together. -/
def readable (pieces : List (List Char)) (fault : Option (Utf8.Fault ⊕ Fault)) :
    List Char × Option (Utf8.Fault ⊕ Fault) :=
  let first := (pieces.take 2).flatten
  let later := pieces.drop 2
  if pieces.length < 2 && fault.isSome then ([], fault)
  else if first.all isAllowed then
    let good := later.takeWhile fun piece => piece.all isAllowed
    (first ++ good.flatten,
      if good.length < later.length then some (.inr .malformed) else fault)
  else ([], some (.inr .malformed))

/-- The value of a file with the given bytes, with room for so many collections inside one
another. -/
def loadFileWithin (nesting : Nat) (bytes : Bytes) : Except (Utf8.Fault ⊕ Fault) Value :=
  let (pieces, fault) := TextStream.pieces bytes
  let (chars, fault) := readable pieces (fault.map .inl)
  match loadSource nesting ⟨chars, fault.isSome⟩ with
  | .ok data => .ok data
  | .error .brokenOff => .error (fault.getD (.inr .brokenOff))
  | .error other => .error (.inr other)

/-- The value of a file with the given bytes, with the usual room. -/
def loadFile (bytes : Bytes) : Except (Utf8.Fault ⊕ Fault) Value :=
  loadFileWithin standardNesting bytes

end SwitchTrace.Yaml

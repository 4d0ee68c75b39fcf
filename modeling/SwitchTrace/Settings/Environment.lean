import SwitchTrace.Yaml.Load

/-!
# Variables of the environment

A text may name variables of the environment, in braces after a dollar sign. Every name of a
variable that is set is replaced by its value, from left to right and once; values are not looked
through again. A text that is changed is then read as data, so that numbers and other data can
come from the environment. What reads it is a parameter, a function from texts to data or faults.

## Main definitions

* `Environment` — the variables that are set.
* `Environment.expand` — a text with its variables replaced.
* `Value.expandWith` — plain data with the variables of all texts replaced, for any reader.
* `Value.expand` — the same for the reader of YAML.
* `Value.variableNames` — the names of the variables on which that depends.
-/

namespace SwitchTrace

/-- The variables that are set, with their values. -/
abbrev Environment := List (String × String)

namespace Environment

/-- The value of a variable. -/
def value? (env : Environment) (name : String) : Option String := env.lookup name

/-- The name up to the next closing brace, and the characters after the brace. A name has one
character at least. -/
def name? (cs : List Char) : Option (List Char × List Char) :=
  match cs.dropWhile (· != '\x7d') with
  | [] => none
  | _ :: rest =>
    let name := cs.takeWhile (· != '\x7d')
    if name.isEmpty then none else some (name, rest)

theorem length_of_name? {cs name rest : List Char} (h : name? cs = some (name, rest)) :
    rest.length < cs.length := by
  unfold name? at h
  split at h
  · cases h
  · next c tail heq =>
    have hle : (cs.dropWhile (· != '\x7d')).length ≤ cs.length :=
      (List.dropWhile_sublist _).length_le
    rw [heq, List.length_cons] at hle
    simp only at h
    split at h
    · cases h
    · cases h
      omega

/-- The value of a variable, or the name in its braces if it is not set. -/
def replacement (env : Environment) (name : List Char) : List Char :=
  match env.value? (String.ofList name) with
  | some v => v.toList
  | none => '$' :: '\x7b' :: name ++ ['\x7d']

/-- The characters with their variables replaced. -/
def expandChars (env : Environment) : List Char → List Char
  | [] => []
  | '$' :: '\x7b' :: cs =>
    match _h : name? cs with
    | some (name, rest) => replacement env name ++ expandChars env rest
    | none => '$' :: expandChars env ('\x7b' :: cs)
  | c :: cs => c :: expandChars env cs
termination_by cs => cs.length
decreasing_by
  · have := length_of_name? _h
    simp only [List.length_cons]
    omega
  · simp
  · simp

/-- The names of variables in the characters, from left to right. -/
def namesIn : List Char → List String
  | [] => []
  | '$' :: '\x7b' :: cs =>
    match _h : name? cs with
    | some (name, rest) => String.ofList name :: namesIn rest
    | none => namesIn ('\x7b' :: cs)
  | _ :: cs => namesIn cs
termination_by cs => cs.length
decreasing_by
  · have := length_of_name? _h
    simp only [List.length_cons]
    omega
  · simp
  · simp

/-- The text with its variables replaced. -/
def expand (env : Environment) (s : String) : String := String.ofList (expandChars env s.toList)

end Environment

/-- A text with its variables replaced, as a value: a changed text is read. -/
def Environment.textValue {φ : Type} (read : String → Except φ Value) (env : Environment)
    (s : String) : Except φ Value :=
  let t := env.expand s
  if t = s then .ok (.text s) else read t

namespace Value

section ExpandWith

variable {φ : Type} (read : String → Except φ Value) (env : Environment)

mutual

/-- The value with the variables of all its texts replaced. Keys stay as they are. -/
def expandWith : Value → Except φ Value
  | .scalar (.text s) => env.textValue read s
  | .scalar s => .ok (.scalar s)
  | .list items => .list <$> expandItems items
  | .map entries => .map <$> expandEntries entries

/-- The items with the variables of all their texts replaced. -/
def expandItems : List Value → Except φ (List Value)
  | [] => .ok []
  | v :: rest => do
    let v ← expandWith v
    let rest ← expandItems rest
    return v :: rest

/-- The entries with the variables of all texts of their values replaced. -/
def expandEntries : List (Scalar × Value) → Except φ (List (Scalar × Value))
  | [] => .ok []
  | (k, v) :: rest => do
    let v ← expandWith v
    let rest ← expandEntries rest
    return (k, v) :: rest

end

end ExpandWith

/-- The value with the variables of all its texts replaced, a changed text being read as YAML. -/
def expand (env : Environment) (v : Value) : Except Yaml.Fault Value := v.expandWith Yaml.load env

mutual

/-- The names of the variables in all texts of a value, keys excepted. -/
def variableNames : Value → List String
  | .scalar (.text s) => Environment.namesIn s.toList
  | .scalar _ => []
  | .list items => variablesOfItems items
  | .map entries => variablesOfEntries entries

/-- The names of the variables in all texts of the items. -/
def variablesOfItems : List Value → List String
  | [] => []
  | v :: rest => variableNames v ++ variablesOfItems rest

/-- The names of the variables in all texts of the values of the entries. -/
def variablesOfEntries : List (Scalar × Value) → List String
  | [] => []
  | (_, v) :: rest => variableNames v ++ variablesOfEntries rest

end

end Value

end SwitchTrace

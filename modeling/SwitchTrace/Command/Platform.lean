import SwitchTrace.Export.TraceEvents
import SwitchTrace.Settings.Load
import SwitchTrace.Terminal.Printed

/-!
# What commands run on

A command reads settings in a format, shows texts on a console, and depends on the machine in a few
more ways. All of this is a parameter of what commands do, so that results about them hold whatever
reads and shows. The standard platform has YAML and the terminal of this library.

## Main definitions

* `Console`, `Console.terminal` — what shows texts to the user.
* `Platform`, `Platform.standard` — all that a command runs on.
-/

namespace SwitchTrace

/-- What shows texts to the user. `ψ` are the faults of texts that cannot be shown. -/
structure Console (ψ : Type) where
  /-- What is shown of a text with markup. -/
  print : String → Except ψ String
  /-- What is shown of a text with markup, with highlights. -/
  printHighlighted : String → Except ψ String
  /-- What is shown of a table. -/
  printTable : Table → Except ψ String
  /-- A text whose characters are not to be taken for markup. -/
  escape : String → String
  /-- What is shown of a text without markup. -/
  echo : String → String

/-- The terminal. -/
def Console.terminal : Console MarkupFault where
  print := Terminal.print
  printHighlighted := Terminal.printHighlighted
  printTable := Terminal.printTable
  escape := Markup.escape
  echo := Terminal.withoutColours

/-- All that a command runs on. -/
structure Platform (φ ψ : Type) where
  /-- What reads and writes settings. -/
  format : DataFormat φ
  console : Console ψ
  /-- The home of the user in the database of users, if it knows the user. -/
  knownHome : Option String
  /-- The number of blanks that there is room for in an indentation. -/
  indentRoom : Nat

/-- The platform with YAML and the terminal. Of the home of the user a variable tells. -/
def Platform.standard : Platform Yaml.Fault MarkupFault :=
  ⟨.yaml, .terminal, none, TraceDocument.standardRoom⟩

end SwitchTrace

/-!
# Options and operands

Arguments of a command are options and operands in any order. An option begins with a dash and
has a short name of one letter or a long one after two dashes. Some options take a value, which
is the next argument, or what follows the letter or an equals sign in the same one. Short options
without values may share one dash. After two dashes alone there are operands only.

## Main definitions

* `OptionRule` — a name of an option, and what it means.
* `Arguments.read?` — the options and operands of a list of arguments.
-/

namespace SwitchTrace

/-- What an option says. -/
inductive OptionValue
  | text (s : String)
  | switch (on : Bool)
deriving DecidableEq, Repr

/-- What the name of an option means: that a value follows for the setting `κ`, or that the
setting is switched on or off. -/
inductive OptionMeaning (κ : Type)
  | value (key : κ)
  | switch (key : κ) (on : Bool)
deriving DecidableEq, Repr

/-- A name of an option with its dashes. -/
structure OptionRule (κ : Type) where
  name : String
  meaning : OptionMeaning κ
deriving DecidableEq, Repr

/-- Arguments sorted into options and operands, each in their order. -/
structure Arguments (κ : Type) where
  options : List (κ × OptionValue)
  operands : List String
deriving DecidableEq, Repr

/-- What one argument says: options, and perhaps one whose value is the next argument. -/
structure OptionReading (κ : Type) where
  options : List (κ × OptionValue)
  pending : Option κ
deriving DecidableEq, Repr

namespace Arguments

variable {κ : Type}

/-- What a name means. -/
def meaning? (rules : List (OptionRule κ)) (name : String) : Option (OptionMeaning κ) :=
  (rules.find? fun rule => rule.name == name).map OptionRule.meaning

/-- What an argument says that is the name of an option, with or without an equals sign and a
value after it. Only an option with a value can have one. -/
def readNamed (key? : OptionMeaning κ) (value? : Option String) : Option (OptionReading κ) :=
  match key?, value? with
  | .value key, some v => some ⟨[(key, .text v)], none⟩
  | .value key, none => some ⟨[], some key⟩
  | .switch key on, none => some ⟨[(key, .switch on)], none⟩
  | .switch _ _, some _ => none

/-- What letters after one dash say. After a letter whose option takes a value the rest is that
value, unless nothing is left. -/
def readLetters? (rules : List (OptionRule κ)) : List Char → Option (OptionReading κ)
  | [] => some ⟨[], none⟩
  | c :: cs =>
    match meaning? rules (String.ofList ['-', c]) with
    | none => none
    | some (.value key) =>
      if cs.isEmpty then some ⟨[], some key⟩
      else some ⟨[(key, .text (String.ofList cs))], none⟩
    | some (.switch key on) =>
      (readLetters? rules cs).map fun r => { r with options := (key, .switch on) :: r.options }

/-- What follows the first equals sign, if there is one. -/
def afterEquals? (cs : List Char) : Option String :=
  match cs.dropWhile (· != '=') with
  | [] => none
  | _ :: value => some (String.ofList value)

/-- What an argument says that begins with a dash. One that begins with two is a long name, and
others are letters. -/
def readOption? (rules : List (OptionRule κ)) (cs : List Char) : Option (OptionReading κ) :=
  match cs with
  | '-' :: '-' :: _ => do
    readNamed (← meaning? rules (String.ofList (cs.takeWhile (· != '=')))) (afterEquals? cs)
  | _ => readLetters? rules cs.tail

/-- The argument is an option: it has a dash and more. -/
def isOption (cs : List Char) : Bool :=
  match cs with
  | '-' :: _ :: _ => true
  | _ => false

/-- More options before those of arguments. -/
def addOptions (options : List (κ × OptionValue)) (a : Arguments κ) : Arguments κ :=
  { a with options := options ++ a.options }

/-- The options and operands of arguments; none if a name is unknown or a value is missing or
has no place. -/
def read? (rules : List (OptionRule κ)) : List String → Option (Arguments κ)
  | [] => some ⟨[], []⟩
  | arg :: rest =>
    if arg = "--" then some ⟨[], rest⟩
    else if isOption arg.toList then
      match readOption? rules arg.toList with
      | none => none
      | some ⟨options, none⟩ => (read? rules rest).map (addOptions options)
      | some ⟨options, some key⟩ =>
        match rest with
        | [] => none
        | value :: rest =>
          (read? rules rest).map (addOptions (options ++ [(key, .text value)]))
    else (read? rules rest).map fun a => { a with operands := arg :: a.operands }

variable [DecidableEq κ]

/-- What the last option for a setting says. -/
def last? (a : Arguments κ) (key : κ) : Option OptionValue :=
  (a.options.reverse.find? fun o => o.1 = key).map Prod.snd

/-- The text that is given for a setting. -/
def text? (a : Arguments κ) (key : κ) : Option String :=
  match a.last? key with
  | some (.text s) => some s
  | _ => none

/-- Whether a setting is switched on or off. -/
def switch? (a : Arguments κ) (key : κ) : Option Bool :=
  match a.last? key with
  | some (.switch on) => some on
  | _ => none

end Arguments

end SwitchTrace

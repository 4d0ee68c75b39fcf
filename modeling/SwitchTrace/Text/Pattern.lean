/-!
# Patterns of characters

A pattern describes characters that follow each other, with a choice between ways to go on of which
one comes before the other. The first way that leads to the end counts. Parts of a pattern may be
marked, and a search tells where the marked parts of all places that fit are.

## Main definitions

* `Pattern` — what characters may follow each other.
* `Pattern.run` — the first way through a pattern from a place.
* `Pattern.search` — the marked parts of all places in a text that fit, one after the other.
-/

namespace SwitchTrace

/-- A place in a text, with the parts that are marked before it. -/
structure TextPlace where
  /-- The character before the place. -/
  before : Option Char
  index : Nat
  rest : List Char
  /-- The marked parts, each with its start and its end, the last of them first. -/
  marks : List (Nat × Nat)

/-- The place at the start of a text. -/
def TextPlace.start (cs : List Char) : TextPlace := ⟨none, 0, cs, []⟩

/-- The place after a character of a class. -/
def TextPlace.after? (holds : Char → Bool) (s : TextPlace) : Option TextPlace :=
  match s.rest with
  | [] => none
  | c :: cs => if holds c then some { s with before := some c, index := s.index + 1, rest := cs }
      else none

/-- What characters may follow each other. -/
inductive Pattern
  /-- One character of a class. -/
  | one (holds : Char → Bool)
  /-- Something about the characters beside a place, without going on. -/
  | beside (holds : Option Char → Option Char → Bool)
  /-- One pattern and then another one. -/
  | andThen (first second : Pattern)
  /-- One pattern, and another one where the first leads nowhere. -/
  | orElse (first second : Pattern)
  /-- A pattern again and again, as often as can be. -/
  | often (least most : Nat) (body : Pattern)
  /-- A pattern again and again, no more often than is needed. -/
  | seldom (least most : Nat) (body : Pattern)
  /-- A marked part. -/
  | marked (body : Pattern)

namespace Pattern

/-! ### Ways through a pattern -/

/-- A way to go on from a place: from the place behind it, `next` goes on. -/
abbrev Step (α : Type) := TextPlace → (TextPlace → Option α) → Option α

/-- As many steps as can be, `least` at least and `most` at most. A step goes on by a character at
least. -/
def oftenFrom {α : Type} (step : Step α) (least : Nat) : Nat → Step α
  | 0, s, next => if least = 0 then next s else none
  | most + 1, s, next =>
    match step s fun t =>
      if s.index < t.index then oftenFrom step (least - 1) most t next else none with
    | some found => some found
    | none => if least = 0 then next s else none

/-- As few steps as can be, `least` at least and `most` at most. A step goes on by a character at
least. -/
def seldomFrom {α : Type} (step : Step α) (least : Nat) : Nat → Step α
  | 0, s, next => if least = 0 then next s else none
  | most + 1, s, next =>
    match if least = 0 then next s else none with
    | some found => some found
    | none =>
      step s fun t =>
        if s.index < t.index then seldomFrom step (least - 1) most t next else none

/-- The first way through a pattern from a place on which `next` can go on. -/
def run {α : Type} : Pattern → Step α
  | .one holds, s, next => (s.after? holds).bind next
  | .beside holds, s, next => if holds s.before s.rest.head? then next s else none
  | .andThen first second, s, next => first.run s fun s => second.run s next
  | .orElse first second, s, next =>
    match first.run s next with
    | some found => some found
    | none => second.run s next
  | .often least most body, s, next =>
    oftenFrom (fun s next => body.run s next) least most s next
  | .seldom least most body, s, next =>
    seldomFrom (fun s next => body.run s next) least most s next
  | .marked body, s, next =>
    body.run s fun t => next { t with marks := (s.index, t.index) :: t.marks }

/-- The marked parts of all places that fit, `fuel` of them at most. What fits goes on where the
one before it ended, and without a fit the search goes on with the next character. -/
def searchFrom (p : Pattern) : Nat → TextPlace → List (Nat × Nat)
  | 0, _ => []
  | fuel + 1, s =>
    match p.run s some with
    | some found => found.marks ++ searchFrom p fuel { found with marks := [] }
    | none =>
      match s.after? fun _ => true with
      | some s => searchFrom p fuel s
      | none => []

/-- The marked parts of all places in a text that fit. Every fit has a character at least. -/
def search (p : Pattern) (cs : List Char) : List (Nat × Nat) :=
  searchFrom p (cs.length + 1) (.start cs)

/-! ### Shapes of patterns -/

/-- Nothing at all. -/
def nothing : Pattern := .beside fun _ _ => true

/-- Patterns one after the other. -/
def all (ps : List Pattern) : Pattern := ps.foldr .andThen nothing

/-- The first of patterns that leads on. -/
def any (ps : List Pattern) : Pattern := ps.foldr .orElse (.beside fun _ _ => false)

/-- A greater number than that of the characters of any text. -/
def unbounded : Nat := 0x1000000000000000

/-- A pattern any number of times, as often as can be. -/
def many (p : Pattern) : Pattern := .often 0 unbounded p

/-- A pattern once at least, as often as can be. -/
def several (p : Pattern) : Pattern := .often 1 unbounded p

/-- A pattern once, or not at all. -/
def optional (p : Pattern) : Pattern := .often 0 1 p

/-- A pattern a number of times. -/
def times (n : Nat) (p : Pattern) : Pattern := .often n n p

/-- A character. -/
def char (c : Char) : Pattern := .one (· == c)

/-- One of some characters. -/
def oneOf (cs : String) : Pattern :=
  let choice := cs.toList
  .one choice.contains

/-- The characters of a text one after the other. -/
def text (s : String) : Pattern := all (s.toList.map char)

end Pattern

end SwitchTrace

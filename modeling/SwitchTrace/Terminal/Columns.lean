import SwitchTrace.Terminal.ColumnRuns

/-!
# Columns of a terminal

A terminal shows most characters in one column, those of East Asian scripts and most pictures in
two, and controls and marks that combine with other characters in none. Two marks make one picture
of several characters: a joiner joins the character after it to the one before it, and a selector
shows the character before it as a picture, which may be wider.

## Main definitions

* `Columns.ofChar`, `Columns.ofChars` — the number of columns of a character and of a text.
* `Columns.Cluster`, `Columns.clusters` — the characters of a text that are not divided.
* `Columns.cut` — a text cut to a number of columns.
-/

namespace SwitchTrace.Columns

/-! ### Widths -/

/-- The number is in one of the runs. -/
def within (runs : List (Nat × Nat)) (n : Nat) : Bool := runs.any fun r => r.1 ≤ n && n ≤ r.2

/-- The number of columns of a character. -/
def ofChar (c : Char) : Nat :=
  let n := c.toNat
  if n < 0x20 then 0
  else if n < 0x7F then 1
  else if n < 0xA0 then 0
  else if within zeroRuns n then 0
  else if within wideRuns n then 2
  else 1

/-- The character that joins the ones beside it to one picture. -/
def joiner : Char := '\u200D'

/-- The character after which the one before it is shown as a picture. -/
def selector : Char := '\uFE0F'

/-- The number of columns that a selector adds to the character before it. -/
def growth (c : Option Char) : Nat := if c.any fun c => within growingRuns c.toNat then 1 else 0

/-- The number of columns of characters, `measured` being the last one before them that has a
width. A character that is joined to the one before it takes no column of its own. -/
def ofCharsAfter (measured : Option Char) : List Char → Nat
  | [] => 0
  | c :: rest =>
    if c = joiner then
      match rest with
      | [] => 0
      | _ :: rest => ofCharsAfter measured rest
    else if c = selector then growth measured + ofCharsAfter none rest
    else if ofChar c = 0 then ofCharsAfter measured rest
    else ofChar c + ofCharsAfter (some c) rest

/-- The number of columns of characters. -/
def ofChars (cs : List Char) : Nat := ofCharsAfter none cs

/-! ### Clusters -/

/-- Characters that are not divided, with their number of columns. -/
structure Cluster where
  chars : List Char
  width : Nat
deriving DecidableEq, Repr

/-- Characters put to the first of some clusters, which are in reverse order; without one they are
a cluster of their own. -/
def attach (cs : List Char) (width : Nat) : List Cluster → List Cluster
  | [] => [⟨cs, width⟩]
  | k :: ks => ⟨k.chars ++ cs, k.width + width⟩ :: ks

/-- The clusters of characters after those of the clusters `before`, which are in reverse order,
`measured` being the last character with a width. -/
def clustersAfter (before : List Cluster) (measured : Option Char) : List Char → List Cluster
  | [] => before.reverse
  | c :: rest =>
    if c = joiner then
      if before.isEmpty then clustersAfter (attach [c] 0 before) measured rest
      else
        match rest with
        | [] => (attach [c] 0 before).reverse
        | d :: rest => clustersAfter (attach [c, d] 0 before) measured rest
    else if c = selector then clustersAfter (attach [c] (growth measured) before) none rest
    else if ofChar c = 0 then clustersAfter (attach [c] 0 before) measured rest
    else clustersAfter (⟨[c], ofChar c⟩ :: before) (some c) rest

/-- The clusters of characters. -/
def clusters (cs : List Char) : List Cluster := clustersAfter [] none cs

/-! ### Cutting -/

/-- The characters of clusters that take so many columns at most, with a blank for half a
cluster. -/
def takeWithin : Nat → List Cluster → List Char
  | _, [] => []
  | room, k :: ks =>
    if room = 0 then []
    else if k.width ≤ room then k.chars ++ takeWithin (room - k.width) ks
    else [' ']

/-- The characters cut to so many columns. -/
def cut (room : Nat) (cs : List Char) : List Char :=
  if ofChars cs ≤ room then cs ++ List.replicate (room - ofChars cs) ' '
  else takeWithin room (clusters cs)

end SwitchTrace.Columns

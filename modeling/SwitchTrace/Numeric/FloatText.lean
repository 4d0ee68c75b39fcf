import SwitchTrace.Numeric.Decimal

/-!
# The text of a binary64 number

Numbers are printed with the shortest digits that read back. The notation is positional from
`10 ^ -4` up to below `10 ^ 16`, always with a point, and otherwise has one digit before the
point and an exponent of at least two digits with its sign.

## Main definitions

* `FloatStyle` — the spellings that differ from one kind of text to another.
* `FloatStyle.render` — the text of a number.
-/

namespace SwitchTrace

/-- The spellings that differ from one kind of text to another. -/
structure FloatStyle where
  nan : String
  infinity : String
  negativeInfinity : String
  /-- A single digit before an exponent is followed by a point and a zero. -/
  pointBeforeExponent : Bool

namespace FloatStyle

/-- The spellings of messages. -/
def plain : FloatStyle := ⟨"nan", "inf", "-inf", false⟩

/-- The spellings of JSON texts, where the words for non-finite numbers are an extension. -/
def json : FloatStyle := ⟨"NaN", "Infinity", "-Infinity", false⟩

/-- The spellings of YAML texts, where a number without a point would be read as a text. -/
def yaml : FloatStyle := ⟨".nan", ".inf", "-.inf", true⟩

/-- The digits of a number without the zeros at their end. -/
def significantDigits (n : Nat) : List Char :=
  let ds := Nat.toDigits 10 n
  match (ds.reverse.dropWhile (· == '0')).reverse with
  | [] => ['0']
  | trimmed => trimmed

/-- The text of an exponent: its sign and at least two digits. -/
def exponentText (e : Int) : List Char :=
  let ds := Nat.toDigits 10 e.natAbs
  (if e < 0 then '-' else '+') :: (if ds.length < 2 then '0' :: ds else ds)

/-- The digits in positional notation, `leading` being the exponent of the first of them. -/
def positional (ds : List Char) (leading : Int) : List Char :=
  if leading < 0 then
    '0' :: '.' :: List.replicate (-leading - 1).toNat '0' ++ ds
  else
    let before := leading.toNat + 1
    let whole := ds.take before ++ List.replicate (before - ds.length) '0'
    match ds.drop before with
    | [] => whole ++ ['.', '0']
    | fraction => whole ++ '.' :: fraction

/-- The digits with one of them before the point, and an exponent. -/
def scientific (style : FloatStyle) (ds : List Char) (leading : Int) : List Char :=
  let mantissa :=
    match ds with
    | [d] => if style.pointBeforeExponent then [d, '.', '0'] else [d]
    | d :: rest => d :: '.' :: rest
    | [] => []
  mantissa ++ 'e' :: exponentText leading

/-- The text of a magnitude. -/
def renderMagnitude (style : FloatStyle) (m : Magnitude) : List Char :=
  let d := Decimal.shortest m
  let ds := significantDigits d.digits
  let leading := d.exponent + Decimal.digitCount d.digits - 1
  if m.units = 0 then ['0', '.', '0']
  else if -4 ≤ leading ∧ leading < 16 then positional ds leading
  else scientific style ds leading

/-- The text of a number. -/
def render (style : FloatStyle) : Binary64 → String
  | .nan => style.nan
  | .infinity false => style.infinity
  | .infinity true => style.negativeInfinity
  | .finite false m => String.ofList (renderMagnitude style m)
  | .finite true m => String.ofList ('-' :: renderMagnitude style m)

end FloatStyle

end SwitchTrace

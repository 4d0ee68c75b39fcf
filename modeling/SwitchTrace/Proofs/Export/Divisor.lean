import SwitchTrace.Proofs.Export.Order
import SwitchTrace.Proofs.Yaml.WholeNumber
import SwitchTrace.Settings.Load

/-!
# Whole divisors of either kind

A whole divisor can be given as a whole number or as a number of the format. Distances and divisors
up to `2 ^ 53` are values of the format, so that it makes no difference then, down to the last bit
of every time; beyond, the rounded distance may have another quotient. In settings the one is
written with digits and the other with a point and a zero after them.

## Main definitions

* `Settings.divisorData`, `Settings.ofDivisor` — settings that give a divisor only.

## Main results

* `Settings.ofData_divisorData` — a divisor in settings.
* `Yaml.plainValue_natCast` — a whole number as a plain scalar, with and without a point.
* `TraceDocument.ofEvents_int_eq_float` — documents with the same divisor of either kind.
-/

namespace SwitchTrace

/-! ### Divisors in settings -/

namespace Settings

/-- The data of settings that give the divisor and nothing else. -/
def divisorData (divisor : Value) : Value :=
  .map [entry "export" (.map [entry "time_divisor" divisor])]

/-- The settings that give the divisor and nothing else. -/
def ofDivisor (divisor : Value) : Settings := { exporting := { timeDivisor := divisor } }

/-- **A number that is given as the divisor** is the divisor, whatever reads settings. -/
theorem ofData_divisorData {φ : Type} (format : DataFormat φ) (env : Environment) {v : Scalar}
    (hnumber : (Value.scalar v).number?.isSome = true) :
    ofData format env (divisorData (.scalar v)) = .ok (ofDivisor (.scalar v)) := by
  cases v with
  | bool b => rfl
  | int n => rfl
  | float x => rfl
  | _ => cases hnumber

end Settings

/-- **A whole number as a plain scalar.** With digits it is a whole number, and with a point and a
zero after them the number of the format nearest to it. -/
theorem Yaml.plainValue_natCast {n : Nat} (hn : n ≠ 0) (hn' : n ≤ power 2 53) {x : Binary64}
    (hx : Binary64.ofInt n = .ok x) :
    plainValue (toString (n : Int)) = .ok (.int n) ∧
      plainValue (toString (n : Int) ++ ".0") = .ok (.float x) := by
  have hlength : (Nat.toDigits 10 n).length ≤ 16 := by
    rw [Nat.length_toDigits_le_iff (by decide) (by decide)]
    exact Nat.lt_of_le_of_lt hn' (by decide)
  have htext := toList_toString_natCast n
  have htext' : (toString (n : Int) ++ ".0").toList = Nat.toDigits 10 n ++ ['.', '0'] := by
    rw [String.toList_append, htext]
    rfl
  exact ⟨plainValue_digits hn (Nat.le_trans hlength (by decide)) htext,
    plainValue_point hn (Nat.le_trans hlength (by decide)) hx htext'⟩

/-! ### Documents -/

section

variable {info : TimelineInfo} {events : List Event} {pool : StringPool}

/-- An event is exported in the same way by the same divisor of either kind. -/
theorem Event.export_int_eq_float {origin n : Int} {x : Binary64} {e : Event} (hn : 0 < n)
    (hn' : n.natAbs ≤ power 2 53) (he : (e.timestamp - origin).natAbs ≤ power 2 53)
    (hx : Binary64.ofInt n = .ok x) :
    e.export pool origin (.int n) = e.export pool origin (.float x) := by
  have hdivide := Number.divide_float_eq_whole hn hn' he hx
  unfold Event.export
  simp only [Value.number?, Value.wholeNumber?, Value.int, Value.float, Scalar.wholeNumber?,
    Option.map_some, hdivide]

namespace TraceDocument

/-- **Documents with the same divisor of either kind.** Up to `2 ^ 53`, and for distances up to
`2 ^ 53`, a whole divisor and the number of the format that is the same make the same document, and
no document for the same reason. As plain scalars the two are written without and with a point, and
either of them is the divisor of settings in whose data it stands, whatever reads them. -/
theorem ofEvents_int_eq_float {n : Int} (hn : 1 ≤ n) (hn' : n ≤ 2 ^ 53)
    (hevents : ∀ e ∈ events, (e.timestamp - info.origin).natAbs ≤ 2 ^ 53) :
    ∃ x, Binary64.ofInt n = .ok x ∧ x.equalsInt n = true ∧
      ofEvents info events pool (.int n) = ofEvents info events pool (.float x) ∧
      Yaml.plainValue (toString n) = .ok (.int n) ∧
      Yaml.plainValue (toString n ++ ".0") = .ok (.float x) ∧
      ∀ {φ : Type} (format : DataFormat φ) (env : Environment),
        Settings.ofData format env (Settings.divisorData (.int n)) = .ok (.ofDivisor (.int n)) ∧
        Settings.ofData format env (Settings.divisorData (.float x)) =
          .ok (.ofDivisor (.float x)) := by
  obtain ⟨k, rfl⟩ := Int.eq_ofNat_of_zero_le (Int.le_trans Int.one_nonneg hn)
  have hk : k ≠ 0 := by omega
  have hk' : k ≤ power 2 53 := by exact_mod_cast hn'
  obtain ⟨m, hx, hunits⟩ := Binary64.exists_ofInt_exact (n := k) hk'
  obtain ⟨hdigits, hpoint⟩ := Yaml.plainValue_natCast hk hk' hx
  refine ⟨_, hx, Binary64.equalsInt_finite hunits, ?_, hdigits, hpoint, fun format env =>
    ⟨Settings.ofData_divisorData format env rfl, Settings.ofData_divisorData format env rfl⟩⟩
  have hpos : (0 : Int) < k := Int.natCast_pos.mpr (Nat.pos_of_ne_zero hk)
  have hwhole : (Number.whole k).isNonpositive = false := decide_eq_false (Int.not_le.mpr hpos)
  have hfloat := (Number.isPositive_ofInt hpos hk' hx).1
  unfold ofEvents
  rw [checkDivisor_eq_ok rfl hwhole, checkDivisor_eq_ok rfl hfloat,
    mapM_congr fun e he => Event.export_int_eq_float hpos hk' (hevents e he) hx]

/-- Events as far from 5 as the format goes, before and after it, and one near it. -/
def farFromFive : List Event :=
  [.ofTexts 1 (-9007199254740987) 0 0 0 0, .ofTexts 1 12 0 0 0 0,
    .ofTexts 1 9007199254740997 0 0 0 0]

/-- Divided by a thousand, the events have the same times with and without a point. -/
theorem ofEvents_int_eq_float_farFromFive : ∃ x, Binary64.ofInt 1000 = .ok x ∧
    ofEvents fromFive farFromFive onePool (.int 1000) =
      ofEvents fromFive farFromFive onePool (.float x) ∧
    Yaml.plainValue "1000" = .ok (.int 1000) ∧ Yaml.plainValue "1000.0" = .ok (.float x) ∧
    Settings.ofData .yaml [] (Settings.divisorData (.int 1000)) = .ok (.ofDivisor (.int 1000)) ∧
    Settings.ofData .yaml [] (Settings.divisorData (.float x)) = .ok (.ofDivisor (.float x)) := by
  obtain ⟨x, hx, -, hdocument, hdigits, hpoint, hsettings⟩ :=
    @ofEvents_int_eq_float fromFive farFromFive onePool 1000 (by decide) (by decide) (by decide)
  exact ⟨x, hx, hdocument, hdigits, hpoint, hsettings .yaml []⟩

end TraceDocument

end

end SwitchTrace

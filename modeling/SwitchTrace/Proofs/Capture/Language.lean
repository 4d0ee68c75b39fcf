import SwitchTrace.Capture.Report
import SwitchTrace.Proofs.Capture.Reading

/-!
# What is read, and what is refused for which reason

Bytes are read exactly if they begin with an image, and the reader gives its content. All other
bytes are refused for the first fault in the order of the file. As no bytes are on neither side, an
element that is too short is never met.

## Main results

* `Capture.decode_eq_ok_iff_holds` — the bytes that are read, and as what.
* `Capture.decode_eq_error_iff_faulty` — the bytes that are refused, and why.
-/

namespace SwitchTrace

namespace Capture

/-- **The language of captures.** Bytes are read exactly if they begin with an image. Whatever
follows it, its content is what is read: of each element the bytes that this format knows. -/
theorem decode_eq_ok_iff_holds :
    (∀ data, (∃ c, decode data = .ok c) ↔ ∃ image : Image, ∃ tail, data = image.bytes ++ tail) ∧
      ∀ (image : Image) tail c, decode (image.bytes ++ tail) = .ok c ↔ image.Holds c := by
  refine ⟨fun data => ⟨?_, ?_⟩, fun image tail c => ⟨holds_of_decode, ?_⟩⟩
  · rintro ⟨c, hc⟩
    obtain ⟨image, tail, hdata, -⟩ := exists_image_of_decode hc
    exact ⟨image, tail, hdata⟩
  · rintro ⟨image, tail, rfl⟩
    obtain ⟨c, hc⟩ := image.exists_holds
    exact ⟨c, decode_bytes_append hc tail⟩
  · intro h
    exact decode_bytes_append h tail

end Capture

/-! ### Verdicts on headers -/

/-- A header is acceptable exactly if neither of its numbers is too small. -/
theorem ArrayHeader.complaint?_eq_none_iff {h : ArrayHeader} {n : Int} :
    h.complaint? (some n) = none ↔ 0 ≤ h.count ∧ n ≤ h.elementSize := by
  rw [complaint?]
  by_cases hcount : h.count < 0
  · simp only [hcount, ↓reduceIte, reduceCtorEq, false_iff, not_and]
    omega
  · by_cases hsize : h.elementSize < n
    · simp only [hcount, hsize, ↓reduceIte, reduceCtorEq, false_iff, not_and]
      omega
    · simp only [hcount, hsize, ↓reduceIte, true_iff]
      omega

theorem exists_of_mapM_eq_error {α β ε : Type} {f : α → Except ε β} {as : List α} {e : ε}
    (h : as.mapM f = .error e) : ∃ a ∈ as, f a = .error e := by
  induction as with
  | nil => cases h
  | cons a as ih =>
    rw [List.mapM_cons] at h
    cases ha : f a with
    | error e' =>
      rw [ha] at h
      cases h
      exact ⟨a, List.mem_cons_self, ha⟩
    | ok b =>
      rw [ha] at h
      cases has : as.mapM f with
      | error e' =>
        rw [has] at h
        cases h
        obtain ⟨a', ha', he⟩ := ih has
        exact ⟨a', List.mem_cons_of_mem a ha', he⟩
      | ok bs =>
        rw [has] at h
        cases h

/-- An element is refused for its length only, which is not the fault of a header. -/
theorem code?_of_mapM_readElement {α : Type} {layout : Layout α} {es : List Bytes}
    {fault : DecodeFault} (h : es.mapM layout.readElement = .error fault) : fault.code? = none := by
  obtain ⟨e, -, he⟩ := exists_of_mapM_eq_error h
  cases hread : layout.read? (e.take layout.width) with
  | none =>
    simp only [Layout.readElement, hread] at he
    cases he
    rfl
  | some a =>
    simp only [Layout.readElement, hread] at he
    cases he

/-- Behind an acceptable header the bytes can end too early, and elements can be too short. -/
theorem code?_of_readArray {α : Type} {layout : Layout α} {header body : Bytes} {offset : Nat}
    {count size : Int} {fault : DecodeFault} (hlength : header.length = ArrayHeader.size)
    (hheader : ArrayHeader.ofBytes header = ⟨count, size⟩) (hcount : ¬ count < 0)
    (hsize : ¬ size < layout.width)
    (h : (readArray layout ⟨offset, header ++ body⟩).outcome = .error fault) :
    fault.code? = some .truncated ∨ fault.code? = none := by
  rw [readArray_eq, ← hlength, take?_append] at h
  simp only [readElements, hheader, hcount, hsize, ↓reduceIte] at h
  cases htake : (⟨offset + header.length, body⟩ : Cursor).take?
      (ArrayHeader.payloadSize ⟨count, size⟩).toNat with
  | none =>
    simp only [htake, Except.error.injEq] at h
    exact .inl (h ▸ rfl)
  | some taken =>
    simp only [htake] at h
    exact .inr (code?_of_mapM_readElement h)

/-- **The verdict on a header.** A complete header makes an array of any layout be refused exactly
if it is not acceptable for elements of that width, whatever follows it. -/
theorem readArray_refused_iff {α : Type} (layout : Layout α) {header : Bytes}
    (hlength : header.length = ArrayHeader.size) (offset : Nat) (body : Bytes) :
    (∃ fault, (readArray layout ⟨offset, header ++ body⟩).outcome = .error fault ∧
        (fault.code? = some .invalidArrayHeader ∨
          fault.code? = some .unsupportedOlderVersion)) ↔
      ((ArrayHeader.ofBytes header).complaint? (some layout.width)).isSome = true := by
  obtain ⟨count, size, hheader⟩ : ∃ count size, ArrayHeader.ofBytes header = ⟨count, size⟩ :=
    ⟨_, _, rfl⟩
  rw [← Option.ne_none_iff_isSome, ne_eq, ArrayHeader.complaint?_eq_none_iff, hheader]
  by_cases hcount : count < 0
  · refine ⟨fun _ h => ?_, fun _ =>
      ⟨_, outcome_readArray_of_arrayFault (.negativeCount hlength hheader hcount), .inl rfl⟩⟩
    exact absurd hcount (Int.not_lt.mpr h.1)
  by_cases hsize : size < layout.width
  · obtain ⟨n, rfl⟩ := Int.eq_ofNat_of_zero_le (Int.not_lt.mp hcount)
    refine ⟨fun _ h => ?_, fun _ =>
      ⟨_, outcome_readArray_of_arrayFault (.narrow hlength hheader hsize), .inr rfl⟩⟩
    exact absurd hsize (Int.not_lt.mpr h.2)
  · constructor
    · rintro ⟨fault, hfault, hcode⟩
      rcases code?_of_readArray hlength hheader hcount hsize hfault with h | h <;>
        simp [h] at hcode
    · exact fun h => absurd ⟨Int.not_lt.mp hcount, Int.not_lt.mp hsize⟩ h

/-! ### Faults -/

/-- A framed array is refused for its header, or because it is not complete. -/
theorem ArrayFault.code? {array : String} {width : Nat} {c : Cursor} {fault : DecodeFault}
    (h : ArrayFault array width c fault) : fault.code? = some .truncated ∨
      fault.code? = some .invalidArrayHeader ∨ fault.code? = some .unsupportedOlderVersion := by
  cases h with
  | shortHeader => exact .inl rfl
  | negativeCount => exact .inr (.inl rfl)
  | narrow => exact .inr (.inr rfl)
  | missing => exact .inl rfl

theorem ArrayFault.code?_ne_badMagic {array : String} {width : Nat} {c : Cursor}
    {fault : DecodeFault} (h : ArrayFault array width c fault) :
    fault.code? ≠ some .badMagic := by
  rcases h.code? with h | h | h <;> simp [h]

namespace Capture

theorem Faulty.code? {data : Bytes} {fault : DecodeFault} (h : Faulty data fault) :
    fault.code? = some .badMagic ∨ fault.code? = some .truncated ∨
      fault.code? = some .invalidArrayHeader ∨ fault.code? = some .unsupportedOlderVersion := by
  cases h with
  | badMagic => exact .inl rfl
  | shortMagic => exact .inr (.inl rfl)
  | devices hfault => exact .inr hfault.code?
  | records _ hfault => exact .inr hfault.code?

/-- The magic bytes are at fault only where they are neither complete nor could become so. -/
theorem Faulty.of_code?_badMagic {data : Bytes} {fault : DecodeFault} (h : Faulty data fault)
    (hcode : fault.code? = some .badMagic) : ¬ data <+: magic ∧ ¬ magic <+: data := by
  cases h with
  | badMagic hdata hmagic => exact ⟨hdata, hmagic⟩
  | shortMagic => cases hcode
  | devices hfault => exact absurd hcode hfault.code?_ne_badMagic
  | records _ hfault => exact absurd hcode hfault.code?_ne_badMagic

/-- **The faults of captures.** Bytes are refused for the first fault in the order of the file and
for nothing else. It has one of four codes. The magic bytes are at fault exactly if the bytes
neither begin with them nor could be continued to; fewer bytes that could are truncated. A header
is refused exactly if it is not acceptable, whatever follows it. -/
theorem decode_eq_error_iff_faulty :
    (∀ data fault, decode data = .error fault ↔ Faulty data fault) ∧
      (∀ data, (∃ c, decode data = .ok c) ∨ ∃ fault, decode data = .error fault ∧
        (fault.code? = some .badMagic ∨ fault.code? = some .truncated ∨
          fault.code? = some .invalidArrayHeader ∨
            fault.code? = some .unsupportedOlderVersion)) ∧
      (∀ data, (∃ fault, decode data = .error fault ∧ fault.code? = some .badMagic) ↔
        ¬ data <+: magic ∧ ¬ magic <+: data) ∧
      (∀ data, data <+: magic → data ≠ magic →
        decode data = .error (.truncated .fileHeader 0 8 data.length)) ∧
      ∀ (α : Type) (layout : Layout α) (header body : Bytes) (offset : Nat),
        header.length = ArrayHeader.size →
          ((∃ fault, (readArray layout ⟨offset, header ++ body⟩).outcome = .error fault ∧
              (fault.code? = some .invalidArrayHeader ∨
                fault.code? = some .unsupportedOlderVersion)) ↔
            ((ArrayHeader.ofBytes header).complaint? (some layout.width)).isSome = true) := by
  refine ⟨fun data fault => ⟨faulty_of_decode, decode_of_faulty⟩, ?_, ?_, ?_, ?_⟩
  · intro data
    cases h : decode data with
    | ok c => exact .inl ⟨c, rfl⟩
    | error fault => exact .inr ⟨fault, rfl, (faulty_of_decode h).code?⟩
  · intro data
    constructor
    · rintro ⟨fault, hfault, hcode⟩
      exact (faulty_of_decode hfault).of_code?_badMagic hcode
    · rintro ⟨hdata, hmagic⟩
      exact ⟨_, decode_of_faulty (.badMagic hdata hmagic), rfl⟩
  · intro data hdata hne
    exact decode_of_faulty (.shortMagic hdata hne)
  · intro α layout header body offset hlength
    exact readArray_refused_iff layout hlength offset body

/-- The first of the magic bytes alone is truncated, and a header of a negative number of narrow
elements is refused for the number. -/
theorem decode_eq_error_iff_faulty_initial :
    decode [0x6E] = .error (.truncated .fileHeader 0 8 1) ∧
      decode (magic ++ ([0xFF, 0xFF, 0xFF, 0xFF, 0x17, 0x00, 0x00, 0x00] ++ [])) =
        .error (.negativeCount "device descriptor" (-1)) ∧
      ∃ fault, (readArray (.record "record")
          ⟨0, [0xFF, 0xFF, 0xFF, 0xFF, 0x17, 0x00, 0x00, 0x00] ++ []⟩).outcome = .error fault ∧
        (fault.code? = some .invalidArrayHeader ∨
          fault.code? = some .unsupportedOlderVersion) := by
  have hheader : ArrayHeader.ofBytes [0xFF, 0xFF, 0xFF, 0xFF, 0x17, 0x00, 0x00, 0x00] =
      ⟨-1, 23⟩ := by decide
  refine ⟨?_, ?_, ?_⟩
  · exact decode_eq_error_iff_faulty.2.2.2.1 [0x6E] (by decide) (by decide)
  · exact (decode_eq_error_iff_faulty.1 _ _).mpr
      (.devices (.negativeCount rfl hheader (by decide)))
  · exact (decode_eq_error_iff_faulty.2.2.2.2 Record (.record "record") _ [] 0 rfl).mpr
      (by decide)

end Capture

end SwitchTrace

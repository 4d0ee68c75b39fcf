import SwitchTrace.Proofs.Capture.Continuation
import SwitchTrace.Proofs.Files.Consumption

/-!
# Files that begin as a capture does

A file is probed by its first bytes only, and read by all of them. The two agree: bytes that begin
as a capture does are refused, if at all, for something behind the magic bytes, because every array
lies behind them; and bytes that do not are refused for the magic bytes, or for the lack of them at
the very beginning. Fewer bytes than the magic bytes are told apart by the reader only, which says
of some of them that they end too early.

## Main definitions

* `DecodeFault.AtStart` — the fault concerns the magic bytes.

## Main results

* `Capture.Faulty.atStart_iff` — the faults of bytes that do not begin with the magic bytes.
* `FileTree.looksLikeCapture_agrees` — probing and reading.
-/

namespace SwitchTrace

/-- The fault concerns the magic bytes: they are others, or the bytes end before they are
complete. -/
def DecodeFault.AtStart : DecodeFault → Prop
  | .badMagic _ => True
  | .truncated _ offset _ _ => offset = 0
  | .shortHeader _ | .negativeCount .. | .olderVersion .. | .shortElement ..
  | .countMismatch .. => False

/-- The faults of a framed array do not concern the magic bytes if there are bytes before it. -/
theorem ArrayFault.not_atStart {array : String} {width offset : Nat} {rest : Bytes}
    {fault : DecodeFault} (h : ArrayFault array width ⟨offset, rest⟩ fault) (hoffset : 0 < offset) :
    ¬ fault.AtStart := by
  cases h with
  | shortHeader => exact Nat.ne_of_gt hoffset
  | negativeCount => exact id
  | narrow => exact id
  | missing => exact Nat.ne_of_gt (Nat.add_pos_left hoffset _)

namespace Capture

variable {data : Bytes} {fault : DecodeFault}

theorem hasMagic_iff : hasMagic data = true ↔ magic <+: data := by
  rw [hasMagic, beq_iff_eq, List.prefix_iff_eq_take, eq_comm]

/-- **The magic bytes are at fault exactly where they are not.** -/
theorem Faulty.atStart_iff (h : Faulty data fault) : fault.AtStart ↔ hasMagic data = false := by
  rw [← Bool.not_eq_true, hasMagic_iff]
  cases h with
  | badMagic _ hmagic => exact iff_of_true trivial hmagic
  | shortMagic hdata hne =>
    exact iff_of_true rfl fun hmagic =>
      hne (hdata.eq_of_length (Nat.le_antisymm hdata.length_le hmagic.length_le))
  | devices hfault =>
    exact iff_of_false (hfault.not_atStart (by decide)) (not_not.mpr (List.prefix_append _ _))
  | @records devices before rest _ _ hfault =>
    have hbehind : 0 < (fileStart devices before).length := by
      rw [length_fileStart, magic]
      simp only [List.length_cons]
      omega
    refine iff_of_false (hfault.not_atStart hbehind) (not_not.mpr ?_)
    rw [fileStart_append]
    exact List.prefix_append _ _

/-- Bytes begin as a capture does exactly if they are not refused for their beginning. -/
theorem hasMagic_iff_decode : hasMagic data = true ↔
    ∀ fault, decode data = .error fault → ¬ fault.AtStart := by
  constructor
  · intro hmagic fault h hstart
    rw [(faulty_of_decode h).atStart_iff, hmagic] at hstart
    cases hstart
  · intro h
    rcases image_or_faulty data with ⟨image, tail, rfl⟩ | ⟨fault, hfault⟩
    · rw [hasMagic_iff, Image.bytes, fileStart_append]
      exact List.prefix_append _ _
    · have hstart := h fault (decode_of_faulty hfault)
      rwa [hfault.atStart_iff, Bool.not_eq_false] at hstart

/-- As many bytes as the magic bytes, and others, are refused for themselves whatever follows. -/
theorem decode_append_of_hasMagic {start : Bytes} (hlength : start.length = magic.length)
    (h : hasMagic (start ++ data) = false) :
    decode (start ++ data) = .error (.badMagic start) := by
  rw [← Bool.not_eq_true, hasMagic_iff] at h
  have htake : (start ++ data).take magic.length = start := List.take_left' hlength
  have hother : ¬ start ++ data <+: magic := fun hdata => by
    have hle := hdata.length_le
    rw [List.length_append, hlength] at hle
    obtain rfl : data = [] := List.length_eq_zero_iff.mp (by omega)
    rw [List.append_nil] at h hdata
    exact h (hdata.eq_of_length hlength ▸ List.prefix_refl magic)
  have hfault := decode_of_faulty (.badMagic hother h)
  rwa [htake] at hfault

end Capture

namespace FileTree

variable {t : FileTree} {path : Path} {data : Bytes}

theorem looksLikeCapture_of_read (h : t.read path = .ok data) :
    t.looksLikeCapture path = .ok (Capture.hasMagic data) := by
  unfold looksLikeCapture
  rw [h]

/-- What is loaded from a file is what its bytes are decoded to. -/
theorem outcome_loadCapture_eq_ok_iff {c : Capture} :
    (t.loadCapture path).outcome = .ok c ↔
      ∃ data, t.read path = .ok data ∧ Capture.decode data = .ok c := by
  cases hread : t.read path with
  | error fault => simp [loadCapture_of_read_error hread]
  | ok data =>
    cases h : Capture.decode data with
    | error fault => simp [loadCapture_of_decode_error hread h, h]
    | ok c' => simp [loadCapture_of_decode hread h, h]

theorem outcome_loadCapture_eq_decoding_iff (hread : t.read path = .ok data) {fault : DecodeFault} :
    (t.loadCapture path).outcome = .error (.decoding fault) ↔
      Capture.decode data = .error fault := by
  cases h : Capture.decode data with
  | error fault' => simp [loadCapture_of_decode_error hread h]
  | ok c => simp [loadCapture_of_decode hread h]

/-- **Probing agrees with reading.** Bytes begin as a capture does exactly if decoding refuses them
neither for the magic bytes nor for an end at offset zero. So a file that holds a capture is always
accepted when it is probed. Every file that can be read is accepted or rejected; it is rejected
exactly if reading a capture from it ends in one of these two faults. If it has at least eight bytes
then these alone decide it, and are reported, whatever follows them. -/
theorem looksLikeCapture_agrees :
    (∀ data, Capture.hasMagic data = true ↔
      ∀ fault, Capture.decode data = .error fault → ¬ fault.AtStart) ∧
    (∀ (t : FileTree) path c, (t.loadCapture path).outcome = .ok c →
      t.looksLikeCapture path = .ok true) ∧
    (∀ (t : FileTree) path data, t.read path = .ok data →
      ∃ accepted, t.looksLikeCapture path = .ok accepted ∧
        (accepted = false ↔ ∃ fault : DecodeFault,
          (t.loadCapture path).outcome = .error (.decoding fault) ∧ fault.AtStart)) ∧
    ∀ (t : FileTree) path (start tail : Bytes), t.read path = .ok (start ++ tail) →
      start.length = 8 → t.looksLikeCapture path = .ok false →
        (t.loadCapture path).outcome = .error (.decoding (.badMagic start)) := by
  refine ⟨fun _ => Capture.hasMagic_iff_decode, fun t path c h => ?_, fun t path data hread => ?_,
    fun t path start tail hread hlength h => ?_⟩
  · obtain ⟨data, hread, hdecode⟩ := outcome_loadCapture_eq_ok_iff.mp h
    have hmagic : Capture.hasMagic data = true := Capture.hasMagic_iff_decode.mpr fun fault h => by
      rw [hdecode] at h
      cases h
    rw [looksLikeCapture_of_read hread, hmagic]
  · refine ⟨_, looksLikeCapture_of_read hread, ?_⟩
    simp only [outcome_loadCapture_eq_decoding_iff hread]
    rw [← Bool.not_eq_true, Capture.hasMagic_iff_decode]
    simp only [not_forall, not_not, exists_prop]
  · rw [looksLikeCapture_of_read hread, Except.ok.injEq] at h
    exact (outcome_loadCapture_eq_decoding_iff hread).mpr
      (Capture.decode_append_of_hasMagic hlength h)

/-- A capture is accepted. The first of the magic bytes alone and eight other bytes with one of them
in front are rejected, and only the latter are reported. -/
theorem looksLikeCapture_agrees_threeFiles : ∃ tree : FileTree,
    tree.looksLikeCapture (.ofText "good") = .ok true ∧
      (∃ fault : DecodeFault,
        (tree.loadCapture (.ofText "short")).outcome = .error (.decoding fault) ∧
          fault.AtStart) ∧
      (tree.loadCapture (.ofText "other")).outcome =
        .error (.decoding (.badMagic [0x6E, 0x6E, 0x76, 0x74, 0x72, 0x63, 0x30, 0x31])) := by
  obtain ⟨data, hdecode⟩ := Capture.exists_decode_single
  obtain ⟨tree, hgood, hshort, hother⟩ : ∃ tree : FileTree,
      tree.read (.ofText "good") = .ok data ∧ tree.read (.ofText "short") = .ok [0x6E] ∧
        tree.read (.ofText "other") =
          .ok ([0x6E, 0x6E, 0x76, 0x74, 0x72, 0x63, 0x30, 0x31] ++ [0x00]) :=
    ⟨⟨[(["good"], .file data), (["short"], .file [0x6E]),
      (["other"], .file [0x6E, 0x6E, 0x76, 0x74, 0x72, 0x63, 0x30, 0x31, 0x00])], []⟩,
      rfl, rfl, rfl⟩
  obtain ⟨-, haccepted, hdecided, hreported⟩ := looksLikeCapture_agrees
  refine ⟨tree, ?_, ?_, ?_⟩
  · exact haccepted tree _ _ (outcome_loadCapture_eq_ok_iff.mpr ⟨data, hgood, hdecode⟩)
  · obtain ⟨accepted, hprobe, hrejected⟩ := hdecided tree _ _ hshort
    rw [looksLikeCapture_of_read hshort, Except.ok.injEq] at hprobe
    exact hrejected.mp (hprobe ▸ by decide)
  · exact hreported tree _ _ _ hother rfl (looksLikeCapture_of_read hother)

end FileTree

end SwitchTrace

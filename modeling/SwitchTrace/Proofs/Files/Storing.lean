import SwitchTrace.Files.Captures
import SwitchTrace.Proofs.Capture.Given
import SwitchTrace.Proofs.Files.Writing

/-!
# Storing a capture in a file

A file that is opened to be written is emptied before it is filled. A fault between the two would
leave it empty. There is none: the bytes of the capture are made before, and a path that a file can
be opened at can be written to. So a capture that is not stored leaves all files as they were, and a
capture that is stored is the whole content of its file.

## Main definitions

* `FileTree.storeInSteps` — the same storing, with what the files are after a fault.

## Main results

* `FileTree.write_of_write`, `FileTree.write_eq_error_iff` — a file written twice, and faults.
* `FileTree.storeGiven_eq_ok_iff`, `FileTree.storeGiven_eq_error_iff` — the outcomes of storing.
* `FileTree.storeInSteps_of_eq_error` — no step after the first change of a file can fail.
* `FileTree.stores_whole_or_nothing` — when a capture is stored, and what the files are then.
-/

namespace SwitchTrace.FileTree

variable {t t' : FileTree} {path : Path} {place : Place} {data : Bytes} {c : Capture}

/-! ### Files that are written twice -/

theorem putEntry_putEntry (place : Place) (e e' : Entry) (l : List (Place × Entry)) :
    putEntry place e' (putEntry place e l) = putEntry place e' l := by
  induction l with
  | nil => simp [putEntry]
  | cons entry rest ih =>
    obtain ⟨p, old⟩ := entry
    by_cases h : place = p
    · simp [putEntry, h]
    · simp [putEntry, h, ih]

/-- Of two entries that are put at one place the last one stays. -/
theorem put_put (t : FileTree) (place : Place) (e e' : Entry) :
    (t.put place e).put place e' = t.put place e' := by
  rw [put, put, put, putEntry_putEntry]

/-- **Writing over what was just written** is writing it at once. -/
theorem write_of_write (h : t.write path data = .ok t') (data' : Bytes) :
    t'.write path data' = t.write path data' := by
  obtain ⟨place, hlocate, hcontent, rfl⟩ := write_eq_ok_iff.mp h
  have hroot : place ≠ [] := by
    rintro rfl
    exact hcontent rfl
  have hfile : (t.put place (.file data)).content? place ≠ some .directory := by
    rw [content?_put t _ hroot]
    exact nofun
  rw [write_eq_ok_iff.mpr ⟨place, hlocate, hcontent, rfl⟩,
    write_eq_ok_iff.mpr ⟨place, locate_put hlocate hcontent, hfile, rfl⟩, put_put]

/-- A file is not written because its path leads nowhere or to a directory, whatever the data
are. -/
theorem write_eq_error_iff {fault : FileFault} : t.write path data = .error fault ↔
    t.locate path = .error fault ∨ ∃ place, t.locate path = .ok place ∧
      t.content? place = some .directory ∧ fault = .isDirectory := by
  simp only [write, bind_eq_error_iff]
  refine or_congr_right (exists_congr fun place => and_congr_right fun _ => ?_)
  split
  · next hdirectory => simp [hdirectory, eq_comm]
  · next hother =>
    have hne : t.content? place ≠ some .directory := hother
    simp [pure_eq_error_iff, hne]

/-! ### Storing step by step -/

/-- The bytes of the capture are written if there are any. -/
theorem storeCapture_eq_elim (t : FileTree) (path : Path) (c : Capture) : t.storeCapture path c =
    c.encode?.elim (.error .notEncodable) fun data =>
      (t.write path data).mapError (.writing path) := by
  -- The bytes are made opaque first. With them in view, a match on them is evaluated down to the
  -- bounds of the fields, which are too large to count to.
  have hstore : storeCapture = fun t path c => c.encode?.elim (.error .notEncodable)
      fun data => (t.write path data).mapError (.writing path) := by
    delta storeCapture
    generalize Capture.encode? = encode?
    funext t path c
    cases encode? c <;> rfl
  rw [hstore]

theorem storeCapture_eq_ok_iff : t.storeCapture path c = .ok t' ↔
    ∃ data, c.encode? = some data ∧ t.write path data = .ok t' := by
  rw [storeCapture_eq_elim]
  cases c.encode? with
  | none => simp
  | some data => simp [mapError_eq_ok_iff]

variable {given : GivenCapture}

/-- A given capture is not stored because it has no bytes, or because they cannot be written. -/
theorem storeGiven_eq_error_iff {fault : CaptureFault} :
    t.storeGiven path given = .error fault ↔
      (∃ e, given.encode = .error e ∧ fault = .ofEncodeFault e) ∨ ∃ data failure,
        given.encode = .ok data ∧ t.write path data = .error failure ∧
          fault = .writing path failure := by
  simp only [storeGiven, bind_eq_error_iff, mapError_eq_error_iff, mapError_eq_ok_iff,
    exists_and_left]

theorem storeGiven_eq_ok_iff : t.storeGiven path given = .ok t' ↔
    ∃ data, given.encode = .ok data ∧ t.write path data = .ok t' := by
  simp only [storeGiven, bind_eq_ok_iff, mapError_eq_ok_iff]

/-- Storing a capture whose names are texts is storing it as it is given. -/
theorem storeGiven_ofCapture (t : FileTree) (path : Path) (c : Capture) :
    t.storeGiven path (.ofCapture c) = t.storeCapture path c := by
  rw [storeGiven, GivenCapture.encode_ofCapture, storeCapture_eq_elim]
  cases c.encode? <;> rfl

/-- The files that writing what was made of a capture leaves, and the fault if there is one. The
file is opened, which empties it, and then the bytes are written into it. -/
def writeInSteps (t : FileTree) (path : Path) :
    Except EncodeFault Bytes → FileTree × Option CaptureFault
  | .error fault => (t, some (.ofEncodeFault fault))
  | .ok data =>
    match t.write path [] with
    | .error failure => (t, some (.writing path failure))
    | .ok opened =>
      match opened.write path data with
      | .error failure => (opened, some (.writing path failure))
      | .ok stored => (stored, none)

/-- The files that storing a given capture leaves, and the fault if there is one. The bytes are made
before the file is opened; a fault leaves the files as the steps before it have made them. -/
def storeInSteps (t : FileTree) (path : Path) (c : GivenCapture) :
    FileTree × Option CaptureFault := t.writeInSteps path c.encode

/-- **A fault comes before the first change of a file**: the files are left as they were. -/
theorem storeInSteps_of_eq_error {fault : CaptureFault}
    (h : t.storeGiven path given = .error fault) :
    t.storeInSteps path given = (t, some fault) := by
  obtain ⟨e, hbytes, rfl⟩ | ⟨data, failure, hbytes, hwrite, rfl⟩ := storeGiven_eq_error_iff.mp h
  · rw [storeInSteps, hbytes, writeInSteps]
  · have hopen : t.write path [] = .error failure :=
      write_eq_error_iff.mpr (write_eq_error_iff.mp hwrite)
    rw [storeInSteps, hbytes, writeInSteps, hopen]

/-- The file that is opened and filled is the file that is written at once. -/
theorem storeInSteps_of_eq_ok (h : t.storeGiven path given = .ok t') :
    t.storeInSteps path given = (t', none) := by
  obtain ⟨data, hbytes, hwrite⟩ := storeGiven_eq_ok_iff.mp h
  obtain ⟨opened, hopen⟩ : ∃ opened, t.write path [] = .ok opened :=
    exists_write_iff.mpr (exists_write_iff.mp ⟨t', hwrite⟩)
  rw [storeInSteps, hbytes, writeInSteps, hopen]
  simp only [write_of_write hopen, hwrite]

/-- **A capture is stored as a whole or not at all.** A number or a count that does not fit keeps it
from having bytes, unless a surrogate in a name does so before; without surrogates it fails at a
number just if it overflows. It has bytes just if neither is there, and their number depends on the
numbers of its elements. A capture that is not stored, because it has no bytes or because its file
cannot be written, leaves all files as they were. A capture that is stored is all that its file
holds, and nothing else has changed. -/
theorem stores_whole_or_nothing (t : FileTree) (path : Path) (c : GivenCapture) :
    (c.encode = .error .outOfRange ↔
        c.unnamed.Overflows ∧ ∀ name, ¬ c.MeetsSurrogate name) ∧
      (∀ name, c.encode = .error (.surrogate name) ↔ c.MeetsSurrogate name) ∧
      (¬ c.HasSurrogate → (c.encode = .error .outOfRange ↔ c.unnamed.Overflows)) ∧
      ((∃ bs, c.encode = .ok bs) ↔ ¬ c.HasSurrogate ∧ ¬ c.unnamed.Overflows) ∧
      (∀ bs, c.encode = .ok bs → bs.length =
        16 + 288 * c.tracks.length + (c.tracks.map fun t => 8 + 24 * t.records.length).sum) ∧
      ((∃ fault, t.storeGiven path c = .error fault ∧
          t.storeInSteps path c = (t, some fault) ∧
          ((∃ e, c.encode = .error e ∧ fault = .ofEncodeFault e) ∨
            (∃ failure, fault = .writing path failure) ∧ (∃ bs, c.encode = .ok bs) ∧
              ¬ t.IsWritable path)) ∨
        ∃ bs t', c.encode = .ok bs ∧ t.storeGiven path c = .ok t' ∧
          t.storeInSteps path c = (t', none) ∧ t'.read path = .ok bs ∧
          t'.working = t.working ∧
          ∀ place, t.locate path ≠ .ok place → t'.content? place = t.content? place) := by
  refine ⟨GivenCapture.encode_eq_outOfRange_iff, fun _ => GivenCapture.encode_eq_surrogate_iff,
    fun hname => ?_, GivenCapture.exists_encode_iff, fun _ => GivenCapture.length_of_encode, ?_⟩
  · rw [GivenCapture.encode_eq_outOfRange_iff]
    exact and_iff_left fun _ h => hname h.hasSurrogate
  cases hstore : t.storeGiven path c with
  | error fault =>
    refine .inl ⟨fault, rfl, storeInSteps_of_eq_error hstore, ?_⟩
    obtain hbytes | ⟨data, failure, hbytes, hwrite, hfault⟩ := storeGiven_eq_error_iff.mp hstore
    · exact .inl hbytes
    · have hblocked : ¬ t.IsWritable path := by
        rw [← exists_write_iff, hwrite]
        exact nofun
      exact .inr ⟨⟨failure, hfault⟩, ⟨data, hbytes⟩, hblocked⟩
  | ok t' =>
    obtain ⟨bs, hbytes, hwrite⟩ := storeGiven_eq_ok_iff.mp hstore
    exact .inr ⟨bs, t', hbytes, rfl, storeInSteps_of_eq_ok hstore, read_of_write hwrite,
      working_of_write hwrite, fun _ => content?_of_write hwrite⟩

/-- One file, of one byte. -/
def oneFile : FileTree := ⟨[(["old"], .file [0x2A])], []⟩

/-- A capture whose last handle is negative is not stored over the file, and a capture that fits is
stored beside it. -/
theorem stores_whole_or_nothing_oneFile :
    (∃ c : GivenCapture, c.encode = .error .outOfRange ∧
        oneFile.storeInSteps ⟨"", ["old"]⟩ c = (oneFile, some .notEncodable)) ∧
      ∃ bs t', (GivenCapture.ofCapture (.single "GPU")).encode = .ok bs ∧ bs.length = 336 ∧
        oneFile.storeGiven ⟨"", ["new"]⟩ (.ofCapture (.single "GPU")) = .ok t' ∧
        t'.read ⟨"", ["new"]⟩ = .ok bs ∧ t'.content? ["old"] = some (.file [0x2A]) := by
  constructor
  · let c : Capture := ⟨[⟨⟨.zero, "GPU", 0, 0, 0, 0, 0⟩, [⟨0, 0, 0, 0, 0⟩, ⟨0, 0, 0, 0, -1⟩]⟩]⟩
    have hoverflows : c.Overflows :=
      .handle (List.mem_singleton_self _) (List.mem_cons_of_mem _ (List.mem_singleton_self _))
        (by decide)
    rw [← GivenCapture.overflows_unnamed_ofCapture] at hoverflows
    obtain ⟨-, -, hfails, hwrites, -, ⟨fault, -, hsteps, ⟨e, he, rfl⟩ | ⟨-, hbytes, -⟩⟩ |
        ⟨bs, t', hbytes, -⟩⟩ := stores_whole_or_nothing oneFile ⟨"", ["old"]⟩ (.ofCapture c)
    · have herror := (hfails (GivenCapture.not_hasSurrogate_ofCapture c)).mpr hoverflows
      obtain rfl : e = .outOfRange := Except.error.inj (he.symm.trans herror)
      exact ⟨.ofCapture c, he, hsteps⟩
    · exact absurd hoverflows (hwrites.mp hbytes).2
    · exact absurd hoverflows (hwrites.mp ⟨bs, hbytes⟩).2
  · have hfits : ¬ (GivenCapture.ofCapture (.single "GPU")).unnamed.Overflows := by
      rw [GivenCapture.overflows_unnamed_ofCapture, Capture.overflows_iff, not_not]
      decide
    have hlocate : oneFile.locate ⟨"", ["new"]⟩ = .ok ["new"] := rfl
    have hwritable : oneFile.IsWritable ⟨"", ["new"]⟩ := ⟨["new"], hlocate, by decide⟩
    obtain ⟨-, -, -, hwrites, hlength, ⟨fault, -, -, ⟨e, he, -⟩ | ⟨-, -, h⟩⟩ |
        ⟨bs, t', hbytes, hstore, -, hread, -, hothers⟩⟩ :=
      stores_whole_or_nothing oneFile ⟨"", ["new"]⟩ (.ofCapture (.single "GPU"))
    · obtain ⟨bs, hbytes⟩ :=
        hwrites.mpr ⟨GivenCapture.not_hasSurrogate_ofCapture _, hfits⟩
      rw [he] at hbytes
      cases hbytes
    · exact absurd hwritable h
    · refine ⟨bs, t', hbytes, hlength bs hbytes, hstore, hread, hothers ["old"] ?_⟩
      rw [hlocate]
      decide

/-- A device without records whose name is one surrogate. -/
def loneSurrogate : GivenCapture := ⟨[⟨⟨.zero, ⟨[.firstSurrogate]⟩, 0, 0, 0, 0, 0⟩, []⟩]⟩

/-- All numbers of this capture fit. It has no bytes all the same, and no number that overflows is
the reason. -/
theorem not_encode_loneSurrogate :
    ¬ loneSurrogate.unnamed.Overflows ∧ loneSurrogate.encode ≠ .error .outOfRange ∧
      ∀ bs, loneSurrogate.encode ≠ .ok bs := by
  have hmeets : loneSurrogate.MeetsSurrogate ⟨[.firstSurrogate]⟩ :=
    ⟨by decide, [], _, [], rfl, nofun, by decide, rfl⟩
  have hencode := GivenCapture.encode_eq_surrogate_iff.mpr hmeets
  refine ⟨?_, ?_, fun bs => ?_⟩
  · rw [Capture.overflows_iff, not_not]
    decide
  · rw [hencode]
    exact nofun
  · rw [hencode]
    exact nofun

end SwitchTrace.FileTree

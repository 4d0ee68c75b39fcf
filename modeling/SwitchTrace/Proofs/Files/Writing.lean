import SwitchTrace.Files.Tree
import SwitchTrace.Proofs.Steps

/-!
# Writing a file

A file can be written where a path leads and where there is no directory. Only directories are on
the way to a place, so that a file that is written is in the way of no path: the path still leads to
its place, and reading it gives the data. No other place changes.

## Main definitions

* `FileTree.IsWritable` — a file can be written at a path.

## Main results

* `FileTree.walk_put`, `FileTree.locate_put` — paths that lead somewhere still lead there.
* `FileTree.exists_write_iff` — when a file can be written.
* `FileTree.read_of_write`, `FileTree.content?_of_write` — the tree with the file.
-/

namespace SwitchTrace.FileTree

variable {t t' : FileTree} {path : Path} {place target : Place} {entry : Entry} {data : Bytes}

/-! ### Paths -/

/-- A way through directories does not meet a place at which there is none. -/
theorem walk_put {names : List String} (h : t.walk place names = .ok target) {p : Place}
    (hp : t.content? p ≠ some .directory) : (t.put p entry).walk place names = .ok target := by
  induction names generalizing place with
  | nil => exact h
  | cons name rest ih =>
    cases hcontent : t.content? place with
    | none => simp [walk, hcontent] at h
    | some here =>
      cases here with
      | file data => simp [walk, hcontent] at h
      | directory =>
        have hne : place ≠ p := by
          rintro rfl
          exact hp hcontent
        simp only [walk, hcontent] at h
        simp only [walk, content?_put_of_ne t entry hne, hcontent]
        split at h
        · next hup =>
          rw [if_pos hup]
          exact ih h
        · next hup =>
          rw [if_neg hup]
          split at h
          · cases h
          · next hlong =>
            rw [if_neg hlong]
            exact ih h

/-- A path that leads to a place still leads there. -/
theorem locate_put (h : t.locate path = .ok target) {p : Place}
    (hp : t.content? p ≠ some .directory) : (t.put p entry).locate path = .ok target := by
  unfold locate at h ⊢
  split at h
  · cases h
  · next hnul =>
    rw [if_neg hnul]
    split at h
    · cases h
    · next hlong =>
      rw [if_neg hlong]
      exact walk_put h hp

/-! ### Files -/

/-- A file can be written at the path: the path leads to a place, and no directory is there. -/
def IsWritable (t : FileTree) (path : Path) : Prop :=
  ∃ place, t.locate path = .ok place ∧ t.content? place ≠ some .directory

/-- What is written is put at the place to which the path leads. -/
theorem write_eq_ok_iff : t.write path data = .ok t' ↔
    ∃ place, t.locate path = .ok place ∧ t.content? place ≠ some .directory ∧
      t' = t.put place (.file data) := by
  simp only [write, bind_eq_ok_iff]
  refine exists_congr fun place => and_congr_right fun _ => ?_
  split
  · next hdirectory => simp [hdirectory]
  · next hother =>
    have hne : t.content? place ≠ some .directory := hother
    simp [pure_eq_ok_iff, hne]

/-- Whether a file can be written does not depend on the data. -/
theorem exists_write_iff : (∃ t', t.write path data = .ok t') ↔ t.IsWritable path := by
  simp only [write_eq_ok_iff, IsWritable]
  constructor
  · rintro ⟨_, place, hlocate, hcontent, -⟩
    exact ⟨place, hlocate, hcontent⟩
  · rintro ⟨place, hlocate, hcontent⟩
    exact ⟨_, place, hlocate, hcontent, rfl⟩

/-- **A file that was written is read back.** -/
theorem read_of_write (h : t.write path data = .ok t') : t'.read path = .ok data := by
  obtain ⟨place, hlocate, hcontent, rfl⟩ := write_eq_ok_iff.mp h
  have hroot : place ≠ [] := by
    rintro rfl
    exact hcontent rfl
  unfold read find
  rw [locate_put hlocate hcontent]
  dsimp only [bind, Except.bind]
  rw [content?_put t _ hroot]
  rfl

/-- **Writing a file changes no other place.** -/
theorem content?_of_write (h : t.write path data = .ok t') {other : Place}
    (hother : t.locate path ≠ .ok other) : t'.content? other = t.content? other := by
  obtain ⟨place, hlocate, -, rfl⟩ := write_eq_ok_iff.mp h
  refine content?_put_of_ne t _ ?_
  rintro rfl
  exact hother hlocate

/-- Paths start from the same directory as before. -/
theorem working_of_write (h : t.write path data = .ok t') : t'.working = t.working := by
  obtain ⟨place, -, -, rfl⟩ := write_eq_ok_iff.mp h
  rfl

end SwitchTrace.FileTree

import Mathlib.Data.List.Induction
import Mathlib.Data.List.Nodup
import SwitchTrace.Timeline.Pool

/-!
# Pools only grow

Putting a string into a pool changes it in one way only: a string that is not there comes to the
end. A handle that a pool has given therefore keeps its string, and a string its handle, in every
pool that it may become. The strings of a pool are those that were put into it, in the order in
which they came first.

## Main definitions

* `StringPool.Grows` — a pool and one that it may become.

## Main results

* `StringPool.nodup_strings` — no string is there twice.
* `StringPool.Grows.lookup?_eq`, `StringPool.Grows.intern_eq` — handles are kept.
* `StringPool.strings_internAll_empty` — the strings of a pool in the order of their first use.
-/

namespace SwitchTrace.StringPool

variable {p q : StringPool} {s : String} {handle : Nat}

/-! ### One string -/

/-- No string is in a pool twice: the table has one handle for it. -/
theorem nodup_strings (p : StringPool) : p.strings.Nodup := by
  rw [List.nodup_iff_getElem?_ne_getElem?]
  intro i j hij hj heq
  have hlookup (k : Nat) (hk : p.strings[k]? = some p.strings[j]) :
      p.handles.lookup p.strings[j] = some k := (p.lookup_eq_some_iff _ k).mpr hk
  have hend : p.strings[j]? = some p.strings[j] := List.getElem?_eq_getElem hj
  have h := (hlookup i (heq.trans hend)).symm.trans (hlookup j hend)
  exact Nat.ne_of_lt hij (Option.some.inj h)

theorem exists_lookup_eq_some_iff : (∃ n, p.handles.lookup s = some n) ↔ s ∈ p.strings := by
  simp only [p.lookup_eq_some_iff, List.mem_iff_getElem?]

/-- The table and the list contain the same strings. -/
theorem contains_iff_mem : p.contains s = true ↔ s ∈ p.strings := by
  rw [contains, Option.isSome_iff_exists, exists_lookup_eq_some_iff]

/-- A string that is there keeps its handle, and the pool stays as it is. -/
theorem intern_of_lookup (h : p.handles.lookup s = some handle) : p.intern s = (handle, p) := by
  unfold intern
  split
  · next h' =>
    rw [h, Option.some.injEq] at h'
    rw [h']
  · next h' =>
    rw [h] at h'
    cases h'

/-- A string that is not there comes to the end of the pool. -/
theorem intern_of_lookup_eq_none (h : p.handles.lookup s = none) :
    p.intern s = (p.size, p.push s h) := by
  unfold intern
  split
  · next h' =>
    rw [h] at h'
    cases h'
  · rfl

theorem strings_intern (p : StringPool) (s : String) :
    (p.intern s).2.strings = if s ∈ p.strings then p.strings else p.strings ++ [s] := by
  cases h : p.handles.lookup s with
  | some n => rw [intern_of_lookup h, if_pos (exists_lookup_eq_some_iff.mp ⟨n, h⟩)]
  | none =>
    have hs : s ∉ p.strings := fun hs => by
      obtain ⟨n, hn⟩ := exists_lookup_eq_some_iff.mpr hs
      rw [h] at hn
      cases hn
    rw [intern_of_lookup_eq_none h, if_neg hs, push]

/-- The handle of a string that was put into a pool is its place. -/
theorem getElem?_strings_intern (p : StringPool) (s : String) :
    (p.intern s).2.strings[(p.intern s).1]? = some s := by
  cases h : p.handles.lookup s with
  | some n =>
    rw [intern_of_lookup h]
    exact (p.lookup_eq_some_iff s n).mp h
  | none =>
    rw [intern_of_lookup_eq_none h]
    exact List.getElem?_concat_length

theorem lookup?_natCast (p : StringPool) (handle : Nat) :
    p.lookup? handle = p.strings[handle]? := by
  have hnonneg : ¬ (handle : Int) < 0 := Int.not_lt.mpr (Int.natCast_nonneg handle)
  simp only [lookup?, hnonneg, ↓reduceIte, Int.toNat_natCast]

/-- A handle that a pool gives leads back to its string. -/
theorem lookup?_intern (p : StringPool) (s : String) :
    (p.intern s).2.lookup? (p.intern s).1 = some s := by
  rw [lookup?_natCast, getElem?_strings_intern]

/-! ### Growth -/

/-- The pool may become the other one: its strings are the first of the other one. -/
def Grows (p q : StringPool) : Prop := p.strings <+: q.strings

theorem Grows.refl (p : StringPool) : p.Grows p := List.prefix_refl p.strings

theorem Grows.trans {r : StringPool} (h : p.Grows q) (h' : q.Grows r) : p.Grows r :=
  List.IsPrefix.trans h h'

theorem grows_intern (p : StringPool) (s : String) : p.Grows (p.intern s).2 := by
  rw [Grows, strings_intern]
  split
  · exact List.prefix_refl p.strings
  · exact List.prefix_append p.strings [s]

/-- A handle keeps its string while the pool grows. -/
theorem Grows.getElem?_eq (h : p.Grows q) (hs : p.strings[handle]? = some s) :
    q.strings[handle]? = some s := by
  obtain ⟨hlt, hget⟩ := List.getElem?_eq_some_iff.mp hs
  rw [← hget]
  exact List.prefix_iff_getElem?.mp h handle hlt

theorem Grows.lookup?_eq (h : p.Grows q) (hs : p.lookup? handle = some s) :
    q.lookup? handle = some s := by
  rw [lookup?_natCast] at hs ⊢
  exact h.getElem?_eq hs

/-- **A string keeps its handle while the pool grows.** -/
theorem Grows.intern_eq (h : (p.intern s).2.Grows q) : q.intern s = ((p.intern s).1, q) := by
  refine intern_of_lookup ((q.lookup_eq_some_iff s _).mpr ?_)
  exact h.getElem?_eq (getElem?_strings_intern p s)

/-! ### Many strings -/

@[simp] theorem internAll_nil (p : StringPool) : p.internAll [] = p := rfl

@[simp] theorem internAll_cons (p : StringPool) (s : String) (l : List String) :
    p.internAll (s :: l) = (p.intern s).2.internAll l := rfl

theorem internAll_append (p : StringPool) (l l' : List String) :
    p.internAll (l ++ l') = (p.internAll l).internAll l' := List.foldl_append

theorem grows_internAll (p : StringPool) (l : List String) : p.Grows (p.internAll l) := by
  induction l generalizing p with
  | nil => exact .refl p
  | cons s l ih => exact (p.grows_intern s).trans (ih _)

/-- **The strings of a pool are those that were put into it**, in the order of their first use. -/
theorem strings_internAll_empty (l : List String) :
    (empty.internAll l).strings = l.eraseDups := by
  induction l using List.reverseRecOn with
  | nil => rfl
  | append_singleton l s ih =>
    rw [internAll_append, internAll_cons, internAll_nil, strings_intern, ih, List.eraseDups_append]
    by_cases hs : s ∈ l
    · simp [hs, List.removeAll]
    · simp [hs, List.removeAll, List.eraseDups_cons]

end SwitchTrace.StringPool

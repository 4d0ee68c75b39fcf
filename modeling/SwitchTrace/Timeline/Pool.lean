/-!
# Interned strings

A pool keeps the distinct strings that were put into it, in the order in which they came first, and
a table of their handles. The handle of a string is its place in the list. That the table and the
list say the same is part of the type, so that every string has one handle and every handle one
string.

## Main definitions

* `StringPool.intern` — the handle of a string, which is put into the pool if it is not there.
* `StringPool.lookup?` — the string with a handle.

## Main results

* `StringPool.lookup_push_eq_some_iff` — a string that is put at the end is found there.
-/

namespace SwitchTrace

/-- A pool of strings. -/
structure StringPool where
  strings : List String
  /-- The handle of every string. -/
  handles : List (String × Nat)
  /-- The handles are the places of the strings. -/
  lookup_eq_some_iff : ∀ s handle, handles.lookup s = some handle ↔ strings[handle]? = some s
deriving DecidableEq, Repr

namespace StringPool

/-- The pool without strings. -/
def empty : StringPool := ⟨[], [], by simp⟩

instance : Inhabited StringPool := ⟨empty⟩

/-- The number of strings. -/
def size (p : StringPool) : Nat := p.strings.length

/-- The string is in the pool. -/
def contains (p : StringPool) (s : String) : Bool := (p.handles.lookup s).isSome

/-- What stands at a place after one more item was put at the end. -/
theorem getElem?_concat_eq_some_iff {α : Type} (items : List α) (a b : α) (place : Nat) :
    (items ++ [a])[place]? = some b ↔ items[place]? = some b ∨ place = items.length ∧ a = b := by
  rcases Nat.lt_trichotomy place items.length with hlt | rfl | hgt
  · rw [List.getElem?_append_left hlt]
    simp [Nat.ne_of_lt hlt]
  · simp
  · have hout : (items ++ [a]).length ≤ place := by rwa [List.length_append]
    rw [List.getElem?_eq_none hout, List.getElem?_eq_none (Nat.le_of_lt hgt)]
    simp [Nat.ne_of_gt hgt]

/-- A new string that is put at the end of both is found there, and all others where they were. -/
theorem lookup_push_eq_some_iff (p : StringPool) {s : String} (hs : p.handles.lookup s = none)
    (t : String) (handle : Nat) :
    (p.handles ++ [(s, p.size)]).lookup t = some handle ↔
      (p.strings ++ [s])[handle]? = some t := by
  rw [List.lookup_append, getElem?_concat_eq_some_iff, ← p.lookup_eq_some_iff]
  by_cases ht : t = s
  · subst ht
    simp [hs, size, eq_comm]
  · have hother : [(s, p.size)].lookup t = none := by simp [ht]
    simp [hother, Ne.symm ht]

/-- The pool with one more string. -/
def push (p : StringPool) (s : String) (h : p.handles.lookup s = none) : StringPool where
  strings := p.strings ++ [s]
  handles := p.handles ++ [(s, p.size)]
  lookup_eq_some_iff := p.lookup_push_eq_some_iff h

/-- The handle of a string, and the pool with that string. -/
def intern (p : StringPool) (s : String) : Nat × StringPool :=
  match h : p.handles.lookup s with
  | some handle => (handle, p)
  | none => (p.size, p.push s h)

/-- The pool with all strings of a list. -/
def internAll (p : StringPool) (strings : List String) : StringPool :=
  strings.foldl (fun p s => (p.intern s).2) p

/-- The string with a handle. A negative handle counts from the end. -/
def lookup? (p : StringPool) (handle : Int) : Option String :=
  let place := if handle < 0 then handle + p.size else handle
  if place < 0 then none else p.strings[place.toNat]?

end StringPool

end SwitchTrace

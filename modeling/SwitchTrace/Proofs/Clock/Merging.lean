import Mathlib.Data.List.Basic
import Mathlib.Logic.ExistsUnique
import SwitchTrace.Clock.Device

/-!
# One map for several captures

The map of several captures of one device goes through the readings at their earliest start and at
their latest end, by the clock of the device. Of captures that tie the first one counts. Each of the
two is therefore one descriptor of the list, and the two clocks of a sync point are read from the
same one.

Which descriptor is first depends on the order of the list, but the readings that it ties with do
not. A map then depends on the order only where captures that tie at the device disagree about the
processor.

## Main definitions

* `IsFirstLeast` — the first of the elements of a list whose key is least.
* `TiesAgree` — all elements whose key is least have one value.

## Main results

* `isFirstLeast_earliestStart`, `isFirstLeast_latestEnd` — the two descriptors of a merged map.
* `IsFirstLeast.eq` — no other element is the first of the least ones.
* `ClockMap.merged_laws` — the map, and what it does not depend on.
-/

namespace SwitchTrace

/-! ### First of the least -/

section FirstLeast

variable {α : Type} {key : α → Int} {as : List α} {a b c : α}

/-- The element has the least key in the list, and none before it has the same. -/
def IsFirstLeast (key : α → Int) (as : List α) (a : α) : Prop :=
  ∃ before after, as = before ++ a :: after ∧ (∀ b ∈ before, key a < key b) ∧
    ∀ b ∈ after, key a ≤ key b

/-- All elements whose key is least have one value. -/
def TiesAgree (key value : α → Int) (as : List α) : Prop :=
  ∀ a ∈ as, ∀ b ∈ as, (∀ c ∈ as, key a ≤ key c) → (∀ c ∈ as, key b ≤ key c) → value a = value b

instance (key value : α → Int) (as : List α) : Decidable (TiesAgree key value as) := by
  unfold TiesAgree
  infer_instance

namespace IsFirstLeast

theorem mem (h : IsFirstLeast key as a) : a ∈ as := by
  obtain ⟨before, after, rfl, -, -⟩ := h
  exact List.mem_append_right before List.mem_cons_self

theorem le (h : IsFirstLeast key as a) : ∀ b ∈ as, key a ≤ key b := by
  obtain ⟨before, after, rfl, hbefore, hafter⟩ := h
  intro b hb
  rcases List.mem_append.mp hb with hb | hb
  · exact Int.le_of_lt (hbefore b hb)
  · rcases List.mem_cons.mp hb with rfl | hb
    · exact Int.le_refl _
    · exact hafter b hb

theorem singleton (key : α → Int) (a : α) : IsFirstLeast key [a] a :=
  ⟨[], [], rfl, List.forall_mem_nil _, List.forall_mem_nil _⟩

/-- Two elements at the two ends of a part of a list are one if the part has nothing before its end
that is not above it. -/
theorem eq_of_append {between after after' : List α} (h : a :: after = between ++ b :: after')
    (hle : key a ≤ key b) (hbetween : ∀ c ∈ between, key b < key c) : a = b := by
  cases between with
  | nil => exact (List.cons.inj h).1
  | cons c between =>
    obtain ⟨rfl, -⟩ := List.cons.inj h
    exact absurd (hbetween a List.mem_cons_self) (Int.not_lt.mpr hle)

/-- **No other element is the first of the least ones**, as neither of two stands before the
other. -/
theorem eq (ha : IsFirstLeast key as a) (hb : IsFirstLeast key as b) : a = b := by
  have hab := ha.le b hb.mem
  have hba := hb.le a ha.mem
  obtain ⟨before, after, hsplit, hbefore, -⟩ := ha
  obtain ⟨before', after', hsplit', hbefore', -⟩ := hb
  rw [hsplit] at hsplit'
  rcases List.append_eq_append_iff.mp hsplit' with ⟨between, rfl, h⟩ | ⟨between, rfl, h⟩
  · exact eq_of_append h hab fun c hc => hbefore' c (List.mem_append_right before hc)
  · exact (eq_of_append h hba fun c hc => hbefore c (List.mem_append_right before' hc)).symm

/-- Of the first two elements, the one that is kept stands for both: the second one is kept only if
its key is less. -/
theorem of_keep (hkeep : c = b ∧ key b < key a ∨ c = a ∧ key a ≤ key b) {first : α}
    (h : IsFirstLeast key (c :: as) first) : IsFirstLeast key (a :: b :: as) first := by
  obtain ⟨before, after, hsplit, hbefore, hafter⟩ := h
  cases before with
  | nil =>
    obtain ⟨rfl, rfl⟩ := List.cons.inj hsplit
    rcases hkeep with ⟨rfl, hlt⟩ | ⟨rfl, hle⟩
    · exact ⟨[a], as, rfl, List.forall_mem_singleton.mpr hlt, hafter⟩
    · exact ⟨[], b :: as, rfl, List.forall_mem_nil _, List.forall_mem_cons.mpr ⟨hle, hafter⟩⟩
  | cons c' before =>
    obtain ⟨rfl, rfl⟩ := List.cons.inj hsplit
    obtain ⟨hkept, hbefore⟩ := List.forall_mem_cons.mp hbefore
    have hboth : key first < key a ∧ key first < key b := by
      rcases hkeep with ⟨rfl, hlt⟩ | ⟨rfl, hle⟩ <;> omega
    exact ⟨a :: b :: before, after, rfl,
      List.forall_mem_cons.mpr ⟨hboth.1, List.forall_mem_cons.mpr ⟨hboth.2, hbefore⟩⟩, hafter⟩

/-- An element at the end whose key is not less than all others changes nothing. -/
theorem concat (h : IsFirstLeast key as a) (hb : ∃ c ∈ as, key c ≤ key b) :
    IsFirstLeast key (as ++ [b]) a := by
  obtain ⟨c, hc, hcb⟩ := hb
  have hac := h.le c hc
  obtain ⟨before, after, rfl, hbefore, hafter⟩ := h
  refine ⟨before, after ++ [b], List.append_assoc _ _ _, hbefore, fun x hx => ?_⟩
  rcases List.mem_append.mp hx with hx | hx
  · exact hafter x hx
  · rw [List.mem_singleton.mp hx]
    exact Int.le_trans hac hcb

/-- In another order another element may be first, but with the same key, and with the same value if
the ties agree. -/
theorem perm {bs : List α} {value : α → Int} (ha : IsFirstLeast key as a)
    (hb : IsFirstLeast key bs b) (hperm : bs.Perm as) (hties : TiesAgree key value as) :
    key b = key a ∧ value b = value a := by
  have hmem : b ∈ as := hperm.mem_iff.mp hb.mem
  have hle : ∀ c ∈ as, key b ≤ key c := fun c hc => hb.le c (hperm.mem_iff.mpr hc)
  exact ⟨Int.le_antisymm (hle a ha.mem) (ha.le b hmem), hties b hmem a ha.mem hle ha.le⟩

end IsFirstLeast

end FirstLeast

/-! ### Starts and ends -/

theorem isFirstLeast_earliestStart (d : Device) (ds : List Device) :
    IsFirstLeast Device.gpuStart (d :: ds) (earliestStart d ds) := by
  induction ds generalizing d with
  | nil => exact .singleton _ d
  | cons e ds ih =>
    refine .of_keep ?_ (ih _)
    split
    · next hlt => exact .inl ⟨rfl, hlt⟩
    · next hge => exact .inr ⟨rfl, Int.not_lt.mp hge⟩

/-- The latest end is the one whose opposite is least. -/
theorem isFirstLeast_latestEnd (d : Device) (ds : List Device) :
    IsFirstLeast (fun d => -d.gpuEnd) (d :: ds) (latestEnd d ds) := by
  induction ds generalizing d with
  | nil => exact .singleton _ d
  | cons e ds ih =>
    refine .of_keep ?_ (ih _)
    split
    · next hlt => exact .inl ⟨rfl, Int.neg_lt_neg hlt⟩
    · next hge => exact .inr ⟨rfl, Int.neg_le_neg (Int.not_lt.mp hge)⟩

/-! ### Maps -/

namespace ClockMap

variable {ds : List Device}

/-- The map of several captures is that of the window from the first earliest start to the first
latest end. -/
theorem merged_of_isFirstLeast {first last : Device}
    (hfirst : IsFirstLeast Device.gpuStart ds first)
    (hlast : IsFirstLeast (fun d => -d.gpuEnd) ds last) : merged ds =
      (ofWindow first.gpuStart last.gpuEnd first.cpuStart last.cpuEnd).mapError .arithmetic := by
  cases ds with
  | nil => cases hfirst.mem
  | cons d ds =>
    rw [hfirst.eq (isFirstLeast_earliestStart d ds), hlast.eq (isFirstLeast_latestEnd d ds)]
    rfl

/-- The two descriptors of a merged map are there, and they are the only ones. -/
theorem existsUnique_isFirstLeast (hne : ds ≠ []) :
    (∃! first, IsFirstLeast Device.gpuStart ds first) ∧
      ∃! last, IsFirstLeast (fun d => -d.gpuEnd) ds last := by
  obtain ⟨d, ds, rfl⟩ := List.exists_cons_of_ne_nil hne
  have hfirst := isFirstLeast_earliestStart d ds
  have hlast := isFirstLeast_latestEnd d ds
  exact ⟨⟨_, hfirst, fun _ h => h.eq hfirst⟩, ⟨_, hlast, fun _ h => h.eq hlast⟩⟩

/-- Captures in another order have the same map if those that tie at either end agree. -/
theorem merged_perm {ds' : List Device} (hne : ds ≠ []) (hperm : ds'.Perm ds)
    (hstarts : TiesAgree Device.gpuStart Device.cpuStart ds)
    (hends : TiesAgree (fun d => -d.gpuEnd) Device.cpuEnd ds) : merged ds' = merged ds := by
  have hne' : ds' ≠ [] := fun h => hne (List.perm_nil.mp (h ▸ hperm.symm))
  obtain ⟨⟨first, hfirst, -⟩, last, hlast, -⟩ := existsUnique_isFirstLeast hne
  obtain ⟨⟨first', hfirst', -⟩, last', hlast', -⟩ := existsUnique_isFirstLeast hne'
  obtain ⟨hgpuStart, hcpuStart⟩ := hfirst.perm hfirst' hperm hstarts
  obtain ⟨hgpuEnd, hcpuEnd⟩ := hlast.perm hlast' hperm hends
  rw [merged_of_isFirstLeast hfirst' hlast', merged_of_isFirstLeast hfirst hlast, hgpuStart,
    hcpuStart, hcpuEnd, Int.neg_inj.mp hgpuEnd]

/-- A capture within the others changes nothing. -/
theorem merged_concat (hne : ds ≠ []) {d : Device} (hstart : ∃ e ∈ ds, e.gpuStart ≤ d.gpuStart)
    (hend : ∃ e ∈ ds, d.gpuEnd ≤ e.gpuEnd) : merged (ds ++ [d]) = merged ds := by
  obtain ⟨⟨first, hfirst, -⟩, last, hlast, -⟩ := existsUnique_isFirstLeast hne
  obtain ⟨e, he, hle⟩ := hend
  rw [merged_of_isFirstLeast (hfirst.concat hstart) (hlast.concat ⟨e, he, Int.neg_le_neg hle⟩),
    merged_of_isFirstLeast hfirst hlast]

/-- **The map of several captures.** Of the descriptors one is the first with the earliest start,
and one is the first with the latest end, by the clock of the device. The map goes through the two
readings of the one at its start and the two readings of the other at its end. In whatever order the
captures stand, the map is the same if those with the earliest start agree about the processor
there, and those with the latest end there. A capture at the end of the list that neither starts
before the others nor ends after them changes nothing, and one capture has the map of its device. -/
theorem merged_laws (hne : ds ≠ []) :
    ((∃! first, IsFirstLeast Device.gpuStart ds first) ∧
      (∃! last, IsFirstLeast (fun d => -d.gpuEnd) ds last) ∧
      ∀ first last, IsFirstLeast Device.gpuStart ds first →
        IsFirstLeast (fun d => -d.gpuEnd) ds last → merged ds =
          (ofWindow first.gpuStart last.gpuEnd first.cpuStart last.cpuEnd).mapError .arithmetic) ∧
    (∀ ds', ds'.Perm ds → TiesAgree Device.gpuStart Device.cpuStart ds →
      TiesAgree (fun d => -d.gpuEnd) Device.cpuEnd ds → merged ds' = merged ds) ∧
    (∀ d : Device, (∃ e ∈ ds, e.gpuStart ≤ d.gpuStart) → (∃ e ∈ ds, d.gpuEnd ≤ e.gpuEnd) →
      merged (ds ++ [d]) = merged ds) ∧
    ∀ d, merged [d] = d.clockMap.mapError .arithmetic := by
  obtain ⟨hfirst, hlast⟩ := existsUnique_isFirstLeast hne
  exact ⟨⟨hfirst, hlast, fun _ _ => merged_of_isFirstLeast⟩, fun _ => merged_perm hne,
    fun _ => merged_concat hne, fun _ => rfl⟩

/-- Two captures that start together, the second of which ends later. -/
def startingTogether : List Device :=
  [⟨.zero, "GPU", 0, 10, 100, 20, 200⟩, ⟨.zero, "GPU", 0, 10, 100, 50, 300⟩]

/-- The end is read from the second capture, and neither the order nor a capture in between
matters. -/
theorem merged_laws_startingTogether :
    merged startingTogether = (ofWindow 100 300 10 50).mapError .arithmetic ∧
      merged startingTogether.reverse = merged startingTogether ∧
      merged (startingTogether ++ [⟨.zero, "GPU", 0, 7, 100, 8, 300⟩]) =
        merged startingTogether := by
  obtain ⟨⟨-, -, hmap⟩, hperm, hconcat, -⟩ := merged_laws (by decide : startingTogether ≠ [])
  have hfirst : IsFirstLeast Device.gpuStart startingTogether ⟨.zero, "GPU", 0, 10, 100, 20, 200⟩ :=
    ⟨[], _, rfl, by decide, by decide⟩
  have hlast : IsFirstLeast (fun d => -d.gpuEnd) startingTogether
      ⟨.zero, "GPU", 0, 10, 100, 50, 300⟩ := ⟨[_], [], rfl, by decide, by decide⟩
  have hwindow := hmap _ _ hfirst hlast
  exact ⟨hwindow, hperm _ (List.reverse_perm _) (by decide) (by decide),
    hconcat _ ⟨_, List.mem_cons_self, by decide⟩ ⟨_, List.mem_of_getLast? rfl, by decide⟩⟩

end ClockMap

end SwitchTrace

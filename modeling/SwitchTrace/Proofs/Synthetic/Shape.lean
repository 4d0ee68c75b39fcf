import SwitchTrace.Proofs.Synthetic.Outcome

/-!
# The shape of synthetic captures

On every device the contexts of a few clients are switched in and out in turn. A record is at least
a nanosecond after the one before it, so that times always increase. They stay inside the duration
of the capture as long as there is a nanosecond for each record after the first: the time that
passes is then a share of the duration at most, and a single nanosecond if the shares are too small.
With more records than that each of them still takes a nanosecond, and the last one is late.

Everything follows from the relation between a time and the records from then on, by induction over
its steps.

## Main definitions

* `SyntheticPlan.Shapes` — the shape of a track.

## Main results

* `SyntheticPlan.Follows.timestamp_mem` — the times of the records, one after the other.
* `SyntheticPlan.within_iff` — when the records lie inside the duration of the capture.
* `SyntheticPlan.generate_shapes` — the shape of every capture, and the plans without one.
-/

namespace SwitchTrace.SyntheticPlan

open Synthesis (Yields)

/-! ### Turns -/

/-- A record is in a turn if the record before it is in the other one. -/
theorem turn_succ_iff (i : Nat) (switchedIn : Bool) :
    (i % 2 = 0 ↔ (!switchedIn) = true) ↔ ((i + 1) % 2 = 0 ↔ switchedIn = true) := by
  cases switchedIn <;> simp <;> omega

namespace Follows

variable {plan : SyntheticPlan} {clients : List Client} {switchedIn : Bool} {last : Client}
  {time : Int} {records : List Record}

/-- Contexts are switched in and out in turn. -/
theorem switchKind_getElem (h : plan.Follows clients switchedIn last time records) (i : Nat)
    (hi : i < records.length) : records[i].switchKind =
      if i % 2 = 0 ↔ switchedIn = true then .switchedIn else .switchedOut := by
  induction h generalizing i with
  | nil => simp at hi
  | switchIn hclient hleast hgreatest hrest ih =>
    cases i with
    | zero => rfl
    | succ i =>
      rw [List.getElem_cons_succ, ih i (by simpa using hi)]
      exact if_congr (turn_succ_iff i true) rfl rfl
  | switchOut hleast hgreatest hrest ih =>
    cases i with
    | zero => rfl
    | succ i =>
      rw [List.getElem_cons_succ, ih i (by simpa using hi)]
      exact if_congr (turn_succ_iff i false) rfl rfl

/-- The next context that is switched out is the one that was switched in last. -/
theorem client_head? (h : plan.Follows clients false last time records) :
    ∀ r ∈ records.head?, r.client = last := by
  cases h with
  | nil => simp
  | switchOut =>
    rintro _ ⟨⟩
    rfl

/-- **A context that was switched in is the next to be switched out.** -/
theorem client_getElem_succ (h : plan.Follows clients switchedIn last time records) (i : Nat)
    (hi : i + 1 < records.length) (hturn : i % 2 = 0 ↔ switchedIn = true) :
    records[i + 1].client = records[i].client := by
  induction h generalizing i with
  | nil => simp at hi
  | switchIn hclient hleast hgreatest hrest ih =>
    have hi' : i < _ := Nat.lt_of_succ_lt_succ hi
    cases i with
    | zero =>
      refine hrest.client_head? _ ?_
      rw [List.head?_eq_getElem?, List.getElem?_eq_getElem hi']
      rfl
    | succ i => exact ih i hi' ((turn_succ_iff i true).mpr hturn)
  | switchOut hleast hgreatest hrest ih =>
    have hi' : i < _ := Nat.lt_of_succ_lt_succ hi
    cases i with
    | zero => simp at hturn
    | succ i => exact ih i hi' ((turn_succ_iff i false).mpr hturn)

/-- Every record is one of a client that there is. -/
theorem client_mem (h : plan.Follows clients switchedIn last time records)
    (hlast : switchedIn = false → last ∈ clients) : ∀ r ∈ records, r.client ∈ clients := by
  induction h with
  | nil => simp
  | switchIn hclient hleast hgreatest hrest ih =>
    rw [List.forall_mem_cons]
    exact ⟨hclient, ih fun _ => hclient⟩
  | switchOut hleast hgreatest hrest ih =>
    rw [List.forall_mem_cons]
    exact ⟨hlast rfl, ih nofun⟩

/-! ### Times -/

theorem timestamp_head? (h : plan.Follows clients switchedIn last time records) :
    ∀ r ∈ records.head?, r.timestamp = time := by
  cases h with
  | nil => simp
  | switchIn =>
    rintro _ ⟨⟩
    rfl
  | switchOut =>
    rintro _ ⟨⟩
    rfl

/-- **The times of the records**, one after the other: each record is later than the one before it
by a gap between the least and the greatest. -/
theorem timestamp_mem (h : plan.Follows clients switchedIn last time records) (i : Nat)
    (hi : i < records.length) : time + i * plan.leastGap ≤ records[i].timestamp ∧
      records[i].timestamp ≤ time + i * plan.greatestGap := by
  induction h generalizing i with
  | nil => simp at hi
  | @switchIn last client time passed rest hclient hleast hgreatest hrest ih =>
    cases i with
    | zero => simp [switchRecord]
    | succ i =>
      have hlater := ih i (by simpa using hi)
      rw [List.getElem_cons_succ]
      push_cast [add_mul]
      omega
  | @switchOut last time passed rest hleast hgreatest hrest ih =>
    cases i with
    | zero => simp [switchRecord]
    | succ i =>
      have hlater := ih i (by simpa using hi)
      rw [List.getElem_cons_succ]
      push_cast [add_mul]
      omega

/-- No record is earlier than the time from which it comes. -/
theorem le_timestamp (h : plan.Follows clients switchedIn last time records) :
    ∀ r ∈ records, time ≤ r.timestamp := by
  intro r hr
  obtain ⟨i, hi, rfl⟩ := List.getElem_of_mem hr
  have hgap : 0 ≤ (i : Int) * plan.leastGap :=
    Int.mul_nonneg (Int.natCast_nonneg i) (by rw [leastGap]; omega)
  have htime := (h.timestamp_mem i hi).1
  omega

/-- **Every record is later than those before it.** -/
theorem pairwise_timestamp (h : plan.Follows clients switchedIn last time records) :
    records.Pairwise fun r r' => r.timestamp < r'.timestamp := by
  have hpos : 1 ≤ plan.leastGap := by
    rw [leastGap]
    omega
  induction h with
  | nil => exact .nil
  | switchIn hclient hleast hgreatest hrest ih =>
    refine .cons (fun r hr => ?_) ih
    have hlater := hrest.le_timestamp r hr
    dsimp only [switchRecord]
    omega
  | switchOut hleast hgreatest hrest ih =>
    refine .cons (fun r hr => ?_) ih
    have hlater := hrest.le_timestamp r hr
    dsimp only [switchRecord]
    omega

end Follows

/-! ### The duration of a capture -/

variable {plan : SyntheticPlan}

/-- All records after the first together take no longer than the capture if there is a nanosecond
for each of them. -/
theorem greatestGap_mul_le {n : Nat} (hn : plan.recordsPerDevice = n + 1)
    (hduration : plan.recordsPerDevice ≤ plan.duration + 1) :
    n * plan.greatestGap ≤ plan.duration := by
  have hstep : plan.step = plan.duration / (n + 1) := by
    rw [step, hn, max_eq_left (by omega), Int.fdiv_eq_ediv_of_nonneg _ (by omega)]
  have hshare : plan.step * (n + 1) ≤ plan.duration := by
    rw [hstep]
    exact Int.ediv_mul_le _ (by omega)
  rw [greatestGap]
  rcases le_total plan.step 1 with hle | hle
  · rw [max_eq_right hle]
    omega
  · rw [max_eq_left hle, mul_comm]
    rw [mul_add] at hshare
    omega

/-- **The records of a device lie inside the duration** of the capture exactly if there is a
nanosecond for each of them after the first. -/
theorem within_iff {clients : List Client} {last : Client} {switchedIn : Bool} {start : Int}
    {records : List Record} (hlength : records.length = plan.recordsPerDevice.toNat)
    (h : plan.Follows clients switchedIn last start records) (hduration : 0 ≤ plan.duration) :
    (∀ r ∈ records, start ≤ r.timestamp ∧ r.timestamp ≤ start + plan.duration) ↔
      plan.recordsPerDevice ≤ plan.duration + 1 := by
  constructor
  · intro hwithin
    by_contra hmany
    obtain ⟨n, hn⟩ : ∃ n : Nat, plan.recordsPerDevice = n + 1 :=
      ⟨(plan.recordsPerDevice - 1).toNat, by omega⟩
    have hi : n < records.length := by omega
    have hlate := (h.timestamp_mem n hi).1
    have hgap : (n : Int) * 1 ≤ n * plan.leastGap :=
      Int.mul_le_mul_of_nonneg_left (by rw [leastGap]; omega) (Int.natCast_nonneg n)
    have hend := (hwithin _ (List.getElem_mem hi)).2
    omega
  · intro hfew r hr
    refine ⟨h.le_timestamp r hr, ?_⟩
    obtain ⟨i, hi, rfl⟩ := List.getElem_of_mem hr
    obtain ⟨n, hn⟩ : ∃ n : Nat, plan.recordsPerDevice = n + 1 :=
      ⟨(plan.recordsPerDevice - 1).toNat, by omega⟩
    have hlast := greatestGap_mul_le hn hfew
    have hgap : (i : Int) * plan.greatestGap ≤ n * plan.greatestGap :=
      Int.mul_le_mul_of_nonneg_right (by omega) (by rw [greatestGap]; omega)
    have hlatest := (h.timestamp_mem i hi).2
    omega

/-! ### Tracks -/

/-- The shape of a track. -/
structure Shapes (plan : SyntheticPlan) (t : Track) : Prop where
  length_records : t.records.length = plan.recordsPerDevice.toNat
  /-- Contexts are switched in and out in turn, and first of all in. -/
  turns : ∀ (i : Nat) (hi : i < t.records.length),
    t.records[i].switchKind = if i % 2 = 0 then .switchedIn else .switchedOut
  /-- A context that was switched in is the next to be switched out. -/
  pairs : ∀ (i : Nat) (hi : i + 1 < t.records.length), i % 2 = 0 →
    t.records[i + 1].process = t.records[i].process ∧ t.records[i + 1].handle = t.records[i].handle
  /-- There are no more clients than processes. -/
  clients : ∃ clients : List Client, (clients.length : Int) ≤ plan.processCount ∧
    ∀ r ∈ t.records, ⟨r.process, r.handle⟩ ∈ clients
  starts : ∀ r ∈ t.records.head?, r.timestamp = t.device.gpuStart
  increases : t.records.Pairwise fun r r' => r.timestamp < r'.timestamp
  /-- The records lie inside the capture exactly if there is a nanosecond for each of them after the
  first. -/
  within : (∀ r ∈ t.records, t.device.gpuStart ≤ r.timestamp ∧ r.timestamp ≤ t.device.gpuEnd) ↔
    plan.recordsPerDevice ≤ plan.duration + 1

theorem Makes.shapes {ticks : Int} {index : Nat} {t : Track} (h : plan.Makes t)
    (hdevice : plan.Describes ticks index t.device) (hprocesses : 1 ≤ plan.processCount)
    (hduration : 0 ≤ plan.duration) : plan.Shapes t := by
  obtain ⟨hlength, clients, hclients, -, hfollows⟩ := h
  refine ⟨hlength, fun i hi => ?_, fun i hi hturn => ?_, ⟨clients, by omega, ?_⟩,
    hfollows.timestamp_head?, hfollows.pairwise_timestamp, ?_⟩
  · rw [hfollows.switchKind_getElem i hi]
    exact if_congr (by simp) rfl rfl
  · have hclient := hfollows.client_getElem_succ i hi (by simpa using hturn)
    exact ⟨congrArg Client.process hclient, congrArg Client.handle hclient⟩
  · exact hfollows.client_mem nofun
  · rw [hdevice.gpuEnd_eq]
    exact within_iff hlength hfollows hduration

/-- **The shape of synthetic captures.** Whatever random numbers a source gives in the ranges that
it is asked for, none of these ranges is empty, neither that of the time between two records nor any
other: the plan has a capture, or it is one for some devices and the ticks of its duration cannot be
counted. The capture has a track for each device, and each track has its shape. -/
theorem generate_shapes {σ : Type} {source : RandomSource σ} (hs : source.Sound)
    (hprocesses : 1 ≤ plan.processCount) (hduration : 0 ≤ plan.duration) (s : σ) :
    plan.leastGap ≤ plan.greatestGap ∧
      ((∃ c s', (plan.generate source).run.run s = (.ok c, s') ∧
          (plan.deviceCount ≤ 0 ∨
            ∃ ticks, plan.tickRate.timesTruncated plan.duration = .ok ticks) ∧
          c.tracks.length = plan.deviceCount.toNat ∧ ∀ t ∈ c.tracks, plan.Shapes t) ∨
        ∃ fault s', (plan.generate source).run.run s = (.error (.arithmetic fault), s') ∧
          0 < plan.deviceCount ∧
          plan.tickRate.timesTruncated plan.duration = .error fault) := by
  refine ⟨leastGap_le_greatestGap hduration, ?_⟩
  rcases le_or_gt plan.deviceCount 0 with hnone | hsome
  · have hempty : Yields (plan.generate source) (· = ⟨[]⟩) := yields_generate_of_nonpos hnone
    obtain ⟨_, s', hrun, rfl⟩ := hempty s
    refine .inl ⟨_, s', hrun, .inl hnone, ?_, by simp⟩
    rw [Int.toNat_of_nonpos hnone, List.length_nil]
  · cases hticks : plan.tickRate.timesTruncated plan.duration with
    | error fault =>
      obtain ⟨s', hrun⟩ := fails_generate hs hsome hticks s
      exact .inr ⟨fault, s', hrun, hsome, rfl⟩
    | ok ticks =>
      obtain ⟨c, s', hrun, htracks⟩ := yields_generate hs hduration hprocesses hticks s
      refine .inl ⟨c, s', hrun, .inr ⟨ticks, rfl⟩, ?_, fun t ht => ?_⟩
      · rw [← htracks.length_eq, List.length_range']
      · obtain ⟨index, -, hdevice, hmakes⟩ := exists_of_mem_forall₂ htracks t ht
        exact hmakes.shapes hdevice hprocesses hduration

/-- Two devices with seven records in six nanoseconds each. -/
def crowded : SyntheticPlan :=
  { tickRate := standardRate, deviceCount := 2, recordsPerDevice := 7, processCount := 1,
    duration := 6 }

/-- The seven records of both devices have a nanosecond each, and the last one is at the end of the
capture. -/
theorem generate_shapes_crowded : ∃ c s',
    (crowded.generate MersenneTwister.source).run.run (.ofSeed 42) = (.ok c, s') ∧
      c.tracks.length = 2 ∧ ∀ t ∈ c.tracks, t.records.length = 7 ∧
        ∀ r ∈ t.records, t.device.gpuStart ≤ r.timestamp ∧ r.timestamp ≤ t.device.gpuEnd := by
  have hticks : crowded.tickRate.timesTruncated crowded.duration = .ok 18 := by decide +kernel
  obtain ⟨-, ⟨c, s', hrun, -, hlength, hshapes⟩ | ⟨fault, s', -, -, hfault⟩⟩ :=
    @generate_shapes crowded _ _ MersenneTwister.source_sound (by decide) (by decide) (.ofSeed 42)
  · exact ⟨c, s', hrun, hlength, fun t ht =>
      ⟨(hshapes t ht).length_records, (hshapes t ht).within.mpr (by decide)⟩⟩
  · rw [hticks] at hfault
    cases hfault

end SwitchTrace.SyntheticPlan

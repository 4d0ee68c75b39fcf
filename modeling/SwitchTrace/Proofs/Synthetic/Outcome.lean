import SwitchTrace.Proofs.Timeline.Adaptation
import SwitchTrace.Synthetic.Generator

/-!
# What a synthetic capture is made of

A source of random numbers is only known to keep to the range that it is asked for. So nothing is
said about its numbers but that, and a computation is described by what all its results have in
common. No range that is asked for is empty, and a plan fails for one reason only: its rate and its
duration may have no product.

The records of a device are described by a relation between a time and the records from then on.
Each of its steps leaves open which client is chosen and how much time passes.

## Main definitions

* `Synthesis.Yields` — a computation has a result with a property, whatever the random numbers are.
* `SyntheticPlan.Follows` — the records that can come from a time on.
* `SyntheticPlan.Describes`, `SyntheticPlan.Makes` — the descriptors and the tracks of a plan.

## Main results

* `SyntheticPlan.yields_generate` — the capture of a plan has a track for each device.
* `SyntheticPlan.fails_generate` — a plan without a capture.
-/

namespace SwitchTrace

/-! ### Computations with random numbers -/

namespace Synthesis

variable {σ α β : Type} {source : RandomSource σ} {x : Synthesis σ α} {f : α → Synthesis σ β}
  {P : α → Prop} {Q : β → Prop}

/-- Whatever random numbers come from a state, the computation has a result with the property. -/
def Yields (x : Synthesis σ α) (P : α → Prop) : Prop :=
  ∀ s, ∃ a s', x.run.run s = (.ok a, s') ∧ P a

/-- Whatever random numbers come from a state, the computation fails for the given reason. -/
def Fails (x : Synthesis σ α) (fault : SynthesisFault) : Prop :=
  ∀ s, ∃ s', x.run.run s = (.error fault, s')

theorem run_bind_of_ok {s s' : σ} {a : α} (h : x.run.run s = (.ok a, s')) :
    (x >>= f).run.run s = (f a).run.run s' := by
  rw [ExceptT.run_bind, StateT.run_bind, h]
  rfl

theorem run_bind_of_error {s s' : σ} {fault : SynthesisFault}
    (h : x.run.run s = (.error fault, s')) : (x >>= f).run.run s = (.error fault, s') := by
  rw [ExceptT.run_bind, StateT.run_bind, h]
  rfl

namespace Yields

theorem pure {a : α} (h : P a) : Yields (pure a : Synthesis σ α) P := fun s => ⟨a, s, rfl, h⟩

theorem bind (hx : Yields x P) (hf : ∀ a, P a → Yields (f a) Q) : Yields (x >>= f) Q := by
  intro s
  obtain ⟨a, s', hrun, ha⟩ := hx s
  rw [run_bind_of_ok hrun]
  exact hf a ha s'

/-- What comes after a result may fail. -/
theorem fails_bind {fault : SynthesisFault} (hx : Yields x P)
    (hf : ∀ a, P a → Fails (f a) fault) : Fails (x >>= f) fault := by
  intro s
  obtain ⟨a, s', hrun, ha⟩ := hx s
  rw [run_bind_of_ok hrun]
  exact hf a ha s'

end Yields

/-- Nothing comes after a failure. -/
theorem Fails.bind {fault : SynthesisFault} (hx : Fails x fault) : Fails (x >>= f) fault := by
  intro s
  obtain ⟨s', hrun⟩ := hx s
  exact ⟨s', run_bind_of_error hrun⟩

/-! ### Single numbers -/

section Sound

variable (hs : source.Sound)
include hs

/-- A range that is not empty gives a number in it. -/
theorem yields_below {n : Int} (hn : 0 < n) : Yields (below source n) fun k => (k : Int) < n := by
  intro s
  have hlt := hs.below_lt n.toNat s (by omega)
  rw [below, if_neg (Int.not_le.mpr hn)]
  exact ⟨(source.below n.toNat s).1, _, rfl, by omega⟩

theorem yields_bits (k : Nat) : Yields (bits source k) fun n => n < 2 ^ k :=
  fun s => ⟨_, _, rfl, hs.bits_lt k s⟩

theorem yields_between {low high : Int} (h : low ≤ high) :
    Yields (between source low high) fun n => low ≤ n ∧ n ≤ high := by
  refine (yields_below hs (show 0 < high - low + 1 by omega)).bind fun k hk => .pure ?_
  constructor <;> omega

end Sound

/-! ### Lists -/

theorem yields_times (hx : Yields x P) (n : Nat) :
    Yields (times x n) fun as => as.length = n ∧ ∀ a ∈ as, P a := by
  induction n with
  | zero => exact .pure ⟨rfl, by simp⟩
  | succ n ih =>
    refine hx.bind fun a ha => ih.bind fun as has => .pure ⟨?_, ?_⟩
    · rw [List.length_cons, has.1]
    · rw [List.forall_mem_cons]
      exact ⟨ha, has.2⟩

theorem yields_forEach {g : Nat → Synthesis σ α} {R : Nat → α → Prop}
    (hg : ∀ k, Yields (g k) (R k)) (start n : Nat) :
    Yields (forEach g start n) (List.Forall₂ R (List.range' start n)) := by
  induction n generalizing start with
  | zero => exact .pure .nil
  | succ n ih =>
    exact (hg start).bind fun a ha => (ih (start + 1)).bind fun as has => .pure (.cons ha has)

theorem yields_mapM {R : α → β → Prop} {as : List α} (hf : ∀ a ∈ as, Yields (f a) (R a)) :
    Yields (as.mapM f) (List.Forall₂ R as) := by
  induction as with
  | nil => exact .pure .nil
  | cons a as ih =>
    rw [List.mapM_cons]
    rw [List.forall_mem_cons] at hf
    exact hf.1.bind fun b hb => (ih hf.2).bind fun bs hbs => .pure (.cons hb hbs)

end Synthesis

/-- The process and the context of a record. -/
def Record.client (r : Record) : SyntheticPlan.Client := ⟨r.process, r.handle⟩

namespace SyntheticPlan

open Synthesis

variable {σ : Type} {source : RandomSource σ} {plan : SyntheticPlan} {ticks : Int}

/-! ### Descriptors -/

/-- What is known of the descriptor of a device: the device clocks of a plan start a microsecond
apart and run for its duration, the processor clock runs for so many ticks. -/
structure Describes (plan : SyntheticPlan) (ticks : Int) (index : Nat) (d : Device) : Prop where
  name_eq : d.name = Device.storedName ("Synthetic GPU " ++ toString index)
  traceError_eq : d.traceError = 0
  gpuStart_eq : d.gpuStart = plan.deviceEpoch + index * 1000
  gpuEnd_eq : d.gpuEnd = d.gpuStart + plan.duration
  cpuStart_mem : plan.processorEpoch ≤ d.cpuStart ∧ d.cpuStart < plan.processorEpoch + 1000000
  cpuEnd_eq : d.cpuEnd = d.cpuStart + ticks

theorem yields_device (hs : source.Sound)
    (hticks : plan.tickRate.timesTruncated plan.duration = .ok ticks) (index : Nat) :
    Yields (plan.device source index) (plan.Describes ticks index) := by
  refine (yields_below hs (show (0 : Int) < 1000000 by decide)).bind fun offset hoffset => ?_
  rw [hticks]
  refine (Yields.pure (P := (· = ticks)) rfl).bind ?_
  rintro _ rfl
  refine (yields_times (yields_below hs (show (0 : Int) < 256 by decide)) _).bind fun bytes _ =>
    .pure ⟨rfl, rfl, rfl, rfl, ?_, rfl⟩
  constructor <;> dsimp only <;> omega

/-- Without a number of ticks there is no descriptor. -/
theorem fails_device (hs : source.Sound) {fault : ArithmeticFault}
    (hticks : plan.tickRate.timesTruncated plan.duration = .error fault) (index : Nat) :
    Fails (plan.device source index) (.arithmetic fault) := by
  refine (yields_below hs (show (0 : Int) < 1000000 by decide)).fails_bind fun offset _ => ?_
  rw [hticks]
  exact Fails.bind fun s => ⟨s, rfl⟩

/-! ### Records -/

/-- The process and the context of a client are in the range from which they are drawn. -/
structure Client.IsDrawn (c : Client) : Prop where
  process : 1000 ≤ c.process ∧ c.process < 31000
  handle : 0 ≤ c.handle ∧ c.handle < 2 ^ 64

theorem yields_clients (hs : source.Sound) : Yields (plan.clients source) fun clients =>
    clients.length = plan.processCount.toNat ∧ ∀ c ∈ clients, c.IsDrawn := by
  refine (yields_times (yields_below hs (show (0 : Int) < 30000 by decide)) _).bind
    fun processes hprocesses => ?_
  refine (yields_times (yields_bits hs 64) _).bind fun handles hhandles => .pure ⟨?_, ?_⟩
  · rw [List.length_zipWith, hprocesses.1, hhandles.1, Nat.min_self]
  · intro c hc
    obtain ⟨i, hi, rfl⟩ := List.getElem_of_mem hc
    rw [List.length_zipWith] at hi
    have hprocess := hprocesses.2 processes[i] (List.getElem_mem _)
    have hhandle := hhandles.2 handles[i] (List.getElem_mem _)
    rw [List.getElem_zipWith]
    constructor <;> dsimp only <;> omega

/-- The least number of nanoseconds between two records. -/
def leastGap (plan : SyntheticPlan) : Int := max (plan.step / 2) 1

/-- The greatest number of nanoseconds between two records. -/
def greatestGap (plan : SyntheticPlan) : Int := max plan.step 1

/-- The records that can come from a time on, whatever client is chosen and whatever time passes.
The flag says that the next of them switches a context in; otherwise the last client that was
switched in is switched out. -/
inductive Follows (plan : SyntheticPlan) (clients : List Client) :
    Bool → Client → Int → List Record → Prop
  | nil {switchedIn : Bool} {last : Client} {time : Int} :
      Follows plan clients switchedIn last time []
  | switchIn {last client : Client} {time passed : Int} {rest : List Record}
      (hclient : client ∈ clients) (hleast : plan.leastGap ≤ passed)
      (hgreatest : passed ≤ plan.greatestGap)
      (hrest : Follows plan clients false client (time + passed) rest) :
      Follows plan clients true last time (switchRecord client true time :: rest)
  | switchOut {last : Client} {time passed : Int} {rest : List Record}
      (hleast : plan.leastGap ≤ passed) (hgreatest : passed ≤ plan.greatestGap)
      (hrest : Follows plan clients true last (time + passed) rest) :
      Follows plan clients false last time (switchRecord last false time :: rest)

theorem step_nonneg (hduration : 0 ≤ plan.duration) : 0 ≤ plan.step :=
  Int.fdiv_nonneg hduration (by omega)

theorem leastGap_le_greatestGap (hduration : 0 ≤ plan.duration) :
    plan.leastGap ≤ plan.greatestGap := by
  have hstep := step_nonneg hduration
  rw [leastGap, greatestGap]
  omega

/-- **The records from a time on** are made without a fault. A client is chosen among those that
there are, and the range of the time that passes is not empty. -/
theorem yields_recordsFrom (hs : source.Sound) (hduration : 0 ≤ plan.duration)
    (hprocesses : 1 ≤ plan.processCount) {clients : List Client}
    (hclients : clients.length = plan.processCount.toNat) (count : Nat) (switchedIn : Bool)
    (last : Client) (time : Int) :
    Yields (plan.recordsFrom source clients count switchedIn last time) fun records =>
      records.length = count ∧ plan.Follows clients switchedIn last time records := by
  have hgap := yields_between hs (leastGap_le_greatestGap hduration)
  induction count generalizing switchedIn last time with
  | zero => exact .pure ⟨rfl, .nil⟩
  | succ count ih =>
    rw [recordsFrom]
    cases switchedIn with
    | true =>
      rw [if_pos rfl]
      refine (yields_below hs (by omega)).bind fun slot hslot => ?_
      have hlt : slot < clients.length := by omega
      have hclient : clients.getD slot default ∈ clients := by
        rw [List.getD_eq_getElem?_getD, List.getElem?_eq_getElem hlt]
        exact List.getElem_mem hlt
      refine (Yields.pure hclient).bind fun client hclient => hgap.bind fun passed hpassed => ?_
      refine (ih false client (time + passed)).bind fun rest hrest => .pure ⟨?_, ?_⟩
      · rw [List.length_cons, hrest.1]
      · exact .switchIn hclient hpassed.1 hpassed.2 hrest.2
    | false =>
      rw [if_neg Bool.false_ne_true]
      refine (Yields.pure (P := (· = last)) rfl).bind ?_
      rintro _ rfl
      refine hgap.bind fun passed hpassed => ?_
      refine (ih true _ (time + passed)).bind fun rest hrest => .pure ⟨?_, ?_⟩
      · rw [List.length_cons, hrest.1]
      · exact .switchOut hpassed.1 hpassed.2 hrest.2

/-! ### Captures -/

/-- What is known of the records of a track. -/
structure Makes (plan : SyntheticPlan) (t : Track) : Prop where
  length_records : t.records.length = plan.recordsPerDevice.toNat
  follows : ∃ clients : List Client, clients.length = plan.processCount.toNat ∧
    (∀ c ∈ clients, c.IsDrawn) ∧ plan.Follows clients true default t.device.gpuStart t.records

theorem yields_track (hs : source.Sound) (hduration : 0 ≤ plan.duration)
    (hprocesses : 1 ≤ plan.processCount) (d : Device) :
    Yields (plan.track source d) fun t => t.device = d ∧ plan.Makes t := by
  refine (yields_clients hs).bind fun clients hclients => ?_
  refine (yields_recordsFrom hs hduration hprocesses hclients.1 _ true default d.gpuStart).bind
    fun records hrecords => .pure ⟨rfl, hrecords.1, clients, hclients.1, hclients.2, hrecords.2⟩

/-- **The capture of a plan** has a track for each device, in the order of their numbers. -/
theorem yields_generate (hs : source.Sound) (hduration : 0 ≤ plan.duration)
    (hprocesses : 1 ≤ plan.processCount)
    (hticks : plan.tickRate.timesTruncated plan.duration = .ok ticks) :
    Yields (plan.generate source) fun c =>
      List.Forall₂ (fun index t => plan.Describes ticks index t.device ∧ plan.Makes t)
        (List.range' 0 plan.deviceCount.toNat) c.tracks := by
  refine (yields_forEach (fun k => yields_device hs hticks k) 0 _).bind fun devices hdevices => ?_
  refine (yields_mapM fun d _ => yields_track hs hduration hprocesses d).bind
    fun tracks htracks => .pure ?_
  refine (forall₂_comp hdevices htracks).imp ?_
  rintro index t ⟨d, hd, rfl, ht⟩
  exact ⟨hd, ht⟩

/-- A plan for no device has a capture without tracks, whatever its rate is. -/
theorem yields_generate_of_nonpos (hdevices : plan.deviceCount ≤ 0) :
    Yields (plan.generate source) (· = ⟨[]⟩) := by
  rw [generate, Int.toNat_of_nonpos hdevices]
  exact .pure rfl

/-- A plan for one device at least fails if there is no number of ticks. -/
theorem fails_generate (hs : source.Sound) (hdevices : 1 ≤ plan.deviceCount)
    {fault : ArithmeticFault} (hticks : plan.tickRate.timesTruncated plan.duration = .error fault) :
    Fails (plan.generate source) (.arithmetic fault) := by
  obtain ⟨n, hn⟩ : ∃ n, plan.deviceCount.toNat = n + 1 := ⟨plan.deviceCount.toNat - 1, by omega⟩
  rw [generate, hn]
  exact Fails.bind (Fails.bind (fails_device hs hticks 0))

end SyntheticPlan

end SwitchTrace

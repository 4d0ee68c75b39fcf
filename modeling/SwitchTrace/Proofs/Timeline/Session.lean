import SwitchTrace.Proofs.Timeline.Script

/-!
# Streams that share a pool

A session is a pool and the streams that were opened on it. Strings are put into the pool and looked
up, streams are opened, and streams are asked for their next event, all in any order. A stream keeps
handles of the pool as it was when the stream began, and gets handles of the pool as it is now;
other streams have changed it in between.

Two things hold of every state that can be reached. The pool is the one that the strings make that
were put into it so far (`Session.pool_after`). And each stream has answered according to its script
and has the rest of it left (`Session.after_replays`), so that what it shows is what it shows when
it is drained alone.

## Main definitions

* `Session`, `Session.take` — a session and its steps.
* `Session.requests` — the strings that the steps put into the pool.
* `EventStream.Replays` — a stream that has answered according to a script so far.
* `Drained.outcome` — the answers of a stream that is drained alone, with their strings.

## Main results

* `EventStream.Replays.next`, `Session.Replays.take` — what one step keeps.
* `Session.pool_after`, `Session.after_replays` — what a run keeps.
* `Session.pool_and_outcomes` — the pool and the answers in every state that can be reached.
-/

namespace SwitchTrace

/-! ### One stream -/

namespace Script

/-- The script after some answers. -/
def drop (s : Script) : Nat → Script
  | 0 => s
  | n + 1 => (s.drop n).tail

theorem drop_succ_eq_drop_tail (s : Script) (n : Nat) : s.drop (n + 1) = s.tail.drop n := by
  induction n with
  | zero => rfl
  | succ n ih => rw [drop, ih, drop]

end Script

/-- The answer at a place of the run of a stream with the given events: one of them, then the fault
or the end, then nothing more. -/
def StreamAnswer.inRun {ε : Type} (events : List ε) (fault : Option ArithmeticFault) (n : Nat) :
    StreamAnswer ε :=
  match events[n]? with
  | some e => .event e
  | none => if n = events.length then fault.elim .ended .fault else .ended

theorem StreamAnswer.map_inRun {ε ε' : Type} (f : ε → ε') (events : List ε)
    (fault : Option ArithmeticFault) (n : Nat) :
    (inRun events fault n).map f = inRun (events.map f) fault n := by
  rw [inRun, inRun, List.getElem?_map, List.length_map]
  cases events[n]? with
  | some e => rfl
  | none =>
    dsimp only [Option.map_none]
    split
    · cases fault <;> rfl
    · rfl

theorem StreamAnswer.inRun_done {ε : Type} (n : Nat) : inRun ([] : List ε) none n = .ended := by
  rw [inRun, List.getElem?_nil]
  exact ite_self _

theorem StreamAnswer.inRun_cons_succ {ε : Type} (e : ε) (events : List ε)
    (fault : Option ArithmeticFault) (n : Nat) :
    inRun (e :: events) fault (n + 1) = inRun events fault n := by
  rw [inRun, inRun, List.getElem?_cons_succ, List.length_cons]
  simp only [Nat.add_right_cancel_iff]

theorem Script.answer_drop (s : Script) (n : Nat) :
    (s.drop n).answer = .inRun s.events s.fault n := by
  induction n generalizing s with
  | zero =>
    obtain ⟨events, fault⟩ := s
    cases events <;> cases fault <;> rfl
  | succ n ih =>
    rw [drop_succ_eq_drop_tail, ih]
    obtain ⟨events, fault⟩ := s
    cases events with
    | nil =>
      -- After the end and after a fault alike nothing more comes.
      exact StreamAnswer.inRun_done n
    | cons e events => exact (StreamAnswer.inRun_cons_succ e events fault n).symm

/-- The answer of a stream that was drained at a place, with its strings. -/
def Drained.outcome (d : Drained) (n : Nat) : StreamAnswer (EventOf (Option String)) :=
  (StreamAnswer.inRun d.events d.fault n).map (EventOf.map d.pool.lookup?)

namespace EventStream

/-- The stream has given answers that show the first of a script in a pool, and has the rest of the
script left. -/
structure Replays (pool : StringPool) (script : Script) (answers : List (StreamAnswer Event))
    (s : EventStream) : Prop where
  script_eq : s.script = script.drop answers.length
  shows : ∀ n (a : StreamAnswer Event), answers[n]? = some a → a.Shows pool (script.drop n).answer

variable {pool q : StringPool} {script : Script} {answers : List (StreamAnswer Event)}
  {s : EventStream}

theorem Replays.start (pool : StringPool) (s : EventStream) : s.Replays pool s.script [] :=
  ⟨rfl, fun _ _ h => absurd h (by simp)⟩

theorem Replays.grows (h : s.Replays pool script answers) (hgrows : pool.Grows q) :
    s.Replays q script answers :=
  ⟨h.script_eq, fun n a ha => (h.shows n a ha).grows hgrows⟩

/-- **One more answer is that of the script.** The earlier ones show in the pool after it what they
showed before. -/
theorem Replays.next (hs : s.Anchored pool) (h : s.Replays pool script answers) :
    (s.next pool).stream.Replays (s.next pool).pool script (answers ++ [(s.next pool).answer]) := by
  have hstep := next_follows hs
  rw [h.script_eq] at hstep
  refine ⟨?_, fun n a ha => ?_⟩
  · rw [hstep.script_eq, List.length_append, List.length_singleton, Script.drop]
  · rcases (StringPool.getElem?_concat_eq_some_iff _ _ _ _).mp ha with ha | ⟨rfl, rfl⟩
    · exact (h.shows n a ha).grows (grows_next hs)
    · exact hstep.shows

/-- A stream that is drained alone gives the answers of its script. -/
theorem outcome_drain (hs : s.Anchored pool) (n : Nat) :
    (s.drain pool).outcome n = (s.script.drop n).answer.map (EventOf.map some) := by
  obtain ⟨hshows, hfault, -⟩ := drain_follows hs
  have hmap : (s.drain pool).events.map (EventOf.map (s.drain pool).pool.lookup?) =
      s.script.events.map (EventOf.map some) := by
    rw [← List.forall₂_eq_eq_eq, List.forall₂_map_left_iff, List.forall₂_map_right_iff]
    exact hshows.imp fun _ _ h => h.map_lookup?
  rw [Drained.outcome, Script.answer_drop, StreamAnswer.map_inRun, StreamAnswer.map_inRun, hmap,
    hfault]

end EventStream

/-! ### Sessions -/

/-- A pool, and the streams that were opened on it. -/
structure Session where
  pool : StringPool
  streams : List EventStream

namespace Session

/-- The session with an empty pool. -/
def start : Session := ⟨.empty, []⟩

/-- What is done in a session. -/
inductive Step
  | intern (s : String)
  | lookup (handle : Int)
  | contains (s : String)
  /-- A stream of the events of a capture is opened. -/
  | adapt (c : Capture) (source : String) (domain : TimeDomain)
  /-- The stream at a place is asked for an event. -/
  | advance (place : Nat)

/-- What comes of a step. -/
inductive Answer
  | handle (n : Nat)
  | text (s : Option String)
  | contained (b : Bool)
  | opened (info : TimelineInfo)
  | streamed (place : Nat) (answer : StreamAnswer Event)
  | noStream

/-- The answer to a step, and the session after it. -/
def take (s : Session) : Step → Answer × Session
  | .intern t => (.handle (s.pool.intern t).1, { s with pool := (s.pool.intern t).2 })
  | .lookup handle => (.text (s.pool.lookup? handle), s)
  | .contains t => (.contained (s.pool.contains t), s)
  | .adapt c source domain =>
    (.opened (c.timelineInfo source domain),
      { s with streams := s.streams ++ [.ofCapture c domain] })
  | .advance place =>
    match s.streams[place]? with
    | none => (.noStream, s)
    | some stream =>
      let next := stream.next s.pool
      (.streamed place next.answer, ⟨next.pool, s.streams.set place next.stream⟩)

/-- The session after some steps. -/
def after (s : Session) (steps : List Step) : Session :=
  steps.foldl (fun s step => (s.take step).2) s

/-- The answers to some steps. -/
def answers : Session → List Step → List Answer
  | _, [] => []
  | s, step :: steps => (s.take step).1 :: answers (s.take step).2 steps

/-- The capture whose stream is opened by a step. -/
def Step.opened? : Step → Option (Capture × TimeDomain)
  | .adapt c _ domain => some (c, domain)
  | _ => none

/-- The captures whose streams are opened by some steps. -/
def openedBy (steps : List Step) : List (Capture × TimeDomain) := steps.filterMap Step.opened?

/-- The answers of the stream at a place. -/
def outcomesAt (place : Nat) (answers : List Answer) : List (StreamAnswer Event) :=
  answers.filterMap fun
    | .streamed place' a => if place' = place then some a else none
    | _ => none

/-- The strings that a step puts into the pool. -/
def Step.requests (s : Session) : Step → List String
  | .intern t => [t]
  | .advance place => (s.streams[place]?).elim [] EventStream.requested
  | _ => []

/-- The strings that some steps put into the pool, in their order. -/
def requests : Session → List Step → List String
  | _, [] => []
  | s, step :: steps => step.requests s ++ requests (s.take step).2 steps

/-- The step asks no stream and puts no string into the pool. -/
def Step.Idle : Step → Prop
  | .intern _ | .advance _ => False
  | .lookup _ | .contains _ | .adapt .. => True

variable {s : Session} {opened : List (Capture × TimeDomain)} {given : List Answer}

theorem after_append (s : Session) (steps steps' : List Step) :
    s.after (steps ++ steps') = (s.after steps).after steps' := List.foldl_append

/-! ### The pool -/

/-- The handles that the streams hold lead to their texts. -/
def Anchored (s : Session) : Prop := ∀ stream ∈ s.streams, stream.Anchored s.pool

/-- A step puts its strings into the pool and does nothing else to it. -/
theorem pool_take (hs : s.Anchored) (step : Step) :
    (s.take step).2.pool = s.pool.internAll (step.requests s) := by
  cases step with
  | intern t => rfl
  | lookup handle => rfl
  | contains t => rfl
  | adapt c source domain => rfl
  | advance place =>
    rw [take, Step.requests]
    cases hstream : s.streams[place]? with
    | none => rfl
    | some stream => exact EventStream.pool_next (hs stream (List.mem_of_getElem? hstream))

theorem grows_take (hs : s.Anchored) (step : Step) : s.pool.Grows (s.take step).2.pool := by
  rw [pool_take hs]
  exact s.pool.grows_internAll _

theorem Anchored.take (hs : s.Anchored) (step : Step) : (s.take step).2.Anchored := by
  have hgrows := grows_take hs step
  have hold : ∀ stream ∈ s.streams, stream.Anchored (s.take step).2.pool := fun stream hstream =>
    (hs stream hstream).grows hgrows
  cases step with
  | intern t => exact hold
  | lookup handle => exact hold
  | contains t => exact hold
  | adapt c source domain =>
    intro stream hstream
    rcases List.mem_append.mp hstream with hstream | hstream
    · exact hold stream hstream
    · rw [List.mem_singleton.mp hstream]
      trivial
  | advance place =>
    rw [Session.take] at hold ⊢
    cases hstream : s.streams[place]? with
    | none => exact hs
    | some stream =>
      rw [hstream] at hold
      intro stream' hstream'
      rcases List.mem_or_eq_of_mem_set hstream' with hmem | rfl
      · exact hold stream' hmem
      · exact (EventStream.next_follows (hs stream (List.mem_of_getElem? hstream))).anchored

/-- **The pool after some steps** is the one that the strings make that they put into it. -/
theorem pool_after (hs : s.Anchored) (steps : List Step) :
    (s.after steps).Anchored ∧ (s.after steps).pool = s.pool.internAll (s.requests steps) := by
  induction steps generalizing s with
  | nil => exact ⟨hs, rfl⟩
  | cons step steps ih =>
    obtain ⟨hafter, hpool⟩ := ih (hs.take step)
    refine ⟨hafter, ?_⟩
    rw [requests, StringPool.internAll_append, ← pool_take hs]
    exact hpool

/-- Streams that are only opened, and strings that are only looked up, need no strings. -/
theorem requests_eq_nil {steps : List Step} (h : ∀ step ∈ steps, step.Idle) :
    s.requests steps = [] := by
  induction steps generalizing s with
  | nil => rfl
  | cons step steps ih =>
    have hstep : step.requests s = [] := by
      have hidle := h step List.mem_cons_self
      cases step <;> first | rfl | exact hidle.elim
    rw [requests, hstep, ih fun step' hstep' => h step' (List.mem_cons_of_mem step hstep')]
    rfl

/-! ### The streams -/

/-- Every stream has answered according to the script of its capture. -/
structure Replays (opened : List (Capture × TimeDomain)) (given : List Answer) (s : Session) :
    Prop where
  length_eq : s.streams.length = opened.length
  /-- What is not opened has not answered. -/
  outcomesAt_eq_nil : ∀ place, s.streams.length ≤ place → outcomesAt place given = []
  replays : ∀ place c domain (stream : EventStream), opened[place]? = some (c, domain) →
    s.streams[place]? = some stream →
    stream.Replays s.pool (EventStream.ofCapture c domain).script (outcomesAt place given)

theorem openedBy_eq_nil (step : Step) (h : step.opened? = none) : openedBy [step] = [] :=
  List.filterMap_cons_none h

theorem outcomesAt_concat (place : Nat) (given : List Answer) (a : Answer) :
    outcomesAt place (given ++ [a]) = outcomesAt place given ++ outcomesAt place [a] :=
  List.filterMap_append

theorem outcomesAt_streamed (place : Nat) (a : StreamAnswer Event) :
    outcomesAt place [.streamed place a] = [a] := by simp [outcomesAt]

theorem outcomesAt_streamed_of_ne {place place' : Nat} (h : place ≠ place')
    (a : StreamAnswer Event) : outcomesAt place' [.streamed place a] = [] := by simp [outcomesAt, h]

/-- What is not the answer of a stream leaves the streams as they are. -/
theorem Replays.concat (h : Replays opened given s) {q : StringPool} (hgrows : s.pool.Grows q)
    {a : Answer} (ha : ∀ place, outcomesAt place [a] = []) :
    Replays opened (given ++ [a]) { s with pool := q } where
  length_eq := h.length_eq
  outcomesAt_eq_nil place hplace := by
    rw [outcomesAt_concat, ha, h.outcomesAt_eq_nil place hplace, List.nil_append]
  replays place c domain stream hopened hstream := by
    rw [outcomesAt_concat, ha, List.append_nil]
    exact (h.replays place c domain stream hopened hstream).grows hgrows

/-- A new stream has the whole script of its capture left. -/
theorem Replays.adapt (h : Replays opened given s) (c : Capture) (domain : TimeDomain) :
    Replays (opened ++ [(c, domain)]) given
      { s with streams := s.streams ++ [.ofCapture c domain] } where
  length_eq := by rw [List.length_append, List.length_append, h.length_eq]; rfl
  outcomesAt_eq_nil place hplace :=
    h.outcomesAt_eq_nil place (Nat.le_trans (by simp) hplace)
  replays place c' domain' stream hopened hstream := by
    rcases (StringPool.getElem?_concat_eq_some_iff _ _ _ _).mp hopened with hopened | ⟨rfl, hnew⟩
    · have hlt : place < s.streams.length :=
        h.length_eq ▸ (List.getElem?_eq_some_iff.mp hopened).1
      rw [List.getElem?_append_left hlt] at hstream
      exact h.replays place c' domain' stream hopened hstream
    · obtain ⟨rfl, rfl⟩ := Prod.mk.inj hnew
      rw [← h.length_eq, List.getElem?_concat_length, Option.some.injEq] at hstream
      rw [h.outcomesAt_eq_nil _ (Nat.le_of_eq h.length_eq), ← hstream]
      exact .start _ _

/-- The stream that is asked goes on in its script, and the others see the pool grow. -/
theorem Replays.advance (hs : s.Anchored) (h : Replays opened given s) {place : Nat}
    {stream : EventStream} (hstream : s.streams[place]? = some stream) :
    Replays opened (given ++ [.streamed place (stream.next s.pool).answer])
      ⟨(stream.next s.pool).pool, s.streams.set place (stream.next s.pool).stream⟩ where
  length_eq := by rw [List.length_set, h.length_eq]
  outcomesAt_eq_nil place' hplace' := by
    rw [List.length_set] at hplace'
    have hne : place ≠ place' := by
      have := (List.getElem?_eq_some_iff.mp hstream).1
      omega
    rw [outcomesAt_concat, outcomesAt_streamed_of_ne hne, h.outcomesAt_eq_nil place' hplace',
      List.nil_append]
  replays place' c domain stream' hopened hstream' := by
    have hanchored := hs stream (List.mem_of_getElem? hstream)
    rw [outcomesAt_concat]
    by_cases hne : place = place'
    · subst hne
      rw [List.getElem?_set_self (List.getElem?_eq_some_iff.mp hstream).1,
        Option.some.injEq] at hstream'
      rw [outcomesAt_streamed, ← hstream']
      exact (h.replays place c domain stream hopened hstream).next hanchored
    · rw [List.getElem?_set_ne hne] at hstream'
      rw [outcomesAt_streamed_of_ne hne, List.append_nil]
      exact (h.replays place' c domain stream' hopened hstream').grows
        (EventStream.grows_next hanchored)

/-- **A step keeps every stream to its script.** -/
theorem Replays.take (hs : s.Anchored) (h : Replays opened given s) (step : Step) :
    Replays (opened ++ openedBy [step]) (given ++ [(s.take step).1]) (s.take step).2 := by
  cases step with
  | intern t =>
    rw [openedBy_eq_nil (.intern t) rfl, List.append_nil]
    exact h.concat (s.pool.grows_intern t) fun _ => rfl
  | lookup handle =>
    rw [openedBy_eq_nil (.lookup handle) rfl, List.append_nil]
    exact h.concat (.refl s.pool) fun _ => rfl
  | contains t =>
    rw [openedBy_eq_nil (.contains t) rfl, List.append_nil]
    exact h.concat (.refl s.pool) fun _ => rfl
  | adapt c source domain => exact (h.adapt c domain).concat (.refl s.pool) fun _ => rfl
  | advance place =>
    rw [openedBy_eq_nil (.advance place) rfl, List.append_nil, Session.take]
    cases hstream : s.streams[place]? with
    | none => exact h.concat (.refl s.pool) fun _ => rfl
    | some stream => exact h.advance hs hstream

/-- **A run keeps every stream to its script.** -/
theorem after_replays (hs : s.Anchored) (h : Replays opened given s) (steps : List Step) :
    Replays (opened ++ openedBy steps) (given ++ s.answers steps) (s.after steps) := by
  induction steps generalizing opened given s with
  | nil =>
    rw [answers, List.append_nil, openedBy, List.filterMap_nil, List.append_nil]
    exact h
  | cons step steps ih =>
    have hsteps := ih (hs.take step) (h.take hs step)
    rw [List.append_assoc, List.append_assoc] at hsteps
    rw [← List.singleton_append, openedBy, List.filterMap_append]
    exact hsteps

/-! ### States that can be reached -/

theorem anchored_start : start.Anchored := fun _ h => absurd h List.not_mem_nil

theorem replays_start : Replays [] [] start where
  length_eq := rfl
  outcomesAt_eq_nil _ _ := rfl
  replays _ _ _ _ h := absurd h (by simp)

/-- **The strings of the pool** are those that were put into it so far, in the order of their first
use. -/
theorem strings_after (steps : List Step) :
    (start.after steps).pool.strings = (start.requests steps).eraseDups := by
  rw [(pool_after anchored_start steps).2]
  exact StringPool.strings_internAll_empty _

/-- The pool of a state may become that of every later one. -/
theorem grows_after (steps steps' : List Step) :
    (start.after steps).pool.Grows (start.after (steps ++ steps')).pool := by
  rw [after_append, (pool_after (pool_after anchored_start steps).1 steps').2]
  exact StringPool.grows_internAll _ _

/-- **What a stream shows among others** is what it shows when it is drained alone. -/
theorem map_lookup?_of_mem_outcomesAt {steps : List Step} {place : Nat} {c : Capture}
    {domain : TimeDomain} (hopened : (openedBy steps)[place]? = some (c, domain)) {n : Nat}
    {a : StreamAnswer Event} (ha : (outcomesAt place (start.answers steps))[n]? = some a) :
    a.map (EventOf.map (start.after steps).pool.lookup?) =
      ((EventStream.ofCapture c domain).drain .empty).outcome n := by
  have hreplays := after_replays anchored_start replays_start steps
  have hlt : place < (start.after steps).streams.length :=
    hreplays.length_eq ▸ (List.getElem?_eq_some_iff.mp hopened).1
  have hstream := hreplays.replays place c domain _ hopened (List.getElem?_eq_getElem hlt)
  rw [(hstream.shows n a ha).map_lookup?, EventStream.outcome_drain]
  trivial

/-- **Pools and streams in any order.** In every state that can be reached from an empty pool, no
string is in the pool twice, and the strings are those that were put into it so far, in the order of
their first use. They stay the first strings of every later pool. A string has one handle at all
later times, and this leads back to it. Streams that are opened change nothing in the pool as long
as none is asked for an event. What every stream answers, with the strings of its handles, is what
it answers when it is drained alone on an empty pool. -/
theorem pool_and_outcomes (steps : List Step) :
    (start.after steps).pool.strings.Nodup ∧
    (start.after steps).pool.strings = (start.requests steps).eraseDups ∧
    (∀ t, (start.after steps).pool.contains t = true ↔ t ∈ start.requests steps) ∧
    (∀ later, (start.after steps).pool.strings <+: (start.after (steps ++ later)).pool.strings) ∧
    (∀ t later, let handle := ((start.after steps).pool.intern t).1
      let pool := (start.after (steps ++ .intern t :: later)).pool
      pool.intern t = (handle, pool) ∧ pool.lookup? handle = some t) ∧
    (∀ idle : List Step, (∀ step ∈ idle, step.Idle) →
      (start.after (steps ++ idle)).pool = (start.after steps).pool) ∧
    ∀ place c domain, (openedBy steps)[place]? = some (c, domain) →
      ∀ n (a : StreamAnswer Event), (outcomesAt place (start.answers steps))[n]? = some a →
        a.map (EventOf.map (start.after steps).pool.lookup?) =
          ((EventStream.ofCapture c domain).drain .empty).outcome n := by
  refine ⟨StringPool.nodup_strings _, strings_after steps, fun t => ?_, grows_after steps,
    fun t later => ?_, fun idle hidle => ?_, fun place c domain hopened n a ha =>
    map_lookup?_of_mem_outcomesAt hopened ha⟩
  · rw [StringPool.contains_iff_mem, strings_after, List.mem_eraseDups]
  · have hgrows := grows_after (steps ++ [.intern t]) later
    rw [List.append_assoc, List.singleton_append, after_append start steps] at hgrows
    exact ⟨StringPool.Grows.intern_eq hgrows,
      StringPool.Grows.lookup?_eq hgrows (StringPool.lookup?_intern _ t)⟩
  · rw [after_append, (pool_after (pool_after anchored_start steps).1 idle).2,
      requests_eq_nil hidle, StringPool.internAll_nil]

/-- Two streams of one record each, the second of which is asked first. -/
def crossed : List Step :=
  let c : Capture := ⟨[⟨⟨.zero, "GPU", 0, 0, 0, 0, 0⟩, [⟨1, 1, 7, 5, 0⟩]⟩]⟩
  [.adapt c "first" .device, .intern "(event_comm)", .adapt c "second" .device, .advance 1,
    .advance 0, .advance 0]

/-- The stream that is asked last gets the handles that the other one got, and then ends. -/
theorem pool_and_outcomes_crossed :
    (start.after crossed).pool.strings =
        ["(event_comm)", "nvcontext", "(event_usercomm)", "(event_name:ContextSwitchedIn)"] ∧
      outcomesAt 0 (start.answers crossed) = [.event (.ofTexts 7 5 3 1 0 2), .ended] ∧
      StreamAnswer.map (EventOf.map (start.after crossed).pool.lookup?)
          (.event (.ofTexts 7 5 3 1 0 2)) =
        ((EventStream.ofCapture ⟨[⟨⟨.zero, "GPU", 0, 0, 0, 0, 0⟩, [⟨1, 1, 7, 5, 0⟩]⟩]⟩
          .device).drain .empty).outcome 0 := by
  obtain ⟨-, hstrings, -, -, -, -, houtcomes⟩ := pool_and_outcomes crossed
  have hanswers : outcomesAt 0 (start.answers crossed) =
      [.event (.ofTexts 7 5 3 1 0 2), .ended] := by
    decide
  refine ⟨hstrings.trans (by decide), hanswers, houtcomes 0 _ _ rfl 0 _ ?_⟩
  rw [hanswers]
  rfl

end Session

end SwitchTrace

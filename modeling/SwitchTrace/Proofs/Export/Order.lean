import SwitchTrace.Proofs.Export.Origin

/-!
# The order of exported times

The times of a document are the distances of its events from the origin, divided by one number. A
positive number keeps their order, whatever kind of number it is and wherever the quotients are
rounded. An event at the origin is exported at zero and a later one not before it, and divided by
one the distances are kept as they are, as long as the format has them.

## Main definitions

* `Event.IsExportable` — the event has its texts and a time in a document.

## Main results

* `TraceDocument.exists_ofEvents_iff` — the events of which there is a document.
* `TraceDocument.timestamps_inOrder` — the times of a document.
-/

namespace SwitchTrace

/-! ### Events with a time in a document -/

theorem StringPool.get_eq_ok_iff {pool : StringPool} {handle : Int} {s : String} :
    pool.get handle = .ok s ↔ pool.lookup? handle = some s := by
  unfold get
  cases pool.lookup? handle <;> simp

/-- The event can be exported: the pool has its name and its system, and the distance from the
origin has a quotient. -/
structure Event.IsExportable (pool : StringPool) (origin : Int) (d : Number) (e : Event) :
    Prop where
  name : (pool.lookup? e.name).isSome = true
  system : (pool.lookup? e.system).isSome = true
  divides : d.Divides (e.timestamp - origin)

section

variable {info : TimelineInfo} {events : List Event} {pool : StringPool} {origin : Int}
  {divisor : Value} {d : Number} {e : Event}

theorem Event.exists_export_iff (hd : divisor.number? = some d) (hpos : d.IsPositive) :
    (∃ exported, e.export pool origin divisor = .ok exported) ↔ e.IsExportable pool origin d := by
  constructor
  · rintro ⟨exported, h⟩
    obtain ⟨name, category, x, hname, hcategory, hx, -⟩ := (export_eq_ok_iff hd).mp h
    exact
      { name := Option.isSome_iff_exists.mpr ⟨name, StringPool.get_eq_ok_iff.mp hname⟩
        system := Option.isSome_iff_exists.mpr ⟨category, StringPool.get_eq_ok_iff.mp hcategory⟩
        divides := (Number.exists_divide_iff hpos).mp ⟨x, hx⟩ }
  · rintro ⟨hname, hsystem, hdivides⟩
    obtain ⟨name, hname⟩ := Option.isSome_iff_exists.mp hname
    obtain ⟨category, hcategory⟩ := Option.isSome_iff_exists.mp hsystem
    obtain ⟨x, hx⟩ := (Number.exists_divide_iff hpos).mpr hdivides
    exact ⟨_, (export_eq_ok_iff hd).mpr ⟨name, category, x, StringPool.get_eq_ok_iff.mpr hname,
      StringPool.get_eq_ok_iff.mpr hcategory, hx, rfl⟩⟩

namespace TraceDocument

/-- **The events of which there is a document** are those that can be exported one by one. -/
theorem exists_ofEvents_iff (hd : divisor.number? = some d) (hpos : d.IsPositive) :
    (∃ document, ofEvents info events pool divisor = .ok document) ↔
      ∀ e ∈ events, e.IsExportable pool info.origin d := by
  constructor
  · rintro ⟨document, h⟩ e he
    obtain ⟨exported, -, hexported⟩ :=
      exists_of_mem_forall₂ (forall₂_export_of_ofEvents h).flip e he
    exact (Event.exists_export_iff hd hpos).mp ⟨exported, hexported⟩
  · intro h
    have hexport := fun e he => (Event.exists_export_iff hd hpos).mpr (h e he)
    obtain ⟨exported, hexported⟩ := exists_forall₂_of_forall hexport
    exact ⟨_, ofEvents_of_forall₂ hd hpos.1 hexported⟩

/-- **The times of a document.** There is a document just of events that can be exported, and it has
one event for each. A positive divisor keeps their order, gives zero for an event at the origin and
nothing negative for one after it. Divided by one, distances up to `2 ^ 53` are exported as they
are. -/
theorem timestamps_inOrder (hd : divisor.number? = some d) (hpos : d.IsPositive) :
    ((∃ document, ofEvents info events pool divisor = .ok document) ↔
      ∀ e ∈ events, e.IsExportable pool info.origin d) ∧
    ∀ document, ofEvents info events pool divisor = .ok document →
      document.events.length = events.length ∧
      ∀ p ∈ events.zip document.events,
        (∀ q ∈ events.zip document.events, p.1.timestamp ≤ q.1.timestamp →
          p.2.timestamp.AtMost q.2.timestamp) ∧
        (p.1.timestamp = info.origin → p.2.timestamp = .zero false) ∧
        (info.origin ≤ p.1.timestamp → p.2.timestamp.IsNonnegative) ∧
        (d = .whole 1 ∨ d = .float .one → (p.1.timestamp - info.origin).natAbs ≤ power 2 53 →
          p.2.timestamp.equalsInt (p.1.timestamp - info.origin) = true) := by
  refine ⟨exists_ofEvents_iff hd hpos, fun document h => ?_⟩
  obtain ⟨hlength, hexport⟩ := List.forall₂_iff_zip.mp (forall₂_export_of_ofEvents h)
  have hdivide : ∀ p ∈ events.zip document.events,
      d.divide (p.1.timestamp - info.origin) = .ok p.2.timestamp :=
    fun p hp => Event.divide_of_export hd (hexport hp)
  refine ⟨hlength.symm, fun p hp => ⟨fun q hq hle => ?_, fun hzero => ?_, fun hle => ?_,
    fun hone hsmall => ?_⟩⟩
  · exact Number.divide_mono hpos (Int.sub_le_sub_right hle info.origin) (hdivide p hp)
      (hdivide q hq)
  · have hx := hdivide p hp
    rw [hzero, Int.sub_self, Number.divide_zero hpos] at hx
    exact (Except.ok.inj hx).symm
  · exact Number.isNonnegative_divide hpos (Int.sub_nonneg.mpr hle) (hdivide p hp)
  · obtain ⟨x, hx, hvalue⟩ := Number.exists_divide_one hone hsmall
    obtain rfl := Except.ok.inj (hx.symm.trans (hdivide p hp))
    exact hvalue

/-- A timeline whose origin is 5. -/
def fromFive : TimelineInfo := ⟨"", false, 0, "", 5⟩

/-- An event at the origin, one before it, and one `2 ^ 53` after it. -/
def aroundFive : List Event :=
  [.ofTexts 1 5 0 0 0 0, .ofTexts 1 (-3) 0 0 0 0, .ofTexts 1 9007199254740997 0 0 0 0]

/-- A pool of one string. -/
def onePool : StringPool := (StringPool.empty.intern "event").2

theorem isExportable_of_mem_aroundFive :
    ∀ e ∈ aroundFive, e.IsExportable onePool 5 (.whole 1) := by
  simp only [aroundFive, List.forall_mem_cons]
  exact ⟨⟨by decide, by decide, by decide +kernel⟩, ⟨by decide, by decide, by decide +kernel⟩,
    ⟨by decide, by decide, by decide +kernel⟩, List.forall_mem_nil _⟩

/-- Divided by one, the three distances are exported as they are. -/
theorem timestamps_inOrder_aroundFive : ∃ document,
    ofEvents fromFive aroundFive onePool (.int 1) = .ok document ∧
      document.events.length = 3 ∧ ∀ p ∈ aroundFive.zip document.events,
        p.2.timestamp.equalsInt (p.1.timestamp - 5) = true := by
  obtain ⟨hexists, htimes⟩ := @timestamps_inOrder fromFive aroundFive onePool (.int 1) _ rfl
    (⟨by decide, nofun⟩ : (Number.whole 1).IsPositive)
  obtain ⟨document, hdocument⟩ := hexists.mpr isExportable_of_mem_aroundFive
  obtain ⟨hlength, hpairs⟩ := htimes document hdocument
  refine ⟨document, hdocument, hlength, fun p hp => ?_⟩
  have hsmall : ∀ e ∈ aroundFive, (e.timestamp - 5).natAbs ≤ power 2 53 := by decide
  exact (hpairs p hp).2.2.2 (.inl rfl) (hsmall p.1 (List.of_mem_zip hp).1)

end TraceDocument

end

end SwitchTrace

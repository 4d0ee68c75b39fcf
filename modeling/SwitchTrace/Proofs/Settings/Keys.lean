import Mathlib.Data.List.Find
import SwitchTrace.Settings.Basic

/-!
# Keys of settings

Plain data are read into settings at two places. A section takes the entries of its mapping one
after the other and refuses a key that it does not define. The mapping of all sections is only
looked up at the keys of the version and of the sections, so that another key there is dropped
without a word, and with it all settings under a misspelled name of a section.

A key is defined by a section, or by the settings, if their defaults have it.

## Main definitions

* `Mapping.Has` — a mapping has a key.
* `Section.defaults` — the section that data without entries stand for.
* `Section.Reads`, `Section.Refuses` — what becomes of the data at the key of a section.
* `Settings.KeepsKeys` — no key of the data is dropped.

## Main results

* `Settings.readSection_cases` — the data of a section are read or refused.
* `Settings.ofValue_cases`, `Settings.exists_ofValue_eq_error_iff` — plain data are refused for the
  data of one section, or every section is read.
* `Settings.ofValue_filter_has` — keys that the settings do not define do not count.
* `Settings.ofValue_keys` — which keys of plain data are refused, which are kept and which dropped.
-/

namespace SwitchTrace

/-! ### Keys of mappings -/

theorem Scalar.sameKey_text_iff {a : Scalar} {key : String} :
    a.sameKey (.text key) = true ↔ a = .text key := by
  cases a <;> simp [sameKey, wholeNumber?]

theorem Scalar.text_sameKey_iff {a : Scalar} {key : String} :
    (Scalar.text key).sameKey a = true ↔ a = .text key := by
  rw [eq_comm (a := a)]
  cases a <;> simp [sameKey, wholeNumber?]

namespace Mapping

variable {m : Mapping} {key : Scalar} {v : Value}

/-- The mapping has a value at the key. -/
def Has (m : Mapping) (key : Scalar) : Prop := (m.get? key).isSome = true

instance (m : Mapping) (key : Scalar) : Decidable (m.Has key) :=
  inferInstanceAs (Decidable (_ = true))

/-- Which keys a mapping has does not depend on its values. -/
theorem has_iff : m.Has key ↔ ∃ k ∈ m.map Prod.fst, k.sameKey key = true := by
  simp [Has, get?, List.find?_isSome]

/-- The mapping with the entries of another one put into it, one after the other. -/
def update (m given : Mapping) : Mapping := given.foldl (fun m e => m.put e.1 e.2) m

/-- A value at a key that is there changes no key. -/
theorem keys_put (h : m.Has key) : (m.put key v).map Prod.fst = m.map Prod.fst := by
  rw [has_iff] at h
  induction m with
  | nil => simp at h
  | cons e rest ih =>
    rw [put]
    split
    · rfl
    · next hne =>
      obtain ⟨k, hk, hsame⟩ := h
      obtain rfl | hrest := List.mem_cons.mp hk
      · exact absurd hsame hne
      · rw [List.map_cons, List.map_cons, ih ⟨k, hrest, hsame⟩]

/-- A mapping that only gets values at its own keys keeps its keys. -/
theorem has_update {given : Mapping} (h : ∀ e ∈ given, m.Has e.1) :
    (m.update given).Has key ↔ m.Has key := by
  suffices hkeys : (m.update given).map Prod.fst = m.map Prod.fst by
    rw [has_iff, has_iff, hkeys]
  induction given generalizing m with
  | nil => rfl
  | cons e given ih =>
    have hput := keys_put (v := e.2) (h e List.mem_cons_self)
    rw [← hput]
    refine ih fun e' he' => ?_
    rw [has_iff, hput, ← has_iff]
    exact h e' (List.mem_cons_of_mem e he')

/-- Entries without a key do not count when it is looked up. -/
theorem get?_filter {p : Scalar × Value → Bool}
    (h : ∀ e ∈ m, e.1.sameKey key = true → p e = true) :
    Mapping.get? (m.filter p) key = m.get? key := by
  rw [get?, get?, List.find?_filter]
  congr 1
  refine List.find?_congr fun e he => ?_
  cases hsame : e.1.sameKey key with
  | false => simp
  | true => simp [h e he hsame]

end Mapping

/-! ### One section -/

/-- The plain data of a section. -/
def Settings.sectionMapping (s : Settings) : Section → Mapping
  | .timestamps => s.timestamps.toMapping
  | .output => s.output.toMapping
  | .exporting => s.exporting.toMapping
  | .logging => s.logging.toMapping

namespace Section

variable {part : Section} {σ : Type} {set? : σ → String → Value → Option σ}
  {toMapping : σ → Mapping}

/-- The section that data without entries stand for. -/
def defaults (part : Section) : Mapping := Settings.sectionMapping {} part

/-- What the data at the key of a section are read into. Data that count as false, and no data, are
an empty mapping; all keys of a mapping are keys that the section defines. -/
inductive Reads (part : Section) : Option Value → Mapping → Prop
  | empty {data : Option Value} (h : ∀ v ∈ data, v.isTruthy = false) : Reads part data part.defaults
  | given {inner : Mapping} (h : ∀ e ∈ inner, part.defaults.Has e.1) :
    Reads part (some (.map inner)) (part.defaults.update inner)

/-- Why the data at the key of a section are refused. -/
inductive Refuses (part : Section) : Value → SettingsFault → Prop
  | sectionNotAMapping {data : Value} (h : data.isTruthy = true) (h' : ∀ inner, data ≠ .map inner) :
    Refuses part data (.sectionNotAMapping part data)
  | keyNotText {inner : Mapping} {e : Scalar × Value} (h : e ∈ inner)
    (h' : ∀ key, e.1 ≠ .text key) : Refuses part (.map inner) .keyNotText
  | unknownKey {inner : Mapping} {key : String} {v : Value} (h : entry key v ∈ inner)
    (h' : ¬ part.defaults.Has (.text key)) : Refuses part (.map inner) (.unknownKey part key)
  | selfKey {inner : Mapping} {v : Value} (h : entry selfWord v ∈ inner) :
    Refuses part (.map inner) (.selfKey part)

/-- All keys that a section defines are texts. -/
theorem exists_text_of_has {key : Scalar} (h : part.defaults.Has key) : ∃ s, key = .text s := by
  obtain ⟨k, hk, hsame⟩ := Mapping.has_iff.mp h
  have htext : ∀ k ∈ part.defaults.map Prod.fst, ∃ s, k = .text s := by
    cases part <;> simp [defaults, Settings.sectionMapping, TimestampSettings.toMapping,
      OutputSettings.toMapping, ExportSettings.toMapping, LoggingSettings.toMapping, entry]
  obtain ⟨s, rfl⟩ := htext k hk
  exact ⟨s, Scalar.text_sameKey_iff.mp hsame⟩

/-- No section defines the key that names the section itself. -/
theorem not_has_selfWord (part : Section) : ¬ part.defaults.Has (.text selfWord) := by
  cases part <;> decide

/-- Whatever is read, the section keeps its keys. -/
theorem Reads.has_iff {data : Option Value} {out : Mapping} {key : Scalar}
    (h : part.Reads data out) : out.Has key ↔ part.defaults.Has key := by
  cases h with
  | empty h => rfl
  | given h => exact Mapping.has_update h

/-- The keys of a mapping that is read are keys of the section. -/
theorem Reads.defaults_has {inner out : Mapping} (h : part.Reads (some (.map inner)) out) :
    ∀ e ∈ inner, part.defaults.Has e.1 := by
  cases h with
  | empty h =>
    have hnil : inner = [] := by simpa [Value.isTruthy] using h
    simp [hnil]
  | given h => exact h

/-- Data that are refused are not read. -/
theorem Refuses.not_reads {data : Value} {f : SettingsFault} {out : Mapping}
    (h : part.Refuses data f) : ¬ part.Reads (some data) out := by
  intro hreads
  cases h with
  | sectionNotAMapping htruthy hmap =>
    cases hreads with
    | empty hempty => simp [hempty data rfl] at htruthy
    | given _ => exact hmap _ rfl
  | keyNotText he htext =>
    obtain ⟨key, hkey⟩ := exists_text_of_has (hreads.defaults_has _ he)
    exact htext key hkey
  | unknownKey he hkey => exact hkey (hreads.defaults_has _ he)
  | selfKey he => exact part.not_has_selfWord (hreads.defaults_has _ he)

/-- Setting a value of a section is putting it into the plain data, at the keys that these have. -/
def Sets (set? : σ → String → Value → Option σ) (toMapping : σ → Mapping) : Prop :=
  ∀ s key v, (set? s key v).map toMapping =
    if (toMapping s).Has (.text key) then some ((toMapping s).put (.text key) v) else none

end Section

theorem TimestampSettings.sets : Section.Sets set? toMapping := by
  intro s key v
  unfold set?
  split
  · rfl
  · next h => simp [toMapping, entry, Mapping.Has, Mapping.get?, Scalar.sameKey_text_iff, Ne.symm h]

theorem OutputSettings.sets : Section.Sets set? toMapping := by
  intro s key v
  unfold set?
  split
  · rfl
  · rfl
  · next h h' =>
    simp [toMapping, entry, Mapping.Has, Mapping.get?, Scalar.sameKey_text_iff, Ne.symm h,
      Ne.symm h']

theorem ExportSettings.sets : Section.Sets set? toMapping := by
  intro s key v
  unfold set?
  split
  · rfl
  · rfl
  · next h h' =>
    simp [toMapping, entry, Mapping.Has, Mapping.get?, Scalar.sameKey_text_iff, Ne.symm h,
      Ne.symm h']

theorem LoggingSettings.sets : Section.Sets set? toMapping := by
  intro s key v
  unfold set?
  split
  · rfl
  · next h => simp [toMapping, entry, Mapping.Has, Mapping.get?, Scalar.sameKey_text_iff, Ne.symm h]

namespace Settings

section Reading

variable {part : Section} {σ : Type} {set? : σ → String → Value → Option σ}
  {toMapping : σ → Mapping}

/-- The keys of a mapping are texts, or one of them is not. -/
theorem textKeys_cases (entries : Mapping) :
    (∃ texts, textKeys entries = .ok texts ∧ entries = texts.map fun e => entry e.1 e.2) ∨
      textKeys entries = .error .keyNotText ∧ ∃ e ∈ entries, ∀ key, e.1 ≠ .text key := by
  induction entries with
  | nil => exact .inl ⟨[], rfl, rfl⟩
  | cons e entries ih =>
    obtain ⟨key, v⟩ := e
    cases key with
    | text key =>
      rcases ih with ⟨texts, htexts, rfl⟩ | ⟨hfault, e, he, hkey⟩
      · refine .inl ⟨(key, v) :: texts, ?_, rfl⟩
        rw [textKeys] at htexts ⊢
        rw [List.mapM_cons, htexts]
        rfl
      · refine .inr ⟨?_, e, List.mem_cons_of_mem _ he, hkey⟩
        rw [textKeys] at hfault ⊢
        rw [List.mapM_cons, hfault]
        rfl
    | _ => exact .inr ⟨rfl, _, List.mem_cons_self, by simp⟩

/-- One value after the other is put into a section, up to the first key that it does not define. -/
theorem setAll_cases (part : Section) (hsets : Section.Sets set? toMapping) (s : σ)
    (texts : List (String × Value)) :
    (∃ s', setAll part set? s texts = .ok s' ∧ (∀ e ∈ texts, (toMapping s).Has (.text e.1)) ∧
      toMapping s' = (toMapping s).update (texts.map fun e => entry e.1 e.2)) ∨
    ∃ e ∈ texts, ¬ (toMapping s).Has (.text e.1) ∧
      setAll part set? s texts =
        .error (if e.1 = selfWord then .selfKey part else .unknownKey part e.1) := by
  induction texts generalizing s with
  | nil => exact .inl ⟨s, rfl, by simp, rfl⟩
  | cons e texts ih =>
    have hset := hsets s e.1 e.2
    rw [setAll, List.foldlM_cons]
    cases hs : set? s e.1 e.2 with
    | none =>
      have hhas : ¬ (toMapping s).Has (.text e.1) := fun h => by simp [hs, h] at hset
      exact .inr ⟨e, List.mem_cons_self, hhas, rfl⟩
    | some s' =>
      have hhas : (toMapping s).Has (.text e.1) := by
        by_contra h
        simp [hs, h] at hset
      have hput : toMapping s' = (toMapping s).put (.text e.1) e.2 := by
        simpa [hs, hhas] using hset
      -- The other keys are looked up in the changed section, which has the same ones.
      have hkeys (key : Scalar) : (toMapping s').Has key ↔ (toMapping s).Has key := by
        rw [hput, Mapping.has_iff, Mapping.keys_put hhas, ← Mapping.has_iff]
      rcases ih s' with ⟨s'', hok, hall, hmap⟩ | ⟨e', he', hhas', hfault⟩
      · refine .inl ⟨s'', hok, ?_, by rw [hmap, hput]; rfl⟩
        rw [List.forall_mem_cons]
        exact ⟨hhas, fun e' he' => (hkeys _).mp (hall e' he')⟩
      · exact .inr ⟨e', List.mem_cons_of_mem e he', fun h => hhas' ((hkeys _).mpr h), hfault⟩

/-- A fault of setting values is a reason to refuse the mapping that they come from. -/
theorem refuses_of_not_has {inner : Mapping} {key : String} {v : Value} (h : entry key v ∈ inner)
    (h' : ¬ part.defaults.Has (.text key)) :
    part.Refuses (.map inner) (if key = selfWord then .selfKey part else .unknownKey part key) := by
  split
  · next hself => exact .selfKey (hself ▸ h)
  · exact .unknownKey h h'

/-- A mapping is put into a section, or it is refused. -/
theorem setEntries_cases (hsets : Section.Sets set? toMapping) {s : σ}
    (hdefaults : toMapping s = part.defaults) (inner : Mapping) :
    (∃ s', (do setAll part set? s (← textKeys inner)) = .ok s' ∧
      part.Reads (some (.map inner)) (toMapping s')) ∨
    ∃ f, (do setAll part set? s (← textKeys inner)) = .error f ∧ part.Refuses (.map inner) f := by
  rcases textKeys_cases inner with ⟨texts, htexts, rfl⟩ | ⟨hfault, e, he, hkey⟩
  · rw [htexts]
    rcases setAll_cases part hsets s texts with ⟨s', hok, hall, hmap⟩ | ⟨e, he, hhas, hfault⟩
    · refine .inl ⟨s', hok, ?_⟩
      rw [hmap, hdefaults]
      rw [hdefaults] at hall
      exact .given (List.forall_mem_map.mpr hall)
    · rw [hdefaults] at hhas
      exact .inr ⟨_, hfault, refuses_of_not_has (List.mem_map.mpr ⟨e, he, rfl⟩) hhas⟩
  · rw [hfault]
    exact .inr ⟨_, rfl, .keyNotText he hkey⟩

/-- The data of a section are read or refused. -/
theorem readSection_cases (part : Section) (hsets : Section.Sets set? toMapping) {s : σ}
    (hdefaults : toMapping s = part.defaults) (entries : Mapping) :
    (∃ s', readSection part set? s entries = .ok s' ∧
      part.Reads (Mapping.get? entries (.text part.key)) (toMapping s')) ∨
    ∃ f data, readSection part set? s entries = .error f ∧
      Mapping.get? entries (.text part.key) = some data ∧ part.Refuses data f := by
  unfold readSection
  cases hdata : Mapping.get? entries (.text part.key) with
  | none => exact .inl ⟨s, rfl, hdefaults ▸ .empty (by simp)⟩
  | some data =>
    cases htruthy : data.isTruthy with
    | false => exact .inl ⟨s, by simp [htruthy], hdefaults ▸ .empty (by simp [htruthy])⟩
    | true =>
      simp only [htruthy, ↓reduceIte, Option.some.injEq]
      cases data with
      | map inner =>
        rcases setEntries_cases hsets hdefaults inner with h | ⟨f, hfault, hrefuses⟩
        · exact .inl h
        · exact .inr ⟨f, _, hfault, rfl, hrefuses⟩
      | _ => exact .inr ⟨_, _, rfl, rfl, .sectionNotAMapping htruthy (by simp)⟩

end Reading

/-! ### All sections -/

/-- The plain data of settings have the plain data of every section. -/
theorem get?_toMapping (s : Settings) (part : Section) :
    Mapping.get? s.toMapping (.text part.key) = some (.map (s.sectionMapping part)) := by
  cases part <;> rfl

/-- All settings have the same keys. -/
theorem has_toMapping_iff (s : Settings) (key : Scalar) :
    Mapping.Has s.toMapping key ↔ Mapping.Has (toMapping {}) key := by
  simp only [Mapping.has_iff, toMapping, List.map_cons, List.map_nil, entry]

/-- Plain data are refused for the data of one section, or every section is read. -/
theorem ofValue_cases (entries : Mapping) :
    (∃ s, ofValue (.map entries) = .ok s ∧
      ∀ part, Section.Reads part (Mapping.get? entries (.text part.key)) (s.sectionMapping part)) ∨
    ∃ f part data, ofValue (.map entries) = .error f ∧
      Mapping.get? entries (.text (Section.key part)) = some data ∧ part.Refuses data f := by
  -- The sections are read one after the other, and the first that is refused ends it.
  simp only [ofValue]
  rcases readSection_cases .timestamps TimestampSettings.sets rfl entries with
    ⟨timestamps, htimestamps, hreadsT⟩ | ⟨f, data, hfault, hdata, hrefuses⟩
  swap
  · exact .inr ⟨f, _, data, by rw [hfault]; rfl, hdata, hrefuses⟩
  rcases readSection_cases .output OutputSettings.sets rfl entries with
    ⟨output, houtput, hreadsO⟩ | ⟨f, data, hfault, hdata, hrefuses⟩
  swap
  · exact .inr ⟨f, _, data, by rw [htimestamps, hfault]; rfl, hdata, hrefuses⟩
  rcases readSection_cases .exporting ExportSettings.sets rfl entries with
    ⟨exporting, hexporting, hreadsE⟩ | ⟨f, data, hfault, hdata, hrefuses⟩
  swap
  · exact .inr ⟨f, _, data, by rw [htimestamps, houtput, hfault]; rfl, hdata, hrefuses⟩
  rcases readSection_cases .logging LoggingSettings.sets rfl entries with
    ⟨logging, hlogging, hreadsL⟩ | ⟨f, data, hfault, hdata, hrefuses⟩
  swap
  · exact .inr ⟨f, _, data, by rw [htimestamps, houtput, hexporting, hfault]; rfl, hdata, hrefuses⟩
  refine .inl ⟨_, by rw [htimestamps, houtput, hexporting, hlogging]; rfl, fun part => ?_⟩
  cases part with
  | timestamps => exact hreadsT
  | output => exact hreadsO
  | exporting => exact hreadsE
  | logging => exact hreadsL

/-- Data are refused exactly if the data of a section are. -/
theorem exists_ofValue_eq_error_iff (entries : Mapping) :
    (∃ f, ofValue (.map entries) = .error f) ↔ ∃ part data f,
      Mapping.get? entries (.text (Section.key part)) = some data ∧ part.Refuses data f := by
  rcases ofValue_cases entries with ⟨s, hok, hreads⟩ | ⟨f, part, data, hfault, hdata, hrefuses⟩
  · refine iff_of_false (by simp [hok]) ?_
    rintro ⟨part, data, f, hdata, hrefuses⟩
    exact hrefuses.not_reads (hdata ▸ hreads part)
  · exact iff_of_true ⟨f, hfault⟩ ⟨part, data, f, hdata, hrefuses⟩

/-- Keys that the settings do not define do not count. -/
theorem ofValue_filter_has (entries : Mapping) :
    ofValue (.map (entries.filter fun e => Mapping.Has (toMapping {}) e.1)) =
      ofValue (.map entries) := by
  -- Only texts are looked up, and an entry that is found at a text has this text as its key.
  have hget (key : String) (h : Mapping.Has (toMapping {}) (.text key)) :
      Mapping.get? (entries.filter fun e => Mapping.Has (toMapping {}) e.1) (.text key) =
        Mapping.get? entries (.text key) := by
    refine Mapping.get?_filter fun e _ hsame => ?_
    rw [Scalar.sameKey_text_iff.mp hsame]
    exact decide_eq_true h
  have hsection (part : Section) := hget part.key (by cases part <;> decide)
  simp only [ofValue, readSection, hsection, hget "version" (by decide)]

/-- No key of the data is dropped: the plain data of the settings have each key of the data, and
each key of the mapping of a section, at the same place. -/
structure KeepsKeys (s : Settings) (entries : Mapping) : Prop where
  top : ∀ e ∈ entries, Mapping.Has s.toMapping e.1
  sections : ∀ part inner,
    Mapping.get? entries (.text (Section.key part)) = some (.map inner) →
      ∃ out, Mapping.get? s.toMapping (.text part.key) = some (.map out) ∧
        ∀ e ∈ inner, Mapping.Has out e.1

/-- No key is dropped exactly if the settings define all keys beside the sections: those of the
sections are never dropped. -/
theorem keepsKeys_iff {s : Settings} {entries : Mapping}
    (h : ∀ part, Section.Reads part (Mapping.get? entries (.text part.key))
      (s.sectionMapping part)) :
    s.KeepsKeys entries ↔ ∀ e ∈ entries, Mapping.Has (toMapping {}) e.1 := by
  constructor
  · exact fun hkeeps e he => (s.has_toMapping_iff e.1).mp (hkeeps.top e he)
  · refine fun htop => ⟨fun e he => (s.has_toMapping_iff e.1).mpr (htop e he), ?_⟩
    intro part inner hinner
    have hreads := h part
    rw [hinner] at hreads
    refine ⟨_, s.get?_toMapping part, fun e he => ?_⟩
    exact hreads.has_iff.mpr (hreads.defaults_has e he)

/-- **A misspelled key is refused in a section and dropped beside the sections.** A mapping with a
key that its section does not define is refused; a fault is always about the data of one section;
what is not refused is read, every key of a section with its value. At the top a key that the
settings do not define changes nothing, so that no key is dropped exactly if all keys at the top are
defined. -/
theorem ofValue_keys (entries : Mapping) :
    (∀ part inner, Mapping.get? entries (.text (Section.key part)) = some (.map inner) →
      (∃ e ∈ inner, ¬ part.defaults.Has e.1) → ∃ f, ofValue (.map entries) = .error f) ∧
    (∀ f, ofValue (.map entries) = .error f → ∃ part data,
      Mapping.get? entries (.text (Section.key part)) = some data ∧ part.Refuses data f) ∧
    (∀ s, ofValue (.map entries) = .ok s →
      (∀ part, Section.Reads part (Mapping.get? entries (.text part.key))
        (s.sectionMapping part)) ∧
      (s.KeepsKeys entries ↔ ∀ e ∈ entries, Mapping.Has (toMapping {}) e.1)) ∧
    ofValue (.map (entries.filter fun e => Mapping.Has (toMapping {}) e.1)) =
      ofValue (.map entries) := by
  refine ⟨?_, ?_, ?_, ofValue_filter_has entries⟩
  · rintro part inner hinner ⟨e, he, hkey⟩
    rcases ofValue_cases entries with ⟨s, -, hreads⟩ | ⟨f, -, -, hfault, -⟩
    · have hreads := hreads part
      rw [hinner] at hreads
      exact absurd (hreads.defaults_has e he) hkey
    · exact ⟨f, hfault⟩
  · intro f hf
    rcases ofValue_cases entries with ⟨s, hok, -⟩ | ⟨f', part, data, hfault, hdata, hrefuses⟩
    · cases hf.symm.trans hok
    · cases hf.symm.trans hfault
      exact ⟨part, data, hdata, hrefuses⟩
  · intro s hs
    rcases ofValue_cases entries with ⟨s', hok, hreads⟩ | ⟨f, -, -, hfault, -⟩
    · cases hs.symm.trans hok
      exact ⟨hreads, keepsKeys_iff hreads⟩
    · cases hs.symm.trans hfault

/-- A divisor under a key of its section that is misspelled is refused. -/
theorem ofValue_keys_misspelledKey :
    ∃ f, ofValue (.map [entry "export" (.map [entry "time_divsor" (.int 1000)])]) = .error f :=
  (ofValue_keys [entry "export" (.map [entry "time_divsor" (.int 1000)])]).1 .exporting _ rfl
    ⟨_, List.mem_cons_self, by decide⟩

/-- A section with a divisor, its name misspelled. -/
def misspelledSection : Mapping := [entry "exprot" (.map [entry "time_divisor" (.int 1000)])]

/-- The section is dropped without a fault, and the divisor is the default one. -/
theorem not_keepsKeys_misspelledSection :
    ofValue (.map misspelledSection) = .ok {} ∧ ¬ KeepsKeys {} misspelledSection := by
  refine ⟨rfl, fun h => ?_⟩
  have hkey := h.top _ List.mem_cons_self
  exact absurd hkey (by decide)

end Settings

end SwitchTrace

import SwitchTrace.Proofs.Export.JsonNumber
import SwitchTrace.Proofs.Text.Numeral

/-!
# Texts of values are documents

Laid out with blanks, the text of a value of which all numbers are finite is a document of the
grammar. The text of any other value is not: the words for the numbers that are not finite stand
outside quotes in it, with capital letters that no document has there.

## Main definitions

* `JsonValue.isFinite` — all numbers in a value are finite.
* `JsonLayout.IsBlank` — a layout of white space.

## Main results

* `JsonValue.isDocument_render_iff` — the values whose texts are documents.
-/

namespace SwitchTrace

/-! ### Texts in quotes -/

namespace Json

theorem IsBody.append {cs cs' : List Char} (h : IsBody cs) (h' : IsBody cs') :
    IsBody (cs ++ cs') := by
  induction h with
  | nil => exact h'
  | cons hunit _ ih =>
    rw [List.append_assoc]
    exact .cons hunit ih

theorem IsUnit.isBody {cs : List Char} (h : IsUnit cs) : IsBody cs := by
  have hbody := IsBody.cons h .nil
  rwa [List.append_nil] at hbody

theorem isBody_flatMap {α : Type} {f : α → List Char} {as : List α}
    (h : ∀ a ∈ as, IsBody (f a)) : IsBody (as.flatMap f) := by
  induction as with
  | nil => exact .nil
  | cons a as ih =>
    rw [List.flatMap_cons]
    exact (h a List.mem_cons_self).append (ih fun a' ha' => h a' (List.mem_cons_of_mem a ha'))

theorem isHexDigit_digitChar {d : Nat} (hd : d < 16) : IsHexDigit d.digitChar := by
  revert d
  unfold IsHexDigit
  decide

theorem isHexDigit_of_mem_toDigits {n : Nat} {c : Char} (hc : c ∈ Nat.toDigits 16 n) :
    IsHexDigit c :=
  forall_mem_toDigits (P := IsHexDigit) (by decide) (fun _ hd => isHexDigit_digitChar hd) n c hc

/-- A number of sixteen bits in four digits stands for one unit. -/
theorem isUnit_hexNat {n : Nat} (hn : n < 0x10000) :
    IsUnit ("\\u" ++ Pad.hexNat 4 n).toList := by
  have hlength : (Nat.toDigits 16 n).length ≤ 4 :=
    (Nat.length_toDigits_le_iff (by decide) (by decide)).mpr hn
  have hescape : ("\\u" ++ Pad.hexNat 4 n).toList = '\\' :: 'u' ::
      (List.replicate (4 - (Nat.toDigits 16 n).length) '0' ++ Nat.toDigits 16 n) := by
    simp [Pad.hexNat, Pad.leftWith, Pad.hexDigits]
  rw [hescape]
  refine .unicode ?_ fun d hd => ?_
  · rw [List.length_append, List.length_replicate]
    omega
  · rcases List.mem_append.mp hd with hd | hd
    · rw [(List.mem_replicate.mp hd).2]
      exact isHexDigit_digitChar (by decide : 0 < 16)
    · exact isHexDigit_of_mem_toDigits hd

theorem lt_of_mem_units16 {c : Char} {n : Nat} (hn : n ∈ JsonValue.units16 c) : n < 0x10000 := by
  have hc : c.toNat < 0x110000 := by
    rcases c.valid with hlow | ⟨-, hhigh⟩
    · exact Nat.lt_trans hlow (by decide)
    · exact hhigh
  unfold JsonValue.units16 at hn
  split at hn
  · rw [List.mem_singleton.mp hn]
    assumption
  · simp only [List.mem_cons, List.not_mem_nil, or_false] at hn
    omega

theorem isBody_escapeChar (c : Char) : IsBody (JsonValue.escapeChar c).toList := by
  unfold JsonValue.escapeChar
  iterate 7
    split
    · exact (IsUnit.escape (by decide)).isBody
  split
  · next hquote hslash _ _ _ _ _ hplain =>
    rw [String.toList_singleton]
    exact (IsUnit.plain hplain.1 hquote hslash).isBody
  · rw [String.toList_join]
    refine isBody_flatMap fun t ht => ?_
    obtain ⟨n, hn, rfl⟩ := List.mem_map.mp ht
    exact (isUnit_hexNat (lt_of_mem_units16 hn)).isBody

/-- A text in quotes is one. -/
theorem isQuoted_quoted (s : String) : IsQuoted (JsonValue.quoted s).toList := by
  have hbody : IsBody ((s.toList.map JsonValue.escapeChar).flatMap String.toList) :=
    isBody_flatMap fun t ht => by
      obtain ⟨c, -, rfl⟩ := List.mem_map.mp ht
      exact isBody_escapeChar c
  rw [JsonValue.quoted, String.toList_append, String.toList_append, String.toList_join]
  exact .mk hbody

/-! ### Words -/

/-- The text of a number of the format has letters of the words for those that are not finite just
if the number is one of them. -/
theorem sounds_render (x : Binary64) :
    Sounds (FloatStyle.json.render x).toList x.isFinite := by
  match x with
  | .nan => exact sounds_self (by decide)
  | .infinity false => exact sounds_self (by decide)
  | .infinity true => exact sounds_self (by decide)
  | .finite negative m => exact (isNumber_render (x := .finite negative m) rfl).quiet

end Json

/-! ### Layouts -/

namespace JsonLayout

/-- All that a layout puts between the parts of a text, commas apart, is white space. -/
def IsBlank : JsonLayout → Prop
  | .oneLine => True
  | .lines indent => Json.IsBlank indent.toList

variable {layout : JsonLayout}

theorem IsBlank.newline (h : layout.IsBlank) (depth : Nat) :
    Json.IsBlank (layout.newline depth).toList := by
  cases layout with
  | oneLine => exact fun c hc => absurd hc List.not_mem_nil
  | lines indent =>
    intro c hc
    rw [JsonLayout.newline, String.toList_append, String.toList_join] at hc
    rcases List.mem_append.mp hc with hc | hc
    · rw [List.mem_singleton.mp hc]
      decide
    · obtain ⟨s, hs, hc⟩ := List.mem_flatMap.mp hc
      rw [(List.mem_replicate.mp hs).2] at hc
      exact h c hc

theorem IsBlank.separator (h : layout.IsBlank) (depth : Nat) :
    ∃ b, Json.IsBlank b ∧ (layout.separator depth).toList = ',' :: b := by
  cases layout with
  | oneLine => exact ⟨[' '], by decide, by simp [JsonLayout.separator]⟩
  | lines indent =>
    refine ⟨_, h.newline depth, ?_⟩
    rw [JsonLayout.separator, String.toList_append]
    rfl

end JsonLayout

/-! ### Values -/

namespace JsonValue

open Json

mutual

/-- All numbers in the value are finite. -/
def isFinite : JsonValue → Bool
  | .text _ => true
  | .int _ => true
  | .float x => x.isFinite
  | .list items => areFinite items
  | .object members => membersFinite members

/-- All numbers in the values are finite. -/
def areFinite : List JsonValue → Bool
  | [] => true
  | v :: rest => v.isFinite && areFinite rest

/-- All numbers in the members are finite. -/
def membersFinite : List (String × JsonValue) → Bool
  | [] => true
  | (_, v) :: rest => v.isFinite && membersFinite rest

end

variable {layout : JsonLayout}

theorem toList_renderAt_list (layout : JsonLayout) (depth : Nat) (v : JsonValue)
    (rest : List JsonValue) : (renderAt layout depth (.list (v :: rest))).toList =
      '[' :: ((layout.newline (depth + 1)).toList ++ ((renderAt layout (depth + 1) v).toList ++
        ((renderItems layout (depth + 1) rest).toList ++ (layout.newline depth).toList)) ++
          [']']) := by
  simp [renderAt]

theorem toList_renderAt_object (layout : JsonLayout) (depth : Nat) (key : String) (v : JsonValue)
    (rest : List (String × JsonValue)) :
    (renderAt layout depth (.object ((key, v) :: rest))).toList =
      '\x7b' :: ((layout.newline (depth + 1)).toList ++ ((quoted key).toList ++
        (':' :: ' ' :: ((renderAt layout (depth + 1) v).toList ++
          ((renderMembers layout (depth + 1) rest).toList ++ (layout.newline depth).toList)))) ++
            ['\x7d']) := by
  simp [renderAt]

theorem toList_renderItems_cons (layout : JsonLayout) (depth : Nat) (v : JsonValue)
    (rest : List JsonValue) : (renderItems layout depth (v :: rest)).toList =
      (layout.separator depth).toList ++ ((renderAt layout depth v).toList ++
        (renderItems layout depth rest).toList) := by
  simp [renderItems]

theorem toList_renderMembers_cons (layout : JsonLayout) (depth : Nat) (key : String)
    (v : JsonValue) (rest : List (String × JsonValue)) :
    (renderMembers layout depth ((key, v) :: rest)).toList =
      (layout.separator depth).toList ++ ((quoted key).toList ++
        (':' :: ' ' :: ((renderAt layout depth v).toList ++
          (renderMembers layout depth rest).toList))) := by
  simp [renderMembers]

mutual

/-- The text of a value whose numbers are finite is a value. -/
theorem isValue_renderAt (hlayout : layout.IsBlank) :
    (depth : Nat) → (v : JsonValue) → v.isFinite = true → IsValue (renderAt layout depth v).toList
  | _, .text s, _ => by
    rw [renderAt]
    exact .quoted (isQuoted_quoted s)
  | _, .int n, _ => by
    rw [renderAt]
    exact .number (isNumber_toString n)
  | _, .float x, h => by
    rw [isFinite] at h
    rw [renderAt]
    exact .number (isNumber_render h)
  | _, .list [], _ => by
    rw [renderAt]
    exact .emptyList (b := []) (by decide)
  | depth, .list (v :: rest), h => by
    rw [isFinite, areFinite, Bool.and_eq_true] at h
    have hv := isValue_renderAt hlayout (depth + 1) v h.1
    have hitems := isItems_renderItems hlayout (hlayout.newline (depth + 1)) hv
      (hlayout.newline depth) (depth + 1) rest h.2
    rw [toList_renderAt_list]
    exact .list hitems
  | _, .object [], _ => by
    rw [renderAt]
    exact .emptyObject (b := []) (by decide)
  | depth, .object ((key, v) :: rest), h => by
    rw [isFinite, membersFinite, Bool.and_eq_true] at h
    have hv := isValue_renderAt hlayout (depth + 1) v h.1
    have hmembers := isMembers_renderMembers hlayout (hlayout.newline (depth + 1)) key hv
      (hlayout.newline depth) (depth + 1) rest h.2
    rw [toList_renderAt_object]
    exact .object hmembers

/-- The texts of the items after one, with that one before them. -/
theorem isItems_renderItems (hlayout : layout.IsBlank) {b₁ b₂ cs : List Char} (hb₁ : IsBlank b₁)
    (hcs : IsValue cs) (hb₂ : IsBlank b₂) : (depth : Nat) → (items : List JsonValue) →
    areFinite items = true → IsItems (b₁ ++ (cs ++ ((renderItems layout depth items).toList ++ b₂)))
  | _, [], _ => .last hb₁ hcs hb₂
  | depth, v :: rest, h => by
    rw [areFinite, Bool.and_eq_true] at h
    obtain ⟨b, hb, hseparator⟩ := hlayout.separator depth
    have hv := isValue_renderAt hlayout depth v h.1
    have hitems := isItems_renderItems hlayout hb hv hb₂ depth rest h.2
    have hall := IsItems.cons hb₁ hcs (by decide : IsBlank []) hitems
    rw [toList_renderItems_cons, hseparator]
    simpa only [List.append_assoc, List.cons_append, List.nil_append] using hall

/-- The texts of the members after one, with that one before them. -/
theorem isMembers_renderMembers (hlayout : layout.IsBlank) {b₁ b₂ cs : List Char}
    (hb₁ : IsBlank b₁) (key : String) (hcs : IsValue cs) (hb₂ : IsBlank b₂) : (depth : Nat) →
    (members : List (String × JsonValue)) → membersFinite members = true →
    IsMembers (b₁ ++ ((quoted key).toList ++
      (':' :: ' ' :: (cs ++ ((renderMembers layout depth members).toList ++ b₂)))))
  | _, [], _ => .last hb₁ (isQuoted_quoted key) (by decide : IsBlank []) (by decide : IsBlank [' '])
      hcs hb₂
  | depth, (key', v) :: rest, h => by
    rw [membersFinite, Bool.and_eq_true] at h
    obtain ⟨b, hb, hseparator⟩ := hlayout.separator depth
    have hv := isValue_renderAt hlayout depth v h.1
    have hmembers := isMembers_renderMembers hlayout hb key' hv hb₂ depth rest h.2
    have hall := IsMembers.cons hb₁ (isQuoted_quoted key) (by decide : IsBlank [])
      (by decide : IsBlank [' ']) hcs (by decide : IsBlank []) hmembers
    rw [toList_renderMembers_cons, hseparator]
    simpa only [List.append_assoc, List.cons_append, List.nil_append] using hall

end

/-- What stands between two items is quiet. -/
theorem quiet_separator (hlayout : layout.IsBlank) (depth : Nat) :
    Quiet (layout.separator depth).toList := by
  obtain ⟨b, hb, hseparator⟩ := hlayout.separator depth
  rw [hseparator]
  exact hb.quiet.cons (by decide)

mutual

/-- The letters outside quotes tell whether all numbers in a value are finite. -/
theorem sounds_renderAt (hlayout : layout.IsBlank) :
    (depth : Nat) → (v : JsonValue) → Sounds (renderAt layout depth v).toList v.isFinite
  | _, .text s => by
    rw [renderAt]
    exact (isQuoted_quoted s).quiet
  | _, .int n => by
    rw [renderAt]
    exact (isNumber_toString n).quiet
  | _, .float x => by
    rw [renderAt]
    exact sounds_render x
  | _, .list [] => by
    rw [renderAt]
    exact sounds_self (by decide)
  | depth, .list (v :: rest) => by
    have hv := sounds_renderAt hlayout (depth + 1) v
    have hitems := sounds_renderItems hlayout (depth + 1) rest
    have hinside := (hlayout.newline (depth + 1)).quiet.append
      (hv.append (hitems.append_quiet (hlayout.newline depth).quiet))
    rw [toList_renderAt_list]
    exact (hinside.append_quiet (sounds_self (by decide))).cons (by decide)
  | _, .object [] => by
    rw [renderAt]
    exact sounds_self (by decide)
  | depth, .object ((key, v) :: rest) => by
    have hv := sounds_renderAt hlayout (depth + 1) v
    have hmembers := sounds_renderMembers hlayout (depth + 1) rest
    have hinside := (hlayout.newline (depth + 1)).quiet.append ((isQuoted_quoted key).quiet.append
      (((hv.append (hmembers.append_quiet (hlayout.newline depth).quiet)).cons
        (by decide : ' ' ≠ '"' ∧ ' ' ≠ 'N' ∧ ' ' ≠ 'I')).cons
          (by decide : ':' ≠ '"' ∧ ':' ≠ 'N' ∧ ':' ≠ 'I')))
    rw [toList_renderAt_object]
    exact (hinside.append_quiet (sounds_self (by decide))).cons (by decide)

theorem sounds_renderItems (hlayout : layout.IsBlank) : (depth : Nat) → (items : List JsonValue) →
    Sounds (renderItems layout depth items).toList (areFinite items)
  | _, [] => sounds_self List.not_mem_nil
  | depth, v :: rest => by
    have hv := sounds_renderAt hlayout depth v
    have hitems := sounds_renderItems hlayout depth rest
    rw [toList_renderItems_cons]
    exact (quiet_separator hlayout depth).append (hv.append hitems)

theorem sounds_renderMembers (hlayout : layout.IsBlank) : (depth : Nat) →
    (members : List (String × JsonValue)) →
    Sounds (renderMembers layout depth members).toList (membersFinite members)
  | _, [] => sounds_self List.not_mem_nil
  | depth, (key, v) :: rest => by
    have hv := sounds_renderAt hlayout depth v
    have hmembers := sounds_renderMembers hlayout depth rest
    rw [toList_renderMembers_cons]
    exact (quiet_separator hlayout depth).append ((isQuoted_quoted key).quiet.append
      (((hv.append hmembers).cons (by decide)).cons (by decide)))

end

/-- **The values whose texts are documents** are those of which all numbers are finite. -/
theorem isDocument_render_iff (hlayout : layout.IsBlank) (v : JsonValue) :
    IsDocument (v.render layout).toList ↔ v.isFinite = true := by
  constructor
  · intro hdocument
    exact (sounds_renderAt hlayout 0 v).eq hdocument.quiet
  · intro hfinite
    have hdocument := IsDocument.mk (by decide : IsBlank []) (isValue_renderAt hlayout 0 v hfinite)
      (by decide : IsBlank [])
    rwa [List.nil_append, List.append_nil] at hdocument

end JsonValue

end SwitchTrace

import SwitchTrace.Export.Json

/-!
# The grammar of JSON

The texts that every reader of JSON takes, as lists of characters: numbers without leading zeros,
texts in quotes with their escapes, lists, objects and the three words, with blanks around all of
them. There are no words for numbers that are not finite.

That a text is *not* in the grammar is seen from its characters outside quotes (`bare`): of the
capital letters, only the mark of an exponent is among them.

## Main definitions

* `Json.IsNumber`, `Json.IsQuoted`, `Json.IsValue`, `Json.IsDocument` — the grammar.
* `Json.bare`, `Json.Bares`, `Json.Sounds` — the characters outside quotes, and whether capital
  letters of other words are among them.

## Main results

* `Json.IsDocument.quiet` — no document has the words for numbers that are not finite.
-/

namespace SwitchTrace.Json

/-! ### Numbers -/

/-- At least one digit, and nothing else. -/
def IsDigits (cs : List Char) : Prop := cs ≠ [] ∧ ∀ c ∈ cs, c.isDigit = true

/-- A zero, or digits that do not begin with one. -/
def IsWhole (cs : List Char) : Prop := IsDigits cs ∧ (cs.head? = some '0' → cs = ['0'])

/-- Nothing, or a point and digits. -/
inductive IsFraction : List Char → Prop
  | none : IsFraction []
  | point {ds : List Char} (h : IsDigits ds) : IsFraction ('.' :: ds)

/-- Nothing, or the mark of an exponent, which may have a sign. -/
inductive IsExponent : List Char → Prop
  | none : IsExponent []
  | mark {e : Char} {sign ds : List Char} (he : e = 'e' ∨ e = 'E')
      (hsign : sign = [] ∨ sign = ['+'] ∨ sign = ['-']) (h : IsDigits ds) :
      IsExponent (e :: (sign ++ ds))

/-- A number without a sign. -/
inductive IsUnsigned : List Char → Prop
  | mk {whole fraction exponent : List Char} (hwhole : IsWhole whole)
      (hfraction : IsFraction fraction) (hexponent : IsExponent exponent) :
      IsUnsigned (whole ++ (fraction ++ exponent))

/-- A number. -/
inductive IsNumber : List Char → Prop
  | positive {cs : List Char} (h : IsUnsigned cs) : IsNumber cs
  | negative {cs : List Char} (h : IsUnsigned cs) : IsNumber ('-' :: cs)

/-! ### Texts in quotes -/

/-- A digit to the base sixteen. -/
def IsHexDigit (c : Char) : Prop :=
  ('0' ≤ c ∧ c ≤ '9') ∨ ('a' ≤ c ∧ c ≤ 'f') ∨ ('A' ≤ c ∧ c ≤ 'F')

/-- What stands for one character, or for one half of one, in quotes. -/
inductive IsUnit : List Char → Prop
  | plain {c : Char} (hcontrol : 0x20 ≤ c.toNat) (hquote : c ≠ '"') (hslash : c ≠ '\\') : IsUnit [c]
  | escape {c : Char} (h : c ∈ ['"', '\\', '/', 'b', 'f', 'n', 'r', 't']) : IsUnit ['\\', c]
  | unicode {ds : List Char} (hlength : ds.length = 4) (h : ∀ d ∈ ds, IsHexDigit d) :
      IsUnit ('\\' :: 'u' :: ds)

/-- What stands between quotes. -/
inductive IsBody : List Char → Prop
  | nil : IsBody []
  | cons {unit cs : List Char} (hunit : IsUnit unit) (h : IsBody cs) : IsBody (unit ++ cs)

/-- A text in quotes. -/
inductive IsQuoted : List Char → Prop
  | mk {cs : List Char} (h : IsBody cs) : IsQuoted ('"' :: (cs ++ ['"']))

/-! ### Values -/

/-- White space. -/
def IsBlank (cs : List Char) : Prop := ∀ c ∈ cs, c ∈ [' ', '\t', '\n', '\r']

instance (cs : List Char) : Decidable (IsBlank cs) := List.decidableBAll _ cs

mutual

/-- A value. -/
inductive IsValue : List Char → Prop
  | null : IsValue ['n', 'u', 'l', 'l']
  | true : IsValue ['t', 'r', 'u', 'e']
  | false : IsValue ['f', 'a', 'l', 's', 'e']
  | number {cs : List Char} (h : IsNumber cs) : IsValue cs
  | quoted {cs : List Char} (h : IsQuoted cs) : IsValue cs
  | emptyList {b : List Char} (h : IsBlank b) : IsValue ('[' :: (b ++ [']']))
  | list {cs : List Char} (h : IsItems cs) : IsValue ('[' :: (cs ++ [']']))
  | emptyObject {b : List Char} (h : IsBlank b) : IsValue ('\x7b' :: (b ++ ['\x7d']))
  | object {cs : List Char} (h : IsMembers cs) : IsValue ('\x7b' :: (cs ++ ['\x7d']))

/-- The values of a list with the commas between them. -/
inductive IsItems : List Char → Prop
  | last {b v b' : List Char} (hb : IsBlank b) (hv : IsValue v) (hb' : IsBlank b') :
      IsItems (b ++ (v ++ b'))
  | cons {b v b' rest : List Char} (hb : IsBlank b) (hv : IsValue v) (hb' : IsBlank b')
      (hrest : IsItems rest) : IsItems (b ++ (v ++ (b' ++ ',' :: rest)))

/-- The members of an object with the commas between them. -/
inductive IsMembers : List Char → Prop
  | last {b₁ key b₂ b₃ v b₄ : List Char} (hb₁ : IsBlank b₁) (hkey : IsQuoted key)
      (hb₂ : IsBlank b₂) (hb₃ : IsBlank b₃) (hv : IsValue v) (hb₄ : IsBlank b₄) :
      IsMembers (b₁ ++ (key ++ (b₂ ++ ':' :: (b₃ ++ (v ++ b₄)))))
  | cons {b₁ key b₂ b₃ v b₄ rest : List Char} (hb₁ : IsBlank b₁) (hkey : IsQuoted key)
      (hb₂ : IsBlank b₂) (hb₃ : IsBlank b₃) (hv : IsValue v) (hb₄ : IsBlank b₄)
      (hrest : IsMembers rest) :
      IsMembers (b₁ ++ (key ++ (b₂ ++ ':' :: (b₃ ++ (v ++ (b₄ ++ ',' :: rest))))))

end

/-- A document: a value with blanks around it. -/
inductive IsDocument : List Char → Prop
  | mk {b v b' : List Char} (hb : IsBlank b) (hv : IsValue v) (hb' : IsBlank b') :
      IsDocument (b ++ (v ++ b'))

/-! ### Characters outside quotes -/

/-- The characters outside quotes, the text beginning inside quotes or not. -/
def bare : Bool → List Char → List Char
  | _, [] => []
  | false, c :: cs => if c = '"' then bare true cs else c :: bare false cs
  | true, '\\' :: _ :: cs => bare true cs
  | true, c :: cs => if c = '"' then bare false cs else bare true cs

/-- The text begins and ends outside quotes, and `outside` are its characters there. -/
def Bares (cs outside : List Char) : Prop :=
  ∀ rest, bare false (cs ++ rest) = outside ++ bare false rest

theorem Bares.append {cs cs' outside outside' : List Char} (h : Bares cs outside)
    (h' : Bares cs' outside') : Bares (cs ++ cs') (outside ++ outside') := fun rest => by
  rw [List.append_assoc, h, h', List.append_assoc]

/-- A text without quotes is outside quotes as a whole. -/
theorem bares_self {cs : List Char} (h : '"' ∉ cs) : Bares cs cs := by
  intro rest
  induction cs with
  | nil => rfl
  | cons c cs ih =>
    obtain ⟨hc, hcs⟩ := not_or.mp (mt List.mem_cons.mpr h)
    rw [List.cons_append, bare, if_neg (Ne.symm hc), ih hcs, List.cons_append]

theorem bare_true_cons {c : Char} (hquote : c ≠ '"') (hslash : c ≠ '\\') (cs : List Char) :
    bare true (c :: cs) = bare true cs := by
  rw [bare, if_neg hquote]
  exact fun _ _ h _ => hslash h

theorem IsHexDigit.ne_quote {c : Char} (h : IsHexDigit c) : c ≠ '"' ∧ c ≠ '\\' := by
  constructor <;> rintro rfl <;> revert h <;> unfold IsHexDigit <;> decide

theorem bare_true_append_of_hexDigits {ds : List Char} (h : ∀ d ∈ ds, IsHexDigit d)
    (rest : List Char) : bare true (ds ++ rest) = bare true rest := by
  induction ds with
  | nil => rfl
  | cons d ds ih =>
    obtain ⟨hquote, hslash⟩ := (h d List.mem_cons_self).ne_quote
    rw [List.cons_append, bare_true_cons hquote hslash,
      ih fun d' hd' => h d' (List.mem_cons_of_mem d hd')]

theorem bare_true_unit_append {unit : List Char} (h : IsUnit unit) (rest : List Char) :
    bare true (unit ++ rest) = bare true rest := by
  cases h with
  | plain hcontrol hquote hslash => exact bare_true_cons hquote hslash rest
  | escape h => rfl
  | unicode hlength h => exact bare_true_append_of_hexDigits h rest

theorem bare_true_body_append {body : List Char} (h : IsBody body) (rest : List Char) :
    bare true (body ++ rest) = bare true rest := by
  induction h with
  | nil => rfl
  | cons hunit _ ih => rw [List.append_assoc, bare_true_unit_append hunit, ih]

/-- Nothing of a text in quotes is outside them. -/
theorem IsQuoted.bares {cs : List Char} (h : IsQuoted cs) : Bares cs [] := by
  obtain ⟨hbody⟩ := h
  intro rest
  rw [List.cons_append, List.append_assoc, bare, if_pos rfl, bare_true_body_append hbody]
  rfl

/-! ### Texts without the words for numbers that are not finite -/

/-- None of the capital letters of the words for numbers that are not finite is there. -/
def isQuiet (cs : List Char) : Bool := cs.all fun c => c != 'N' && c != 'I'

/-- The text begins and ends outside quotes, and is quiet there or not. -/
def Sounds (cs : List Char) (quiet : Bool) : Prop :=
  ∃ outside, Bares cs outside ∧ isQuiet outside = quiet

/-- The text is quiet outside quotes. -/
abbrev Quiet (cs : List Char) : Prop := Sounds cs true

theorem Sounds.append {cs cs' : List Char} {quiet quiet' : Bool} (h : Sounds cs quiet)
    (h' : Sounds cs' quiet') : Sounds (cs ++ cs') (quiet && quiet') := by
  obtain ⟨outside, hbares, rfl⟩ := h
  obtain ⟨outside', hbares', rfl⟩ := h'
  exact ⟨_, hbares.append hbares', List.all_append⟩

/-- A text cannot be quiet and not quiet. -/
theorem Sounds.eq {cs : List Char} {quiet quiet' : Bool} (h : Sounds cs quiet)
    (h' : Sounds cs quiet') : quiet = quiet' := by
  obtain ⟨outside, hbares, rfl⟩ := h
  obtain ⟨outside', hbares', rfl⟩ := h'
  have hsame := (hbares []).symm.trans (hbares' [])
  rw [bare, List.append_nil, List.append_nil] at hsame
  rw [hsame]

/-- A text without quotes is quiet if it has none of the letters. -/
theorem sounds_self {cs : List Char} (h : '"' ∉ cs) : Sounds cs (isQuiet cs) :=
  ⟨cs, bares_self h, rfl⟩

theorem Quiet.append {cs cs' : List Char} {quiet : Bool} (h : Quiet cs) (h' : Sounds cs' quiet) :
    Sounds (cs ++ cs') quiet :=
  Sounds.append h h'

theorem quiet_of_forall {cs : List Char} (h : ∀ c ∈ cs, c ≠ '"' ∧ c ≠ 'N' ∧ c ≠ 'I') : Quiet cs :=
  ⟨cs, bares_self fun hc => (h _ hc).1 rfl, List.all_eq_true.mpr fun c hc => by simp [h c hc]⟩

theorem Sounds.cons {c : Char} {cs : List Char} {quiet : Bool} (h : Sounds cs quiet)
    (hc : c ≠ '"' ∧ c ≠ 'N' ∧ c ≠ 'I') : Sounds (c :: cs) quiet :=
  (quiet_of_forall fun c' hc' => by rwa [List.mem_singleton.mp hc'] : Quiet [c]).append h

theorem Sounds.append_quiet {cs cs' : List Char} {quiet : Bool} (h : Sounds cs quiet)
    (h' : Quiet cs') : Sounds (cs ++ cs') quiet := by
  have hboth := h.append h'
  rwa [Bool.and_true] at hboth

theorem IsQuoted.quiet {cs : List Char} (h : IsQuoted cs) : Quiet cs :=
  ⟨[], h.bares, rfl⟩

theorem IsBlank.quiet {cs : List Char} (h : IsBlank cs) : Quiet cs := by
  refine quiet_of_forall fun c hc => ?_
  have hblank := h c hc
  simp only [List.mem_cons, List.not_mem_nil, or_false] at hblank
  rcases hblank with rfl | rfl | rfl | rfl <;> decide

theorem IsDigits.quiet {cs : List Char} (h : IsDigits cs) : Quiet cs := by
  refine quiet_of_forall fun c hc => ?_
  have hdigit := h.2 c hc
  refine ⟨?_, ?_, ?_⟩ <;> rintro rfl <;> simp at hdigit

theorem IsUnsigned.quiet {cs : List Char} (h : IsUnsigned cs) : Quiet cs := by
  obtain ⟨hwhole, hfraction, hexponent⟩ := h
  refine hwhole.1.quiet.append (Quiet.append ?_ ?_)
  · cases hfraction with
    | none => exact quiet_of_forall (by simp)
    | point h => exact h.quiet.cons (by decide)
  · cases hexponent with
    | none => exact quiet_of_forall (by simp)
    | mark he hsign h =>
      refine Sounds.cons (Quiet.append ?_ h.quiet) (by rcases he with rfl | rfl <;> decide)
      rcases hsign with rfl | rfl | rfl <;> exact quiet_of_forall (by simp)

theorem IsNumber.quiet {cs : List Char} : IsNumber cs → Quiet cs
  | .positive h => h.quiet
  | .negative h => h.quiet.cons (by decide)

mutual

theorem IsValue.quiet {cs : List Char} : IsValue cs → Quiet cs
  | .null => quiet_of_forall (by simp)
  | .true => quiet_of_forall (by simp)
  | .false => quiet_of_forall (by simp)
  | .number h => h.quiet
  | .quoted h => h.quiet
  | .emptyList h => (h.quiet.append (quiet_of_forall (by simp))).cons (by decide)
  | .list h => (h.quiet.append (quiet_of_forall (by simp))).cons (by decide)
  | .emptyObject h => (h.quiet.append (quiet_of_forall (by simp))).cons (by decide)
  | .object h => (h.quiet.append (quiet_of_forall (by simp))).cons (by decide)

theorem IsItems.quiet {cs : List Char} : IsItems cs → Quiet cs
  | .last hb hv hb' => hb.quiet.append (hv.quiet.append hb'.quiet)
  | .cons hb hv hb' hrest =>
    hb.quiet.append (hv.quiet.append (hb'.quiet.append (hrest.quiet.cons (by decide))))

theorem IsMembers.quiet {cs : List Char} : IsMembers cs → Quiet cs
  | .last hb₁ hkey hb₂ hb₃ hv hb₄ =>
    hb₁.quiet.append (hkey.quiet.append (hb₂.quiet.append
      ((hb₃.quiet.append (hv.quiet.append hb₄.quiet)).cons (by decide))))
  | .cons hb₁ hkey hb₂ hb₃ hv hb₄ hrest =>
    hb₁.quiet.append (hkey.quiet.append (hb₂.quiet.append ((hb₃.quiet.append
      (hv.quiet.append (hb₄.quiet.append (hrest.quiet.cons (by decide))))).cons (by decide))))

end

/-- **Documents have no words for numbers that are not finite.** -/
theorem IsDocument.quiet {cs : List Char} : IsDocument cs → Quiet cs
  | .mk hb hv hb' => hb.quiet.append (hv.quiet.append hb'.quiet)

end SwitchTrace.Json

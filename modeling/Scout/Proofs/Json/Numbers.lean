import Scout.Json.Reader
import Scout.Json.Writer
import Scout.Proofs.Decimal.Numerals

/-!
# Numbers in JSON text

A number is read up to what closes the value that it stands in, and the text of
an integer or of a double gives back the number that was written.
-/

namespace Scout.Json

open Decimal (AllDigits NoDigit Numeral valueOf)

/-- What can follow a value in a document. -/
def Closes (rest : List Char) : Prop :=
  ∀ c ∈ rest.head?, c = ',' ∨ c = '\n'

theorem closes_nil : Closes [] := by
  simp [Closes]

theorem Closes.noDigit {rest : List Char} (hr : Closes rest) : NoDigit rest := by
  intro c hc
  rcases hr c hc with rfl | rfl <;> rfl

theorem Closes.head_ne {rest : List Char} (hr : Closes rest) {d : Char} (hcomma : d ≠ ',')
    (hline : d ≠ '\n') : rest.head? ≠ some d := by
  intro h
  rcases hr d h with e | e
  · exact hcomma e
  · exact hline e

/-! ## Unsigned numbers -/

variable {n : Numeral} {rest : List Char}

theorem wholeDigits_whole (h : n.IsPlain) {tail : List Char} (ht : NoDigit tail) :
    wholeDigits (n.whole ++ tail) = n.whole := by
  rcases h.lead with e | ⟨hne, hlead⟩
  · rw [e]
    rfl
  · obtain ⟨d, ds, hd⟩ := List.exists_cons_of_ne_nil hne
    have hzero : d ≠ '0' := by
      intro e
      simp [hd, e] at hlead
    have htake : (n.whole ++ tail).takeWhile Char.isDigit = n.whole :=
      Decimal.takeWhile_digits h.whole ht
    rw [hd, List.cons_append] at htake ⊢
    unfold wholeDigits
    split
    · next heq =>
      cases heq
      exact absurd rfl hzero
    · exact htake

theorem head_powered (n : Numeral) (hr : Closes rest) :
    (n.powered ++ rest).head? ≠ some '.' := by
  unfold Numeral.powered
  cases n.power with
  | none => exact hr.head_ne (by decide) (by decide)
  | some p => simp

theorem fractionDigits_pointed (h : n.IsPlain) (hr : Closes rest) :
    fractionDigits (n.pointed ++ (n.powered ++ rest)) = n.frac := by
  unfold Numeral.pointed
  cases hf : n.frac with
  | nil =>
    have hhead := head_powered n hr
    simp only [List.isEmpty_nil, if_true, List.nil_append]
    unfold fractionDigits
    split
    · next heq => simp [heq] at hhead
    · rfl
  | cons c cs =>
    have hd : AllDigits (c :: cs) := hf ▸ h.frac
    exact Decimal.takeWhile_digits hd (Decimal.Numeral.noDigit_powered n hr.noDigit)

theorem exponentPart_powered (h : n.IsPlain) (hr : Closes rest) :
    exponentPart (n.powered ++ rest) = n.powered := by
  unfold Numeral.powered
  rcases hp : n.power with _ | ⟨negative, ds⟩
  · cases rest with
    | nil => rfl
    | cons c rest => rcases hr c rfl with rfl | rfl <;> rfl
  · obtain ⟨hd, hne⟩ := h.power negative ds hp
    have htake := Decimal.takeWhile_digits hd hr.noDigit
    cases negative <;> simp [exponentPart, htake, hne]

/-- The value of a numeral: an integer when it has neither fraction nor exponent. -/
def numeralValue (negative : Bool) (n : Numeral) : Value :=
  if n.isInteger then .int (if negative then -(valueOf n.whole : Int) else valueOf n.whole)
  else .float (Decimal.nearest negative n.digits n.exponent)

theorem readUnsigned?_chars (negative : Bool) (h : n.IsPlain) (hr : Closes rest) :
    readUnsigned? negative (n.chars ++ rest) =
      some (numeralValue negative n, n.chars.length) := by
  have hsplit : n.chars ++ rest = n.whole ++ (n.pointed ++ (n.powered ++ rest)) := by
    simp [Numeral.chars]
  have hwhole := wholeDigits_whole h (Decimal.Numeral.noDigit_pointed n hr.noDigit)
  have hpoint : (if n.frac.isEmpty then [] else '.' :: n.frac) = n.pointed := rfl
  have hinteger : (n.frac.isEmpty && n.powered.isEmpty) = n.isInteger := by
    rw [Numeral.isInteger, Numeral.powered]
    cases n.power <;> rfl
  rw [readUnsigned?, hsplit]
  simp only [hwhole, List.drop_left, fractionDigits_pointed h hr, hpoint,
    exponentPart_powered h hr, hinteger]
  rw [if_neg (by simpa using h.whole_ne_nil), numeralValue]
  cases hi : n.isInteger
  · have htext := Decimal.Numeral.scientific?_chars h
    rw [Numeral.chars, List.append_assoc] at htext
    simp [htext, Numeral.chars]
  · simp [Numeral.chars]

theorem head_isDigit (h : n.IsPlain) :
    ∃ d ds, n.chars = d :: ds ∧ d.isDigit = true := by
  obtain ⟨d, ds, hd⟩ := List.exists_cons_of_ne_nil h.whole_ne_nil
  refine ⟨d, ds ++ n.pointed ++ n.powered, ?_, ?_⟩
  · simp [Numeral.chars, hd]
  · exact h.whole d (by simp [hd])

/-! ## Signed numbers -/

def signChars (negative : Bool) : List Char :=
  if negative then ['-'] else []

theorem readNumber?_chars (negative : Bool) (h : n.IsPlain) (hr : Closes rest) :
    readNumber? (signChars negative ++ n.chars ++ rest) =
      some (numeralValue negative n, (signChars negative ++ n.chars).length) := by
  cases negative with
  | true =>
    change (readUnsigned? true (n.chars ++ rest)).map _ = _
    rw [readUnsigned?_chars true h hr]
    simp [signChars]
  | false =>
    obtain ⟨d, ds, hd, hdigit⟩ := head_isDigit h
    have hread := readUnsigned?_chars false h hr
    change readNumber? (n.chars ++ rest) = some (numeralValue false n, n.chars.length)
    rw [hd, List.cons_append] at hread ⊢
    unfold readNumber?
    split
    · next heq =>
      cases heq
      cases hdigit
    · exact hread

/-! ## Written numbers -/

def integerNumeral (n : Int) : Numeral :=
  ⟨Nat.toDigits 10 n.natAbs, [], none⟩

theorem integerNumeral_plain (n : Int) : (integerNumeral n).IsPlain := by
  refine ⟨Decimal.allDigits_toDigits _, by simp [integerNumeral, AllDigits],
    by simp [integerNumeral], ?_⟩
  by_cases hn : n = 0
  · left
    simp [integerNumeral, hn]
  · right
    exact ⟨Nat.toDigits_ne_nil, Decimal.head_toDigits (by omega)⟩

theorem toString_int (n : Int) :
    (toString n).toList = signChars (decide (n < 0)) ++ (integerNumeral n).chars := by
  cases n with
  | ofNat m =>
    have hsign : ¬ (m : Int) < 0 := by omega
    change (Nat.repr m).toList = _
    simp [signChars, hsign, integerNumeral, Numeral.chars, Numeral.pointed, Numeral.powered]
  | negSucc m =>
    change ("-" ++ Nat.repr (m + 1)).toList = _
    simp [signChars, integerNumeral, Numeral.chars, Numeral.pointed, Numeral.powered]

theorem readNumber?_int (n : Int) (hr : Closes rest) :
    readNumber? ((toString n).toList ++ rest) = some (.int n, (toString n).toList.length) := by
  have hread := readNumber?_chars (decide (n < 0)) (integerNumeral_plain n) hr
  have hvalue : numeralValue (decide (n < 0)) (integerNumeral n) = .int n := by
    have hinteger : (integerNumeral n).isInteger = true := rfl
    have hwhole : valueOf (integerNumeral n).whole = n.natAbs := Decimal.valueOf_toDigits _
    rw [numeralValue, if_pos hinteger, hwhole]
    congr 1
    by_cases hn : n < 0
    · rw [if_pos (decide_eq_true hn)]
      omega
    · rw [if_neg (by simpa using hn)]
      omega
  rw [toString_int, hread, hvalue]

theorem readNumber?_float {x : Float} {b : Decimal.Binary}
    (hx : Decimal.FloatForm.of x = .finite b) (hr : Closes rest) :
    readNumber? ((Decimal.shortestText x).toList ++ rest) =
      some (.float x, (Decimal.shortestText x).toList.length) := by
  obtain ⟨n, htext, hplain, hfractional, hvalue⟩ := Decimal.shortestText_written hx
  have hread := readNumber?_chars b.negative hplain hr
  rw [numeralValue, hfractional, if_neg Bool.false_ne_true, hvalue] at hread
  rw [htext]
  exact hread

/-- A number begins with a digit, after its sign if it has one. -/
def BeginsNumber (cs : List Char) : Prop :=
  ∃ d ds, d.isDigit = true ∧ (cs = d :: ds ∨ cs = '-' :: d :: ds)

theorem beginsNumber_chars (negative : Bool) (h : n.IsPlain) (rest : List Char) :
    BeginsNumber (signChars negative ++ n.chars ++ rest) := by
  obtain ⟨d, ds, hd, hdigit⟩ := head_isDigit h
  refine ⟨d, ds ++ rest, hdigit, ?_⟩
  cases negative <;> simp [signChars, hd]

theorem beginsNumber_int (n : Int) (rest : List Char) :
    BeginsNumber ((toString n).toList ++ rest) := by
  rw [toString_int]
  exact beginsNumber_chars _ (integerNumeral_plain n) rest

theorem beginsNumber_float {x : Float} {b : Decimal.Binary}
    (hx : Decimal.FloatForm.of x = .finite b) (rest : List Char) :
    BeginsNumber ((Decimal.shortestText x).toList ++ rest) := by
  obtain ⟨n, htext, hplain, -, -⟩ := Decimal.shortestText_written hx
  rw [htext]
  exact beginsNumber_chars _ hplain rest

theorem literals_of_beginsNumber {cs : List Char} (h : BeginsNumber cs) (position : Nat) :
    (literals.find? fun l => (Cursor.mk cs position).startsWith l.1) = none := by
  obtain ⟨d, ds, hdigit, hcs⟩ := h
  have hne {c : Char} (hc : c.isDigit = false) : c ≠ d := by
    rintro rfl
    simp [hc] at hdigit
  have hn : 'n' ≠ d := hne rfl
  have ht : 't' ≠ d := hne rfl
  have hf : 'f' ≠ d := hne rfl
  have hN : 'N' ≠ d := hne rfl
  have hI : 'I' ≠ d := hne rfl
  have hminus : '-' ≠ d := hne rfl
  rcases hcs with rfl | rfl <;>
    simp [literals, Cursor.startsWith, List.isPrefixOf, hn, ht, hf, hN, hI, hminus]

theorem readValue_number {cs : List Char} {v : Value} {length : Nat} (h : BeginsNumber cs)
    (hread : readNumber? cs = some (v, length)) (fuel position : Nat) :
    readValue (fuel + 1) ⟨cs, position⟩ =
      .ok (v, (Cursor.mk cs position).advance length) := by
  have hliteral := literals_of_beginsNumber h position
  obtain ⟨d, ds, hdigit, hcs⟩ := h
  rw [readValue]
  split
  · next heq =>
    dsimp only at heq
    rcases hcs with e | e <;> rw [e] at heq <;> cases heq
    cases hdigit
  · next heq =>
    dsimp only at heq
    rcases hcs with e | e <;> rw [e] at heq <;> cases heq
    cases hdigit
  · next heq =>
    dsimp only at heq
    rcases hcs with e | e <;> rw [e] at heq <;> cases heq
    cases hdigit
  · simp only [hliteral, hread]

end Scout.Json

import Scout.Files.Content
import Scout.Proofs.Json.Documents

/-!
# Stored documents

The text of a document is made of line feeds and printable ASCII characters, so
a file gives it back as it was written, and parsing it gives the value.
-/

namespace Scout.Json

/-! ## What a document is written with -/

def Printed (c : Char) : Prop :=
  c = '\n' ∨ 32 ≤ c.toNat ∧ c.toNat < 127

instance (c : Char) : Decidable (Printed c) := by
  unfold Printed
  infer_instance

def AllPrinted (cs : List Char) : Prop :=
  ∀ c ∈ cs, Printed c

@[simp] theorem allPrinted_nil : AllPrinted [] := by
  simp [AllPrinted]

@[simp] theorem allPrinted_cons {c : Char} {cs : List Char} :
    AllPrinted (c :: cs) ↔ Printed c ∧ AllPrinted cs := by
  simp [AllPrinted]

@[simp] theorem allPrinted_append {cs ds : List Char} :
    AllPrinted (cs ++ ds) ↔ AllPrinted cs ∧ AllPrinted ds := by
  simp [AllPrinted, or_imp, forall_and]

theorem printed_digit {c : Char} (h : c.isDigit = true) : Printed c := by
  rw [Char.isDigit, Bool.and_eq_true, decide_eq_true_eq, decide_eq_true_eq] at h
  have low : 48 ≤ c.toNat := h.1
  have high : c.toNat ≤ 57 := h.2
  exact .inr ⟨by omega, by omega⟩

theorem allPrinted_digits {cs : List Char} (h : Decimal.AllDigits cs) : AllPrinted cs :=
  fun c hc => printed_digit (h c hc)

theorem allPrinted_numeral {n : Decimal.Numeral} (h : n.IsPlain) : AllPrinted n.chars := by
  rw [Decimal.Numeral.chars, allPrinted_append, allPrinted_append]
  refine ⟨⟨allPrinted_digits h.whole, ?_⟩, ?_⟩
  · unfold Decimal.Numeral.pointed
    split
    · exact allPrinted_nil
    · exact allPrinted_cons.2 ⟨by decide, allPrinted_digits h.frac⟩
  · unfold Decimal.Numeral.powered
    split
    · exact allPrinted_nil
    · next negative ds hp =>
      refine allPrinted_cons.2 ⟨by decide, allPrinted_cons.2 ⟨?_, ?_⟩⟩
      · cases negative <;> decide
      · exact allPrinted_digits (h.power negative ds hp).1

theorem allPrinted_sign (negative : Bool) : AllPrinted (signChars negative) := by
  cases negative <;> simp [signChars, Printed]

theorem printed_hexDigit {d : Nat} (hd : d < 16) : Printed d.digitChar := by
  revert d
  decide

theorem allPrinted_hexDigits (n : Nat) : AllPrinted (Nat.toDigits 16 n) := by
  induction n using Nat.strongRecOn with
  | ind n ih =>
    rw [Nat.toDigits_eq_if (by decide)]
    split
    · next hn => simpa using printed_hexDigit hn
    · simpa using ⟨ih (n / 16) (by omega), printed_hexDigit (Nat.mod_lt n (by decide))⟩

theorem allPrinted_unitEscape (n : Nat) : AllPrinted (unitEscape n).toList := by
  have hzeros : AllPrinted (List.replicate (4 - (Nat.toDigits 16 n).length) '0') := by
    intro c hc
    rw [List.eq_of_mem_replicate hc]
    decide
  rw [unitEscape_toList, Text.hex]
  simpa [Printed] using ⟨hzeros, allPrinted_hexDigits n⟩

theorem allPrinted_asciiEscape (c : Char) : AllPrinted (asciiEscape c).toList := by
  rw [asciiEscape]
  split
  · exact allPrinted_unitEscape _
  · rw [String.toList_append, allPrinted_append]
    exact ⟨allPrinted_unitEscape _, allPrinted_unitEscape _⟩

theorem allPrinted_letter (letter : Char) (h : Printed letter) :
    AllPrinted (String.ofList ['\\', letter]).toList := by
  simpa [Printed] using h

theorem allPrinted_escapeChar (c : Char) : AllPrinted (escapeChar true c).toList := by
  unfold escapeChar
  simp only [Bool.true_and, decide_eq_true_eq]
  split
  · exact allPrinted_letter '"' (by decide)
  split
  · exact allPrinted_letter '\\' (by decide)
  split
  · exact allPrinted_letter 'n' (by decide)
  split
  · exact allPrinted_letter 'r' (by decide)
  split
  · exact allPrinted_letter 't' (by decide)
  split
  · exact allPrinted_letter 'b' (by decide)
  split
  · exact allPrinted_letter 'f' (by decide)
  split
  · exact allPrinted_unitEscape _
  split
  · exact allPrinted_asciiEscape c
  · have hself : c.toString.toList = [c] := by simp [Char.toString]
    rw [hself, allPrinted_cons]
    exact ⟨.inr ⟨by omega, by omega⟩, allPrinted_nil⟩

theorem allPrinted_writeText (s : String) : AllPrinted (writeText true s).toList := by
  rw [writeText_toList]
  have hescaped : AllPrinted (escaped true s.toList) := by
    intro c hc
    obtain ⟨x, -, hx⟩ := List.mem_flatMap.1 hc
    exact allPrinted_escapeChar x c hx
  simpa [Printed] using hescaped

theorem allPrinted_float (x : Float) : AllPrinted (writeFloat x).toList := by
  rw [writeFloat]
  cases hx : Decimal.FloatForm.of x with
  | nan => simp [Printed]
  | infinite negative => cases negative <;> simp [Printed]
  | finite b =>
    obtain ⟨n, htext, hplain, -, -⟩ := Decimal.shortestText_written hx
    simp only [htext, allPrinted_append]
    exact ⟨allPrinted_sign b.negative, allPrinted_numeral hplain⟩

theorem allPrinted_margin (depth : Nat) : AllPrinted (marginChars depth) := by
  refine allPrinted_cons.2 ⟨.inl rfl, fun c hc => ?_⟩
  rw [List.eq_of_mem_replicate hc]
  decide

theorem allPrinted_bracketed {opening closing : Char} (hopening : Printed opening)
    (hclosing : Printed closing) (depth : Nat) {parts : List String}
    (h : ∀ part ∈ parts, AllPrinted part.toList) :
    AllPrinted (bracketed opening closing depth parts).toList := by
  have hparts (parts : List String) (h : ∀ part ∈ parts, AllPrinted part.toList) :
      AllPrinted (partsChars closing depth (parts.map String.toList)) := by
    induction parts with
    | nil => exact allPrinted_nil
    | cons part rest ih =>
      have hpart := h part List.mem_cons_self
      have hrest := ih fun x hx => h x (List.mem_cons_of_mem part hx)
      cases rest with
      | nil =>
        rw [List.map_cons, List.map_nil, partsChars]
        simpa using ⟨hpart, allPrinted_margin depth, hclosing⟩
      | cons next rest =>
        change AllPrinted (part.toList ++ (',' :: (marginChars (depth + 1) ++
          partsChars closing depth ((next :: rest).map String.toList))))
        simp only [allPrinted_append, allPrinted_cons]
        exact ⟨hpart, by decide, allPrinted_margin _, hrest⟩
  by_cases hnil : parts = []
  · subst hnil
    simpa [bracketed] using ⟨hopening, hclosing⟩
  · rw [bracketed_toList hnil, allPrinted_cons, allPrinted_append]
    exact ⟨hopening, allPrinted_margin _, hparts parts h⟩

mutual

theorem allPrinted_indented : (v : Value) → (depth : Nat) →
    AllPrinted (indented true v depth).toList
  | .null, _ => by simp [indented, Printed]
  | .bool b, _ => by cases b <;> simp [indented, Printed]
  | .int n, _ => by
    rw [indented, toString_int, allPrinted_append]
    exact ⟨allPrinted_sign _, allPrinted_numeral (integerNumeral_plain n)⟩
  | .float x, _ => allPrinted_float x
  | .text s, _ => allPrinted_writeText s
  | .list items, depth =>
    allPrinted_bracketed (by decide) (by decide) depth (allPrinted_items items depth)
  | .record ms, depth =>
    allPrinted_bracketed (by decide) (by decide) depth (allPrinted_members ms depth)

theorem allPrinted_items : (items : List Value) → (depth : Nat) →
    ∀ part ∈ indentedItems true items depth, AllPrinted part.toList
  | [], _ => by simp [indentedItems]
  | v :: rest, depth => by
    rw [indentedItems, List.forall_mem_cons]
    exact ⟨allPrinted_indented v (depth + 1), allPrinted_items rest depth⟩

theorem allPrinted_members : (ms : List (String × Value)) → (depth : Nat) →
    ∀ part ∈ indentedMembers true ms depth, AllPrinted part.toList
  | [], _ => by simp [indentedMembers]
  | (k, v) :: rest, depth => by
    rw [indentedMembers, List.forall_mem_cons, String.toList_append, String.toList_append,
      allPrinted_append, allPrinted_append]
    exact ⟨⟨⟨allPrinted_writeText k, by simp [Printed]⟩, allPrinted_indented v (depth + 1)⟩,
      allPrinted_members rest depth⟩

end

/-! ## Read from a file -/

/-- A document has no line ends that a file would change. -/
theorem read_document (v : Value) : (Files.Content.text (document v)).read = .ok (document v) := by
  refine Files.Content.read_text fun hmem => ?_
  have hprinted := allPrinted_indented v 0 _ hmem
  revert hprinted
  decide

theorem parse_document {v : Value} (hv : v.isProper = true) : parse (document v) = .ok v := by
  obtain ⟨c, cs, hcs, hbegins⟩ := begins_chars v 0
  obtain ⟨p, hp⟩ := readable v hv 0 (2 * (chars v 0).length + 2) (by omega) [] 0 closes_nil
  have hbom : c ≠ Char.ofNat 0xFEFF := by
    rintro rfl
    have hprinted := allPrinted_indented v 0 (Char.ofNat 0xFEFF)
      (by rw [← chars, hcs]; exact List.mem_cons_self)
    revert hprinted
    decide
  have hskip : (Cursor.mk (chars v 0) 0).skip = ⟨chars v 0, 0⟩ := by
    rw [hcs]
    exact skip_none hbegins.1 cs 0
  rw [List.append_nil] at hp
  have htext : (document v).toList = chars v 0 := rfl
  rw [parse, htext, hskip, hp]
  simp [hcs, hbom, Cursor.skip, Cursor.advance, bind, Except.bind, pure, Except.pure]

end Scout.Json

import Mathlib
import Scout.Json.Reader
import Scout.Json.Writer

/-!
# Texts in JSON text

Every character is written as itself, as an escape of one letter, or as one or
two units of four hexadecimal digits.  Reading takes one written character at a
time, so that the text between the quotes comes back whole.
-/

namespace Scout.Json

/-! ## Hexadecimal numbers -/

theorem hexDigit?_digitChar {d : Nat} (hd : d < 16) : hexDigit? d.digitChar = some d := by
  have all : ∀ d < 16, hexDigit? (Nat.digitChar d) = some d := by decide
  exact all d hd

theorem hexNumber?_append (cs : List Char) {c : Char} {n d : Nat}
    (hn : hexNumber? cs = some n) (hd : hexDigit? c = some d) :
    hexNumber? (cs ++ [c]) = some (16 * n + d) := by
  rw [hexNumber?] at hn ⊢
  rw [List.foldl_append, hn]
  simp [hd]

theorem hexNumber?_toDigits (n : Nat) (zeros : Nat) :
    hexNumber? (List.replicate zeros '0' ++ Nat.toDigits 16 n) = some n := by
  have hzeros : hexNumber? (List.replicate zeros '0') = some 0 := by
    induction zeros with
    | zero => rfl
    | succ j ih =>
      rw [List.replicate_succ']
      exact hexNumber?_append _ ih (d := 0) (by decide)
  induction n using Nat.strongRecOn with
  | ind n ih =>
    rw [Nat.toDigits_eq_if (by decide)]
    split
    · next hn =>
      rw [hexNumber?_append _ hzeros (hexDigit?_digitChar hn)]
      simp
    · next hn =>
      have hdigit := hexDigit?_digitChar (Nat.mod_lt n (Nat.succ_pos 15))
      rw [← List.append_assoc, hexNumber?_append _ (ih (n / 16) (by omega)) hdigit]
      congr 1
      omega

theorem hex_unit {n : Nat} (hn : n < 0x10000) :
    (Text.hex 4 n).toList.length = 4 ∧ hexNumber? (Text.hex 4 n).toList = some n := by
  have hlength : (Nat.toDigits 16 n).length ≤ 4 :=
    (Nat.length_toDigits_le_iff (by decide) (by decide)).2 hn
  simp only [Text.hex, String.toList_ofList, List.length_append, List.length_replicate]
  exact ⟨by omega, hexNumber?_toDigits n _⟩

theorem unit?_hex {n : Nat} (hn : n < 0x10000) {tail : List Char} (ht : tail ≠ [])
    (position : Nat) : unit? ((Text.hex 4 n).toList ++ tail) position = .ok n := by
  obtain ⟨hlength, hvalue⟩ := hex_unit hn
  have htail := List.length_pos_iff.2 ht
  have hfour : ((Text.hex 4 n).toList ++ tail).take 4 = (Text.hex 4 n).toList :=
    List.take_left' hlength
  rw [unit?, if_neg, hfour, hvalue]
  rw [List.length_take, List.length_append, hlength]
  omega

theorem drop_hex {n : Nat} (hn : n < 0x10000) (tail : List Char) :
    ((Text.hex 4 n).toList ++ tail).drop 4 = tail :=
  List.drop_left' (hex_unit hn).1

theorem unitEscape_toList (n : Nat) :
    (unitEscape n).toList = '\\' :: 'u' :: (Text.hex 4 n).toList := by
  simp [unitEscape]

/-! ## One character -/

variable {start position : Nat} {tail : List Char} {c : Char}

theorem toNat_valid (c : Char) : c.toNat < 0xD800 ∨ 0xDFFF < c.toNat ∧ c.toNat < 0x110000 :=
  c.valid

theorem charOfUnit_toNat (c : Char) : charOfUnit c.toNat = c := by
  have hvalid := toNat_valid c
  have hlone : ¬ (0xD800 ≤ c.toNat ∧ c.toNat < 0xE000) := by omega
  simp [charOfUnit, hlone]

theorem lowUnit?_of_not_high {n : Nat} (h : isHighUnit n = false) (cs : List Char) :
    lowUnit? n cs position = .ok none := by
  unfold lowUnit?
  split <;> simp [h]

theorem readChar_unit (hc : c.toNat < 0x10000) (ht : tail ≠ []) :
    readChar start ⟨(unitEscape c.toNat).toList ++ tail, position⟩ =
      .ok (c, (unitEscape c.toNat).toList.length) := by
  have hvalid := toNat_valid c
  have hhigh : isHighUnit c.toNat = false := by
    simp [isHighUnit]
    omega
  rw [unitEscape_toList]
  simp [readChar, unit?_hex hc ht, drop_hex hc, lowUnit?_of_not_high hhigh, charOfUnit_toNat,
    (hex_unit hc).1, bind, Except.bind, pure, Except.pure]

theorem lowUnit?_hex {n m : Nat} (hn : isHighUnit n = true) (hm : isLowUnit m = true)
    (ht : tail ≠ []) :
    lowUnit? n ('\\' :: 'u' :: ((Text.hex 4 m).toList ++ tail)) position = .ok (some m) := by
  have hunit : m < 0x10000 := by
    simp [isLowUnit] at hm
    omega
  obtain ⟨hlength, hvalue⟩ := hex_unit hunit
  have htail := List.length_pos_iff.2 ht
  have hfour : ((Text.hex 4 m).toList ++ tail).take 4 = (Text.hex 4 m).toList :=
    List.take_left' hlength
  have hfive : 4 < (((Text.hex 4 m).toList ++ tail).take 5).length := by
    rw [List.length_take, List.length_append, hlength]
    omega
  simp only [lowUnit?, hn, hfive, hfour, hvalue, hm, decide_true, Bool.and_true, if_true]

theorem readChar_pair (hc : 0x10000 ≤ c.toNat) (ht : tail ≠ []) :
    readChar start ⟨(asciiEscape c).toList ++ tail, position⟩ =
      .ok (c, (asciiEscape c).toList.length) := by
  obtain ⟨n, hn⟩ : ∃ n, c.toNat = 0x10000 + n := ⟨c.toNat - 0x10000, by omega⟩
  have hvalid := toNat_valid c
  have hsub : c.toNat - 0x10000 = n := by omega
  have hhigh : isHighUnit (0xD800 + n / 0x400) = true := by
    simp [isHighUnit]
    omega
  have hlow : isLowUnit (0xDC00 + n % 0x400) = true := by
    simp [isLowUnit]
    omega
  have hfirst : 0xD800 + n / 0x400 < 0x10000 := by omega
  have hsecond : 0xDC00 + n % 0x400 < 0x10000 := by omega
  have hjoined : 0x10000 + (0xD800 + n / 0x400 - 0xD800) * 0x400 + (0xDC00 + n % 0x400 - 0xDC00)
      = c.toNat := by omega
  have htext : (asciiEscape c).toList = '\\' :: 'u' :: ((Text.hex 4 (0xD800 + n / 0x400)).toList ++
      '\\' :: 'u' :: (Text.hex 4 (0xDC00 + n % 0x400)).toList) := by
    rw [asciiEscape, if_neg (by omega), hsub, String.toList_append, unitEscape_toList,
      unitEscape_toList]
    rfl
  rw [htext]
  simp only [List.cons_append, List.append_assoc, readChar]
  rw [unit?_hex hfirst (by simp)]
  simp only [drop_hex hfirst, lowUnit?_hex hhigh hlow ht, hjoined, bind, Except.bind, pure,
    Except.pure, Char.ofNat_toNat]
  simp [(hex_unit hfirst).1, (hex_unit hsecond).1]

theorem readChar_plain (hslash : c ≠ '\\') (hcontrol : 32 ≤ c.toNat) :
    readChar start ⟨[c] ++ tail, position⟩ = .ok (c, 1) := by
  have hprintable : ¬ c.toNat < 32 := by omega
  unfold readChar
  simp [hslash, hprintable]

theorem readChar_letter {letter : Char} (h : plainEscape? letter = some c) :
    readChar start ⟨['\\', letter] ++ tail, position⟩ = .ok (c, 2) := by
  have hunit : letter ≠ 'u' := by
    rintro rfl
    cases h
  unfold readChar
  simp [h]

theorem readChar_escapeChar (ascii : Bool) (c : Char) (ht : tail ≠ []) :
    readChar start ⟨(escapeChar ascii c).toList ++ tail, position⟩ =
      .ok (c, (escapeChar ascii c).toList.length) := by
  have numbered {n : Nat} (h : c.toNat = n) : Char.ofNat n = c := by
    rw [← h, Char.ofNat_toNat]
  unfold escapeChar
  simp only [beq_iff_eq]
  split
  · next h =>
    rw [h]
    exact readChar_letter rfl
  split
  · next h =>
    rw [h]
    exact readChar_letter rfl
  split
  · next h =>
    rw [h]
    exact readChar_letter rfl
  split
  · next h =>
    rw [h]
    exact readChar_letter rfl
  split
  · next h =>
    rw [h]
    exact readChar_letter rfl
  split
  · next h =>
    rw [← numbered h]
    exact readChar_letter rfl
  split
  · next h =>
    rw [← numbered h]
    exact readChar_letter rfl
  split
  · exact readChar_unit (by omega) ht
  split
  · by_cases hbasic : c.toNat < 0x10000
    · rw [asciiEscape, if_pos hbasic]
      exact readChar_unit hbasic ht
    · exact readChar_pair (by omega) ht
  · next hslash _ _ _ _ _ hcontrol _ =>
    have hself : c.toString.toList = [c] := by simp [Char.toString]
    rw [hself]
    exact readChar_plain hslash (by omega)

/-! ## Whole texts -/

theorem escapeChar_head (ascii : Bool) (c : Char) :
    ∃ d ds, (escapeChar ascii c).toList = d :: ds ∧ d ≠ '"' := by
  have hunit (n : Nat) : ∃ d ds, (unitEscape n).toList = d :: ds ∧ d ≠ '"' :=
    ⟨_, _, unitEscape_toList n, by decide⟩
  unfold escapeChar
  simp only [beq_iff_eq]
  split
  · exact ⟨_, _, rfl, by decide⟩
  split
  · exact ⟨_, _, rfl, by decide⟩
  split
  · exact ⟨_, _, rfl, by decide⟩
  split
  · exact ⟨_, _, rfl, by decide⟩
  split
  · exact ⟨_, _, rfl, by decide⟩
  split
  · exact ⟨_, _, rfl, by decide⟩
  split
  · exact ⟨_, _, rfl, by decide⟩
  split
  · exact hunit _
  split
  · rw [asciiEscape]
    split
    · exact hunit _
    · obtain ⟨d, ds, hd, hne⟩ := hunit (0xD800 + (c.toNat - 0x10000) / 0x400)
      exact ⟨d, _, by rw [String.toList_append, hd, List.cons_append], hne⟩
  · next hquote _ _ _ _ _ _ _ _ =>
    exact ⟨c, [], by simp [Char.toString], hquote⟩

@[simp] theorem isAt_cons (x c : Char) (cs : List Char) :
    (Cursor.mk (c :: cs) position).isAt x = (c == x) := by
  simp [Cursor.isAt]

/-- The characters between the quotes of a written text. -/
def escaped (ascii : Bool) (cs : List Char) : List Char :=
  (cs.map fun c => (escapeChar ascii c).toList).flatten

theorem writeText_toList (ascii : Bool) (s : String) :
    (writeText ascii s).toList = '"' :: (escaped ascii s.toList ++ ['"']) := by
  have hjoin (cs : List Char) :
      (String.join (cs.map (escapeChar ascii))).toList = escaped ascii cs := by
    induction cs with
    | nil => simp [escaped]
    | cons c cs ih => simpa [escaped] using ih
  simp [writeText, hjoin]

theorem readText_escaped (ascii : Bool) (cs rest acc : List Char) {fuel : Nat}
    (hf : cs.length < fuel) :
    readText start fuel ⟨escaped ascii cs ++ '"' :: rest, position⟩ acc =
      .ok (String.ofList (acc.reverse ++ cs),
        ⟨rest, position + (escaped ascii cs).length + 1⟩) := by
  induction cs generalizing fuel position acc with
  | nil =>
    obtain ⟨fuel, rfl⟩ := Nat.exists_eq_add_one_of_ne_zero (Nat.ne_of_gt hf)
    have hq : (Cursor.mk (escaped ascii [] ++ '"' :: rest) position).isAt '"' = true := rfl
    rw [readText, if_pos hq]
    simp [escaped, Cursor.advance]
  | cons c cs ih =>
    obtain ⟨fuel, rfl⟩ := Nat.exists_eq_add_one_of_ne_zero (Nat.ne_of_gt (Nat.zero_lt_of_lt hf))
    have hsplit : escaped ascii (c :: cs) ++ '"' :: rest =
        (escapeChar ascii c).toList ++ (escaped ascii cs ++ '"' :: rest) := by
      simp [escaped]
    have hchar : readChar start ⟨(escapeChar ascii c).toList ++ (escaped ascii cs ++ '"' :: rest),
        position⟩ = .ok (c, (escapeChar ascii c).toList.length) :=
      readChar_escapeChar ascii c (by simp)
    have hq : ¬ (Cursor.mk ((escapeChar ascii c).toList ++ (escaped ascii cs ++ '"' :: rest))
        position).isAt '"' = true := by
      obtain ⟨d, ds, hd, hne⟩ := escapeChar_head ascii c
      rw [hd, List.cons_append, isAt_cons]
      simpa using hne
    rw [hsplit, readText, if_neg hq, hchar]
    simp only [bind, Except.bind, Cursor.advance, List.drop_left]
    rw [ih _ (by simpa using hf)]
    simp [escaped, Nat.add_assoc]

end Scout.Json

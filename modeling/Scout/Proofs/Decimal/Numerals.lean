import Scout.Proofs.Decimal.Digits
import Scout.Proofs.Decimal.Nearest

/-!
# Written numbers

A numeral is the text of a number in parts.  The text of a double is a numeral
that has a fraction or an exponent, and its value is that of the shortest
decimal of the double.
-/

namespace Scout.Decimal

/-- The parts of a written number; an exponent has a sign and digits. -/
structure Numeral where
  whole : List Char
  frac : List Char
  power : Option (Bool × List Char)

namespace Numeral

def pointed (n : Numeral) : List Char :=
  if n.frac.isEmpty then [] else '.' :: n.frac

def powered (n : Numeral) : List Char :=
  match n.power with
  | none => []
  | some (negative, ds) => 'e' :: (if negative then '-' else '+') :: ds

def chars (n : Numeral) : List Char :=
  n.whole ++ n.pointed ++ n.powered

/-- Digits where they belong, and no zero in front of other digits. -/
structure IsPlain (n : Numeral) : Prop where
  whole : AllDigits n.whole
  frac : AllDigits n.frac
  power : ∀ negative ds, n.power = some (negative, ds) → AllDigits ds ∧ ds ≠ []
  lead : n.whole = ['0'] ∨ n.whole ≠ [] ∧ n.whole.head? ≠ some '0'

def isInteger (n : Numeral) : Bool :=
  n.frac.isEmpty && n.power.isNone

def digits (n : Numeral) : Nat :=
  valueOf (n.whole ++ n.frac)

def powerValue (n : Numeral) : Int :=
  match n.power with
  | none => 0
  | some (negative, ds) => if negative then -(valueOf ds : Int) else valueOf ds

def exponent (n : Numeral) : Int :=
  n.powerValue - n.frac.length

variable {n : Numeral}

theorem IsPlain.whole_ne_nil (h : n.IsPlain) : n.whole ≠ [] := by
  rcases h.lead with e | e
  · simp [e]
  · exact e.1

/-! ## Reading the parts -/

theorem noDigit_powered (n : Numeral) {rest : List Char} (hr : NoDigit rest) :
    NoDigit (n.powered ++ rest) := by
  unfold powered
  cases n.power with
  | none => exact hr
  | some p =>
    intro c hc
    obtain rfl : 'e' = c := by simpa using hc
    rfl

theorem noDigit_pointed (n : Numeral) {rest : List Char} (hr : NoDigit rest) :
    NoDigit (n.pointed ++ (n.powered ++ rest)) := by
  unfold pointed
  split
  · exact noDigit_powered n hr
  · intro c hc
    obtain rfl : '.' = c := by simpa using hc
    rfl

theorem splitFraction_of_ne {cs : List Char} (h : cs.head? ≠ some '.') :
    splitFraction cs = ([], cs) := by
  unfold splitFraction
  split
  · simp at h
  · rfl

theorem splitFraction_pointed (h : n.IsPlain) :
    splitFraction (n.pointed ++ n.powered) = (n.frac, n.powered) := by
  unfold pointed
  cases hf : n.frac with
  | nil =>
    apply splitFraction_of_ne
    unfold powered
    cases n.power <;> simp
  | cons c cs =>
    have hd : AllDigits (c :: cs) := hf ▸ h.frac
    have hp : NoDigit n.powered := by
      simpa using noDigit_powered n noDigit_nil
    change (((c :: cs) ++ n.powered).takeWhile Char.isDigit,
      ((c :: cs) ++ n.powered).dropWhile Char.isDigit) = _
    rw [takeWhile_digits hd hp, dropWhile_digits hd hp]

theorem exponent?_powered (h : n.IsPlain) : exponent? n.powered = some n.powerValue := by
  unfold powered powerValue
  rcases hp : n.power with _ | ⟨negative, ds⟩
  · rfl
  · obtain ⟨hd, hne⟩ := h.power negative ds hp
    have hall : ds.all Char.isDigit = true := List.all_eq_true.2 hd
    cases negative <;> simp [exponent?, splitSign, hne, hall]

theorem scientific?_chars (h : n.IsPlain) :
    scientific? n.chars = some ⟨n.digits, n.exponent⟩ := by
  have htail : NoDigit (n.pointed ++ n.powered) := by
    simpa using noDigit_pointed n noDigit_nil
  rw [scientific?, chars, List.append_assoc, takeWhile_digits h.whole htail,
    dropWhile_digits h.whole htail, splitFraction_pointed h]
  simp [h.whole_ne_nil, exponent?_powered h, digits, exponent]

end Numeral

/-! ## Layouts of digits -/

/-- The text is that of a numeral that is no integer and has the value `digits · 10^k`. -/
structure IsWritten (text : String) (digits : Nat) (k : Int) (n : Numeral) : Prop where
  text : text.toList = n.chars
  plain : n.IsPlain
  fractional : n.isInteger = false
  value : ∃ j : Nat, n.digits = digits * 10 ^ j ∧ n.exponent = k - j

theorem valueOf_padded (j : Nat) {ds : List Char} (hd : AllDigits ds) :
    valueOf (List.replicate j '0' ++ ds) = valueOf ds := by
  rw [valueOf_append _ hd, valueOf_zeros, Nat.zero_mul, Nat.zero_add]

theorem valueOf_append_zeros (cs : List Char) (j : Nat) :
    valueOf (cs ++ List.replicate j '0') = valueOf cs * 10 ^ j := by
  rw [valueOf_append _ (allDigits_zeros j), valueOf_zeros, List.length_replicate, Nat.add_zero]

section

variable {ds : List Char} {e : Int}

theorem layout_small (hd : AllDigits ds) (hne : ds ≠ []) (low : -4 ≤ e) (high : e < 0) :
    ∃ n, IsWritten (layout ds e) (valueOf ds) (e + 1 - ds.length) n := by
  have hlast : e < 16 := by omega
  have hzeros : AllDigits (List.replicate ((-e).toNat - 1) '0' ++ ds) :=
    (allDigits_zeros _).append hd
  refine ⟨⟨['0'], List.replicate ((-e).toNat - 1) '0' ++ ds, none⟩, ?_, ?_, ?_, 0, ?_, ?_⟩
  · simp [layout, low, high, hlast, hne, Numeral.chars, Numeral.pointed, Numeral.powered]
  · exact ⟨allDigits_zeros 1, hzeros, by simp, .inl rfl⟩
  · simp [Numeral.isInteger, hne]
  · rw [Numeral.digits, Nat.pow_zero, Nat.mul_one]
    exact valueOf_padded ((-e).toNat - 1 + 1) hd
  · simp [Numeral.exponent, Numeral.powerValue]
    omega

theorem layout_whole (hd : AllDigits ds) (hne : ds ≠ []) (lead : ds.head? ≠ some '0')
    (low : 0 ≤ e) (high : e < 16) (short : ds.length ≤ e.toNat + 1) :
    ∃ n, IsWritten (layout ds e) (valueOf ds) (e + 1 - ds.length) n := by
  have hfirst : -4 ≤ e := by omega
  have hnonneg : ¬ e < 0 := by omega
  have hzeros := allDigits_zeros (e.toNat + 1 - ds.length)
  refine ⟨⟨ds ++ List.replicate (e.toNat + 1 - ds.length) '0', ['0'], none⟩, ?_, ?_, rfl,
    e.toNat + 1 - ds.length + 1, ?_, ?_⟩
  · simp [layout, hfirst, hnonneg, high, short, Numeral.chars, Numeral.pointed, Numeral.powered]
  · refine ⟨hd.append hzeros, allDigits_zeros 1, by simp, .inr ⟨by simp [hne], ?_⟩⟩
    rwa [List.head?_append_of_ne_nil _ hne]
  · rw [Numeral.digits, List.append_assoc, ← valueOf_append_zeros, List.replicate_succ']
  · simp [Numeral.exponent, Numeral.powerValue]
    omega

theorem layout_pointed (hd : AllDigits ds) (hne : ds ≠ []) (lead : ds.head? ≠ some '0')
    (low : 0 ≤ e) (high : e < 16) (long : e.toNat + 1 < ds.length) :
    ∃ n, IsWritten (layout ds e) (valueOf ds) (e + 1 - ds.length) n := by
  have hfirst : -4 ≤ e := by omega
  have hnonneg : ¬ e < 0 := by omega
  have hlong : ¬ ds.length ≤ e.toNat + 1 := by omega
  have hdrop : ds.drop (e.toNat + 1) ≠ [] := by simpa using long
  refine ⟨⟨ds.take (e.toNat + 1), ds.drop (e.toNat + 1), none⟩, ?_, ?_, ?_, 0, ?_, ?_⟩
  · simp [layout, hfirst, hnonneg, high, hlong, Numeral.chars, Numeral.pointed, Numeral.powered]
  · refine ⟨hd.of_subset (List.take_subset _ _), hd.of_subset (List.drop_subset _ _), by simp,
      .inr ⟨by simp [hne], ?_⟩⟩
    rwa [List.head?_take, if_neg (by omega)]
  · simp [Numeral.isInteger, hdrop]
  · rw [Numeral.digits, List.take_append_drop, Nat.pow_zero, Nat.mul_one]
  · simp [Numeral.exponent, Numeral.powerValue]
    omega

theorem layout_scientific (hd : AllDigits ds) (hne : ds ≠ []) (lead : ds.head? ≠ some '0')
    (far : e < -4 ∨ 16 ≤ e) :
    ∃ n, IsWritten (layout ds e) (valueOf ds) (e + 1 - ds.length) n := by
  obtain ⟨d, rest, rfl⟩ := List.exists_cons_of_ne_nil hne
  obtain ⟨pad, hpad⟩ : ∃ pad, pad = if e.natAbs < 10 then 1 else 0 := ⟨_, rfl⟩
  have hsize : AllDigits (List.replicate pad '0' ++ Nat.toDigits 10 e.natAbs) :=
    (allDigits_zeros pad).append (allDigits_toDigits _)
  have hvalue : valueOf (List.replicate pad '0' ++ Nat.toDigits 10 e.natAbs) = e.natAbs := by
    rw [valueOf_padded _ (allDigits_toDigits _), valueOf_toDigits]
  refine ⟨⟨[d], rest, some (decide (e < 0), List.replicate pad '0' ++ Nat.toDigits 10 e.natAbs)⟩,
    ?_, ?_, ?_, 0, ?_, ?_⟩
  · have hfar : ¬ (-4 ≤ e ∧ e < 16) := by omega
    have hmark : (if e < 0 then "e-" else "e+").toList = ['e', if e < 0 then '-' else '+'] := by
      split <;> rfl
    have hzero : (if e.natAbs < 10 then "0" else "").toList = List.replicate pad '0' := by
      rw [hpad]
      split <;> rfl
    cases rest <;>
      simp [layout, hfar, hmark, hzero, Numeral.chars, Numeral.pointed, Numeral.powered]
  · refine ⟨hd.of_subset (by simp), hd.of_subset (by simp), ?_, .inr ⟨by simp, by simpa using lead⟩⟩
    rintro negative ds ⟨⟩
    exact ⟨hsize, by simp⟩
  · simp [Numeral.isInteger]
  · simp [Numeral.digits]
  · simp only [Numeral.exponent, Numeral.powerValue, hvalue, List.length_cons, decide_eq_true_eq]
    split <;> omega

end

theorem layout_written {ds : List Char} (hd : AllDigits ds) (hne : ds ≠ [])
    (lead : ds.head? ≠ some '0') (e : Int) :
    ∃ n, IsWritten (layout ds e) (valueOf ds) (e + 1 - ds.length) n := by
  by_cases hpositional : -4 ≤ e ∧ e < 16
  · by_cases hsmall : e < 0
    · exact layout_small hd hne hpositional.1 hsmall
    · by_cases hshort : ds.length ≤ e.toNat + 1
      · exact layout_whole hd hne lead (by omega) hpositional.2 hshort
      · exact layout_pointed hd hne lead (by omega) hpositional.2 (by omega)
  · exact layout_scientific hd hne lead (by omega)

/-! ## The text of a double -/

theorem decimalText_written {x : Float} {b : Binary} (h : FloatForm.of x = .finite b)
    (hb : b.mantissa ≠ 0) {m : Nat} {k : Int} (hs : b.shortest = (m, k)) :
    ∃ n : Numeral, (decimalText m k).toList = n.chars ∧ n.IsPlain ∧ n.isInteger = false ∧
      nearest b.negative n.digits n.exponent = x := by
  have lead := head_toDigits (shortest_pos (of_finite h).1 hb hs)
  obtain ⟨n, hn⟩ := layout_written (allDigits_toDigits m) Nat.toDigits_ne_nil lead
    (k + (Nat.toDigits 10 m).length - 1)
  obtain ⟨j, hdigits, hexponent⟩ := hn.value
  refine ⟨n, hn.text, hn.plain, hn.fractional, ?_⟩
  rw [hdigits, hexponent, valueOf_toDigits, ← nearest_shortest h hs j]
  congr 1
  omega

/-- The text of a finite double is its sign and a numeral that reads back as the double. -/
theorem shortestText_written {x : Float} {b : Binary} (h : FloatForm.of x = .finite b) :
    ∃ n : Numeral, (shortestText x).toList = (if b.negative then ['-'] else []) ++ n.chars ∧
      n.IsPlain ∧ n.isInteger = false ∧ nearest b.negative n.digits n.exponent = x := by
  have hsign : b.signText.toList = if b.negative then ['-'] else [] := by
    rw [Binary.signText]
    split <;> rfl
  rw [shortestText, h]
  dsimp only
  rw [String.toList_append, hsign]
  by_cases hzero : b.mantissa = 0
  · obtain ⟨hdouble, hbits⟩ := of_finite h
    refine ⟨⟨['0'], ['0'], none⟩, ?_, ?_, rfl, ?_⟩
    · rw [if_pos (beq_iff_eq.2 hzero)]
      rfl
    · exact ⟨allDigits_zeros 1, allDigits_zeros 1, by simp, .inl rfl⟩
    · have hmagnitude : b.magnitude = 0 := by
        have := hdouble.normal
        simp only [Binary.magnitude, hzero, Nat.pow_eq]
        omega
      have hdigits : Numeral.digits ⟨['0'], ['0'], none⟩ = 0 := rfl
      rw [nearest_eq, hdigits, decimalBits_zero, ← hmagnitude, hbits]
  · have hne : ¬ (b.mantissa == 0) = true := by simpa using hzero
    rw [if_neg hne]
    rcases hs : b.shortest with ⟨m, k⟩
    obtain ⟨n, htext, hplain, hfractional, hvalue⟩ := decimalText_written h hzero hs
    exact ⟨n, by rw [htext], hplain, hfractional, hvalue⟩

end Scout.Decimal

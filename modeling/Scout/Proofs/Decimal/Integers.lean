import Scout.Proofs.Decimal.Nearest

/-!
# Integers as doubles

The double nearest to an integer keeps 53 leading binary digits of it and rounds the others off.
An integer that reaches `2^1024` in this way is beyond the doubles, and becomes an infinity.
-/

namespace Scout.Decimal

open Float.Model

/-! ## Doubles made of bits -/

theorem toBits_ofBits {bits : UInt64} (valid : Format.binary64.Valid bits.toBitVec) :
    (Float.ofBits bits).toBits = bits :=
  UInt64.toBitVec_inj.1 (pack_unpack valid)

theorem toNat_toBits_ofMagnitude (negative : Bool) {bits : Nat} (h : bits ≤ infinityBits) :
    (ofMagnitude negative bits).toBits.toNat = (if negative then 2 ^ 63 else 0) + bits := by
  rw [infinityBits, Nat.pow_eq] at h
  have small : (if negative then 2 ^ 63 else 0) + bits < 2 ^ 64 := by
    split <;> omega
  have number : (UInt64.ofNat ((if negative then 2 ^ 63 else 0) + bits)).toBitVec.toNat =
      (if negative then 2 ^ 63 else 0) + bits := by
    rw [UInt64.toNat_toBitVec, UInt64.toNat_ofNat_of_lt' small]
  have valid : Format.binary64.Valid
      (UInt64.ofNat ((if negative then 2 ^ 63 else 0) + bits)).toBitVec := by
    -- of the bits with the greatest exponent only those of the infinities are this small
    refine ⟨fun exponent mantissa => absurd ?_ mantissa⟩
    have top := congrArg BitVec.toNat exponent
    rw [toNat_unpackExponent, number] at top
    apply BitVec.eq_of_toNat_eq
    rw [toNat_unpackMantissa, number]
    change _ = 2047 at top
    change _ = 0
    split at top <;> split <;> omega
  rw [ofMagnitude, Nat.pow_eq, toBits_ofBits valid, ← UInt64.toNat_toBitVec, number]

theorem of_ofMagnitude (negative : Bool) {bits : Nat} (h : bits < infinityBits) :
    ∃ b, FloatForm.of (ofMagnitude negative bits) = .finite b ∧ b.negative = negative ∧
      b.magnitude = bits := by
  have whole := toNat_toBits_ofMagnitude negative h.le
  rw [infinityBits, Nat.pow_eq] at h
  have sign : ((if negative then 2 ^ 63 else 0) + bits) / 2 ^ 63 = if negative then 1 else 0 := by
    split <;> omega
  have exponent : ((if negative then 2 ^ 63 else 0) + bits) / 2 ^ 52 % 2 ^ 11 = bits / 2 ^ 52 := by
    split <;> omega
  have fraction : ((if negative then 2 ^ 63 else 0) + bits) % 2 ^ 52 = bits % 2 ^ 52 := by
    split <;> omega
  have signed : ((if negative then 1 else 0) == 1) = negative := by
    cases negative <;> rfl
  unfold FloatForm.of
  simp only [whole, Nat.pow_eq, sign, exponent, fraction, signed, beq_iff_eq]
  rw [if_neg (by omega)]
  split
  · exact ⟨_, rfl, rfl, by simp only [Binary.magnitude, Nat.pow_eq]; omega⟩
  · exact ⟨_, rfl, rfl, by simp only [Binary.magnitude, Nat.pow_eq]; omega⟩

theorem of_ofMagnitude_infinite (negative : Bool) :
    FloatForm.of (ofMagnitude negative infinityBits) = .infinite negative := by
  unfold FloatForm.of
  rw [toNat_toBits_ofMagnitude negative le_rfl]
  cases negative <;> rfl

/-! ## The value of a double in units of the smallest one -/

namespace Binary

variable {b : Binary}

/-- How many times the smallest positive double a double is, without its sign. -/
def units (b : Binary) : Nat :=
  b.mantissa * 2 ^ (b.exponent + 1074).toNat

theorem IsDouble.units_eq (h : b.IsDouble) {s m : Nat} (bound : m ≤ 2 ^ 53)
    (normal : s = 0 ∨ 2 ^ 52 ≤ m) (same : b.magnitude = s * 2 ^ 52 + m) :
    b.units = m * 2 ^ s := by
  have hleast := h.least
  have hbounded := h.bounded
  have hnormal := h.normal
  rw [magnitude, Nat.pow_eq] at same
  rw [units]
  generalize hs : (b.exponent + 1074).toNat = e at same
  rcases Nat.lt_or_eq_of_le bound with below | rfl
  · obtain ⟨rfl, hm⟩ : e = s ∧ b.mantissa = m := by omega
    rw [hm]
  · -- rounded up to the next power of two
    obtain ⟨rfl, hm⟩ : e = s + 1 ∧ b.mantissa = 2 ^ 52 := by omega
    rw [hm]
    ring

theorem IsDouble.truncate_eq (h : b.IsDouble) :
    b.truncate = (if b.negative then -1 else 1) * ((b.units / 2 ^ 1074 : Nat) : Int) := by
  have hleast := h.least
  have whole : b.ratio.1 / b.ratio.2 = b.units / 2 ^ 1074 := by
    unfold ratio units
    simp only [Nat.pow_eq]
    cases hq : b.exponent with
    | ofNat e =>
      have hs : (Int.ofNat e + 1074).toNat = e + 1074 := by
        simp only [Int.ofNat_eq_natCast]
        omega
      simp only [hs, Nat.div_one]
      rw [Nat.pow_add, ← Nat.mul_assoc, Nat.mul_div_cancel _ (by positivity)]
    | negSucc e =>
      rw [hq] at hleast
      obtain ⟨s, hs⟩ : ∃ s, (Int.negSucc e + 1074).toNat = s := ⟨_, rfl⟩
      have hsum : 1074 = e + 1 + s := by omega
      calc b.mantissa / 2 ^ (e + 1)
          = b.mantissa * 2 ^ s / (2 ^ (e + 1) * 2 ^ s) :=
            (Nat.mul_div_mul_right _ _ (by positivity)).symm
        _ = b.mantissa * 2 ^ s / 2 ^ (e + 1 + s) := by rw [← Nat.pow_add]
        _ = b.mantissa * 2 ^ (Int.negSucc e + 1074).toNat / 2 ^ 1074 := by rw [hs, ← hsum]
  unfold truncate
  dsimp only
  rw [whole]
  generalize b.units / 2 ^ 1074 = n
  split <;> simp

end Binary

/-! ## The double nearest to an integer -/

/-- An integer of which 53 leading binary digits are kept and the others rounded off, a half to the
even neighbour. -/
def leading (n : Nat) : Nat :=
  roundDiv n (2 ^ (n.log2 - 52)) * 2 ^ (n.log2 - 52)

theorem roundDiv_one (n : Nat) : roundDiv n 1 = n := by
  simpa using roundDiv_mul_self n Nat.one_pos

theorem roundDiv_cases (n d : Nat) : roundDiv n d = n / d ∨ roundDiv n d = n / d + 1 := by
  unfold roundDiv
  dsimp only
  split
  · exact .inl rfl
  · split
    · exact .inr rfl
    · split
      · exact .inl rfl
      · exact .inr rfl

/-- An integer of at most 53 binary digits is kept as it is. -/
theorem leading_of_lt {n : Nat} (h : n < 2 ^ 53) : leading n = n := by
  have short : n.log2 - 52 = 0 := by
    rcases Nat.eq_zero_or_pos n with rfl | positive
    · rfl
    · have : n.log2 < 53 := (Nat.log2_lt (by omega)).2 h
      omega
  rw [leading, short, Nat.pow_zero, Nat.mul_one, roundDiv_one]

theorem leading_pos {n : Nat} (h : n ≠ 0) : 0 < leading n := by
  have long : 2 ^ (n.log2 - 52) ≤ n :=
    (Nat.pow_le_pow_right Nat.two_pos (by omega)).trans (Nat.log2_self_le h)
  have quotient : 1 ≤ n / 2 ^ (n.log2 - 52) := Nat.div_pos long (by positivity)
  have kept : 1 ≤ roundDiv n (2 ^ (n.log2 - 52)) := by
    rcases roundDiv_cases n (2 ^ (n.log2 - 52)) with e | e <;> omega
  exact Nat.mul_pos kept (by positivity)

/-- Rounding a positive integer that is counted in smaller units keeps its leading digits. -/
theorem roundDiv_units {n s u : Nat} (positive : n ≠ 0) (unit : s + 52 = n.log2 + u)
    (fine : 52 ≤ u) :
    2 ^ 52 ≤ roundDiv (n * 2 ^ u) (2 ^ s) ∧ roundDiv (n * 2 ^ u) (2 ^ s) ≤ 2 ^ 53 ∧
      roundDiv (n * 2 ^ u) (2 ^ s) * 2 ^ s = leading n * 2 ^ u := by
  have least := Nat.log2_self_le positive
  have greatest := Nat.lt_log2_self (n := n)
  by_cases long : 52 ≤ n.log2
  · obtain ⟨k, hk⟩ := Nat.exists_eq_add_of_le long
    obtain rfl : s = k + u := by omega
    have shift : n.log2 - 52 = k := by omega
    rw [hk, Nat.pow_add] at least
    rw [show n.log2 + 1 = 53 + k by omega, Nat.pow_add] at greatest
    have lower : 2 ^ 52 ≤ n / 2 ^ k := (Nat.le_div_iff_mul_le (by positivity)).2 least
    have upper : n / 2 ^ k < 2 ^ 53 := (Nat.div_lt_iff_lt_mul (by positivity)).2 greatest
    rw [Nat.pow_add, roundDiv_mul_right _ _ (by positivity), leading, shift]
    refine ⟨?_, ?_, by ring⟩
    · rcases roundDiv_cases n (2 ^ k) with e | e <;> omega
    · rcases roundDiv_cases n (2 ^ k) with e | e <;> omega
  · obtain ⟨k, hk⟩ := Nat.exists_eq_add_of_le (show n.log2 ≤ 52 by omega)
    obtain rfl : u = s + k := by omega
    have small : n < 2 ^ 53 := greatest.trans_le (Nat.pow_le_pow_right Nat.two_pos (by omega))
    have unrounded : roundDiv (n * 2 ^ (s + k)) (2 ^ s) = n * 2 ^ k := by
      rw [Nat.pow_add, Nat.mul_left_comm]
      exact roundDiv_mul_self _ (by positivity)
    rw [unrounded, leading_of_lt small]
    refine ⟨?_, ?_, by ring⟩
    · rw [hk, Nat.pow_add]
      exact Nat.mul_le_mul_right _ least
    · rw [show 53 = n.log2 + 1 + k by omega, Nat.pow_add]
      exact Nat.mul_le_mul_right _ greatest.le

theorem log2_mul_two_pow {n : Nat} (positive : n ≠ 0) (u : Nat) :
    (n * 2 ^ u).log2 = n.log2 + u := by
  rw [Nat.log2_eq_iff (Nat.mul_ne_zero positive (by positivity))]
  constructor
  · rw [Nat.pow_add]
    exact Nat.mul_le_mul_right _ (Nat.log2_self_le positive)
  · rw [Nat.add_right_comm, Nat.pow_add]
    exact Nat.mul_lt_mul_of_pos_right Nat.lt_log2_self (by positivity)

/-- The bits of an exponent and a mantissa are below those of a power of two as the value is. -/
theorem packed_lt_iff {s m k : Nat} (low : 2 ^ 52 ≤ m) (high : m ≤ 2 ^ 53) :
    s * 2 ^ 52 + m < (k + 1) * 2 ^ 52 ↔ m * 2 ^ s < 2 ^ 52 * 2 ^ k := by
  rcases Nat.lt_or_eq_of_le high with below | rfl
  · rw [show s * 2 ^ 52 + m < (k + 1) * 2 ^ 52 ↔ s < k by omega]
    constructor
    · intro less
      calc m * 2 ^ s < 2 ^ 53 * 2 ^ s := Nat.mul_lt_mul_of_pos_right below (by positivity)
        _ = 2 ^ 52 * 2 ^ (s + 1) := by ring
        _ ≤ 2 ^ 52 * 2 ^ k := Nat.mul_le_mul_left _ (Nat.pow_le_pow_right Nat.two_pos less)
    · intro less
      by_contra more
      have reached : 2 ^ 52 * 2 ^ k ≤ m * 2 ^ s :=
        Nat.mul_le_mul low (Nat.pow_le_pow_right Nat.two_pos (by omega))
      omega
  · rw [show s * 2 ^ 52 + 2 ^ 53 < (k + 1) * 2 ^ 52 ↔ s + 1 < k by omega,
      show 2 ^ 53 * 2 ^ s = 2 ^ 52 * 2 ^ (s + 1) by ring, Nat.mul_lt_mul_left (by positivity),
      Nat.pow_lt_pow_iff_right (by decide)]

theorem decimalBits_integer {n : Nat} (positive : n ≠ 0) :
    decimalBits n 0 = min ((n.log2 + 1022) * 2 ^ 52 +
      roundDiv (n * 2 ^ 1074) (2 ^ (n.log2 + 1022))) infinityBits := by
  have integer : fraction n 0 = (n, 1) := Prod.ext (Nat.mul_one n) rfl
  have shift : (n * 2 ^ 1074 / 1).log2 - 52 = n.log2 + 1022 := by
    rw [Nat.div_one, log2_mul_two_pow positive]
    omega
  rw [decimalBits, integer]
  unfold nearestBits
  simp only [Nat.pow_eq]
  rw [shift, Nat.one_mul]

/-- As a double an integer keeps its leading digits, or is an infinity when these reach `2^1024`. -/
theorem of_ofInt (n : Int) :
    (leading n.natAbs < 2 ^ 1024 →
      ∃ b, FloatForm.of (ofInt n) = .finite b ∧ b.truncate = n.sign * leading n.natAbs) ∧
    (2 ^ 1024 ≤ leading n.natAbs → FloatForm.of (ofInt n) = .infinite (decide (n < 0))) := by
  rw [ofInt, nearest_eq]
  rcases eq_or_ne n 0 with rfl | nonzero
  · refine ⟨fun _ => ?_, fun large => absurd large (by decide +kernel)⟩
    obtain ⟨b, form, -, magnitude⟩ := of_ofMagnitude false (show 0 < infinityBits by decide)
    refine ⟨b, by rwa [Int.natAbs_zero, decimalBits_zero], ?_⟩
    have none : b.units = 0 := by
      rw [(of_finite form).1.units_eq (Nat.zero_le _) (.inl (Eq.refl 0)) magnitude, Nat.zero_mul]
    rw [(of_finite form).1.truncate_eq, none, Nat.zero_div, Nat.cast_zero, Int.mul_zero,
      Int.sign_zero, Int.zero_mul]
  have positive : n.natAbs ≠ 0 := Int.natAbs_ne_zero.2 nonzero
  obtain ⟨low, high, value⟩ := roundDiv_units (s := n.natAbs.log2 + 1022) (u := 1074) positive
    (by omega) (by omega)
  rw [decimalBits_integer positive]
  generalize roundDiv (n.natAbs * 2 ^ 1074) (2 ^ (n.natAbs.log2 + 1022)) = m at low high value ⊢
  generalize n.natAbs.log2 + 1022 = s at value ⊢
  have finite : s * 2 ^ 52 + m < infinityBits ↔ leading n.natAbs < 2 ^ 1024 := by
    have power : 2 ^ 52 * 2 ^ 2046 = 2 ^ 1024 * 2 ^ 1074 := by
      rw [← Nat.pow_add, ← Nat.pow_add]
    rw [infinityBits, Nat.pow_eq, packed_lt_iff (k := 2046) low high, value, power,
      Nat.mul_lt_mul_right (by positivity)]
  constructor
  · intro small
    have below := finite.2 small
    rw [Nat.min_eq_left below.le]
    obtain ⟨b, form, sign, magnitude⟩ := of_ofMagnitude (decide (n < 0)) below
    refine ⟨b, form, ?_⟩
    have double := (of_finite form).1
    rw [double.truncate_eq, double.units_eq high (.inr low) magnitude, value,
      Nat.mul_div_cancel _ (by positivity), sign]
    congr 1
    rcases lt_or_gt_of_ne nonzero with negative | positive
    · rw [Int.sign_eq_neg_one_of_neg negative, if_pos (by simpa using negative)]
    · rw [Int.sign_eq_one_of_pos positive, if_neg (by simpa using positive.le)]
  · intro large
    rw [Nat.min_eq_right (by omega)]
    exact of_ofMagnitude_infinite _

end Scout.Decimal

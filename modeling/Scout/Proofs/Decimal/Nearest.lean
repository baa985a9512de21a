import Scout.Proofs.Decimal.Bits

/-!
# Reading shortest decimals back

The bits of the nearest double depend on the value of a decimal only, and not on
how it is split into digits and exponent.  The double nearest to the value of a
double is the double itself, so that whatever the search for a short decimal
accepts reads back as the double that it was found for.
-/

namespace Scout.Decimal

/-! ## Rounded quotients -/

theorem roundDiv_mul_right (n d : Nat) {c : Nat} (hc : 0 < c) :
    roundDiv (n * c) (d * c) = roundDiv n d := by
  have hlt : 2 * (n % d * c) < d * c ↔ 2 * (n % d) < d := by
    rw [← Nat.mul_assoc, Nat.mul_lt_mul_right hc]
  have hgt : d * c < 2 * (n % d * c) ↔ d < 2 * (n % d) := by
    rw [← Nat.mul_assoc, Nat.mul_lt_mul_right hc]
  simp only [roundDiv, Nat.mul_div_mul_right _ _ hc, Nat.mul_mod_mul_right, gt_iff_lt, hlt, hgt]

theorem roundDiv_mul_self (q : Nat) {d : Nat} (hd : 0 < d) : roundDiv (d * q) d = q := by
  simp [roundDiv, Nat.mul_div_cancel_left q hd, hd]

@[simp] theorem roundDiv_zero (d : Nat) : roundDiv 0 d = 0 := by
  simp [roundDiv]

theorem roundDiv_eq_zero {n d : Nat} (h : 2 * n < d) : roundDiv n d = 0 := by
  have hn : n < d := by omega
  simp [roundDiv, Nat.div_eq_of_lt hn, Nat.mod_eq_of_lt hn, h]

/-! ## The nearest double -/

theorem nearestBits_mul_right (n d : Nat) {c : Nat} (hc : 0 < c) :
    nearestBits (n * c) (d * c) = nearestBits n d := by
  unfold nearestBits
  simp only [Nat.pow_eq]
  have hunits : n * c * 2 ^ 1074 = n * 2 ^ 1074 * c := Nat.mul_right_comm n c _
  have hunit (s : Nat) : d * c * 2 ^ s = d * 2 ^ s * c := by ring
  simp only [hunits, hunit, Nat.mul_div_mul_right _ _ hc, roundDiv_mul_right _ _ hc]

theorem nearestBits_congr {n d n' d' : Nat} (hd : 0 < d) (hd' : 0 < d')
    (h : n * d' = n' * d) : nearestBits n d = nearestBits n' d' := by
  rw [← nearestBits_mul_right n d hd', h, Nat.mul_comm d d', nearestBits_mul_right n' d' hd]

/-- A multiple `m` of the unit `2^s` that a double can be is the nearest double of itself. -/
theorem nearestBits_exact {n d m s : Nat} (hd : 0 < d) (hm : m < 2 ^ 53)
    (normal : s = 0 ∨ 2 ^ 52 ≤ m) (hs : s ≤ 2045) (value : n * 2 ^ 1074 = d * (m * 2 ^ s)) :
    nearestBits n d = s * 2 ^ 52 + m := by
  have hshift : (m * 2 ^ s).log2 - 52 = s := by
    rcases normal with rfl | hbig
    · rcases Nat.eq_zero_or_pos m with rfl | hpos
      · simp
      · have : m.log2 < 53 := (Nat.log2_lt (by omega)).2 hm
        simp only [Nat.pow_zero, Nat.mul_one]
        omega
    · have : (m * 2 ^ s).log2 = 52 + s := by
        rw [Nat.log2_eq_iff (Nat.mul_ne_zero (by omega) (by positivity))]
        constructor
        · rw [Nat.pow_add]
          exact Nat.mul_le_mul_right _ hbig
        · calc m * 2 ^ s < 2 ^ 53 * 2 ^ s := Nat.mul_lt_mul_of_pos_right hm (by positivity)
            _ = 2 ^ (52 + s + 1) := by ring
      omega
  have hround : roundDiv (d * (m * 2 ^ s)) (d * 2 ^ s) = m := by
    rw [show d * (m * 2 ^ s) = d * 2 ^ s * m by ring]
    exact roundDiv_mul_self m (by positivity)
  unfold nearestBits
  simp only [Nat.pow_eq, value, Nat.mul_div_cancel_left _ hd, hshift, hround]
  apply Nat.min_eq_left
  rw [infinityBits, Nat.pow_eq]
  omega

theorem ratio_pos (b : Binary) : 0 < b.ratio.2 := by
  unfold Binary.ratio
  simp only [Nat.pow_eq]
  split
  · exact Nat.one_pos
  · positivity

theorem Binary.IsDouble.nearestBits_ratio {b : Binary} (h : b.IsDouble) :
    nearestBits b.ratio.1 b.ratio.2 = b.magnitude := by
  have hleast := h.least
  have hgreatest := h.greatest
  have hnormal := h.normal
  rw [Binary.magnitude, Nat.pow_eq]
  apply nearestBits_exact (ratio_pos b) h.bounded (by omega) (by omega)
  unfold Binary.ratio
  simp only [Nat.pow_eq]
  cases hq : b.exponent with
  | ofNat e =>
    have hs : (Int.ofNat e + 1074).toNat = e + 1074 := by
      simp only [Int.ofNat_eq_natCast]
      omega
    rw [hs, Nat.pow_add, Nat.one_mul]
    exact Nat.mul_assoc _ _ _
  | negSucc e =>
    rw [hq] at hleast
    obtain ⟨s, hs⟩ : ∃ s, (Int.negSucc e + 1074).toNat = s := ⟨_, rfl⟩
    have hsum : 1074 = s + (e + 1) := by omega
    calc b.mantissa * 2 ^ 1074
        = b.mantissa * 2 ^ (s + (e + 1)) := congrArg (fun p => b.mantissa * 2 ^ p) hsum
      _ = 2 ^ (e + 1) * (b.mantissa * 2 ^ s) := by ring
      _ = 2 ^ (e + 1) * (b.mantissa * 2 ^ (Int.negSucc e + 1074).toNat) := by rw [hs]

/-! ## Decimals -/

theorem fraction_pos (digits : Nat) (k : Int) : 0 < (fraction digits k).2 := by
  unfold fraction
  simp only [Nat.pow_eq]
  split
  · exact Nat.one_pos
  · positivity

theorem decimalBits_zero (k : Int) : decimalBits 0 k = 0 := by
  have hzero : (fraction 0 k).1 = 0 := by
    unfold fraction
    split <;> simp
  rw [decimalBits, hzero]
  unfold nearestBits
  simp only [Nat.zero_mul, Nat.zero_div, Nat.log2_zero, Nat.zero_sub, roundDiv_zero,
    Nat.add_zero, Nat.zero_min]

/-- A zero more among the digits is one less in the exponent. -/
theorem decimalBits_mul_ten (n : Nat) (k : Int) :
    decimalBits (n * 10) k = decimalBits n (k + 1) := by
  apply nearestBits_congr (fraction_pos _ _) (fraction_pos _ _)
  match k with
  | .ofNat e =>
    rw [show Int.ofNat e + 1 = Int.ofNat (e + 1) from rfl]
    simp only [fraction, Nat.pow_eq]
    ring
  | .negSucc 0 =>
    rw [show Int.negSucc 0 + 1 = Int.ofNat 0 from rfl]
    simp only [fraction, Nat.pow_eq]
    ring
  | .negSucc (e + 1) =>
    rw [show Int.negSucc (e + 1) + 1 = Int.negSucc e from rfl]
    simp only [fraction, Nat.pow_eq]
    ring

theorem decimalBits_mul_pow (n j : Nat) (k : Int) :
    decimalBits (n * 10 ^ j) k = decimalBits n (k + j) := by
  induction j generalizing k with
  | zero => simp
  | succ j ih =>
    rw [Nat.pow_succ, ← Nat.mul_assoc, decimalBits_mul_ten, ih]
    congr 1
    omega

/-! ## Shortest decimals -/

theorem of_gridPoint {b : Binary} {k : Int} {n : Nat} (h : b.gridPoint? k = some n) :
    decimalBits n k = b.magnitude := by
  have accepts {m : Nat} (hm : b.isNearestTo m k = true) : decimalBits m k = b.magnitude := by
    simpa [Binary.isNearestTo] using hm
  unfold Binary.gridPoint? at h
  generalize b.onGrid k = grid at h
  simp only [Bool.and_eq_true] at h
  split at h
  · next hboth =>
    cases h
    split
    · exact accepts hboth.1
    · exact accepts hboth.2
  · split at h
    · next hbelow =>
      cases h
      exact accepts hbelow
    · split at h
      · next habove =>
        cases h
        exact accepts habove
      · cases h

theorem decimalBits_exact {b : Binary} (h : b.IsDouble) :
    decimalBits b.exact.1 b.exact.2 = b.magnitude := by
  rw [← h.nearestBits_ratio]
  apply nearestBits_congr (fraction_pos _ _) (ratio_pos b)
  unfold Binary.exact Binary.ratio
  simp only [Nat.pow_eq]
  cases b.exponent with
  | ofNat e => simp [fraction]
  | negSucc e =>
    simp only [fraction, Nat.pow_eq]
    rw [Nat.mul_assoc, ← Nat.mul_pow]

theorem decimalBits_search {b : Binary} (h : b.IsDouble) (grids : List Int) :
    decimalBits (b.search grids).1 (b.search grids).2 = b.magnitude := by
  rw [Binary.search]
  cases hf : grids.findSome? fun k => (b.gridPoint? k).map fun n => (n, k) with
  | none =>
    rw [Option.getD_none]
    exact decimalBits_exact h
  | some point =>
    obtain ⟨k, -, hk⟩ := List.exists_of_findSome?_eq_some hf
    obtain ⟨n, hn, rfl⟩ := Option.map_eq_some_iff.1 hk
    rw [Option.getD_some]
    exact of_gridPoint hn

theorem decimalBits_stripZeros (fuel n : Nat) (k : Int) :
    decimalBits (stripZeros fuel n k).1 (stripZeros fuel n k).2 = decimalBits n k := by
  induction fuel generalizing n k with
  | zero => rw [stripZeros]
  | succ fuel ih =>
    rw [stripZeros]
    split
    · next hz =>
      simp only [Bool.and_eq_true, beq_iff_eq] at hz
      have hn : n / 10 * 10 = n := by omega
      rw [ih, ← decimalBits_mul_ten, hn]
    · rfl

theorem decimalBits_shortest {b : Binary} (h : b.IsDouble) :
    decimalBits b.shortest.1 b.shortest.2 = b.magnitude := by
  rw [Binary.shortest, decimalBits_stripZeros]
  exact decimalBits_search h _

theorem of_shortest {b : Binary} (h : b.IsDouble) {n : Nat} {k : Int} (hs : b.shortest = (n, k)) :
    decimalBits n k = b.magnitude := by
  have hbits := decimalBits_shortest h
  rwa [hs] at hbits

theorem shortest_pos {b : Binary} (h : b.IsDouble) (hb : b.mantissa ≠ 0) {n : Nat} {k : Int}
    (hs : b.shortest = (n, k)) : 0 < n := by
  apply Nat.pos_of_ne_zero
  rintro rfl
  have hbits := of_shortest h hs
  rw [decimalBits_zero, Binary.magnitude] at hbits
  omega

/-! ## Far exponents -/

theorem decimalBits_of_small {n : Nat} {k : Int} (h : (n.log2 : Int) + 3 * k < -1080) :
    decimalBits n k = 0 := by
  match k with
  | .ofNat e =>
    simp only [Int.ofNat_eq_natCast] at h
    omega
  | .negSucc e =>
    have hn : n < 2 ^ (n.log2 + 1) := Nat.lt_log2_self
    have hten : 2 ^ (3 * (e + 1)) ≤ 10 ^ (e + 1) := by
      rw [Nat.pow_mul]
      exact Nat.pow_le_pow_left (by decide) _
    have hhalf : 2 * (n * 2 ^ 1074) < 10 ^ (e + 1) := by
      calc 2 * (n * 2 ^ 1074) < 2 * (2 ^ (n.log2 + 1) * 2 ^ 1074) := by
            apply Nat.mul_lt_mul_of_pos_left _ (by decide)
            exact Nat.mul_lt_mul_of_pos_right hn (by positivity)
        _ = 2 ^ (1 + (n.log2 + 1 + 1074)) := by
            rw [Nat.pow_add 2 1, Nat.pow_add 2 (n.log2 + 1), Nat.pow_one]
        _ ≤ 2 ^ (3 * (e + 1)) := Nat.pow_le_pow_right Nat.two_pos (by omega)
        _ ≤ 10 ^ (e + 1) := hten
    have hquot : n * 2 ^ 1074 / 10 ^ (e + 1) = 0 := Nat.div_eq_of_lt (by omega)
    simp only [decimalBits, fraction, Nat.pow_eq]
    unfold nearestBits
    simp only [Nat.pow_eq]
    simp only [hquot]
    rw [show Nat.log2 0 - 52 = 0 from rfl, Nat.pow_zero, Nat.mul_one, roundDiv_eq_zero hhalf]
    simp

theorem decimalBits_of_large {n : Nat} {k : Int} (hn : 0 < n) (h : 400 < k) :
    decimalBits n k = infinityBits := by
  match k with
  | .negSucc e => omega
  | .ofNat e =>
    have he : 401 ≤ e := by
      simp only [Int.ofNat_eq_natCast] at h
      omega
    have hten : 2 ^ 1203 ≤ 10 ^ e := by
      calc 2 ^ 1203 = 8 ^ 401 := by rw [show 8 = 2 ^ 3 from rfl, ← Nat.pow_mul]
        _ ≤ 10 ^ 401 := Nat.pow_le_pow_left (by decide) _
        _ ≤ 10 ^ e := Nat.pow_le_pow_right (Nat.succ_pos 9) he
    have hunits : 2 ^ 2277 ≤ n * 10 ^ e * 2 ^ 1074 := by
      calc 2 ^ 2277 = 1 * 2 ^ 1203 * 2 ^ 1074 := by rw [Nat.one_mul, ← Nat.pow_add]
        _ ≤ n * 10 ^ e * 2 ^ 1074 := by
          apply Nat.mul_le_mul_right
          exact Nat.mul_le_mul hn hten
    have hlog : 2277 ≤ (n * 10 ^ e * 2 ^ 1074).log2 := by
      rw [Nat.le_log2 (by positivity)]
      exact hunits
    simp only [decimalBits, fraction, Nat.pow_eq]
    unfold nearestBits
    apply Nat.min_eq_right
    simp only [Nat.div_one, infinityBits, Nat.pow_eq]
    omega

/-- The exponents that are settled without computing a power are settled rightly. -/
theorem nearest_eq (negative : Bool) (n : Nat) (k : Int) :
    nearest negative n k = ofMagnitude negative (decimalBits n k) := by
  rw [nearest]
  congr 1
  split
  · next hsmall =>
    simp only [Bool.or_eq_true, beq_iff_eq, decide_eq_true_eq] at hsmall
    rcases hsmall with rfl | hsmall
    · rw [decimalBits_zero]
    · rw [decimalBits_of_small hsmall]
  · next hsmall =>
    simp only [Bool.or_eq_true, beq_iff_eq, not_or] at hsmall
    split
    · next hlarge => rw [decimalBits_of_large (Nat.pos_of_ne_zero hsmall.1) hlarge]
    · rfl

/-- The shortest decimal of a double reads back as the double, with any zeros written after it. -/
theorem nearest_shortest {x : Float} {b : Binary} (h : FloatForm.of x = .finite b) {n : Nat}
    {k : Int} (hs : b.shortest = (n, k)) (j : Nat) :
    nearest b.negative (n * 10 ^ j) (k - j) = x := by
  obtain ⟨hdouble, hbits⟩ := of_finite h
  rw [nearest_eq, decimalBits_mul_pow, Int.sub_add_cancel, of_shortest hdouble hs, hbits]

end Scout.Decimal

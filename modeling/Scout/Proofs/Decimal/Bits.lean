import Mathlib
import Scout.Decimal.Places

/-!
# The bits of doubles

A double is its bits, and there is one NaN.  The parts that are read from the
bits of a finite double are numbers in known ranges, and the bits can be put
together from them again.
-/

namespace Scout.Decimal

open Float.Model Float.Model.UnpackedFloat

/-! ## Packed doubles -/

@[simp] theorem toBitVec_ofBitVec (b : BitVec 1) : (Sign.ofBitVec b).toBitVec = b := by
  rcases BitVec.eq_zero_or_eq_one b with rfl | rfl <;> rfl

theorem toNat_packComponents (s : Sign) (e : BitVec 11) (m : BitVec 52) :
    (packComponents Format.binary64 s e m).toNat =
      s.toBitVec.toNat * 2 ^ 63 + e.toNat * 2 ^ 52 + m.toNat := by
  have he := e.isLt
  have hm := m.isLt
  simp only [packComponents, BitVec.toNat_append]
  rw [← Nat.shiftLeft_add_eq_or_of_lt he, ← Nat.shiftLeft_add_eq_or_of_lt hm]
  simp only [Nat.shiftLeft_eq]
  omega

theorem toNat_unpackExponent (b : BitVec Format.binary64.numBits) :
    (unpackExponent b).toNat = b.toNat / 2 ^ 52 % 2 ^ 11 := by
  simp only [unpackExponent, BitVec.toNat_cast, BitVec.extractLsb_toNat,
    Nat.shiftRight_eq_div_pow]

theorem toNat_unpackMantissa (b : BitVec Format.binary64.numBits) :
    (unpackMantissa b).toNat = b.toNat % 2 ^ 52 := by
  simp only [unpackMantissa, BitVec.toNat_cast, BitVec.extractLsb_toNat,
    Nat.shiftRight_zero]

theorem toNat_unpackSign (b : BitVec Format.binary64.numBits) :
    (unpackSign b).toNat = b.toNat / 2 ^ 63 % 2 := by
  simp only [unpackSign, BitVec.toNat_cast, BitVec.extractLsb_toNat,
    Nat.shiftRight_eq_div_pow]

theorem packComponents_parts (b : BitVec Format.binary64.numBits) :
    packComponents Format.binary64 (Sign.ofBitVec (unpackSign b)) (unpackExponent b)
      (unpackMantissa b) = b := by
  have hb : b.toNat < 2 ^ 64 := b.isLt
  apply BitVec.eq_of_toNat_eq
  rw [toNat_packComponents, toBitVec_ofBitVec, toNat_unpackSign, toNat_unpackExponent,
    toNat_unpackMantissa]
  omega

theorem pack_subnormal (s : Sign) (m : BitVec 52) {e : Int} (hp : 0 < m.toNat)
    (he : e = -1074) :
    UnpackedFloat.pack Format.binary64 (.finite s m.toNat e hp) =
      packComponents Format.binary64 s 0#11 m := by
  have hm := m.isLt
  have hlog : m.toNat.log2 < 52 := (Nat.log2_lt (by omega)).2 hm
  have hsmall : m.toNat.log2 + 1 ≠ Format.binary64.mantissaBits := by
    simp only [Format.mantissaBits]
    omega
  rw [he]
  simp only [UnpackedFloat.pack]
  rw [if_neg (by decide), if_neg hsmall, BitVec.ofNat_toNat, BitVec.setWidth_eq]

theorem pack_normal (s : Sign) (e : BitVec 11) (m : BitVec 52) {q : Int}
    (hp : 0 < (1#1 ++ m).toNat) (hq : q = e.toNat - 1075) (hfin : e ≠ -1#11) :
    UnpackedFloat.pack Format.binary64 (.finite s (1#1 ++ m).toNat q hp) =
      packComponents Format.binary64 s e m := by
  have hm := m.isLt
  have he : e.toNat < 2047 := by
    have := e.isLt
    have hne : e.toNat ≠ 2047 := fun h => hfin (BitVec.eq_of_toNat_eq h)
    omega
  have hwhole : (1#1 ++ m).toNat = 2 ^ 52 + m.toNat := by
    rw [BitVec.toNat_append, ← Nat.shiftLeft_add_eq_or_of_lt hm]
    rfl
  have hlog : (1#1 ++ m).toNat.log2 = 52 := by
    rw [hwhole, Nat.log2_eq_iff (by omega)]
    omega
  have hbias : (q + Format.binary64.exponentBias +
      (Format.binary64.mantissaBitsWithoutImplicit : Nat)).toNat = e.toNat := by
    change (q + 1023 + 52).toNat = e.toNat
    omega
  simp only [UnpackedFloat.pack, hbias, hlog]
  rw [if_neg (by simp only [Nat.reducePow]; omega),
    if_pos (show 52 + 1 = Format.binary64.mantissaBits from rfl), hwhole]
  congr 1
  · exact BitVec.eq_of_toNat_eq (by simp)
  · exact BitVec.eq_of_toNat_eq (by simpa using hm)

/-- Whatever is no stray NaN survives unpacking. -/
theorem pack_unpack {b : BitVec Format.binary64.numBits} (h : Format.binary64.Valid b) :
    UnpackedFloat.pack Format.binary64 (UnpackedFloat.unpack Format.binary64 b) = b := by
  conv => rhs; rw [← packComponents_parts b]
  unfold UnpackedFloat.unpack
  simp only
  split
  · split
    · next he hm =>
      rw [he, hm]
      rfl
    · next he hm =>
      rw [packComponents_parts, h.eq_packedNaN he hm]
      rfl
  · split
    · split
      · next _ he hm =>
        rw [he, hm]
        rfl
      · next _ he hm =>
        rw [pack_subnormal _ _ _ (by rw [he]; rfl), he]
    · next hfin _ => exact pack_normal _ _ _ _ rfl hfin

theorem ofBits_toBits (x : Float) : Float.ofBits x.toBits = x := by
  have h : Float.Model.ofBits x.toModel.toBits = x.toModel := by
    rw [Float.Model.ofBits, Float.Model.pack]
    congr 1
    rw [pack_unpack x.toModel.valid]
  rw [Float.ofBits, Float.toBits, h]

theorem eq_of_toNat_toBits {x y : Float} (h : x.toBits.toNat = y.toBits.toNat) : x = y := by
  rw [← ofBits_toBits x, ← ofBits_toBits y, UInt64.toNat_inj.1 h]

/-! ## The parts of a double -/

/-- The numbers that the parts of a finite double can be. -/
structure Binary.IsDouble (b : Binary) : Prop where
  least : -1074 ≤ b.exponent
  greatest : b.exponent ≤ 971
  bounded : b.mantissa < 2 ^ 53
  normal : b.exponent = -1074 ∨ 2 ^ 52 ≤ b.mantissa

theorem of_finite {x : Float} {b : Binary} (h : FloatForm.of x = .finite b) :
    b.IsDouble ∧ ofMagnitude b.negative b.magnitude = x := by
  have hx : x.toBits.toNat < 2 ^ 64 := x.toBits.toNat_lt
  have value : b.IsDouble ∧
      (if b.negative then 2 ^ 63 else 0) + b.magnitude = x.toBits.toNat := by
    unfold FloatForm.of at h
    simp only [beq_iff_eq, Nat.pow_eq] at h
    generalize x.toBits.toNat = bits at h hx
    split at h
    · split at h <;> cases h
    · split at h
      · cases h
        constructor
        · constructor
          · exact Int.le_refl _
          · dsimp only
            omega
          · dsimp only
            omega
          · exact .inl rfl
        · have hexp : Binary.magnitude ⟨bits / 2 ^ 63 == 1, bits % 2 ^ 52, -1074⟩ =
              bits % 2 ^ 52 := by
            simp [Binary.magnitude]
          rw [hexp]
          cases hs : bits / 2 ^ 63 == 1 <;> simp at hs ⊢ <;> omega
      · cases h
        constructor
        · constructor <;> dsimp only <;> omega
        · simp only [Binary.magnitude, Nat.pow_eq]
          cases hs : bits / 2 ^ 63 == 1 <;> simp at hs ⊢ <;> omega
  refine ⟨value.1, ?_⟩
  rw [ofMagnitude, Nat.pow_eq, value.2, UInt64.ofNat_toNat, ofBits_toBits]

theorem of_infinite {x : Float} {negative : Bool} (h : FloatForm.of x = .infinite negative) :
    x = if negative then -(1.0 / 0.0) else 1.0 / 0.0 := by
  have hx : x.toBits.toNat < 2 ^ 64 := x.toBits.toNat_lt
  have hinf : (1.0 / 0.0 : Float).toBits.toNat = 2047 * 2 ^ 52 := by decide +kernel
  have hneg : (-(1.0 / 0.0) : Float).toBits.toNat = 2 ^ 63 + 2047 * 2 ^ 52 := by
    decide +kernel
  unfold FloatForm.of at h
  simp only [beq_iff_eq, Nat.pow_eq] at h
  split at h
  · split at h
    · cases h
      split
      · next hs =>
        apply eq_of_toNat_toBits
        simp only [beq_iff_eq] at hs
        omega
      · next hs =>
        apply eq_of_toNat_toBits
        simp only [beq_iff_eq] at hs
        omega
    · cases h
  · split at h <;> cases h

theorem of_nan {x : Float} (h : FloatForm.of x = .nan) : x = 0.0 / 0.0 := by
  have hnan : (0.0 / 0.0 : Float).toBits.toBitVec = packedNaN Format.binary64 := by
    decide +kernel
  have parts : x.toBits.toNat / 2 ^ 52 % 2 ^ 11 = 2047 ∧ x.toBits.toNat % 2 ^ 52 ≠ 0 := by
    unfold FloatForm.of at h
    simp only [beq_iff_eq, Nat.pow_eq] at h
    split at h
    · next he =>
      split at h
      · cases h
      · next hm => exact ⟨he, hm⟩
    · split at h <;> cases h
  have hx : x.toBits.toBitVec = packedNaN Format.binary64 := by
    apply x.toModel.valid.eq_packedNaN
    · apply BitVec.eq_of_toNat_eq
      rw [toNat_unpackExponent]
      exact parts.1
    · intro e
      have hm := congrArg BitVec.toNat e
      rw [toNat_unpackMantissa] at hm
      exact parts.2 hm
  apply eq_of_toNat_toBits
  exact congrArg BitVec.toNat (hx.trans hnan.symm)

end Scout.Decimal

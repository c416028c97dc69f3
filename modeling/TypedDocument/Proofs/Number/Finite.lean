import TypedDocument.Number.Basic

/-!
# Floats of integers

The float of an integer that a JSON number can hold is finite: rounding moves the exponent only
as far as the integer has bits, which is well below the exponent reserved for infinities.
-/

namespace TypedDocument

open Float.Model Float.Model.UnpackedFloat

theorem mantissa_shiftRight_le (em : ExtendedMantissa) (n : Nat) :
    (em >>> n).mantissa ≤ em.mantissa := by
  induction n with
  | zero => exact Nat.le_refl _
  | succ n ih =>
    show (em >>> n).mantissa / 2 ≤ em.mantissa
    omega

theorem roundedMantissa_le (em : ExtendedMantissa) : em.roundedMantissa ≤ em.mantissa + 1 := by
  obtain ⟨m, round, sticky⟩ := em
  cases round <;> cases sticky <;>
    simp [ExtendedMantissa.roundedMantissa, ExtendedMantissa.accuracy, Accuracy.roundToNearestEven]
  omega

/-- Shifting a mantissa never makes it larger. The exponent grows only by what the mantissa has
too many bits. -/
theorem shiftToTargetExponent_le {m bits : Nat} {e : Int} (hm : m < 1 <<< bits) :
    (shiftToTargetExponent Format.binary64 m e .exact).1.mantissa ≤ m ∧
      (shiftToTargetExponent Format.binary64 m e .exact).2 ≤
        max e (max (bits + e - 53) (-1074)) := by
  refine ⟨mantissa_shiftRight_le _ _, ?_⟩
  have hlog : m.log2 < bits ∨ m = 0 := by
    by_cases hzero : m = 0
    · exact .inr hzero
    · rw [Nat.one_shiftLeft] at hm
      exact .inl ((Nat.log2_lt hzero).mpr hm)
  have htarget : ∀ t, Format.binary64.targetExponent t = max (t - 53) (-1074) := fun t => rfl
  simp only [shiftToTargetExponent, shiftToExponent, totalExponent, htarget]
  rcases hlog with hlog | rfl
  · omega
  · simp only [Nat.log2_zero]
    omega

/-- What rounding gives: no NaN and no infinity, and an exponent that is not larger than it has
to be. -/
inductive ExponentAtMost (most : Int) : Float.Model.UnpackedFloat → Prop where
  | zero (sign : Sign) : ExponentAtMost most (.zero sign)
  | finite {sign : Sign} {m : Nat} {e : Int} {hm : 0 < m} (le : e ≤ most) :
    ExponentAtMost most (.finite sign m e hm)

theorem exponentAtMost_roundWithAccuracy {m bits : Nat} {e most : Int} (sign : Sign)
    (hm : m < 1 <<< bits) (he : -1074 ≤ e) (hbits : 53 ≤ bits) (hmost : e + 2 * bits ≤ most) :
    ExponentAtMost most (roundWithAccuracy Format.binary64 sign m e .exact) := by
  obtain ⟨hmantissa, hexponent⟩ := shiftToTargetExponent_le (e := e) hm
  by_cases hzero : (shiftToTargetExponent Format.binary64
      (shiftToTargetExponent Format.binary64 m e .exact).1.roundedMantissa
      (shiftToTargetExponent Format.binary64 m e .exact).2 .exact).1.mantissa = 0
  · have hround : roundWithAccuracy Format.binary64 sign m e .exact = .zero sign := dif_pos hzero
    rw [hround]
    exact .zero sign
  · have hround : roundWithAccuracy Format.binary64 sign m e .exact = _ := dif_neg hzero
    have hrounded := roundedMantissa_le (shiftToTargetExponent Format.binary64 m e .exact).1
    have hlt : (shiftToTargetExponent Format.binary64 m e .exact).1.roundedMantissa <
        1 <<< (bits + 1) := by
      omega
    have hfinal := (shiftToTargetExponent_le
      (e := (shiftToTargetExponent Format.binary64 m e .exact).2) hlt).2
    rw [hround]
    exact .finite (Int.le_trans hfinal (by omega))

theorem ExponentAtMost.isFinite {most : Int} {f : Float.Model.UnpackedFloat}
    (h : ExponentAtMost most f) : f.isFinite = true := by
  cases h <;> rfl

/-- A packed float keeps its exponent, or has none where it is very small. -/
theorem unpackExponent_pack_le {f : Float.Model.UnpackedFloat} (h : ExponentAtMost 900 f) :
    (unpackExponent (UnpackedFloat.pack Format.binary64 f)).toNat ≤ 1975 := by
  cases h with
  | zero sign =>
    have hpack : UnpackedFloat.pack Format.binary64 (.zero sign) = packComponents _ sign 0 0 := rfl
    rw [hpack, unpackExponent_packComponents]
    decide
  | @finite sign m e hm he =>
    have hbias : Format.binary64.exponentBias = 1023 := rfl
    have hsmall : ¬ 2048 ≤ (e + Format.binary64.exponentBias + 52).toNat + 1 := by omega
    have hpack : UnpackedFloat.pack Format.binary64 (.finite sign m e hm) = _ := if_neg hsmall
    rw [hpack]
    by_cases hnormal : m.log2 + 1 = Format.binary64.mantissaBits
    · rw [if_pos hnormal, unpackExponent_packComponents]
      show (e + Format.binary64.exponentBias + 52).toNat % 2048 ≤ 1975
      omega
    · rw [if_neg hnormal, unpackExponent_packComponents]
      decide

/-- The largest exponent stands for infinity and NaN; every other one is that of a number. -/
theorem exponentAtMost_unpack {b : BitVec Format.binary64.numBits}
    (h : (unpackExponent b).toNat ≤ 1975) :
    ExponentAtMost 900 (UnpackedFloat.unpack Format.binary64 b) := by
  have hexponent : unpackExponent b ≠ -1#_ := by
    intro hall
    have hnat : (unpackExponent b).toNat = 2047 := congrArg BitVec.toNat hall
    omega
  have hbias : Format.binary64.exponentBias = 1023 := rfl
  have hbits : Format.binary64.mantissaBitsWithoutImplicit = 52 := rfl
  have hunpack : UnpackedFloat.unpack Format.binary64 b = _ := if_neg hexponent
  rw [hunpack]
  by_cases hzero : unpackExponent b = 0#_
  · have hnat : (unpackExponent b).toNat = 0 := congrArg BitVec.toNat hzero
    rw [if_pos hzero]
    by_cases hmantissa : unpackMantissa b = 0#_
    · rw [dif_pos hmantissa]
      exact .zero _
    · rw [dif_neg hmantissa]
      exact .finite (by omega)
  · rw [if_neg hzero]
    exact .finite (by omega)

theorem exponentAtMost_unpack_pack {f : Float.Model.UnpackedFloat} (h : ExponentAtMost 900 f) :
    ExponentAtMost 900 (Float.Model.pack f).unpack :=
  exponentAtMost_unpack (unpackExponent_pack_le h)

theorem isFinite_pack {f : Float.Model.UnpackedFloat} (h : ExponentAtMost 900 f) :
    (Float.Model.pack f).isFinite = true :=
  (exponentAtMost_unpack_pack h).isFinite

theorem isFinite_neg_pack {f : Float.Model.UnpackedFloat} (h : ExponentAtMost 900 f) :
    (Float.Model.neg (Float.Model.pack f)).isFinite = true := by
  have hunpack := exponentAtMost_unpack_pack h
  rw [Float.Model.neg]
  apply isFinite_pack
  generalize (Float.Model.pack f).unpack = g at hunpack ⊢
  cases hunpack with
  | zero => exact .zero _
  | finite he => exact .finite he

/-! ## Integers of 64 bits -/

/-- An integer is brought to 53 bits by a shift, and then rounding has nothing left to do. -/
theorem exponentAtMost_ofNat {n : Nat} (hn : n < 0x10000000000000000) :
    ExponentAtMost 900 (UnpackedFloat.ofNat Format.binary64 n) := by
  by_cases hzero : n = 0
  · subst hzero
    exact .zero _
  · have hround : UnpackedFloat.ofNat Format.binary64 n =
        UnpackedFloat.round Format.binary64 .positive n 0 := by
      rw [UnpackedFloat.ofNat, UnpackedFloat.ofInt, UnpackedFloat.normalize]
      have hcompare : compare (n : Int) 0 = .gt := by
        rw [Int.compare_eq_gt]
        omega
      rw [hcompare]
      rfl
    have htarget : ∀ t, Format.binary64.targetExponent t = max (t - 53) (-1074) := fun t => rfl
    rw [hround, UnpackedFloat.round]
    simp only [decreaseExponent, totalExponent, htarget]
    have hshift : (0 - max (↑n.log2 + 1 + 0 - 53 : Int) (-1074)).toNat ≤ 53 := by omega
    generalize (0 - max (↑n.log2 + 1 + 0 - 53 : Int) (-1074)).toNat = k at hshift
    have hmantissa : n <<< k < 1 <<< 117 := by
      have hpow : 2 ^ k ≤ 2 ^ 53 := Nat.pow_le_pow_right (by decide) hshift
      rw [Nat.shiftLeft_eq, Nat.one_shiftLeft]
      calc n * 2 ^ k ≤ n * 2 ^ 53 := Nat.mul_le_mul_left n hpow
        _ < 2 ^ 117 := by omega
    exact exponentAtMost_roundWithAccuracy _ hmantissa (by omega) (by decide) (by omega)

@[simp] theorem isFinite_floatOfInt64 (i : Int64) : (floatOfInt64 i).isFinite = true := by
  have hexponent : ExponentAtMost 900
      (UnpackedFloat.ofUInt64 Format.binary64 (UInt64.ofNat i.toInt.natAbs)) :=
    exponentAtMost_ofNat (UInt64.toNat_lt _)
  rw [floatOfInt64]
  split
  · exact isFinite_neg_pack hexponent
  · exact isFinite_pack hexponent

/-- An integer is taken with 53 more bits before it is rounded. -/
theorem ofScientific_eq_round {n : Nat} (hn : n ≠ 0) :
    UnpackedFloat.ofScientific Format.binary64 n 0 =
      roundWithAccuracy Format.binary64 (.positive * .positive) (n <<< 53 * 1) (-53 + 0)
        .exact := by
  have hmul : ∀ {s t : Sign} {m k : Nat} {e g : Int} (hm : 0 < m) (hk : 0 < k),
      UnpackedFloat.mul Format.binary64 (.finite s m e hm) (.finite t k g hk) =
        roundWithAccuracy Format.binary64 (s * t) (m * k) (e + g) .exact := by
    intro s t m k e g hm hk
    rfl
  have hpos : 0 < n <<< 53 := by
    rw [Nat.shiftLeft_eq]
    omega
  have hexponent : (0 : Int) < 2 ^ Format.binary64.exponentBits := by decide
  rw [UnpackedFloat.ofScientific, dif_neg hn, if_neg (by decide), if_neg (by omega),
    if_pos (by omega)]
  exact hmul hpos Nat.one_pos

/-- Integers that floats may have to round, up to the greatest of 64 bits without a sign, stay
finite. -/
theorem isFinite_ofInt {n : Nat} (hlow : 0x20000000000000 ≤ n) (hhigh : n < 0x10000000000000000) :
    (Float.ofInt n).isFinite = true := by
  have hlarge : ¬ (n < 2 ^ 53 ∧ 0 ≤ 22) := fun h => absurd h.1 (Nat.not_lt.mpr hlow)
  have hmodel : Float.ofInt n = Float.ofModel (Float.Model.ofScientific n 0) := by
    show Float.ofScientific n false 0 = _
    rw [Float.ofScientific, dif_neg hlarge, if_neg Bool.false_ne_true]
    rfl
  have hshift : n <<< 53 * 1 < 1 <<< 117 := by
    rw [Nat.mul_one, Nat.shiftLeft_eq, Nat.one_shiftLeft]
    omega
  rw [hmodel]
  show (Float.Model.pack (UnpackedFloat.ofScientific Format.binary64 n 0)).isFinite = true
  apply isFinite_pack
  rw [ofScientific_eq_round (by omega)]
  exact exponentAtMost_roundWithAccuracy _ hshift (by decide) (by decide) (by decide)

end TypedDocument

import TypedDocument.Number.Exact
import TypedDocument.Proofs.Number.Finite

/-!
# The float nearest to an integer

Integers beyond 64 signed bits are held as floats. Their floats are multiples of 2048, since 53 of
their 64 bits fit a float, and the one that rounding arrives at is the nearest of all floats. Where
two are equally near it is the one whose last bit is zero.
-/

namespace TypedDocument

open Float.Model Float.Model.UnpackedFloat

/-! ## What nearest means -/

namespace ExactNumber

/-- The bits that a float can have after the point. -/
@[irreducible]
def fractionBits : Nat := 1074

/-- A number in units of the least positive float, of which every float is a whole multiple. -/
def units (a : ExactNumber) : Int := a.mantissa * Nat.pow 2 (a.exponent + fractionBits).toNat

/-- How far two numbers lie apart, in the same units. -/
def distance (a b : ExactNumber) : Nat := (a.units - b.units).natAbs

/-- A float is nearest to a number if none is nearer, and even if another one is as near. -/
structure IsNearest (a : ExactNumber) (x : Float) : Prop where
  finite : x.isFinite = true
  nearest : ∀ y : Float, y.isFinite = true → (ofFloat x).distance a ≤ (ofFloat y).distance a
  even : ∀ y : Float, y.isFinite = true → (ofFloat y).units ≠ (ofFloat x).units →
    (ofFloat y).distance a ≤ (ofFloat x).distance a → (ofFloat x).mantissa % 2 = 0

end ExactNumber

/-! ## Rounding by dropping bits -/

/-- A quotient rounded to the nearest integer, and to the even one halfway between two. -/
def roundedQuotient (n unit : Nat) : Nat :=
  if 2 * (n % unit) < unit then n / unit
  else if 2 * (n % unit) = unit then n / unit + n / unit % 2
  else n / unit + 1

theorem roundedQuotient_mul {n unit c : Nat} (hc : 0 < c) :
    roundedQuotient (n * c) (unit * c) = roundedQuotient n unit := by
  have hdiv : n * c / (unit * c) = n / unit := Nat.mul_div_mul_right n unit hc
  have hmod : 2 * (n * c % (unit * c)) = 2 * (n % unit) * c := by
    rw [Nat.mul_mod_mul_right, Nat.mul_assoc]
  have hlt : 2 * (n % unit) * c < unit * c ↔ 2 * (n % unit) < unit := Nat.mul_lt_mul_right hc
  have heq : 2 * (n % unit) * c = unit * c ↔ 2 * (n % unit) = unit := Nat.mul_left_inj (by omega)
  simp only [roundedQuotient, hdiv, hmod, hlt, heq]

theorem roundedQuotient_bounds (n unit : Nat) :
    n / unit ≤ roundedQuotient n unit ∧ roundedQuotient n unit ≤ n / unit + 1 := by
  rw [roundedQuotient]
  split
  · omega
  · split <;> omega

/-- What is left of a number after its last bits have been shifted out one by one: the quotient,
whether at least half of it was dropped in its place, and whether anything else was. -/
theorem shiftRight_exact (m k : Nat) :
    (⟨m, false, false⟩ : ExtendedMantissa) >>> k =
      ⟨m / Nat.pow 2 k, decide (Nat.pow 2 k ≤ 2 * (m % Nat.pow 2 k)),
        decide (m % Nat.pow 2 k ≠ 0 ∧ 2 * (m % Nat.pow 2 k) ≠ Nat.pow 2 k)⟩ := by
  induction k with
  | zero =>
    simp [Nat.mod_one]
    rfl
  | succ k ih =>
    have hstep : (⟨m, false, false⟩ : ExtendedMantissa) >>> (k + 1) =
        ((⟨m, false, false⟩ : ExtendedMantissa) >>> k).shiftRightOne := rfl
    have hpow : Nat.pow 2 (k + 1) = Nat.pow 2 k * 2 := rfl
    have hpos : 0 < Nat.pow 2 k := Nat.pow_pos (by decide)
    rw [hstep, ih, hpow, ExtendedMantissa.shiftRightOne, Nat.mod_mul]
    generalize Nat.pow 2 k = p at hpos
    have hlt : m % p < p := Nat.mod_lt m hpos
    have hbit : m / p % 2 = 0 ∨ m / p % 2 = 1 := by omega
    rw [ExtendedMantissa.mk.injEq]
    refine ⟨Nat.div_div_eq_div_mul m p 2, ?_, ?_⟩
    · rcases hbit with h | h <;> simp [h] <;> omega
    · rcases hbit with h | h <;> simp [h] <;> grind

/-- What was dropped decides which way a mantissa is rounded. -/
@[simp] theorem roundedMantissa_shiftRight (m k : Nat) :
    ((⟨m, false, false⟩ : ExtendedMantissa) >>> k).roundedMantissa =
      roundedQuotient m (Nat.pow 2 k) := by
  have hpos : 0 < Nat.pow 2 k := Nat.pow_pos (by decide)
  rw [shiftRight_exact, roundedQuotient]
  generalize Nat.pow 2 k = p at hpos
  by_cases hless : 2 * (m % p) < p
  · have hround : decide (p ≤ 2 * (m % p)) = false := decide_eq_false (by omega)
    rw [if_pos hless, hround]
    cases decide (m % p ≠ 0 ∧ 2 * (m % p) ≠ p) <;> rfl
  · have hround : decide (p ≤ 2 * (m % p)) = true := decide_eq_true (by omega)
    rw [if_neg hless, hround]
    by_cases hhalf : 2 * (m % p) = p
    · have hsticky : decide (m % p ≠ 0 ∧ 2 * (m % p) ≠ p) = false := decide_eq_false (by omega)
      rw [if_pos hhalf, hsticky]
      rfl
    · have hsticky : decide (m % p ≠ 0 ∧ 2 * (m % p) ≠ p) = true := decide_eq_true (by omega)
      rw [if_neg hhalf, hsticky]
      rfl

theorem shiftToTargetExponent_eq {m k : Nat} {e : Int} (hm : m.log2 = 52 + k)
    (he : -1074 ≤ e + k) :
    shiftToTargetExponent Format.binary64 m e .exact =
      ((⟨m, false, false⟩ : ExtendedMantissa) >>> k, e + k) := by
  have htarget : ∀ t, Format.binary64.targetExponent t = max (t - 53) (-1074) := fun t => rfl
  have hamount : (max (m.log2 + 1 + e - 53) (-1074) - e).toNat = k := by omega
  simp only [shiftToTargetExponent, shiftToExponent, totalExponent, htarget, hamount]
  rfl

/-- Rounding shifts twice: once to round, and once more to make room for the bit that this may
carry. -/
theorem roundWithAccuracy_eq_finite {m r : Nat} {e e' e'' : Int} {first second : ExtendedMantissa}
    (sign : Sign) (hfirst : shiftToTargetExponent Format.binary64 m e .exact = (first, e'))
    (hrounded : first.roundedMantissa = r)
    (hsecond : shiftToTargetExponent Format.binary64 r e' .exact = (second, e''))
    (hm : 0 < second.mantissa) :
    roundWithAccuracy Format.binary64 sign m e .exact = .finite sign second.mantissa e'' hm := by
  obtain ⟨rfl, rfl⟩ := Prod.mk.inj hfirst.symm
  subst hrounded
  obtain ⟨rfl, rfl⟩ := Prod.mk.inj hsecond.symm
  exact dif_neg (Nat.ne_of_gt hm)

/-- A number of 64 bits is rounded to a multiple of 2048. Where that takes one bit more, the
exponent takes it. -/
theorem roundWithAccuracy_of_64_bits {n : Nat} (sign : Sign) (low : 0x8000000000000000 ≤ n)
    (high : n < 0x10000000000000000) :
    ∃ m e, ∃ hm : 0 < m,
      roundWithAccuracy Format.binary64 sign (n <<< 53 * 1) (-53 + 0) .exact =
          .finite sign m e hm ∧
        m.log2 = 52 ∧
          (e = 11 ∧ m = roundedQuotient n 2048 ∨ e = 12 ∧ 2 * m = roundedQuotient n 2048) := by
  have hlog : (n <<< 53 * 1).log2 = 52 + 64 := by
    rw [Nat.log2_eq_iff (by rw [Nat.shiftLeft_eq]; omega), Nat.shiftLeft_eq]
    omega
  have hfirst := shiftToTargetExponent_eq (e := -53 + 0) hlog (by omega)
  have hrounded : ((⟨n <<< 53 * 1, false, false⟩ : ExtendedMantissa) >>> 64).roundedMantissa =
      roundedQuotient n 2048 := by
    have hscaled : roundedQuotient (n * 2 ^ 53) (2048 * 2 ^ 53) = roundedQuotient n 2048 :=
      roundedQuotient_mul (Nat.two_pow_pos 53)
    rw [roundedMantissa_shiftRight, Nat.mul_one, Nat.shiftLeft_eq]
    exact hscaled
  have hbounds : 0x10000000000000 ≤ roundedQuotient n 2048 ∧
      roundedQuotient n 2048 ≤ 0x20000000000000 := by
    have hquotient := roundedQuotient_bounds n 2048
    omega
  generalize roundedQuotient n 2048 = r at hrounded hbounds
  have hround : ∀ k : Nat, r.log2 = 52 + k → ∀ hm : 0 < r / Nat.pow 2 k,
      roundWithAccuracy Format.binary64 sign (n <<< 53 * 1) (-53 + 0) .exact =
        .finite sign (r / Nat.pow 2 k) (11 + k) hm := by
    intro k hk hm
    have hsecond := shiftToTargetExponent_eq (e := 11) hk (by omega)
    rw [shiftRight_exact] at hsecond
    have hexponent : (-53 + 0 + ((64 : Nat) : Int)) = 11 := rfl
    rw [hexponent] at hfirst
    exact roundWithAccuracy_eq_finite sign hfirst hrounded hsecond hm
  by_cases hcarry : r < 0x20000000000000
  · have hlog : r.log2 = 52 := (Nat.log2_eq_iff (by omega)).mpr (by omega)
    have hpow : r / Nat.pow 2 0 = r := Nat.div_one r
    exact ⟨_, _, _, hround 0 hlog (by omega), by rw [hpow, hlog], .inl ⟨rfl, hpow⟩⟩
  · have hlog : r.log2 = 53 := (Nat.log2_eq_iff (by omega)).mpr (by omega)
    have hpow : r / Nat.pow 2 1 = 0x10000000000000 := by
      show r / 2 = _
      omega
    exact ⟨_, _, _, hround 1 hlog (by omega), by rw [hpow]; decide, .inr ⟨rfl, by omega⟩⟩

/-! ## Bits of floats -/

/-- The magnitude in the bits of a float, by their parts. -/
theorem ofBits_toNat (b : BitVec Format.binary64.numBits) :
    Dyadic.ofBits b.toNat =
      if (unpackExponent b).toNat = 0 then ⟨(unpackMantissa b).toNat, -1074, false⟩
      else ⟨(unpackMantissa b).toNat + 1 <<< 52, ((unpackExponent b).toNat : Int) - 1075,
        (unpackMantissa b).toNat = 0 && 1 < (unpackExponent b).toNat⟩ := by
  have hexponent : (unpackExponent b).toNat = b.toNat >>> 52 % 2048 := by
    rw [unpackExponent, BitVec.toNat_cast, BitVec.extractLsb_toNat]
    rfl
  have hmantissa : (unpackMantissa b).toNat = b.toNat % (1 <<< 52) := by
    rw [unpackMantissa, BitVec.toNat_cast, BitVec.extractLsb_toNat, Nat.shiftRight_zero]
    rfl
  rw [Dyadic.ofBits, ← hexponent, ← hmantissa]

/-- A float without a sign has its first bit clear. -/
theorem packComponents_positive_lt (e : BitVec Format.binary64.exponentBits)
    (m : BitVec Format.binary64.mantissaBitsWithoutImplicit) :
    (packComponents Format.binary64 .positive e m).toNat < 0x8000000000000000 := by
  have he : e.toNat < 2048 := e.isLt
  have hm : m.toNat < 0x10000000000000 := m.isLt
  have hsign : Sign.positive.toBitVec.toNat <<< Format.binary64.exponentBits ||| e.toNat =
      e.toNat := Nat.zero_or _
  rw [packComponents, BitVec.toNat_append, BitVec.toNat_append, hsign]
  refine Nat.or_lt_two_pow (n := 63) ?_ (by omega)
  rw [Nat.shiftLeft_eq]
  show e.toNat * 0x10000000000000 < _
  omega

/-- The value of a float that is packed from a full mantissa. -/
theorem ofFloat_pack {m : Nat} {e : Int} (hm : 0 < m) (hlog : m.log2 = 52) (low : -1074 ≤ e)
    (high : e ≤ 900) :
    ExactNumber.ofFloat (Float.ofModel (Float.Model.pack (.finite .positive m e hm))) =
      ⟨m, e⟩ := by
  obtain ⟨hleast, hmost⟩ := (Nat.log2_eq_iff (by omega)).mp hlog
  have hpack : UnpackedFloat.pack Format.binary64 (.finite .positive m e hm) =
      packComponents Format.binary64 .positive (BitVec.ofNat 11 (e + 1023 + 52).toNat)
        (BitVec.ofNat 52 m) := by
    have hsmall : ¬ 2048 ≤ (e + 1023 + 52).toNat + 1 := by omega
    have hnormal : m.log2 + 1 = 53 := by omega
    exact (if_neg hsmall).trans (if_pos hnormal)
  have hbits : (Float.ofModel (Float.Model.pack (.finite .positive m e hm))).toBits.toNat =
      (packComponents Format.binary64 .positive (BitVec.ofNat 11 (e + 1023 + 52).toNat)
        (BitVec.ofNat 52 m)).toNat := congrArg BitVec.toNat hpack
  have hsign := packComponents_positive_lt (BitVec.ofNat 11 (e + 1023 + 52).toNat)
    (BitVec.ofNat 52 m)
  have hexponent : (BitVec.ofNat 11 (e + 1023 + 52).toNat).toNat = (e + 1075).toNat := by
    rw [BitVec.toNat_ofNat]
    omega
  have hmantissa : (BitVec.ofNat 52 m).toNat + 1 <<< 52 = m := by
    rw [BitVec.toNat_ofNat]
    omega
  have hplus : ¬ (packComponents Format.binary64 .positive
      (BitVec.ofNat 11 (e + 1023 + 52).toNat) (BitVec.ofNat 52 m)).toNat >>> 63 = 1 := by
    rw [Nat.shiftRight_eq_div_pow]
    omega
  have hpositive : (e + 1075).toNat ≠ 0 := by omega
  have hback : ((e + 1075).toNat : Int) - 1075 = e := by omega
  rw [ExactNumber.ofFloat, hbits]
  simp only [ofBits_toNat, unpackExponent_packComponents, unpackMantissa_packComponents,
    if_neg hplus, hexponent, if_neg hpositive, hmantissa, hback]

/-! ## The floats beyond 63 bits -/

theorem pow_add (j k : Nat) : Nat.pow 2 (j + k) = Nat.pow 2 j * Nat.pow 2 k := Nat.pow_add 2 j k

/-- A number of 53 bits, doubled often: a multiple of 2048, or below 63 bits. -/
theorem multiple_or_small {m : Int} (hm : m.natAbs < 0x20000000000000) (t least : Nat) :
    (∃ k : Int, m * Nat.pow 2 t = 2048 * k * Nat.pow 2 least) ∨
      (m * Nat.pow 2 t).natAbs < 0x8000000000000000 * Nat.pow 2 least := by
  by_cases hlarge : 11 + least ≤ t
  · left
    obtain ⟨k, rfl⟩ := Nat.exists_eq_add_of_le hlarge
    refine ⟨m * Nat.pow 2 k, ?_⟩
    have hpow : Nat.pow 2 11 = 2048 := rfl
    rw [pow_add, pow_add, hpow, Int.natCast_mul, Int.natCast_mul]
    grind
  · right
    have hpow : Nat.pow 2 t ≤ 1024 * Nat.pow 2 least := by
      calc Nat.pow 2 t ≤ Nat.pow 2 (10 + least) := Nat.pow_le_pow_right (by decide) (by omega)
        _ = 1024 * Nat.pow 2 least := pow_add 10 least
    have hpos : 0 < 1024 * Nat.pow 2 least := Nat.mul_pos (by decide) (Nat.pow_pos (by decide))
    rw [Int.natAbs_mul, Int.natAbs_natCast]
    calc m.natAbs * Nat.pow 2 t ≤ m.natAbs * (1024 * Nat.pow 2 least) := Nat.mul_le_mul_left _ hpow
      _ < 0x20000000000000 * (1024 * Nat.pow 2 least) := Nat.mul_lt_mul_of_pos_right hm hpos
      _ = 0x8000000000000000 * Nat.pow 2 least := (Nat.mul_assoc _ _ _).symm

namespace ExactNumber

theorem natAbs_mantissa_ofFloat_lt (y : Float) :
    (ofFloat y).mantissa.natAbs < 0x20000000000000 := by
  have hbits : (Dyadic.ofBits y.toBits.toNat).mantissa < 0x20000000000000 := by
    have hlow : y.toBits.toNat % (1 <<< 52) < 1 <<< 52 := Nat.mod_lt _ (by decide)
    rw [Dyadic.ofBits]
    split
    · exact Nat.lt_trans hlow (by decide)
    · exact Nat.add_lt_add_right hlow (1 <<< 52)
  rw [ofFloat]
  simp only
  split <;> omega

/-- How many units make one. -/
def one : Nat := Nat.pow 2 fractionBits

theorem one_pos : 0 < one := Nat.pow_pos (by decide)

theorem units_mk (m : Int) (k : Nat) : units ⟨m, k⟩ = m * Nat.pow 2 k * one := by
  have hexponent : ((k : Int) + fractionBits).toNat = k + fractionBits := by omega
  rw [one, units, hexponent, pow_add, Int.natCast_mul, Int.mul_assoc]

/-- Floats have 53 bits: from 2 to the 63rd on, they are multiples of 2048. -/
theorem units_ofFloat (y : Float) :
    (∃ c : Int, (ofFloat y).units = 2048 * c * one) ∨
      (ofFloat y).units.natAbs < 0x8000000000000000 * one :=
  multiple_or_small (natAbs_mantissa_ofFloat_lt y) _ _

@[simp] theorem units_ofInt (i : Int) : (ofInt i).units = i * one := by
  have hone : i * Nat.pow 2 0 = i := Int.mul_one i
  have hexponent : ofInt i = ⟨i, (0 : Nat)⟩ := rfl
  rw [hexponent, units_mk, hone]

theorem distance_ofInt {a : ExactNumber} {c : Int} (ha : a.units = c * one) (i : Int) :
    a.distance (ofInt i) = (c - i).natAbs * one := by
  rw [distance, units_ofInt, ha, ← Int.sub_mul, Int.natAbs_mul, Int.natAbs_natCast]

end ExactNumber

/-- The multiple of 2048 that a number is rounded to is the nearest, and the even one of two. -/
theorem roundedQuotient_nearest (n : Nat) (k : Int) :
    (2048 * (roundedQuotient n 2048 : Int) - n).natAbs ≤ (2048 * k - n).natAbs ∧
      (k ≠ roundedQuotient n 2048 →
        (2048 * k - n).natAbs ≤ (2048 * (roundedQuotient n 2048 : Int) - n).natAbs →
        roundedQuotient n 2048 % 2 = 0) := by
  rw [roundedQuotient]
  split
  · omega
  · split <;> omega

/-- The float of an integer of 64 bits is a multiple of 2048. Its mantissa may have taken the
rounding up to the next power of two. -/
theorem ofFloat_ofInt {n : Nat} (low : 0x8000000000000000 ≤ n) (high : n < 0x10000000000000000) :
    ∃ m : Nat, ∃ k : Nat, ExactNumber.ofFloat (Float.ofInt n) = ⟨m, k⟩ ∧
      m * Nat.pow 2 k = 2048 * roundedQuotient n 2048 ∧
      (m = roundedQuotient n 2048 ∨ m % 2 = 0) := by
  have hlarge : ¬ (n < 2 ^ 53 ∧ 0 ≤ 22) := fun h => absurd h.1 (Nat.not_lt.mpr (by omega))
  have hmodel : Float.ofInt n = Float.ofModel (Float.Model.ofScientific n 0) := by
    show Float.ofScientific n false 0 = _
    rw [Float.ofScientific, dif_neg hlarge, if_neg Bool.false_ne_true]
    rfl
  obtain ⟨m, e, hm, hround, hlog, hcases⟩ :=
    roundWithAccuracy_of_64_bits (.positive * .positive) low high
  have hfloat : Float.ofInt n = Float.ofModel (Float.Model.pack (.finite .positive m e hm)) := by
    rw [hmodel]
    show Float.ofModel (Float.Model.pack (UnpackedFloat.ofScientific Format.binary64 n 0)) = _
    rw [ofScientific_eq_round (by omega), hround]
    rfl
  rcases hcases with ⟨rfl, hr⟩ | ⟨rfl, hr⟩
  · refine ⟨m, 11, ?_, ?_, .inl hr⟩
    · rw [hfloat, ofFloat_pack hm hlog (by omega) (by omega)]
      rfl
    · rw [hr, Nat.mul_comm]
  · have hbounds := (Nat.log2_eq_iff (by omega)).mp hlog
    have hquotient := roundedQuotient_bounds n 2048
    refine ⟨m, 12, ?_, ?_, .inr (by omega)⟩
    · rw [hfloat, ofFloat_pack hm hlog (by omega) (by omega)]
      rfl
    · show m * 4096 = _
      omega

/-- What has less than 64 bits is further away from a number of 64 bits than the nearest multiple of
2048, since the least number of 64 bits is such a multiple. -/
theorem lt_distance_of_small {n : Nat} {a : ExactNumber} (low : 0x8000000000000000 ≤ n)
    (ha : a.units.natAbs < 0x8000000000000000 * ExactNumber.one) :
    (2048 * (roundedQuotient n 2048 : Int) - n).natAbs * ExactNumber.one <
      a.distance (ExactNumber.ofInt n) := by
  have hnearest := (roundedQuotient_nearest n 0x10000000000000).1
  have hle : (2048 * (roundedQuotient n 2048 : Int) - n).natAbs ≤ n - 0x8000000000000000 := by
    omega
  have hscaled := Nat.mul_le_mul_right ExactNumber.one hle
  have hlow := Nat.mul_le_mul_right ExactNumber.one low
  rw [Nat.sub_mul] at hscaled
  rw [ExactNumber.distance, ExactNumber.units_ofInt, ← Int.natCast_mul]
  omega

/-- Of all floats, none is nearer to a number of 64 bits than the multiple of 2048 that it is
rounded to, and if another one is as near, the multiple is an even one. -/
theorem distance_rounded {n : Nat} (low : 0x8000000000000000 ≤ n) (y : Float) :
    (2048 * (roundedQuotient n 2048 : Int) - n).natAbs * ExactNumber.one ≤
        (ExactNumber.ofFloat y).distance (ExactNumber.ofInt n) ∧
      ((ExactNumber.ofFloat y).units ≠ 2048 * roundedQuotient n 2048 * ExactNumber.one →
        (ExactNumber.ofFloat y).distance (ExactNumber.ofInt n) ≤
          (2048 * (roundedQuotient n 2048 : Int) - n).natAbs * ExactNumber.one →
        roundedQuotient n 2048 % 2 = 0) := by
  rcases ExactNumber.units_ofFloat y with ⟨c, hc⟩ | hsmall
  · obtain ⟨hnearest, htie⟩ := roundedQuotient_nearest n c
    rw [ExactNumber.distance_ofInt hc, hc]
    refine ⟨Nat.mul_le_mul_right _ hnearest, fun hne hle => htie ?_ ?_⟩
    · rintro rfl
      exact hne rfl
    · exact Nat.le_of_mul_le_mul_right hle ExactNumber.one_pos
  · have hlt := lt_distance_of_small low hsmall
    exact ⟨Nat.le_of_lt hlt, fun _ hle => absurd hlt (Nat.not_lt.mpr hle)⟩

/-- The float of an integer of 64 bits without a sign is the one that is nearest to it. -/
theorem isNearest_ofInt {n : Nat} (low : 0x8000000000000000 ≤ n)
    (high : n < 0x10000000000000000) : (ExactNumber.ofInt n).IsNearest (Float.ofInt n) := by
  obtain ⟨m, k, hfloat, hm, heven⟩ := ofFloat_ofInt low high
  have hcast : (m : Int) * Nat.pow 2 k = 2048 * roundedQuotient n 2048 := by
    rw [← Int.natCast_mul, hm, Int.natCast_mul]
    rfl
  have hunits : (ExactNumber.ofFloat (Float.ofInt n)).units =
      2048 * roundedQuotient n 2048 * ExactNumber.one := by
    rw [hfloat, ExactNumber.units_mk, hcast]
  have hdistance := ExactNumber.distance_ofInt hunits n
  refine ⟨isFinite_ofInt (by omega) high, ?_, ?_⟩
  · intro y _
    rw [hdistance]
    exact (distance_rounded low y).1
  · intro y _ hne hle
    rw [hunits] at hne
    rw [hdistance] at hle
    have hrounded := (distance_rounded low y).2 hne hle
    rw [hfloat]
    show (m : Int) % 2 = 0
    omega

end TypedDocument

import ChainActivity.Decimal.Binary64
import ChainActivity.Proofs.Decimal.Shortest
import Mathlib

/-!
# How large a rounded double may be

The operations on doubles that read a numeral round their results to fifty-three bits.  A
rounded result exceeds the exact one by less than one part in `2 ^ 52`, so that a numeral
whose value stays that far below the largest double is not read as an infinity.

## Main definitions

* `Rounding.lastPlace` — the place of the last digit of the largest doubles.
* `Rounding.IsNormalUpTo` — a normal positive double of at most a limit.

## Main statements

* `Rounding.exists_roundWithAccuracy` — what rounding makes of a mantissa.
* `Rounding.unpack_pack_round` — a rounded number that is packed.
* `Rounding.IsNormalUpTo.mul` — the product of two doubles.
* `Rounding.isNormalUpTo_ofNat`, `Rounding.isNormalUpTo_powerOfTen` — whole numbers and
  powers of ten as doubles.
* `Rounding.assemble?_isSome` — a significand and an exponent give a double, unless their
  value comes close to the largest one.
* `Rounding.exists_finite_of_isFinite` — the class of a finite double.
* `Rounding.isFinite_and_not_lt_zero` — the doubles of a finite class without a sign.
* `Rounding.zero_div`, `Rounding.beq_self` — what becomes of zero in a quotient, and equality.

## Design notes

A full last place is allowed for each rounding instead of half of one.  So ties need no
case of their own, and three roundings still add no more than a few places.
-/

namespace ChainActivity.Rounding

open Float.Model Float.Model.UnpackedFloat

/-! ### Rounding -/

theorem mantissa_shiftRight (em : ExtendedMantissa) (k : Nat) :
    (em >>> k).mantissa = em.mantissa / 2 ^ k := by
  induction k with
  | zero => exact (Nat.div_one _).symm
  | succ k ih =>
    change (em >>> k).mantissa / 2 = _
    rw [ih, Nat.div_div_eq_div_mul, Nat.pow_succ]

/-- A mantissa is rounded down, or up by one. -/
theorem roundedMantissa_bounds (em : ExtendedMantissa) :
    em.mantissa ≤ em.roundedMantissa ∧ em.roundedMantissa ≤ em.mantissa + 1 := by
  obtain ⟨m, round, sticky⟩ := em
  cases round <;> cases sticky <;>
    simp only [ExtendedMantissa.roundedMantissa, ExtendedMantissa.accuracy,
      Accuracy.roundToNearestEven] <;> omega

/-- A mantissa of at least fifty-three bits is shifted until it has fifty-three. -/
theorem shiftToTargetExponent_exact {m : Nat} {e : Int} (large : 2 ^ 52 ≤ m) (normal : -1074 ≤ e) :
    shiftToTargetExponent Format.binary64 m e .exact =
      (ExtendedMantissa.mk m false false >>> (m.log2 - 52), e + (m.log2 - 52 : Nat)) := by
  have places : 52 ≤ m.log2 := (Nat.le_log2 (by omega)).mpr large
  have amount : (Format.binary64.targetExponent (totalExponent m e) - e).toNat = m.log2 - 52 := by
    simp only [Format.targetExponent, totalExponent, Format.mantissaBits, Format.minExponent]
    omega
  simp only [shiftToTargetExponent, shiftToExponent, amount]
  rfl

theorem shiftToTargetExponent_normal {r : Nat} {e : Int} (large : 2 ^ 52 ≤ r) (small : r < 2 ^ 53)
    (normal : -1074 ≤ e) :
    shiftToTargetExponent Format.binary64 r e .exact = (⟨r, false, false⟩, e) := by
  have log : r.log2 = 52 := (Nat.log2_eq_iff (by omega)).mpr ⟨large, small⟩
  rw [shiftToTargetExponent_exact large normal, log]
  exact Prod.ext rfl (Int.add_zero e)

theorem shiftToTargetExponent_full {e : Int} (normal : -1074 ≤ e) :
    shiftToTargetExponent Format.binary64 (2 ^ 53) e .exact = (⟨2 ^ 52, false, false⟩, e + 1) := by
  rw [shiftToTargetExponent_exact (by decide) normal, Nat.log2_two_pow]
  rfl

/-- Rounding is a shift, a rounding of what is shifted out, and another shift. -/
theorem roundWithAccuracy_eq {sign : Sign} {m r : Nat} {e e₁ e₂ : Int} {em em' : ExtendedMantissa}
    (first : shiftToTargetExponent Format.binary64 m e .exact = (em, e₁))
    (rounded : em.roundedMantissa = r)
    (second : shiftToTargetExponent Format.binary64 r e₁ .exact = (em', e₂))
    (positive : 0 < em'.mantissa) :
    roundWithAccuracy Format.binary64 sign m e .exact = .finite sign em'.mantissa e₂ positive := by
  subst rounded
  simp only [roundWithAccuracy, first, second, dif_neg positive.ne']

/-- What rounding makes of a mantissa of at least fifty-three bits. -/
theorem exists_roundWithAccuracy (sign : Sign) {m : Nat} {e : Int} (large : 2 ^ 52 ≤ m)
    (normal : -1074 ≤ e) :
    ∃ k r : Nat, 2 ^ 52 ≤ m / 2 ^ k ∧ m / 2 ^ k ≤ r ∧ r ≤ m / 2 ^ k + 1 ∧
      ((∃ positive, r < 2 ^ 53 ∧
          roundWithAccuracy Format.binary64 sign m e .exact = .finite sign r (e + k) positive) ∨
        (∃ positive, r = 2 ^ 53 ∧ m / 2 ^ k = 2 ^ 53 - 1 ∧
          roundWithAccuracy Format.binary64 sign m e .exact =
            .finite sign (2 ^ 52) (e + k + 1) positive)) := by
  have places : 52 ≤ m.log2 := (Nat.le_log2 (by omega)).mpr large
  have split : 2 ^ (m.log2 - 52) * 2 ^ 52 = 2 ^ m.log2 := by
    rw [← Nat.pow_add, Nat.sub_add_cancel places]
  have first := shiftToTargetExponent_exact large normal
  generalize m.log2 - 52 = k at first split
  have positive : 0 < 2 ^ k := Nat.two_pow_pos k
  have below : 2 ^ 52 ≤ m / 2 ^ k := by
    rw [Nat.le_div_iff_mul_le positive, Nat.mul_comm, split]
    exact Nat.log2_self_le (by omega)
  have above : m / 2 ^ k < 2 ^ 53 := by
    rw [Nat.div_lt_iff_lt_mul positive, Nat.mul_comm]
    have log := Nat.lt_log2_self (n := m)
    rw [Nat.pow_succ, ← split] at log
    omega
  have bounds := roundedMantissa_bounds (ExtendedMantissa.mk m false false >>> k)
  rw [mantissa_shiftRight] at bounds
  change m / 2 ^ k ≤ _ ∧ _ ≤ m / 2 ^ k + 1 at bounds
  generalize rounded : (ExtendedMantissa.mk m false false >>> k).roundedMantissa = r at bounds
  refine ⟨k, r, below, bounds.1, bounds.2, ?_⟩
  rcases Nat.lt_or_ge r (2 ^ 53) with small | full
  · have second := shiftToTargetExponent_normal (r := r) (e := e + k) (by omega) small (by omega)
    have positive : 0 < r := by omega
    exact .inl ⟨positive, small, roundWithAccuracy_eq first rounded second positive⟩
  · obtain rfl : r = 2 ^ 53 := by omega
    have second := shiftToTargetExponent_full (e := e + k) (by omega)
    exact .inr ⟨by decide, rfl, by omega, roundWithAccuracy_eq first rounded second (by decide)⟩

/-! ### Packing -/

theorem unpackSign_packComponents (sign : Sign) (exponent : BitVec 11) (mantissa : BitVec 52) :
    unpackSign (packComponents Format.binary64 sign exponent mantissa) = sign.toBitVec := by
  have bits (e : BitVec 11) (m : BitVec 52) (s : BitVec 1) :
      (s ++ e ++ m).extractLsb' 63 1 = s := by
    rw [BitVec.extractLsb'_append_eq_of_le (by decide),
      BitVec.extractLsb'_append_eq_of_le (by decide)]
    exact BitVec.extractLsb'_eq_self
  exact bits exponent mantissa sign.toBitVec

/-- A normal number is unpacked as it was packed. -/
theorem unpack_pack_normal {m : Nat} {e : Int} (large : 2 ^ 52 ≤ m) (small : m < 2 ^ 53)
    (normal : -1074 ≤ e) (fits : e ≤ 971) :
    (Float.Model.pack (.finite .positive m e (by omega))).unpack =
      .finite .positive m e (by omega) := by
  have log : m.log2 = 52 := (Nat.log2_eq_iff (by omega)).mpr ⟨large, small⟩
  have inRange : ¬ 2 ^ 11 ≤ (e + 1075).toNat + 1 := by omega
  have biased : e + (1023 : Nat) + (52 : Nat) = e + 1075 := by omega
  have fields : UnpackedFloat.pack Format.binary64 (.finite .positive m e (by omega)) =
      packComponents Format.binary64 .positive (BitVec.ofNat 11 (e + 1075).toNat)
        (BitVec.ofNat 52 m) := by
    have bias : Format.binary64.exponentBias = 1023 := rfl
    simp only [UnpackedFloat.pack, log, bias, biased, if_neg inRange]
    rfl
  have field : (BitVec.ofNat 11 (e + 1075).toNat).toNat = (e + 1075).toNat := by
    rw [BitVec.toNat_ofNat, Nat.mod_eq_of_lt (by omega)]
  have notTop : BitVec.ofNat 11 (e + 1075).toNat ≠ -1#11 := by
    intro same
    have number := congrArg BitVec.toNat same
    rw [field] at number
    change _ = 2047 at number
    omega
  have notZero : BitVec.ofNat 11 (e + 1075).toNat ≠ 0#11 := by
    intro same
    have number := congrArg BitVec.toNat same
    rw [field] at number
    change _ = 0 at number
    omega
  have whole : (1#1 ++ BitVec.ofNat 52 m).toNat = m := by
    rw [BitVec.toNat_append, ← Nat.shiftLeft_add_eq_or_of_lt (BitVec.isLt _), BitVec.toNat_ofNat]
    change 1 <<< 52 + m % 2 ^ 52 = m
    rw [Nat.shiftLeft_eq]
    omega
  change UnpackedFloat.unpack Format.binary64 (UnpackedFloat.pack Format.binary64 _) = _
  rw [fields]
  simp only [UnpackedFloat.unpack, unpackMantissa_packComponents, unpackExponent_packComponents,
    unpackSign_packComponents, notTop, notZero, whole, field, if_false]
  congr 1
  change ((e + 1075).toNat : Int) - (1023 + 52) = e
  omega

/-! ### Values -/

theorem zpow_split (e : Int) (k : Nat) : (2 : ℚ) ^ (e + k) = 2 ^ k * 2 ^ e := by
  rw [zpow_add₀ (by norm_num), zpow_natCast, mul_comm]

/-- The place of the last digit of the largest doubles. -/
def lastPlace : ℚ := 2 ^ (971 : Int)

theorem lastPlace_pos : 0 < lastPlace := zpow_pos (by norm_num) 971

theorem lt_of_zpow_lt_lastPlace {n : Int} (below : (2 : ℚ) ^ n < lastPlace) : n < 971 :=
  (zpow_lt_zpow_iff_right₀ (by norm_num)).mp below

/-- Rounding a product that is not too large stays finite, and adds little. -/
theorem unpack_pack_round {m : Nat} {e : Int} (large : 2 ^ 52 ≤ m) (normal : -1074 ≤ e)
    (fits : (m : ℚ) * 2 ^ e < (2 ^ 53 - 1) * lastPlace) :
    ∃ m' e' positive,
      (Float.Model.pack (roundWithAccuracy Format.binary64 .positive m e .exact)).unpack =
        .finite .positive m' e' positive ∧
      2 ^ 52 ≤ m' ∧ e ≤ e' ∧ (m' : ℚ) * 2 ^ e' ≤ m * 2 ^ e * (1 + 1 / 2 ^ 52) := by
  obtain ⟨k, r, below, atLeast, atMost, rounding⟩ := exists_roundWithAccuracy .positive large normal
  have unit : (0 : ℚ) < 2 ^ e := by positivity
  -- what is shifted out is less than one place
  have floor : ((m / 2 ^ k : Nat) : ℚ) * 2 ^ k ≤ m := by
    exact_mod_cast Nat.div_mul_le_self m (2 ^ k)
  have kept : (2 : ℚ) ^ 52 ≤ (m / 2 ^ k : Nat) := by exact_mod_cast below
  have place : (2 : ℚ) ^ 52 * 2 ^ k ≤ m :=
    (mul_le_mul_of_nonneg_right kept (by positivity)).trans floor
  have least : ((m / 2 ^ k : Nat) : ℚ) * 2 ^ (e + k) < (2 ^ 53 - 1) * lastPlace := by
    rw [zpow_split, ← mul_assoc]
    exact (mul_le_mul_of_nonneg_right floor unit.le).trans_lt fits
  have value : (r : ℚ) * 2 ^ (e + k) ≤ m * 2 ^ e * (1 + 1 / 2 ^ 52) := by
    have up : (r : ℚ) ≤ (m / 2 ^ k : Nat) + 1 := by exact_mod_cast atMost
    have shifted : (r : ℚ) * 2 ^ k ≤ m * (1 + 1 / 2 ^ 52) :=
      calc (r : ℚ) * 2 ^ k ≤ ((m / 2 ^ k : Nat) + 1) * 2 ^ k := by gcongr
        _ ≤ m * (1 + 1 / 2 ^ 52) := by linarith
    rw [zpow_split]
    calc (r : ℚ) * (2 ^ k * 2 ^ e) = r * 2 ^ k * 2 ^ e := (mul_assoc ..).symm
      _ ≤ m * (1 + 1 / 2 ^ 52) * 2 ^ e := by gcongr
      _ = m * 2 ^ e * (1 + 1 / 2 ^ 52) := by ring
  rcases rounding with ⟨positive, small, rounded⟩ | ⟨positive, rfl, full, rounded⟩
  · have exponent : e + k - 1 < 971 := by
      have far := (mul_le_mul_of_nonneg_right kept
        (by positivity : (0 : ℚ) ≤ 2 ^ (e + k))).trans_lt least
      have top := lastPlace_pos
      refine lt_of_zpow_lt_lastPlace ?_
      rw [zpow_sub_one₀ (by norm_num)]
      linarith
    refine ⟨r, e + k, positive, ?_, by omega, by omega, value⟩
    rw [rounded, unpack_pack_normal (by omega) small (by omega) (by omega)]
  · have exponent : e + k < 971 := by
      have whole : ((m / 2 ^ k : Nat) : ℚ) = 2 ^ 53 - 1 := by
        rw [full]
        norm_num
      rw [whole] at least
      exact lt_of_zpow_lt_lastPlace (lt_of_mul_lt_mul_left least (by norm_num))
    refine ⟨2 ^ 52, e + k + 1, by decide, ?_, by omega, by omega, ?_⟩
    · rw [rounded, unpack_pack_normal (by omega) (by decide) (by omega) (by omega)]
    · rw [zpow_add_one₀ (by norm_num)]
      push_cast at value ⊢
      linarith

theorem cast_lastPlace : ((2 ^ 971 : Nat) : ℚ) = lastPlace := by
  rw [Nat.cast_pow, lastPlace, ← zpow_natCast]
  rfl

/-- The largest double is far above all whole numbers of sixty-four bits. -/
theorem lt_largest : (2 : ℚ) ^ 66 < (2 ^ 53 - 1) * lastPlace := by
  have power : (2 : ℚ) ^ (14 : Int) ≤ lastPlace := zpow_le_zpow_right₀ (by norm_num) (by norm_num)
  have small : (2 : ℚ) ^ (14 : Int) = 16384 := by norm_num
  rw [small] at power
  calc (2 : ℚ) ^ 66 < (2 ^ 53 - 1) * 16384 := by norm_num
    _ ≤ (2 ^ 53 - 1) * lastPlace := mul_le_mul_of_nonneg_left power (by norm_num)

/-- It lies between two powers of ten. -/
theorem pow_lt_largest {n : Nat} (few : n ≤ 308) : (10 : ℚ) ^ n < (2 ^ 53 - 1) * lastPlace := by
  have whole : 10 ^ 308 < (2 ^ 53 - 1) * 2 ^ 971 := by decide +kernel
  have cast : ((10 ^ 308 : Nat) : ℚ) < ((2 ^ 53 - 1) * 2 ^ 971 : Nat) := Nat.cast_lt.mpr whole
  rw [Nat.cast_mul, cast_lastPlace, Nat.cast_pow] at cast
  calc (10 : ℚ) ^ n ≤ 10 ^ 308 := pow_le_pow_right₀ (by norm_num) few
    _ < ((2 ^ 53 - 1 : Nat) : ℚ) * lastPlace := cast
    _ = (2 ^ 53 - 1) * lastPlace := by norm_num

theorem largest_lt : (2 ^ 53 - 1) * lastPlace < (10 : ℚ) ^ 309 := by
  have whole : (2 ^ 53 - 1) * 2 ^ 971 < 10 ^ 309 := by decide +kernel
  have cast : (((2 ^ 53 - 1) * 2 ^ 971 : Nat) : ℚ) < (10 ^ 309 : Nat) := Nat.cast_lt.mpr whole
  rw [Nat.cast_mul, cast_lastPlace, Nat.cast_pow] at cast
  calc (2 ^ 53 - 1) * lastPlace = ((2 ^ 53 - 1 : Nat) : ℚ) * lastPlace := by norm_num
    _ < (10 : ℚ) ^ 309 := cast

/-! ### Operations -/

/-- Whether a float is a normal positive number of at most a limit, and how small its exponent
may be. -/
def IsNormalUpTo (x : Float) (least : Int) (limit : ℚ) : Prop :=
  ∃ m e positive, x.toModel.unpack = .finite .positive m e positive ∧
    2 ^ 52 ≤ m ∧ least ≤ e ∧ (m : ℚ) * 2 ^ e ≤ limit

namespace IsNormalUpTo

theorem mono {x : Float} {a b : Int} {p q : ℚ} (normal : IsNormalUpTo x a p) (lower : b ≤ a)
    (upper : p ≤ q) : IsNormalUpTo x b q := by
  obtain ⟨m, e, positive, unpacked, large, atLeast, atMost⟩ := normal
  exact ⟨m, e, positive, unpacked, large, lower.trans atLeast, atMost.trans upper⟩

theorem isInf_eq_false {x : Float} {least : Int} {limit : ℚ} (normal : IsNormalUpTo x least limit) :
    x.isInf = false := by
  obtain ⟨m, e, positive, unpacked, -⟩ := normal
  change x.toModel.unpack.isInf = false
  rw [unpacked]
  rfl

/-- A product is rounded once. -/
theorem mul {x y : Float} {a b : Int} {p q : ℚ} (hx : IsNormalUpTo x a p) (hy : IsNormalUpTo y b q)
    (normal : -1074 ≤ a + b) (fits : p * q < (2 ^ 53 - 1) * lastPlace) :
    IsNormalUpTo (x * y) (a + b) (p * q * (1 + 1 / 2 ^ 52)) := by
  obtain ⟨m, e, hm, unpackedx, large, atLeast, atMost⟩ := hx
  obtain ⟨m', e', hm', unpackedy, large', atLeast', atMost'⟩ := hy
  have product : ((m * m' : Nat) : ℚ) * 2 ^ (e + e') ≤ p * q := by
    push_cast
    rw [zpow_add₀ (by norm_num)]
    calc (m : ℚ) * m' * (2 ^ e * 2 ^ e') = (m * 2 ^ e) * (m' * 2 ^ e') := by ring
      _ ≤ p * q := mul_le_mul atMost atMost' (by positivity) (le_trans (by positivity) atMost)
  have wide : 2 ^ 52 ≤ m * m' := large.trans (Nat.le_mul_of_pos_right m hm')
  obtain ⟨r, f, positive, unpacked, large'', higher, value⟩ :=
    unpack_pack_round wide (by omega) (product.trans_lt fits)
  refine ⟨r, f, positive, ?_, large'', by omega, value.trans (by gcongr)⟩
  change (Float.Model.pack
    (UnpackedFloat.mul Format.binary64 x.toModel.unpack y.toModel.unpack)).unpack = _
  rw [unpackedx, unpackedy]
  exact unpacked

end IsNormalUpTo

/-- Zero times a normal double is zero. -/
theorem isInf_zero_mul {x : Float} {least : Int} {limit : ℚ} (normal : IsNormalUpTo x least limit) :
    (Float.ofNat 0 * x).isInf = false := by
  obtain ⟨m, e, positive, unpacked, -⟩ := normal
  have zero : (Float.ofNat 0).toModel.unpack = .zero .positive := by rfl
  change (Float.Model.pack (UnpackedFloat.mul Format.binary64 (Float.ofNat 0).toModel.unpack
    x.toModel.unpack)).unpack.isInf = false
  rw [zero, unpacked, UnpackedFloat.mul]
  decide +kernel

/-- A word that is converted is rounded once. -/
theorem isNormalUpTo_toFloat (n : UInt64) (positive : 0 < n.toNat) :
    IsNormalUpTo n.toFloat (-52) (n.toNat * (1 + 1 / 2 ^ 52)) := by
  have log := Nat.log2_self_le positive.ne'
  have size : n.toNat < 2 ^ 64 := n.toNat_lt
  have target : Format.binary64.targetExponent (totalExponent n.toNat 0) = n.toNat.log2 - 52 := by
    simp only [Format.targetExponent, totalExponent, Format.mantissaBits, Format.minExponent]
    omega
  have shift : (0 - ((n.toNat.log2 : Int) - 52)).toNat = 52 - n.toNat.log2 := by omega
  have wide : 2 ^ 52 ≤ n.toNat <<< (52 - n.toNat.log2) := by
    rw [Nat.shiftLeft_eq]
    calc 2 ^ 52 ≤ 2 ^ (n.toNat.log2 + (52 - n.toNat.log2)) :=
          Nat.pow_le_pow_right (by decide) (by omega)
      _ = 2 ^ n.toNat.log2 * 2 ^ (52 - n.toNat.log2) := Nat.pow_add ..
      _ ≤ n.toNat * 2 ^ (52 - n.toNat.log2) := Nat.mul_le_mul_right _ log
  have same : ((n.toNat <<< (52 - n.toNat.log2) : Nat) : ℚ) *
      2 ^ (0 - ((52 - n.toNat.log2 : Nat) : Int)) = n.toNat := by
    rw [Nat.shiftLeft_eq, zero_sub, zpow_neg, zpow_natCast]
    push_cast
    exact mul_inv_cancel_right₀ (by positivity) _
  have fits : ((n.toNat <<< (52 - n.toNat.log2) : Nat) : ℚ) *
      2 ^ (0 - ((52 - n.toNat.log2 : Nat) : Int)) < (2 ^ 53 - 1) * lastPlace := by
    rw [same]
    have below : (n.toNat : ℚ) < 2 ^ 64 := by exact_mod_cast size
    linarith [lt_largest]
  obtain ⟨r, f, hr, unpacked, large, higher, value⟩ := unpack_pack_round wide (by omega) fits
  rw [same] at value
  refine ⟨r, f, hr, ?_, large, by omega, value⟩
  have sign : compare (n.toNat : Int) 0 = .gt := Int.compare_eq_gt.mpr (by omega)
  change (Float.Model.pack
    (UnpackedFloat.normalize Format.binary64 (n.toNat : Int) 0 .positive)).unpack = _
  simp only [UnpackedFloat.normalize, sign, Int.toNat_natCast, UnpackedFloat.round, target,
    decreaseExponent, shift]
  exact unpacked

/-- So is a number times a power of ten. -/
theorem isNormalUpTo_ofScientific {m n : Nat} (positive : 0 < m) (few : n ≤ 308)
    (fits : (m : ℚ) * 10 ^ n < (2 ^ 53 - 1) * lastPlace) :
    IsNormalUpTo (.ofModel (Float.Model.ofScientific m n)) (-53)
      (m * 10 ^ n * (1 + 1 / 2 ^ 52)) := by
  have power : 0 < 10 ^ n := Nat.pow_pos (by decide)
  have wide : 2 ^ 52 ≤ (m <<< 53) * 10 ^ n := by
    rw [Nat.shiftLeft_eq]
    nlinarith
  have same : (((m <<< 53) * 10 ^ n : Nat) : ℚ) * 2 ^ (-53 : Int) = m * 10 ^ n := by
    rw [Nat.shiftLeft_eq, zpow_neg]
    push_cast
    rw [mul_right_comm (m : ℚ)]
    exact mul_inv_cancel_right₀ (by positivity) _
  obtain ⟨r, f, hr, unpacked, large, higher, value⟩ :=
    unpack_pack_round wide (by decide) (same ▸ fits)
  rw [same] at value
  refine ⟨r, f, hr, ?_, large, higher, value⟩
  have notLarge : ¬ ((n : Int) > 2 ^ Format.binary64.exponentBits) := by
    change ¬ ((n : Int) > 2 ^ 11)
    omega
  have notSmall : ¬ ((n : Int) < -((2 ^ Format.binary64.exponentBits : Int) + m.log2)) := by
    change ¬ ((n : Int) < -((2 ^ 11 : Int) + m.log2))
    omega
  change (Float.Model.pack (UnpackedFloat.ofScientific Format.binary64 m n)).unpack = _
  rw [UnpackedFloat.ofScientific, dif_neg positive.ne', if_neg notLarge, if_neg notSmall,
    if_pos (Int.natCast_nonneg n)]
  exact unpacked

/-- A check for small powers of ten. -/
def isNormalUpTo (x : Float) (limit : Nat) : Bool :=
  match x.toModel.unpack with
  | .finite .positive m e _ =>
    2 ^ 52 ≤ m && -52 ≤ e && m * 2 ^ e.toNat ≤ limit * 2 ^ (-e).toNat
  | _ => false

theorem isNormalUpTo_of_check {x : Float} {limit : Nat} (checked : isNormalUpTo x limit = true) :
    IsNormalUpTo x (-52) limit := by
  rw [isNormalUpTo] at checked
  split at checked
  · next m e positive unpacked =>
    simp only [Bool.and_eq_true, decide_eq_true_eq] at checked
    obtain ⟨⟨large, higher⟩, value⟩ := checked
    refine ⟨m, e, positive, unpacked, large, higher, ?_⟩
    have scaled : (m : ℚ) * 2 ^ e.toNat ≤ limit * 2 ^ (-e).toNat := by exact_mod_cast value
    rw [← zpow_mul_toNat (by norm_num) e, ← mul_assoc] at scaled
    exact le_of_mul_le_mul_right scaled (by positivity)
  · exact absurd checked Bool.false_ne_true

/-- A whole number is converted and then multiplied by one. -/
theorem isNormalUpTo_ofNat {n : Nat} (positive : 0 < n) (small : n < UInt64.size) :
    IsNormalUpTo (Float.ofNat n) (-104) (n * (1 + 1 / 2 ^ 52) * (1 + 1 / 2 ^ 52)) := by
  have nonzero : (0 : ℚ) < n := by exact_mod_cast positive
  have large := lt_largest
  have size : (n : ℚ) < 2 ^ 64 := by exact_mod_cast small
  by_cases exact : n < 2 ^ 53
  · have word : n.toUInt64.toNat = n := UInt64.toNat_ofNat_of_lt' small
    have converted := isNormalUpTo_toFloat n.toUInt64 (by omega)
    have one : IsNormalUpTo (Float.exactlyRepresentablePowersOfTen[0]) (-52) (1 : Nat) :=
      isNormalUpTo_of_check (by decide +kernel)
    have product := converted.mul one (by decide) (by
      rw [word]
      push_cast
      linarith)
    rw [word] at product
    have written :
        Float.ofNat n = n.toUInt64.toFloat * Float.exactlyRepresentablePowersOfTen[0] := by
      change Float.ofScientific n false 0 = _
      rw [Float.ofScientific, dif_pos ⟨exact, by decide⟩]
      rfl
    rw [written]
    exact product.mono (by decide) (by push_cast; linarith)
  · have written : Float.ofNat n = .ofModel (Float.Model.ofScientific n (0 : Nat)) := by
      change Float.ofScientific n false 0 = _
      rw [Float.ofScientific, dif_neg fun h => exact h.1]
      rfl
    rw [written]
    refine (isNormalUpTo_ofScientific positive (by decide) ?_).mono (by decide) ?_
    · linarith
    · nlinarith

theorem isNormalUpTo_powerOfTen {n : Nat} (few : n ≤ 308) :
    IsNormalUpTo (Json.Numeral.powerOfTen n) (-53) (10 ^ n * (1 + 1 / 2 ^ 52)) := by
  have positive : (0 : ℚ) < 10 ^ n := by positivity
  by_cases tabled : n ≤ 22
  · have checks : ∀ n < 23, isNormalUpTo (Json.Numeral.powerOfTen n) (10 ^ n) = true := by
      decide +kernel
    refine (isNormalUpTo_of_check (checks n (by omega))).mono (by decide) ?_
    push_cast
    linarith
  · have written : Json.Numeral.powerOfTen n = .ofModel (Float.Model.ofScientific 1 n) := by
      change Float.ofScientific 1 false n = _
      rw [Float.ofScientific, dif_neg fun h => tabled h.2]
      rfl
    rw [written]
    refine (isNormalUpTo_ofScientific (by decide) few ?_).mono (by decide) ?_
    · rw [Nat.cast_one, one_mul]
      exact pow_lt_largest few
    · rw [Nat.cast_one, one_mul]

/-- A significand and an exponent give a double if their value is below the largest one by
more than three roundings may add. -/
theorem assemble?_isSome {s : Nat} {e : Int} (small : s < UInt64.size)
    (fits : (s : ℚ) * 10 ^ e * (1 + 1 / 2 ^ 52) ^ 3 < (2 ^ 53 - 1) * lastPlace) :
    (Json.Numeral.assemble? s e).isSome = true := by
  rw [Json.Numeral.assemble?]
  split
  · rfl
  · next natural =>
    obtain ⟨n, rfl⟩ := Int.eq_ofNat_of_zero_le (not_lt.mp natural)
    rw [zpow_natCast] at fits
    split
    · next few =>
      have power := isNormalUpTo_powerOfTen (n := n) (by omega)
      have finite : (Float.ofNat s * Json.Numeral.powerOfTen n).isInf = false := by
        rcases Nat.eq_zero_or_pos s with rfl | positive
        · exact isInf_zero_mul power
        · exact ((isNormalUpTo_ofNat positive small).mul power (by decide)
            (by linarith)).isInf_eq_false
      simp only [Int.toNat_natCast, finite]
      rfl
    · next many =>
      -- such an exponent leaves room for no significand but zero
      rcases Nat.eq_zero_or_pos s with rfl | positive
      · rfl
      · have one : (1 : ℚ) ≤ s := by exact_mod_cast positive
        have power : (10 : ℚ) ^ 309 ≤ 10 ^ n := pow_le_pow_right₀ (by norm_num) (by omega)
        have slack : (1 : ℚ) ≤ (1 + 1 / 2 ^ 52) ^ 3 := by norm_num
        have huge : (10 : ℚ) ^ 309 < (2 ^ 53 - 1) * lastPlace :=
          calc (10 : ℚ) ^ 309 ≤ 10 ^ n := power
            _ ≤ s * 10 ^ n * (1 + 1 / 2 ^ 52) ^ 3 := by
              rw [mul_right_comm]
              exact le_mul_of_one_le_left (by positivity) (one_le_mul_of_one_le_of_one_le one slack)
            _ < _ := fits
        exact absurd huge (not_lt.mpr largest_lt.le)

/-! ### Classes -/

/-- The bits of the exponent of a double. -/
def exponentField (x : Float) : BitVec Format.binary64.exponentBits :=
  unpackExponent x.toBits.toBitVec

theorem toNat_exponentField (x : Float) :
    (exponentField x).toNat = (x.toBits.toNat >>> 52) % (1 <<< 11) := by
  simp [exponentField, unpackExponent]

/-- A finite double has a mantissa of fifty-three bits, and an exponent within bounds. -/
theorem exists_finite_of_isFinite {x : Float} (finite : x.isFinite = true) :
    ∃ negative mantissa exponent, Binary64.ofFloat x = .finite negative mantissa exponent ∧
      mantissa < 2 ^ 53 ∧ -1074 ≤ exponent ∧ exponent ≤ 971 := by
  have notTop : (x.toBits.toNat >>> 52) % (1 <<< 11) ≠ 2047 := by
    intro top
    rw [← toNat_exponentField] at top
    have all : @unpackExponent Format.binary64 x.toBits.toBitVec = -1#11 :=
      BitVec.eq_of_toNat_eq top
    have isFinite : (UnpackedFloat.unpack Format.binary64 x.toBits.toBitVec).isFinite = true :=
      finite
    rw [UnpackedFloat.unpack] at isFinite
    simp only [all, if_true] at isFinite
    split at isFinite <;> simp [UnpackedFloat.isFinite] at isFinite
  have biased : (x.toBits.toNat >>> 52) % (1 <<< 11) < 2 ^ 11 := Nat.mod_lt _ (by decide)
  have fraction : x.toBits.toNat % (1 <<< 52) < 2 ^ 52 := Nat.mod_lt _ (by decide)
  have one : (1 <<< 52 : Nat) = 2 ^ 52 := by decide
  rw [Binary64.ofFloat, Binary64.ofBits]
  simp only [if_neg notTop]
  split
  · exact ⟨_, _, _, rfl, by omega, by omega, by omega⟩
  · exact ⟨_, _, _, rfl, by omega, by omega, by omega⟩

/-- The bit of the sign of a double. -/
theorem unpackSign_toBits (x : Float) : @unpackSign Format.binary64 x.toBits.toBitVec =
    if (1 <<< 63) ≤ x.toBits.toNat then 1#1 else 0#1 := by
  have size : x.toBits.toNat < 2 ^ 64 := x.toBits.toNat_lt
  have half : (1 <<< 63 : Nat) = 2 ^ 63 := by decide
  have bit : (@unpackSign Format.binary64 x.toBits.toBitVec).toNat =
      x.toBits.toNat / 2 ^ 63 % 2 := by
    simp [unpackSign, Format.binary64, Nat.shiftRight_eq_div_pow]
  apply BitVec.eq_of_toNat_eq
  rw [bit]
  split
  · change _ = 1
    omega
  · change _ = 0
    omega

/-- A double of a class without a sign is finite and not below zero. -/
theorem isFinite_and_not_lt_zero {x : Float} {mantissa : Nat} {exponent : Int}
    (found : Binary64.ofFloat x = .finite false mantissa exponent) :
    x.isFinite = true ∧ ¬ x < 0 := by
  rw [Binary64.ofFloat, Binary64.ofBits, ← toNat_exponentField] at found
  have notTop : @unpackExponent Format.binary64 x.toBits.toBitVec ≠ -1#11 := by
    intro all
    have top : (exponentField x).toNat = 2047 := by rw [exponentField, all]; rfl
    simp only [top, if_true] at found
    split at found <;> cases found
  have unsigned : ¬ (1 <<< 63) ≤ x.toBits.toNat := by
    intro signed
    simp only [decide_eq_true signed] at found
    split at found
    · split at found <;> cases found
    · split at found <;> cases found
  have sign := unpackSign_toBits x
  rw [if_neg unsigned] at sign
  have unpacked : (UnpackedFloat.unpack Format.binary64 x.toBits.toBitVec).isFinite = true ∧
      (UnpackedFloat.unpack Format.binary64 x.toBits.toBitVec).lt (.zero .positive) = false := by
    rw [UnpackedFloat.unpack, sign]
    simp only [notTop, if_false]
    split
    · split <;> exact ⟨rfl, rfl⟩
    · exact ⟨rfl, rfl⟩
  refine ⟨unpacked.1, fun below => ?_⟩
  have less : (UnpackedFloat.unpack Format.binary64 x.toBits.toBitVec).lt (.zero .positive) = true :=
    of_decide_eq_true below
  rw [unpacked.2] at less
  cases less

/-! ### Zero, and equality -/

/-- Zero divided by whatever there is is zero, or no number. -/
theorem zero_div (y : UnpackedFloat) :
    UnpackedFloat.div Format.binary64 (.zero .positive) y = .notANumber ∨
      ∃ sign, UnpackedFloat.div Format.binary64 (.zero .positive) y = .zero sign := by
  cases y with
  | notANumber => exact .inl rfl
  | zero sign => exact .inl rfl
  | infinity sign => exact .inr ⟨_, rfl⟩
  | finite sign mantissa exponent positive => exact .inr ⟨_, rfl⟩

/-- A finite double equals itself. -/
theorem beq_self {x : Float} (finite : x.isFinite = true) : (x == x) = true := by
  have unpacked : x.toModel.unpack.isFinite = true := finite
  change UnpackedFloat.beq x.toModel.unpack x.toModel.unpack = true
  cases found : x.toModel.unpack with
  | notANumber => rw [found] at unpacked; cases unpacked
  | infinity sign => rw [found] at unpacked; cases unpacked
  | zero sign => rfl
  | finite sign mantissa exponent positive =>
    cases sign <;> simp [UnpackedFloat.beq, UnpackedFloat.compare]

end ChainActivity.Rounding

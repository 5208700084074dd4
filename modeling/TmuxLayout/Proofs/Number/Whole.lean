import TmuxLayout.Proofs.Number.Fields

/-!
# Whole numbers among doubles

A sum of doubles is worked out exactly and then rounded to fifty-three bits: the
significand is shifted to the right, and the bits that are shifted out decide whether
it goes up. A whole number has no bits below the point. Either the shift ends at the
point or above it, and the result is whole because of that, or it ends below, and then
only zeros were shifted out and nothing was rounded. Rounding may carry into one bit
more and is followed by a second shift, for which the same holds.

- `IsWhole`: rational numbers that are integers.
- `dvd_of_isWhole`, `shiftRight_of_dvd`: below the point only zeros are shifted out.
- `isWhole_shiftToTargetExponent`, `isCanonical_shiftToTargetExponent`: one shift keeps
  whole numbers whole, and ends in what a double can hold.
- `roundsWhole_round`, `isWhole_pack_normalize`: so does rounding.
- `isWhole_add`: a finite sum of whole doubles is whole.
-/

namespace TmuxLayout.Binary64

open Float.Model Float.Model.UnpackedFloat

/-! ## Whole numbers -/

/-- A rational number that is an integer. -/
def IsWhole (q : Rat) : Prop :=
  ∃ n : Int, q = n

theorem IsWhole.add {p q : Rat} (hp : IsWhole p) (hq : IsWhole q) : IsWhole (p + q) := by
  obtain ⟨n, rfl⟩ := hp
  obtain ⟨m, rfl⟩ := hq
  exact ⟨n + m, (Int.cast_add n m).symm⟩

theorem IsWhole.neg {p : Rat} (hp : IsWhole p) : IsWhole (-p) := by
  obtain ⟨n, rfl⟩ := hp
  exact ⟨-n, (Int.cast_neg n).symm⟩

theorem isWhole_apply_iff {sign : Sign} {mantissa : Nat} {exponent : Int} :
    IsWhole (sign.apply mantissa * 2 ^ exponent) ↔ IsWhole (mantissa * 2 ^ exponent) := by
  cases sign with
  | positive => exact Iff.rfl
  | negative =>
    rw [Sign.apply, Int.cast_neg, neg_mul]
    exact ⟨fun h => neg_neg ((mantissa : Rat) * 2 ^ exponent) ▸ h.neg, IsWhole.neg⟩

/-- What has its last bit at the point or above it is whole. -/
theorem isWhole_mul_two_pow {mantissa exponent : Int} (h : 0 ≤ exponent) :
    IsWhole (mantissa * 2 ^ exponent) := by
  obtain ⟨k, rfl⟩ := Int.eq_ofNat_of_zero_le h
  refine ⟨mantissa * 2 ^ k, ?_⟩
  show (mantissa : Rat) * 2 ^ (k : Int) = _
  rw [zpow_natCast, Int.cast_mul, Int.cast_pow, Int.cast_ofNat]

/-- Below the point, a whole number has only zeros. -/
theorem dvd_of_isWhole {mantissa : Nat} {exponent : Int} {k : Nat}
    (h : IsWhole (mantissa * 2 ^ exponent)) (hk : exponent + k ≤ 0) : 2 ^ k ∣ mantissa := by
  obtain ⟨n, hn⟩ := h
  obtain ⟨d, hd⟩ : ∃ d : Nat, exponent = -((k + d : Nat) : Int) :=
    ⟨(-exponent).toNat - k, by omega⟩
  rw [hd, zpow_neg, zpow_natCast, ← div_eq_mul_inv, div_eq_iff (by positivity), pow_add] at hn
  have hrat : ((mantissa : Int) : Rat) = ((2 ^ k * (n * 2 ^ d) : Int) : Rat) := by
    push_cast
    rw [hn]
    ring
  have hint : (mantissa : Int) = 2 ^ k * (n * 2 ^ d) := by exact_mod_cast hrat
  exact Int.natCast_dvd_natCast.mp ⟨n * 2 ^ d, by exact_mod_cast hint⟩

/-! ## Shifts -/

/-- A mantissa that is shifted to the left, its exponent lowered, is the same number. -/
theorem number_shiftLeft (mantissa k : Nat) (exponent : Int) :
    ((mantissa <<< k : Nat) : Rat) * 2 ^ (exponent - k) = mantissa * 2 ^ exponent := by
  rw [Nat.shiftLeft_eq, zpow_sub₀ two_ne_zero, zpow_natCast]
  push_cast
  field_simp

theorem shiftLeft_pos {mantissa : Nat} (h : 0 < mantissa) (k : Nat) : 0 < mantissa <<< k := by
  rw [Nat.shiftLeft_eq]
  exact Nat.mul_pos h (Nat.two_pow_pos k)

theorem log2_shiftLeft {mantissa : Nat} (h : 0 < mantissa) (k : Nat) :
    (mantissa <<< k).log2 = mantissa.log2 + k := by
  have hle := Nat.log2_self_le h.ne'
  have hlt := @Nat.lt_log2_self mantissa
  rw [Nat.log2_eq_iff (shiftLeft_pos h k).ne', Nat.shiftLeft_eq, Nat.add_right_comm, pow_add,
    pow_add]
  exact ⟨Nat.mul_le_mul_right _ hle, Nat.mul_lt_mul_of_pos_right hlt (Nat.two_pow_pos k)⟩

/-- Where only zeros are shifted out, the number stays the same. -/
theorem number_div_two_pow {mantissa k : Nat} (h : 2 ^ k ∣ mantissa) (exponent : Int) :
    ((mantissa / 2 ^ k : Nat) : Rat) * 2 ^ (exponent + k) = mantissa * 2 ^ exponent := by
  obtain ⟨rest, rfl⟩ := h
  rw [Nat.mul_div_cancel_left _ (Nat.two_pow_pos k), Nat.cast_mul, Nat.cast_pow, Nat.cast_ofNat,
    zpow_add₀ two_ne_zero, zpow_natCast]
  ring

theorem shiftRight_succ (em : ExtendedMantissa) (k : Nat) :
    em >>> (k + 1) = (em >>> k).shiftRightOne := rfl

/-- Shifting to the right divides the mantissa. -/
theorem mantissa_shiftRight (em : ExtendedMantissa) (k : Nat) :
    (em >>> k).mantissa = em.mantissa / 2 ^ k := by
  induction k with
  | zero =>
    rw [pow_zero, Nat.div_one]
    rfl
  | succ k ih =>
    rw [shiftRight_succ, ExtendedMantissa.shiftRightOne, ih, Nat.div_div_eq_div_mul, pow_succ]

/-- Where only zeros are shifted out, nothing is left to round. -/
theorem shiftRight_of_dvd {mantissa k : Nat} (h : 2 ^ k ∣ mantissa) :
    (⟨mantissa, false, false⟩ : ExtendedMantissa) >>> k = ⟨mantissa / 2 ^ k, false, false⟩ := by
  induction k with
  | zero =>
    rw [pow_zero, Nat.div_one]
    rfl
  | succ k ih =>
    obtain ⟨rest, rfl⟩ := h
    have hhalf : 2 ^ (k + 1) * rest / 2 ^ k = 2 * rest := by
      rw [pow_succ, mul_assoc, Nat.mul_div_cancel_left _ (Nat.two_pow_pos k)]
    rw [shiftRight_succ, ih (Dvd.intro _ (by rw [pow_succ, mul_assoc])), hhalf,
      Nat.mul_div_cancel_left _ (Nat.two_pow_pos _), ExtendedMantissa.shiftRightOne]
    simp

theorem mantissa_le_roundedMantissa (em : ExtendedMantissa) :
    em.mantissa ≤ em.roundedMantissa := by
  obtain ⟨mantissa, roundBit, stickyBit⟩ := em
  cases roundBit <;> cases stickyBit <;>
    simp [ExtendedMantissa.roundedMantissa, ExtendedMantissa.accuracy,
      Accuracy.roundToNearestEven]

/-- A whole number is whole after the shift of its exponent, and rounded as well. -/
theorem isWhole_shiftToTargetExponent {mantissa : Nat} {exponent : Int}
    (h : IsWhole (mantissa * 2 ^ exponent)) {em : ExtendedMantissa} {shifted : Int}
    (hshift : shiftToTargetExponent .binary64 mantissa exponent .exact = (em, shifted)) :
    IsWhole (em.mantissa * 2 ^ shifted) ∧ IsWhole (em.roundedMantissa * 2 ^ shifted) := by
  rw [shiftToTargetExponent, shiftToExponent] at hshift
  generalize (Format.binary64.targetExponent _ - exponent).toNat = k at hshift
  cases hshift
  by_cases hpoint : 0 ≤ exponent + k
  · exact ⟨isWhole_mul_two_pow hpoint, isWhole_mul_two_pow hpoint⟩
  · have hdvd : 2 ^ k ∣ mantissa := dvd_of_isWhole h (by omega)
    have hsame : IsWhole ((mantissa / 2 ^ k : Nat) * 2 ^ (exponent + k)) := by
      rwa [number_div_two_pow hdvd]
    rw [ExtendedMantissa.ofMantissaAndAccuracy, shiftRight_of_dvd hdvd]
    exact ⟨hsame, hsame⟩

/-! ## Rounding -/

/-- The exponent of the last bit that is kept: there are fifty-three bits, or fewer when
it is the least one. -/
theorem targetExponent_cases (mantissa : Nat) (exponent : Int) :
    ∃ target, Format.binary64.targetExponent (totalExponent mantissa exponent) = target ∧
      -1074 ≤ target ∧ mantissa.log2 - 52 + exponent ≤ target ∧
      (target = mantissa.log2 - 52 + exponent ∨ target = -1074) := by
  have htarget : Format.binary64.targetExponent (totalExponent mantissa exponent) =
      max (mantissa.log2 - 52 + exponent) (-1074) := by
    show max ((mantissa.log2 : Int) + 1 + exponent - 53) (-1074) = _
    congr 1
    ring
  exact ⟨_, htarget, le_max_right _ _, le_max_left _ _, max_choice _ _⟩

/-- A significand has the bits that a double keeps, or more, unless the exponent is the
least one or below it. -/
def IsWide (mantissa : Nat) (exponent : Int) : Prop :=
  2 ^ 52 ≤ mantissa ∨ exponent ≤ -1074

/-- The shift of the exponent ends in a mantissa of the width of doubles. -/
theorem isCanonical_shiftToTargetExponent {mantissa : Nat} {exponent : Int}
    (h : IsWide mantissa exponent) {em : ExtendedMantissa} {shifted : Int}
    (hshift : shiftToTargetExponent .binary64 mantissa exponent .exact = (em, shifted)) :
    IsCanonical em.mantissa shifted := by
  obtain ⟨target, htarget, hleast, hle, hcases⟩ := targetExponent_cases mantissa exponent
  rw [shiftToTargetExponent, shiftToExponent, htarget] at hshift
  obtain ⟨k, hk⟩ : ∃ k, (target - exponent).toNat = k := ⟨_, rfl⟩
  rw [hk] at hshift
  cases hshift
  rw [mantissa_shiftRight]
  show IsCanonical (mantissa / 2 ^ k) (exponent + k)
  refine ⟨?_, by omega, ?_⟩
  · have hlt : mantissa < 2 ^ 53 * 2 ^ k := by
      rw [← pow_add]
      exact Nat.lt_log2_self.trans_le (Nat.pow_le_pow_right two_pos (by omega))
    exact (Nat.div_lt_iff_lt_mul (Nat.two_pow_pos k)).mpr hlt
  -- unless the exponent is the least one, the mantissa is full
  · by_cases hend : exponent + k = -1074
    · exact .inr hend
    · left
      have hlog : 52 ≤ mantissa.log2 := by
        rcases h with hfull | hbelow
        · exact (Nat.le_log2 (by omega)).mpr hfull
        · omega
      have hbits : 52 + k ≤ mantissa.log2 := by omega
      have hne : mantissa ≠ 0 := by
        rintro rfl
        exact absurd hlog (by decide)
      have hle' : 2 ^ 52 * 2 ^ k ≤ mantissa := by
        rw [← pow_add]
        exact (Nat.pow_le_pow_right two_pos hbits).trans (Nat.log2_self_le hne)
      exact (Nat.le_div_iff_mul_le (Nat.two_pow_pos k)).mpr hle'

/-- Rounding keeps a mantissa wide enough. -/
theorem isWide_roundedMantissa {em : ExtendedMantissa} {exponent : Int}
    (h : IsCanonical em.mantissa exponent) : IsWide em.roundedMantissa exponent := by
  rcases h.full with hfull | hleast
  · exact .inl (hfull.trans (mantissa_le_roundedMantissa em))
  · exact .inr hleast.le

/-- What a whole number is rounded to: zero, or what a double can hold and is whole. -/
def RoundsWhole (sign : Sign) (u : UnpackedFloat) : Prop :=
  u = .zero sign ∨ ∃ mantissa exponent hpos, u = .finite sign mantissa exponent hpos ∧
    IsCanonical mantissa exponent ∧ IsWhole (mantissa * 2 ^ exponent)

/-- Rounding a whole number to a double gives a whole number, or no finite one. -/
theorem roundsWhole_roundWithAccuracy (sign : Sign) {mantissa : Nat} {exponent : Int}
    (hwide : IsWide mantissa exponent) (hwhole : IsWhole (mantissa * 2 ^ exponent)) :
    RoundsWhole sign (roundWithAccuracy .binary64 sign mantissa exponent .exact) := by
  obtain ⟨em, shifted, hfirst⟩ : ∃ em shifted,
      shiftToTargetExponent .binary64 mantissa exponent .exact = (em, shifted) := ⟨_, _, rfl⟩
  -- going up may carry into one bit more, which the second shift takes away
  obtain ⟨em', shifted', hsecond⟩ : ∃ em' shifted',
      shiftToTargetExponent .binary64 em.roundedMantissa shifted .exact = (em', shifted') :=
    ⟨_, _, rfl⟩
  have hcanonical := isCanonical_shiftToTargetExponent
    (isWide_roundedMantissa (isCanonical_shiftToTargetExponent hwide hfirst)) hsecond
  have hwhole' := (isWhole_shiftToTargetExponent
    (isWhole_shiftToTargetExponent hwhole hfirst).2 hsecond).1
  rw [roundWithAccuracy, hfirst]
  dsimp only
  rw [hsecond]
  dsimp only
  split
  · exact .inl rfl
  · next hpos => exact .inr ⟨_, _, Nat.pos_of_ne_zero hpos, rfl, hcanonical, hwhole'⟩

/-- A significand with too few bits is filled up with zeros before it is rounded. -/
theorem roundsWhole_round (sign : Sign) {mantissa : Nat} {exponent : Int} (hpos : 0 < mantissa)
    (hwhole : IsWhole (mantissa * 2 ^ exponent)) :
    RoundsWhole sign (UnpackedFloat.round .binary64 sign mantissa exponent) := by
  obtain ⟨target, htarget, -, -, hcases⟩ := targetExponent_cases mantissa exponent
  rw [UnpackedFloat.round, htarget, decreaseExponent]
  obtain ⟨k, hk⟩ : ∃ k, (exponent - target).toNat = k := ⟨_, rfl⟩
  rw [hk]
  dsimp only
  refine roundsWhole_roundWithAccuracy sign ?_ (by rwa [number_shiftLeft])
  by_cases hleast : exponent - k ≤ -1074
  · exact .inr hleast
  · left
    have hlog := log2_shiftLeft hpos k
    exact (Nat.le_log2 (shiftLeft_pos hpos k).ne').mp (by omega)

/-- A finite double that came from a whole number is whole. -/
theorem RoundsWhole.isWhole {sign : Sign} {u : UnpackedFloat} (h : RoundsWhole sign u)
    (hfinite : Float.isFinite ⟨pack u⟩ = true) : IsWhole (number ⟨pack u⟩) := by
  obtain rfl | ⟨mantissa, exponent, hpos, rfl, hcanonical, hwhole⟩ := h
  · exact ⟨0, number_pack_zero sign⟩
  · rw [number_pack_finite hcanonical hfinite]
    exact isWhole_apply_iff.mpr hwhole

/-- A finite double that a whole number is brought to is whole. -/
theorem isWhole_pack_normalize {mantissa exponent : Int} {sign : Sign}
    (hwhole : IsWhole (mantissa * 2 ^ exponent))
    (hfinite : Float.isFinite ⟨pack (normalize .binary64 mantissa exponent sign)⟩ = true) :
    IsWhole (number ⟨pack (normalize .binary64 mantissa exponent sign)⟩) := by
  rw [UnpackedFloat.normalize] at hfinite ⊢
  rcases lt_trichotomy mantissa 0 with hneg | rfl | hpos
  · rw [Int.compare_eq_lt.mpr hneg] at hfinite ⊢
    obtain ⟨size, hsize⟩ := Int.eq_ofNat_of_zero_le (by omega : 0 ≤ -mantissa)
    refine (roundsWhole_round .negative (by omega) ?_).isWhole hfinite
    have hcast : (((-mantissa).toNat : Nat) : Rat) = -mantissa := by
      rw [← Int.cast_neg, hsize, Int.toNat_natCast, Int.cast_natCast]
    rw [hcast, neg_mul]
    exact hwhole.neg
  · exact ⟨0, number_pack_zero sign⟩
  · rw [Int.compare_eq_gt.mpr hpos] at hfinite ⊢
    obtain ⟨size, rfl⟩ := Int.eq_ofNat_of_zero_le hpos.le
    exact (roundsWhole_round .positive (by omega) hwhole).isWhole hfinite

/-! ## Sums -/

theorem add_eq (x y : Float) :
    x + y = ⟨pack (UnpackedFloat.add .binary64 x.toModel.unpack y.toModel.unpack)⟩ := rfl

/-- A finite sum has finite summands. -/
theorem isFinite_of_isFinite_add {spec : Format} {u v : UnpackedFloat}
    (h : (UnpackedFloat.add spec u v).isFinite = true) :
    u.isFinite = true ∧ v.isFinite = true := by
  cases u with
  | notANumber => cases h
  | infinity sign =>
    cases v with
    | infinity sign' =>
      rw [UnpackedFloat.add] at h
      split at h
      · cases h
      · cases h
    | notANumber => cases h
    | zero sign' => cases h
    | finite sign' mantissa exponent hpos => cases h
  | zero sign =>
    cases v with
    | notANumber => cases h
    | infinity sign' => cases h
    | zero sign' => exact ⟨rfl, rfl⟩
    | finite sign' mantissa exponent hpos => exact ⟨rfl, rfl⟩
  | finite sign mantissa exponent hpos =>
    cases v with
    | notANumber => cases h
    | infinity sign' => cases h
    | zero sign' => exact ⟨rfl, rfl⟩
    | finite sign' mantissa' exponent' hpos' => exact ⟨rfl, rfl⟩

/-- A sum is finite only when both summands are. -/
theorem isFinite_of_add {x y : Float} (h : (x + y).isFinite = true) :
    x.isFinite = true ∧ y.isFinite = true :=
  isFinite_of_isFinite_add (isFinite_of_pack h)

/-- Before two significands are added they are shifted to the smaller exponent. -/
theorem apply_shiftLeft (sign : Sign) (mantissa : Nat) {exponent least : Int}
    (h : least ≤ exponent) :
    (sign.apply (mantissa <<< (exponent - least).toNat : Nat) : Rat) * 2 ^ least =
      sign.apply mantissa * 2 ^ exponent := by
  have hshift := number_shiftLeft mantissa (exponent - least).toNat exponent
  rw [Int.toNat_of_nonneg (by omega), sub_sub_cancel] at hshift
  cases sign with
  | positive => exact hshift
  | negative =>
    rw [Sign.apply, Sign.apply, Int.cast_neg, Int.cast_neg, neg_mul, neg_mul]
    exact congrArg Neg.neg hshift

/-- A sum of whole numbers is whole, whatever it is rounded to. -/
theorem isWhole_add {x y : Float} (h : (x + y).isFinite = true) (hx : IsWhole (number x))
    (hy : IsWhole (number y)) : IsWhole (number (x + y)) := by
  obtain ⟨hfinite, hfinite'⟩ := isFinite_of_add h
  rw [add_eq] at h ⊢
  obtain ⟨-, hu⟩ | ⟨hpos, hu⟩ := unpack_cases (isFinite_iff.mp hfinite)
  · obtain ⟨-, hv⟩ | ⟨hpos', hv⟩ := unpack_cases (isFinite_iff.mp hfinite')
    · rw [hu, hv, UnpackedFloat.add]
      split
      · exact ⟨0, number_pack_zero _⟩
      · exact ⟨0, number_pack_zero _⟩
    · -- a summand that is zero leaves the other as it is
      rw [hu, hv, UnpackedFloat.add] at h ⊢
      · rwa [number_pack_finite (isCanonical_fields y) h]
      all_goals simp
  · obtain ⟨-, hv⟩ | ⟨hpos', hv⟩ := unpack_cases (isFinite_iff.mp hfinite')
    · rw [hu, hv, UnpackedFloat.add] at h ⊢
      · rwa [number_pack_finite (isCanonical_fields x) h]
      all_goals simp
    · rw [hu, hv, UnpackedFloat.add] at h ⊢
      dsimp only [decreaseExponent] at h ⊢
      refine isWhole_pack_normalize ?_ h
      -- the exact sum is rounded, and the exact sum is whole
      have hx' := apply_shiftLeft (signOf x) (significand x)
        (min_le_left (exponent x) (exponent y))
      have hy' := apply_shiftLeft (signOf y) (significand y)
        (min_le_right (exponent x) (exponent y))
      rw [Int.cast_add, add_mul, hx', hy']
      exact hx.add hy

end TmuxLayout.Binary64

import TmuxLayout.Proofs.Number.Whole

/-!
# Integers next to a double

The largest integer that is not larger than a finite double is again a double, since it
has no more bits. It is written with a shift of the significand and read back by its
bits. To drop the fraction of a whole number changes nothing.

- `number_neg`: a double with the other sign.
- `number_ofBits`, `number_ofInt`: small integers are doubles.
- `number_floor`: the floor of a finite double is finite, and the floor of its number.
- `truncate_of_number_eq`: the integer that a whole double is.
-/

namespace TmuxLayout.Binary64

open Float.Model Float.Model.UnpackedFloat

/-! ## Integers as doubles -/

/-- The negative of a finite double is finite and the negative number. -/
theorem number_neg {x : Float} (h : x.isFinite = true) :
    (-x).isFinite = true ∧ number (-x) = -number x := by
  have hneg : -x = ⟨pack x.toModel.unpack.neg⟩ := rfl
  obtain ⟨hzero, hunpack⟩ | ⟨hpos, hunpack⟩ := unpack_cases (isFinite_iff.mp h)
  · rw [hneg, hunpack, UnpackedFloat.neg, number_pack_zero, number_of_significand hzero]
    exact ⟨(fields_pack_zero _).2, neg_zero.symm⟩
  · have hle := exponent_le_of_isFinite h
    obtain ⟨hsignificand, hexponent, hsign⟩ :=
      fields_pack_finite (-signOf x) hpos (isCanonical_fields x) hle
    rw [hneg, hunpack, UnpackedFloat.neg]
    refine ⟨isFinite_of_exponent_le (by rwa [hexponent]), ?_⟩
    rw [number, hsignificand, hexponent, hsign, number]
    cases signOf x with
    | negative =>
      show ((significand x : Int) : Rat) * _ = -(((-(significand x : Int) : Int) : Rat) * _)
      rw [Int.cast_neg, neg_mul, neg_neg]
    | positive =>
      show ((-(significand x : Int) : Int) : Rat) * _ = -(((significand x : Int) : Rat) * _)
      rw [Int.cast_neg, neg_mul]

theorem toBits_ofBits (bits : UInt64) (h : bits.toNat < 0x7FF0000000000000) :
    (Float.ofBits bits).toBits = bits := by
  show (⟨UnpackedFloat.pack .binary64 (UnpackedFloat.unpack .binary64 bits.toBitVec)⟩ : UInt64) =
    bits
  rw [UnpackedFloat.pack_unpack_of_valid ⟨fun hfield => ?_⟩]
  have htoNat := congrArg BitVec.toNat hfield
  rw [unpackExponent_def, BitVec.extractLsb'_toNat] at htoNat
  have hmax : bits.toNat >>> 52 % 2 ^ 11 = 2047 := htoNat
  rw [Nat.shiftRight_eq_div_pow] at hmax
  omega

/-- Bits that are put together from an exponent and a significand. The highest bit of the
significand is carried into the exponent, which is one too small. -/
theorem number_ofBits (biased : Nat) {mantissa : Nat} (hbiased : biased < 2046)
    (hfull : 2 ^ 52 ≤ mantissa) (hlt : mantissa < 2 ^ 53) :
    (Float.ofBits (biased <<< 52 + mantissa).toUInt64).isFinite = true ∧
      number (Float.ofBits (biased <<< 52 + mantissa).toUInt64) =
        mantissa * 2 ^ ((biased : Int) - 1074) := by
  have hbits : (biased <<< 52 + mantissa).toUInt64.toNat = biased * 2 ^ 52 + mantissa := by
    rw [Nat.toUInt64_eq, UInt64.toNat_ofNat', Nat.shiftLeft_eq]
    omega
  have htoBits := toBits_ofBits (biased <<< 52 + mantissa).toUInt64 (by omega)
  generalize Float.ofBits (biased <<< 52 + mantissa).toUInt64 = x at htoBits ⊢
  -- the highest bit of the significand has gone into the exponent
  have hexponent : exponentField x = biased + 1 := by
    rw [exponentField, htoBits, hbits, Nat.shiftRight_eq_div_pow]
    omega
  have hfraction : fractionField x = mantissa - 2 ^ 52 := by
    rw [fractionField, htoBits, hbits]
    show _ % 2 ^ 52 = _
    omega
  have hsign : signOf x = .positive := by
    rw [signOf, isNegative, htoBits, hbits, Nat.shiftRight_eq_div_pow]
    exact if_neg (by simp; omega)
  have hsignificand : significand x = mantissa := by
    rw [significand, hexponent, hfraction, if_neg (Nat.succ_ne_zero _)]
    show _ + 2 ^ 52 = _
    omega
  refine ⟨isFinite_iff.mpr (by omega), ?_⟩
  rw [number, hsign, hsignificand, exponent, hexponent]
  show (mantissa : Rat) * _ = _
  congr 2
  omega

theorem nearest_one (n : Nat) : nearest n 1 = n := by
  simp [nearest, Nat.mod_one]

theorem scale_one {n : Nat} (hpos : 0 < n) (hlog : n.log2 ≤ 52) :
    scale n 1 = n.log2 - 52 := by
  have hbelow : ¬n < 1 <<< n.log2 := by
    rw [Nat.one_shiftLeft]
    exact Nat.not_lt.mpr (Nat.log2_self_le hpos.ne')
  have hone : Nat.log2 1 = 0 := rfl
  rw [scale, hone]
  simp [hbelow]
  omega

/-- A significand with all of its bits can be packed. -/
theorem shiftLeft_full {n : Nat} (hpos : 0 < n) (hlog : n.log2 ≤ 52) :
    2 ^ 52 ≤ n <<< (52 - n.log2) ∧ n <<< (52 - n.log2) < 2 ^ 53 := by
  rw [← Nat.log2_eq_iff (shiftLeft_pos hpos _).ne', log2_shiftLeft hpos]
  omega

theorem ofRatio_one {n : Nat} (hpos : 0 < n) (hlog : n.log2 ≤ 52) :
    ofRatio n 1 = Float.ofBits ((n.log2 + 1022) <<< 52 + n <<< (52 - n.log2)).toUInt64 := by
  have hscale := scale_one hpos hlog
  obtain ⟨-, hlt⟩ := shiftLeft_full hpos hlog
  have hsignificand : (if scale n 1 ≥ 0 then nearest n (1 <<< (scale n 1).toNat)
      else nearest (n <<< (-scale n 1).toNat) 1) = n <<< (52 - n.log2) := by
    split
    · have hlog' : n.log2 = 52 := by omega
      rw [hscale, hlog']
      exact nearest_one n
    · rw [nearest_one, hscale]
      congr 1
      omega
  have hbiased : (scale n 1 + 1074).toNat = n.log2 + 1022 := by omega
  rw [ofRatio, if_neg (by simp [hpos.ne'])]
  dsimp only
  rw [hsignificand, hbiased, if_neg]
  rw [Nat.shiftLeft_eq]
  omega

/-- A natural number of fifty-three bits at most is a double: it is shifted to the left
until it has as many. -/
theorem number_ofRatio_one {n : Nat} (hlt : n < 2 ^ 53) :
    (ofRatio n 1).isFinite = true ∧ number (ofRatio n 1) = n := by
  rcases Nat.eq_zero_or_pos n with rfl | hpos
  · exact ⟨by decide, by decide +kernel⟩
  have hlog : n.log2 ≤ 52 := Nat.le_of_lt_succ ((Nat.log2_lt hpos.ne').mpr hlt)
  obtain ⟨hfull, hlt'⟩ := shiftLeft_full hpos hlog
  obtain ⟨hfinite, hnumber⟩ := number_ofBits (n.log2 + 1022) (by omega) hfull hlt'
  rw [ofRatio_one hpos hlog]
  refine ⟨hfinite, hnumber.trans ?_⟩
  have hexponent : ((n.log2 + 1022 : Nat) : Int) - 1074 = 0 - ((52 - n.log2 : Nat) : Int) := by
    omega
  rw [hexponent, number_shiftLeft, zpow_zero, mul_one]

/-- Integers below `2 ^ 53` are doubles. -/
theorem number_ofInt {n : Int} (h : n.natAbs < 2 ^ 53) :
    (ofInt n).isFinite = true ∧ number (ofInt n) = n := by
  obtain ⟨hfinite, hnumber⟩ := number_ofRatio_one h
  rw [ofInt]
  split
  · next hneg =>
    obtain ⟨hfinite', hnumber'⟩ := number_neg hfinite
    refine ⟨hfinite', hnumber'.trans ?_⟩
    rw [hnumber, Nat.cast_natAbs, abs_of_neg hneg, Int.cast_neg, neg_neg]
  · next hnonneg =>
    refine ⟨hfinite, hnumber.trans ?_⟩
    rw [Nat.cast_natAbs, abs_of_nonneg (by omega)]

/-! ## Floor -/

/-- A double without bits behind the point is whole. -/
theorem isWhole_of_exponent {x : Float} (h : exponent x ≥ 0 ∨ significand x = 0) :
    IsWhole (number x) := by
  rcases h with hexponent | hzero
  · exact isWhole_mul_two_pow hexponent
  · exact ⟨0, number_of_significand hzero⟩

/-- Below the point, the floor is what is left of the significand when its fraction is
shifted out. -/
theorem floor_number {x : Float} (h : exponent x ≤ 0) :
    ⌊number x⌋ = (signOf x).apply (significand x) >>> (-exponent x).toNat := by
  obtain ⟨k, hk⟩ : ∃ k : Nat, exponent x = -(k : Int) := ⟨(-exponent x).toNat, by omega⟩
  rw [number, hk, zpow_neg, zpow_natCast, ← div_eq_mul_inv, neg_neg, Int.toNat_natCast,
    Int.shiftRight_eq_div_pow]
  exact_mod_cast Rat.floor_intCast_div_natCast ((signOf x).apply (significand x)) (2 ^ k)

theorem natAbs_shiftRight_lt {n : Int} {bound : Nat} (h : n.natAbs < bound) (k : Nat) :
    (n >>> k).natAbs < bound := by
  rw [Int.shiftRight_eq_div_pow]
  exact (Int.natAbs_ediv_le_natAbs _ _).trans_lt h

/-- The floor of a double is the largest integer that is not larger than its number. -/
theorem number_floor {x : Float} (h : x.isFinite = true) :
    (floor x).isFinite = true ∧ number (floor x) = ⌊number x⌋ := by
  have hlt := (isCanonical_fields x).lt
  rw [floor]
  split
  · next hwhole =>
    obtain ⟨n, hn⟩ := isWhole_of_exponent hwhole
    exact ⟨h, by rw [hn, Int.floor_intCast]⟩
  · next hpoint =>
    rw [floor_number (by omega), signOf]
    split
    · exact number_ofInt (natAbs_shiftRight_lt (by omega) _)
    · rw [Int.natCast_shiftRight]
      exact number_ofInt (natAbs_shiftRight_lt (by omega) _)

/-- The floor is finite only of finite doubles. -/
theorem isFinite_of_floor {x : Float} (h : (floor x).isFinite = true) : x.isFinite = true := by
  rw [floor] at h
  split at h
  · exact h
  · exact isFinite_of_exponent_le (by omega)

/-! ## Truncation -/

/-- Nothing is lost of a whole number when its fraction is dropped. -/
theorem truncate_of_number_eq {x : Float} {n : Int} (h : number x = n) : truncate x = n := by
  have hwhole : IsWhole (significand x * 2 ^ exponent x) := isWhole_apply_iff.mp ⟨n, h⟩
  obtain ⟨magnitude, hmagnitude⟩ : ∃ magnitude, (if exponent x ≥ 0
      then significand x <<< (exponent x).toNat
      else significand x >>> (-exponent x).toNat) = magnitude := ⟨_, rfl⟩
  have hsize : (magnitude : Rat) = significand x * 2 ^ exponent x := by
    rw [← hmagnitude]
    split
    · next hle =>
      have hshift := number_shiftLeft (significand x) (exponent x).toNat (exponent x)
      rwa [Int.toNat_of_nonneg hle, sub_self, zpow_zero, mul_one] at hshift
    · next hlt =>
      have hpoint : exponent x + ((-exponent x).toNat : Int) = 0 := by omega
      have hdiv := number_div_two_pow (dvd_of_isWhole hwhole hpoint.le) (exponent x)
      rwa [hpoint, zpow_zero, mul_one, ← Nat.shiftRight_eq_div_pow] at hdiv
  have hcast : ((if isNegative x then -(magnitude : Int) else magnitude : Int) : Rat) = n := by
    rw [← h, number, signOf]
    split
    · rw [Sign.apply, Int.cast_neg, Int.cast_neg, neg_mul]
      exact congrArg Neg.neg hsize
    · exact hsize
  rw [truncate, hmagnitude]
  exact_mod_cast hcast

end TmuxLayout.Binary64

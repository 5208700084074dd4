import Mathlib
import TmuxLayout.Number.Binary64

/-!
# Doubles as numbers

A finite double is a rational number: its significand times a power of two, with its
sign. The arithmetic of doubles takes them apart, works on the parts exactly, rounds,
and packs the result into bits again. Here the parts are shown to be those that are
read off the bits, and packing to keep them.

- `number`: the rational number that a finite double is.
- `unpack_cases`: a finite double comes apart into its sign, significand and exponent.
- `isFinite_iff`: the doubles that are finite.
- `IsCanonical`: significands and exponents that a double can hold.
- `fields_pack_finite`, `number_pack_finite`: packing keeps what a double can hold.
-/

namespace TmuxLayout.Binary64

open Float.Model Float.Model.UnpackedFloat

/-! ## Numbers -/

/-- The sign of a double. -/
def signOf (x : Float) : Sign :=
  if isNegative x then .negative else .positive

/-- The rational number that a finite double is. -/
def number (x : Float) : Rat :=
  (signOf x).apply (significand x) * 2 ^ exponent x

theorem number_of_significand {x : Float} (h : significand x = 0) : number x = 0 := by
  rw [number, h]
  cases signOf x with
  | negative => simp [Sign.apply]
  | positive => simp [Sign.apply]

/-! ## Unpacking -/

theorem exponentField_lt (x : Float) : exponentField x < 2048 :=
  Nat.mod_lt _ (by decide)

theorem fractionField_lt (x : Float) : fractionField x < 2 ^ 52 :=
  Nat.mod_lt _ (by decide)

theorem toNat_unpackExponent (x : Float) :
    (@unpackExponent .binary64 x.toBits.toBitVec).toNat = exponentField x := by
  rw [unpackExponent_def, BitVec.extractLsb'_toNat]
  rfl

theorem toNat_unpackMantissa (x : Float) :
    (@unpackMantissa .binary64 x.toBits.toBitVec).toNat = fractionField x := by
  rw [unpackMantissa_def, BitVec.extractLsb'_toNat]
  rfl

theorem ofBitVec_unpackSign (x : Float) :
    Sign.ofBitVec (@unpackSign .binary64 x.toBits.toBitVec) = signOf x := by
  have hlt : x.toBits.toNat >>> 63 < 2 := by
    have hbits := x.toBits.toNat_lt
    rw [Nat.shiftRight_eq_div_pow]
    omega
  have hbit : (@unpackSign .binary64 x.toBits.toBitVec).toNat = x.toBits.toNat >>> 63 := by
    rw [unpackSign_def, BitVec.extractLsb'_toNat]
    exact Nat.mod_eq_of_lt hlt
  rw [Sign.ofBitVec, signOf, isNegative]
  by_cases hzero : x.toBits.toNat >>> 63 = 0
  · have hsign : @unpackSign .binary64 x.toBits.toBitVec = 0#1 :=
      BitVec.eq_of_toNat_eq (hbit.trans hzero)
    rw [if_pos hsign, if_neg (by simp [hzero])]
  · have hone : x.toBits.toNat >>> 63 = 1 := by omega
    rw [if_neg, if_pos (by simp [hone])]
    intro h
    rw [h] at hbit
    exact hzero hbit.symm

/-- A bit that is not written stands above the fraction. -/
theorem toNat_implicit (fraction : BitVec 52) :
    (1#1 ++ fraction).toNat = fraction.toNat + 2 ^ 52 := by
  rw [BitVec.toNat_append, ← Nat.shiftLeft_add_eq_or_of_lt fraction.isLt, Nat.add_comm]
  rfl

theorem unpackExponent_eq_iff {x : Float} {field : BitVec 11} :
    @unpackExponent .binary64 x.toBits.toBitVec = field ↔ exponentField x = field.toNat := by
  rw [← toNat_unpackExponent]
  exact BitVec.toNat_inj.symm

theorem unpackMantissa_eq_zero_iff {x : Float} :
    @unpackMantissa .binary64 x.toBits.toBitVec = 0#52 ↔ fractionField x = 0 := by
  rw [← toNat_unpackMantissa]
  exact BitVec.toNat_inj.symm

/-- With the least exponent, the fraction is all there is. -/
theorem unpack_least {x : Float} (h : exponentField x = 0) :
    (significand x = 0 ∧ x.toModel.unpack = .zero (signOf x)) ∨
      ∃ hpos, x.toModel.unpack = .finite (signOf x) (significand x) (exponent x) hpos := by
  have hsignificand : significand x = fractionField x := by
    rw [significand, if_pos h]
  have hexponent : exponent x = -1074 := by
    rw [exponent, h]
    rfl
  show _ ∧ UnpackedFloat.unpack .binary64 x.toBits.toBitVec = _ ∨
    ∃ _, UnpackedFloat.unpack .binary64 x.toBits.toBitVec = _
  rw [UnpackedFloat.unpack]
  dsimp only
  rw [ofBitVec_unpackSign, if_neg (by rw [unpackExponent_eq_iff, h]; decide),
    if_pos (unpackExponent_eq_iff.mpr h)]
  by_cases hzero : fractionField x = 0
  · left
    rw [dif_pos (unpackMantissa_eq_zero_iff.mpr hzero), hsignificand]
    exact ⟨hzero, rfl⟩
  · right
    rw [dif_neg (mt unpackMantissa_eq_zero_iff.mp hzero)]
    simp only [hsignificand, hexponent, toNat_unpackExponent, h, toNat_unpackMantissa]
    exact ⟨Nat.pos_of_ne_zero hzero, rfl⟩

/-- A double whose exponent field is neither empty nor full is its fields. -/
theorem unpack_normal {x : Float} (hleast : exponentField x ≠ 0) (hmax : exponentField x ≠ 2047) :
    ∃ hpos, x.toModel.unpack = .finite (signOf x) (significand x) (exponent x) hpos := by
  have hsignificand : significand x = fractionField x + 2 ^ 52 := by
    rw [significand, if_neg hleast]
    rfl
  have hexponent : exponent x = (exponentField x : Int) - 1075 := by
    rw [exponent]
    omega
  show ∃ _, UnpackedFloat.unpack .binary64 x.toBits.toBitVec = _
  rw [UnpackedFloat.unpack]
  dsimp only
  rw [ofBitVec_unpackSign, if_neg (mt unpackExponent_eq_iff.mp hmax),
    if_neg (mt unpackExponent_eq_iff.mp hleast)]
  simp only [hsignificand, hexponent, toNat_implicit, toNat_unpackExponent, toNat_unpackMantissa]
  exact ⟨by omega, rfl⟩

/-- What has not the greatest exponent comes apart into the fields that are read off
the bits. -/
theorem unpack_cases {x : Float} (h : exponentField x ≠ 2047) :
    (significand x = 0 ∧ x.toModel.unpack = .zero (signOf x)) ∨
      ∃ hpos, x.toModel.unpack = .finite (signOf x) (significand x) (exponent x) hpos := by
  by_cases hleast : exponentField x = 0
  · exact unpack_least hleast
  · exact .inr (unpack_normal hleast h)

/-- A double is finite when its exponent field is not full. -/
theorem isFinite_iff {x : Float} : x.isFinite = true ↔ exponentField x ≠ 2047 := by
  show x.toModel.unpack.isFinite = true ↔ _
  constructor
  · intro hfinite hmax
    have hunpack : x.toModel.unpack = UnpackedFloat.unpack .binary64 x.toBits.toBitVec := rfl
    rw [hunpack, UnpackedFloat.unpack] at hfinite
    dsimp only at hfinite
    rw [if_pos (unpackExponent_eq_iff.mpr hmax)] at hfinite
    split at hfinite
    · cases hfinite
    · cases hfinite
  · intro hmax
    obtain ⟨-, hunpack⟩ | ⟨hpos, hunpack⟩ := unpack_cases hmax
    · rw [hunpack]
      rfl
    · rw [hunpack]
      rfl

theorem isFinite_of_exponent_le {x : Float} (h : exponent x ≤ 971) : x.isFinite = true := by
  rw [exponent] at h
  exact isFinite_iff.mpr (by omega)

/-- Finite doubles have exponents up to 971. -/
theorem exponent_le_of_isFinite {x : Float} (h : x.isFinite = true) : exponent x ≤ 971 := by
  have hlt := exponentField_lt x
  have hne := isFinite_iff.mp h
  rw [exponent]
  omega

/-- What is finite is a number, and not infinite. -/
theorem isNaN_of_isFinite {x : Float} (h : x.isFinite = true) :
    x.isNaN = false ∧ x.isInf = false := by
  show x.toModel.unpack.isNaN = false ∧ x.toModel.unpack.isInf = false
  obtain ⟨-, hunpack⟩ | ⟨hpos, hunpack⟩ := unpack_cases (isFinite_iff.mp h)
  · rw [hunpack]
    exact ⟨rfl, rfl⟩
  · rw [hunpack]
    exact ⟨rfl, rfl⟩

/-! ## What a double can hold -/

/-- A significand and an exponent that a double can hold, if the exponent is not too
large. The highest bit of the significand is set, unless the exponent is the least. -/
structure IsCanonical (mantissa : Nat) (exponent : Int) : Prop where
  lt : mantissa < 2 ^ 53
  least_le : -1074 ≤ exponent
  full : 2 ^ 52 ≤ mantissa ∨ exponent = -1074

/-- The fields of a double are a mantissa and an exponent in the form that doubles have. -/
theorem isCanonical_fields (x : Float) : IsCanonical (significand x) (exponent x) := by
  have hlt := fractionField_lt x
  rw [significand, exponent]
  split
  · next hleast =>
    rw [hleast]
    exact ⟨by omega, by decide, .inr rfl⟩
  · next hfield =>
    have hpower : 1 <<< 52 = 2 ^ 52 := rfl
    rw [hpower]
    exact ⟨by omega, by omega, .inl (by omega)⟩

/-! ## Packing -/

/-- The fields of what was packed from components. -/
theorem fields_of_pack {sign : Sign} {field : BitVec 11} {fraction : BitVec 52}
    {u : UnpackedFloat} (h : u.pack .binary64 = packComponents .binary64 sign field fraction) :
    exponentField ⟨pack u⟩ = field.toNat ∧ fractionField ⟨pack u⟩ = fraction.toNat ∧
      signOf ⟨pack u⟩ = sign := by
  refine ⟨?_, ?_, ?_⟩
  · rw [← toNat_unpackExponent]
    show (@unpackExponent .binary64 (u.pack .binary64)).toNat = _
    rw [h, unpackExponent_packComponents]
  · rw [← toNat_unpackMantissa]
    show (@unpackMantissa .binary64 (u.pack .binary64)).toNat = _
    rw [h, unpackMantissa_packComponents]
  · rw [← ofBitVec_unpackSign]
    show Sign.ofBitVec (@unpackSign .binary64 (u.pack .binary64)) = _
    rw [h, unpackSign_packComponents, Sign.ofBitVec_toBitVec]

theorem fields_pack_zero (sign : Sign) :
    significand ⟨pack (.zero sign)⟩ = 0 ∧ Float.isFinite ⟨pack (.zero sign)⟩ = true := by
  obtain ⟨hfield, hfraction, -⟩ := @fields_of_pack sign 0#11 0#52 (.zero sign) rfl
  refine ⟨?_, isFinite_iff.mpr ?_⟩
  · rw [significand, hfield, hfraction]
    rfl
  · rw [hfield]
    decide

theorem toNat_biased (exponent : Int) :
    (exponent + (Format.binary64.exponentBias : Int) +
      (Format.binary64.mantissaBitsWithoutImplicit : Int)).toNat = (exponent + 1075).toNat := by
  congr 1
  show exponent + 1023 + 52 = _
  ring

/-- A significand with all of its bits is packed without the highest one. -/
theorem pack_full (sign : Sign) {mantissa : Nat} {exponent : Int} (hpos : 0 < mantissa)
    (hfull : 2 ^ 52 ≤ mantissa) (hlt : mantissa < 2 ^ 53) (hle : exponent ≤ 971) :
    UnpackedFloat.pack .binary64 (.finite sign mantissa exponent hpos) =
      packComponents .binary64 sign (.ofNat 11 (exponent + 1075).toNat) (.ofNat 52 mantissa) := by
  have hlog : mantissa.log2 = 52 := (Nat.log2_eq_iff hpos.ne').mpr ⟨hfull, hlt⟩
  rw [UnpackedFloat.pack]
  dsimp only
  rw [toNat_biased, if_neg (by show ¬2 ^ 11 ≤ _; omega), if_pos (by rw [hlog]; rfl)]

/-- One with fewer bits is packed as it is. -/
theorem pack_least (sign : Sign) {mantissa : Nat} {exponent : Int} (hpos : 0 < mantissa)
    (hlt : mantissa < 2 ^ 52) (hle : exponent ≤ 971) :
    UnpackedFloat.pack .binary64 (.finite sign mantissa exponent hpos) =
      packComponents .binary64 sign 0#11 (.ofNat 52 mantissa) := by
  have hlog : mantissa.log2 < 52 := (Nat.log2_lt hpos.ne').mpr hlt
  rw [UnpackedFloat.pack]
  dsimp only
  rw [toNat_biased, if_neg (by show ¬2 ^ 11 ≤ _; omega), if_neg (by show ¬_ = 53; omega)]

/-- Packing keeps what a double can hold. -/
theorem fields_pack_finite (sign : Sign) {mantissa : Nat} {exponent : Int} (hpos : 0 < mantissa)
    (h : IsCanonical mantissa exponent) (hle : exponent ≤ 971) :
    significand ⟨pack (.finite sign mantissa exponent hpos)⟩ = mantissa ∧
      Binary64.exponent ⟨pack (.finite sign mantissa exponent hpos)⟩ = exponent ∧
      signOf ⟨pack (.finite sign mantissa exponent hpos)⟩ = sign := by
  have hbelow := h.least_le
  have hlt := h.lt
  by_cases hfull : 2 ^ 52 ≤ mantissa
  · obtain ⟨hfield, hfraction, hsign⟩ := fields_of_pack (pack_full sign hpos hfull hlt hle)
    rw [BitVec.toNat_ofNat] at hfield hfraction
    refine ⟨?_, ?_, hsign⟩
    · rw [significand, hfield, hfraction, if_neg (by omega)]
      show _ + 2 ^ 52 = _
      omega
    · rw [Binary64.exponent, hfield]
      omega
  · obtain ⟨hfield, hfraction, hsign⟩ := fields_of_pack (pack_least sign hpos (by omega) hle)
    rw [BitVec.toNat_ofNat] at hfield hfraction
    refine ⟨?_, ?_, hsign⟩
    · rw [significand, hfield, hfraction, if_pos rfl]
      omega
    · rw [Binary64.exponent, hfield]
      exact (h.full.resolve_left hfull).symm

/-- A double that is packed with a full exponent field is not finite. -/
theorem not_isFinite_of_pack {sign : Sign} {fraction : BitVec 52} {u : UnpackedFloat}
    (h : u.pack .binary64 = packComponents .binary64 sign (-1#11) fraction) :
    ¬Float.isFinite ⟨pack u⟩ = true :=
  fun hfinite => isFinite_iff.mp hfinite (fields_of_pack h).1

/-- Only what is finite is packed into a finite double. -/
theorem isFinite_of_pack {u : UnpackedFloat} (h : Float.isFinite ⟨pack u⟩ = true) :
    u.isFinite = true := by
  cases u with
  | notANumber => exact absurd h (not_isFinite_of_pack rfl)
  | infinity sign => exact absurd h (not_isFinite_of_pack rfl)
  | zero sign => rfl
  | finite sign mantissa exponent hpos => rfl

/-- Too large an exponent makes the double infinite. -/
theorem exponent_le_of_pack {sign : Sign} {mantissa : Nat} {exponent : Int} {hpos : 0 < mantissa}
    (h : Float.isFinite ⟨pack (.finite sign mantissa exponent hpos)⟩ = true) :
    exponent ≤ 971 := by
  by_contra hlt
  have hpack : UnpackedFloat.pack .binary64 (.finite sign mantissa exponent hpos) =
      packedInfinity .binary64 sign := by
    rw [UnpackedFloat.pack]
    exact if_pos (by show 2 ^ 11 ≤ (exponent + 1023 + 52).toNat + 1; omega)
  exact not_isFinite_of_pack hpack h

theorem number_pack_zero (sign : Sign) : number ⟨pack (.zero sign)⟩ = 0 :=
  number_of_significand (fields_pack_zero sign).1

/-- Packing loses nothing of a finite double in the form of doubles. -/
theorem number_pack_finite {sign : Sign} {mantissa : Nat} {exponent : Int} {hpos : 0 < mantissa}
    (h : IsCanonical mantissa exponent)
    (hfinite : Float.isFinite ⟨pack (.finite sign mantissa exponent hpos)⟩ = true) :
    number ⟨pack (.finite sign mantissa exponent hpos)⟩ = sign.apply mantissa * 2 ^ exponent := by
  obtain ⟨hsignificand, hexponent, hsign⟩ :=
    fields_pack_finite sign hpos h (exponent_le_of_pack hfinite)
  rw [number, hsignificand, hexponent, hsign]

end TmuxLayout.Binary64

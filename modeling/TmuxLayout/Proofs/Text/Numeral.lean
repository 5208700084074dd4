/-!
# Written numbers

The text of a natural number is a row of decimal digits, and they give the number
back.

- `isDigit_of_mem_toString`, `toList_toString_ne_nil`: what a written number is made of.
- `numberOf?`: the number that decimal digits write; `numberOf?_toString` reads back
  what was written.
-/

namespace TmuxLayout.Text

/-- A numeral is made of digits alone. -/
theorem isDigit_of_mem_toString {number : Nat} {c : Char} (h : c ∈ (toString number).toList) :
    c.isDigit = true := by
  rw [Nat.toString_eq_repr, Nat.toList_repr] at h
  exact Nat.isDigit_of_mem_toDigits (by decide) (by decide) h

/-- A numeral has a digit. -/
theorem toList_toString_ne_nil (number : Nat) : (toString number).toList ≠ [] := by
  rw [Nat.toString_eq_repr, Nat.toList_repr]
  exact Nat.toDigits_ne_nil

/-- The digits of a number in decimal, read again, are the number. -/
theorem ofDigitChars_toString (number : Nat) :
    Nat.ofDigitChars 10 (toString number).toList 0 = number := by
  rw [Nat.toString_eq_repr, Nat.toList_repr]
  exact Nat.ofDigitChars_ten_toDigits

/-- The number that decimal digits write. -/
def numberOf? (digits : List Char) : Option Nat :=
  if digits ≠ [] ∧ digits.all Char.isDigit then some (Nat.ofDigitChars 10 digits 0) else none

/-- A numeral is read as the number that it was written for. -/
theorem numberOf?_toString (number : Nat) :
    numberOf? (toString number).toList = some number := by
  have hdigits : (toString number).toList.all Char.isDigit = true :=
    List.all_eq_true.mpr fun _ hc => isDigit_of_mem_toString hc
  rw [numberOf?, if_pos ⟨toList_toString_ne_nil number, hdigits⟩, ofDigitChars_toString]

/-- Two numbers never have the same numeral. -/
theorem toString_inj {number other : Nat} : toString number = toString other ↔ number = other := by
  refine ⟨fun h => ?_, congrArg toString⟩
  have hnumber := numberOf?_toString number
  rw [h, numberOf?_toString, Option.some_inj] at hnumber
  exact hnumber.symm

end TmuxLayout.Text

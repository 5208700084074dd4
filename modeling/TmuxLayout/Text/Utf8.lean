/-!
# UTF-8 octets

Files and the outputs of commands are octets. A reader of files refuses octets
that are not UTF-8; a reader of outputs puts one replacement character in the
place of each maximal part that cannot be continued to a character.

- `Octets`: a list of octets.
- `Octets.ofString`: the octets of a text.
- `Octets.decode?`: the text, when the octets are UTF-8 throughout.
- `Octets.decodeLossy`: the text with replacement characters.
-/

namespace TmuxLayout

/-- A sequence of octets. -/
abbrev Octets := List UInt8

namespace Octets

/-- The octets of a text. -/
def ofString (text : String) : Octets :=
  text.toUTF8.toList

/-- The text, when the octets are UTF-8 throughout. -/
def decode? (octets : Octets) : Option String :=
  String.fromUTF8? ⟨octets.toArray⟩

/-- The character for whatever is not UTF-8. -/
def replacement : Char := '\uFFFD'

/-- How many octets follow a lead octet, and what the first of them may be. -/
def following? (lead : UInt8) : Option (Nat × UInt8 × UInt8) :=
  if lead ≤ 0x7F then some (0, 0x80, 0xBF)
  else if lead < 0xC2 then none
  else if lead ≤ 0xDF then some (1, 0x80, 0xBF)
  else if lead = 0xE0 then some (2, 0xA0, 0xBF)
  else if lead = 0xED then some (2, 0x80, 0x9F)
  else if lead ≤ 0xEF then some (2, 0x80, 0xBF)
  else if lead = 0xF0 then some (3, 0x90, 0xBF)
  else if lead ≤ 0xF3 then some (3, 0x80, 0xBF)
  else if lead = 0xF4 then some (3, 0x80, 0x8F)
  else none

/-- The low bits of a lead octet that has `following` octets behind it. -/
def leadBits (lead : UInt8) (following : Nat) : Nat :=
  match following with
  | 0 => lead.toNat
  | 1 => lead.toNat % 0x20
  | 2 => lead.toNat % 0x10
  | _ => lead.toNat % 0x08

/-- Reads octets one at a time: `owed` more belong to the open character, the
next one within `low` and `high`, and `value` holds its bits so far. An octet
that does not fit closes the open part with a replacement character and is read
again as a lead. -/
def decodeFrom : (owed : Nat) → (low high : UInt8) → (value : Nat) → Octets → List Char
  | 0, _, _, _, [] => []
  | _ + 1, _, _, _, [] => [replacement]
  | owed, low, high, value, octet :: rest =>
    if owed ≠ 0 ∧ low ≤ octet ∧ octet ≤ high then
      let value := value * 0x40 + octet.toNat % 0x40
      if owed = 1 then Char.ofNat value :: decodeFrom 0 0 0 0 rest
      else decodeFrom (owed - 1) 0x80 0xBF value rest
    else
      let closed := if owed = 0 then [] else [replacement]
      match following? octet with
      | none => closed ++ replacement :: decodeFrom 0 0 0 0 rest
      | some (0, _, _) => closed ++ Char.ofNat octet.toNat :: decodeFrom 0 0 0 0 rest
      | some (n + 1, low, high) =>
        closed ++ decodeFrom (n + 1) low high (leadBits octet (n + 1)) rest

/-- The text with one replacement character for each maximal part that is not
UTF-8. -/
def decodeLossy (octets : Octets) : String :=
  String.ofList (decodeFrom 0 0 0 0 octets)

end Octets

end TmuxLayout

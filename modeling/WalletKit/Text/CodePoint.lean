set_option autoImplicit false

namespace WalletKit

/-- A Unicode code point, surrogates included. -/
abbrev CodePoint := Fin 0x110000

/-- A sequence of code points, in which surrogates may stand alone. -/
abbrev Text := List CodePoint

namespace CodePoint

theorem toNat_lt (c : Char) : c.toNat < 0x110000 := by
  have valid := c.valid
  unfold UInt32.isValidChar Nat.isValidChar at valid
  change c.val.toNat < 0x110000
  omega

def ofChar (c : Char) : CodePoint := ⟨c.toNat, toNat_lt c⟩

theorem ofChar_inj {c d : Char} : ofChar c = ofChar d ↔ c = d := by
  constructor
  · intro same
    have sameNumber : (ofChar c).val = (ofChar d).val := by rw [same]
    exact Char.toNat_inj.mp sameNumber
  · exact congrArg ofChar

def isHighSurrogate (n : Nat) : Bool := 0xd800 ≤ n && n ≤ 0xdbff

def isLowSurrogate (n : Nat) : Bool := 0xdc00 ≤ n && n ≤ 0xdfff

/-- The code point that a surrogate pair stands for; ten bits come from each half. -/
def ofPair (high low : Nat) : CodePoint :=
  ⟨0x10000 + (high - 0xd800) % 0x400 * 0x400 + (low - 0xdc00) % 0x400, by omega⟩

end CodePoint

namespace Text

def ofString (s : String) : Text := s.toList.map CodePoint.ofChar

theorem ofString_inj {s t : String} : ofString s = ofString t ↔ s = t := by
  unfold ofString
  rw [List.map_inj_right fun _ _ => CodePoint.ofChar_inj.mp, String.toList_inj]

end Text

end WalletKit

import Calculator.Unicode.Ranges

namespace Calculator

/-- The code points with the Unicode property `White_Space`. -/
def whitespaceRanges : List (Nat × Nat) :=
  [(0x9, 0xd), (0x20, 0x20), (0x85, 0x85), (0xa0, 0xa0), (0x1680, 0x1680), (0x2000, 0x200a),
   (0x2028, 0x2029), (0x202f, 0x202f), (0x205f, 0x205f), (0x3000, 0x3000)]

/-- Whether a character is blank in the sense of the Unicode property `White_Space`. -/
def isWhitespace (c : Char) : Bool := inRanges c.toNat whitespaceRanges

end Calculator

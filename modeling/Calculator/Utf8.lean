namespace Calculator

/-- A character whose first bytes have been read: the bits so far, how many bytes are still owed,
and the range the next one has to lie in. -/
structure OpenChar where
  bits : Nat
  owed : Nat
  low : Nat
  high : Nat
deriving DecidableEq

/-- Reads a byte that starts a character. A byte that no character starts with stands for
nothing, which is a `none` of its own; a longer character is left open. -/
def startChar (b : Nat) : List (Option Char) × Option OpenChar :=
  if b < 0x80 then ([some (Char.ofNat b)], none)
  else if b < 0xC2 then ([none], none)
  else if b < 0xE0 then ([], some ⟨b - 0xC0, 1, 0x80, 0xBF⟩)
  else if b < 0xF0 then
    ([], some ⟨b - 0xE0, 2, if b = 0xE0 then 0xA0 else 0x80, if b = 0xED then 0x9F else 0xBF⟩)
  else if b < 0xF5 then
    ([], some ⟨b - 0xF0, 3, if b = 0xF0 then 0x90 else 0x80, if b = 0xF4 then 0x8F else 0xBF⟩)
  else ([none], none)

/-- Reads one byte. One that cannot go on with the open character ends it as a `none`, the longest
part of a character that was there, and starts anew. -/
def decodeByte (opened : Option OpenChar) (b : Nat) :
    List (Option Char) × Option OpenChar :=
  match opened with
  | none => startChar b
  | some p =>
    if p.low ≤ b ∧ b ≤ p.high then
      let bits := p.bits * 64 + (b - 0x80)
      if p.owed ≤ 1 then ([some (Char.ofNat bits)], none)
      else ([], some ⟨bits, p.owed - 1, 0x80, 0xBF⟩)
    else
      let (chars, next) := startChar b
      (none :: chars, next)

/-- The characters of bytes that follow an open character, with a `none` for each longest part of
a character that is not whole. -/
def decodeFrom (opened : Option OpenChar) : List UInt8 → List (Option Char)
  | [] => if opened.isSome then [none] else []
  | b :: rest =>
    let (chars, next) := decodeByte opened b.toNat
    chars ++ decodeFrom next rest

/-- The text of UTF-8 bytes, where each longest invalid part reads as one replacement
character. -/
def decodeLossy (bytes : List UInt8) : List Char :=
  (decodeFrom none bytes).map (·.getD '\uFFFD')

/-- The text of UTF-8 bytes, if all of them are valid. -/
def decodeStrict (bytes : List UInt8) : Option (List Char) :=
  (decodeFrom none bytes).mapM id

/-- The UTF-8 bytes of a text. -/
def encodeUtf8 (text : String) : List UInt8 :=
  text.toList.flatMap String.utf8EncodeChar

/-- The bytes cut after each newline, given the bytes of the first line read so far in reverse. -/
def linesFrom (line : List UInt8) : List UInt8 → List (List UInt8)
  | [] => if line.isEmpty then [] else [line.reverse]
  | b :: rest =>
    if b = 10 then (b :: line).reverse :: linesFrom [] rest else linesFrom (b :: line) rest

/-- The bytes cut after each newline. Only the last line may lack its newline. -/
def lines (bytes : List UInt8) : List (List UInt8) := linesFrom [] bytes

/-- Cutting into lines loses no byte. -/
theorem linesFrom_flatten (line bytes : List UInt8) :
    (linesFrom line bytes).flatten = line.reverse ++ bytes := by
  induction bytes generalizing line with
  | nil =>
    unfold linesFrom
    split <;> simp_all
  | cons b rest ih =>
    unfold linesFrom
    split <;> simp [ih]

theorem lines_flatten (bytes : List UInt8) : (lines bytes).flatten = bytes :=
  linesFrom_flatten [] bytes

end Calculator

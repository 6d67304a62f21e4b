import Calculator.Unicode.DefaultIgnorable
import Calculator.Unicode.ExtendingMark
import Calculator.Unicode.Unprintable

namespace Calculator

/-- Whether a character would not show by itself between quotes: a mark is drawn onto its
neighbour, and the others are not drawn at all. -/
def isHidden (c : Char) : Bool := isExtendingMark c || isDefaultIgnorable c || isUnprintable c

/-- A character as it stands inside quotes: the quote itself and the backslash behind a backslash,
the usual controls by letter, and what is hidden by number. -/
def escapeChar (quote c : Char) : List Char :=
  if c = '\x00' then ['\\', '0']
  else if c = '\t' then ['\\', 't']
  else if c = '\r' then ['\\', 'r']
  else if c = '\n' then ['\\', 'n']
  else if c = '\\' ∨ c = quote then ['\\', c]
  else if isHidden c then
    ['\\', 'u', '\x7b'] ++ Nat.toDigits 16 c.toNat ++ ['\x7d']
  else [c]

/-- A text between quotes. -/
def quotedWith (quote : Char) (text : List Char) : String :=
  String.ofList (quote :: text.flatMap (escapeChar quote) ++ [quote])

/-- A character between single quotes. -/
def quotedChar (c : Char) : String := quotedWith '\'' [c]

/-- A text between double quotes. -/
def quotedText (text : String) : String := quotedWith '"' text.toList

end Calculator

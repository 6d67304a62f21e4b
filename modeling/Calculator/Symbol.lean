namespace Calculator

/-- The punctuation of a statement. -/
inductive Symbol where
  | leftParen
  | rightParen
  | plus
  | minus
  | star
  | slash
  | percent
  | equal
  | separator
deriving DecidableEq

/-- The symbol that a character writes. The fixed symbols come before the separator, so a
separator chosen among them never shows. -/
def Symbol.ofChar? (separator c : Char) : Option Symbol :=
  match c with
  | '(' => some .leftParen
  | ')' => some .rightParen
  | '+' => some .plus
  | '-' => some .minus
  | '*' => some .star
  | '/' => some .slash
  | '%' => some .percent
  | '=' => some .equal
  | c => if c = separator then some .separator else none

/-- The character that writes a symbol. -/
def Symbol.toChar (separator : Char) : Symbol → Char
  | .leftParen => '('
  | .rightParen => ')'
  | .plus => '+'
  | .minus => '-'
  | .star => '*'
  | .slash => '/'
  | .percent => '%'
  | .equal => '='
  | .separator => separator

/-- The name of a symbol in a token listing. -/
def Symbol.name : Symbol → String
  | .leftParen => "LeftParen"
  | .rightParen => "RightParen"
  | .plus => "Plus"
  | .minus => "Minus"
  | .star => "Star"
  | .slash => "Slash"
  | .percent => "Percent"
  | .equal => "Equal"
  | .separator => "Separator"

theorem Symbol.toChar_of_ofChar? {separator c : Char} {symbol : Symbol}
    (h : Symbol.ofChar? separator c = some symbol) : symbol.toChar separator = c := by
  unfold ofChar? at h
  split at h
  case h_9 =>
    split at h
    next hc => cases Option.some.inj h; exact hc.symm
    next => simp at h
  all_goals cases Option.some.inj h; rfl

end Calculator

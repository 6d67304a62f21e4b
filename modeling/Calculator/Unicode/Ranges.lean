namespace Calculator

/-- Whether `n` lies in one of the closed ranges, which are listed in ascending order and do
not overlap. -/
def inRanges (n : Nat) : List (Nat × Nat) → Bool
  | [] => false
  | (low, high) :: rest => if n < low then false else n ≤ high || inRanges n rest

end Calculator

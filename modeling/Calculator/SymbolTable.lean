import Calculator.Fault
import Calculator.Number.Text

namespace Calculator

/-- A name and what it stands for. -/
structure Variable where
  name : String
  value : Float
deriving DecidableEq

/-- The variables of a session in the order of their declarations. -/
structure SymbolTable where
  entries : List Variable
deriving DecidableEq

namespace SymbolTable

def empty : SymbolTable := ⟨[]⟩

/-- The table that knows `pi` and `e`. -/
def withConstants : SymbolTable := ⟨[⟨"pi", 3.141592653589793⟩, ⟨"e", 2.718281828459045⟩]⟩

def size (table : SymbolTable) : Nat := table.entries.length

/-- What a name stands for, if it is declared. -/
def value? (table : SymbolTable) (name : String) : Option Float :=
  (table.entries.find? (·.name = name)).map Variable.value

def isDeclared (table : SymbolTable) (name : String) : Bool := table.entries.any (·.name = name)

/-- What a name stands for. -/
def lookup (table : SymbolTable) (name : String) : Except Fault Float :=
  match table.value? name with
  | some value => .ok value
  | none => .error (.name .undefinedName name)

/-- Adds a name at the end; a name is declared once. -/
def declare (table : SymbolTable) (name : String) (value : Float) : Except Fault SymbolTable :=
  if table.isDeclared name then .error (.name .declaredTwice name)
  else .ok ⟨table.entries ++ [⟨name, value⟩]⟩

/-- Gives the first variable of a name another value. -/
def assignIn (name : String) (value : Float) : List Variable → Option (List Variable)
  | [] => none
  | first :: rest =>
    if first.name = name then some (⟨name, value⟩ :: rest)
    else (assignIn name value rest).map (first :: ·)

/-- Gives a declared name another value. -/
def assign (table : SymbolTable) (name : String) (value : Float) : Except Fault SymbolTable :=
  match assignIn name value table.entries with
  | some entries => .ok ⟨entries⟩
  | none => .error (.name .undefinedVariable name)

/-- The table in braces, as a log line shows it. -/
def text (table : SymbolTable) : String :=
  let shown := table.entries.map fun v => v.name ++ ": " ++ floatText v.value
  "\x7b" ++ ", ".intercalate shown ++ "\x7d"

end SymbolTable

end Calculator

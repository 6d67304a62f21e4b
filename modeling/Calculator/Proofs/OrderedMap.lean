import Calculator.Proofs.CallRecords
import Calculator.Proofs.MentionedNames
import Mathlib.Logic.Function.Basic

namespace Calculator

/-- A finite map from names to values that remembers the order in which its names came. -/
structure OrderedMap where
  names : List String
  value? : String → Option Float
  distinct : names.Nodup
  bound : ∀ name, (value? name).isSome = true ↔ name ∈ names

namespace OrderedMap

/-- The map with one more name, behind the others. -/
def insert (map : OrderedMap) (name : String) (value : Float) (fresh : name ∉ map.names) :
    OrderedMap where
  names := map.names ++ [name]
  value? := Function.update map.value? name (some value)
  distinct := by
    rw [List.nodup_append]
    refine ⟨map.distinct, by simp, fun other old last new same => ?_⟩
    rw [List.mem_singleton.mp new] at same
    exact fresh (same ▸ old)
  bound other := by
    by_cases same : other = name
    · simp [same]
    · simp [same, map.bound other]

/-- The map with another value for one of its names. -/
def replace (map : OrderedMap) (name : String) (value : Float) (known : name ∈ map.names) :
    OrderedMap where
  names := map.names
  value? := Function.update map.value? name (some value)
  distinct := map.distinct
  bound other := by
    by_cases same : other = name
    · simp [same, known]
    · simp [same, map.bound other]

@[simp] theorem names_insert {map : OrderedMap} {name : String} {value : Float}
    (fresh : name ∉ map.names) : (map.insert name value fresh).names = map.names ++ [name] := rfl

@[simp] theorem value?_insert {map : OrderedMap} {name : String} {value : Float}
    (fresh : name ∉ map.names) :
    (map.insert name value fresh).value? = Function.update map.value? name (some value) := rfl

@[simp] theorem names_replace {map : OrderedMap} {name : String} {value : Float}
    (known : name ∈ map.names) : (map.replace name value known).names = map.names := rfl

@[simp] theorem value?_replace {map : OrderedMap} {name : String} {value : Float}
    (known : name ∈ map.names) :
    (map.replace name value known).value? = Function.update map.value? name (some value) := rfl

theorem value?_eq_none {map : OrderedMap} {name : String} (fresh : name ∉ map.names) :
    map.value? name = none := by
  rw [← Option.not_isSome_iff_eq_none, map.bound]
  exact fresh

end OrderedMap

/-- A call on a table of names. -/
inductive TableCall where
  | declare (name : String) (value : Float)
  | assign (name : String) (value : Float)
  | lookup (name : String)
  | isDeclared (name : String)

/-- What a call on a table of names answers. -/
inductive TableAnswer where
  | value (value : Float)
  | done
  | known (answer : Bool)
  | fault (fault : Fault)

/-- A call and what it answered. -/
abbrev TableRecord := TableCall × TableAnswer

/-- The fault of a call that fails, if it can fail. -/
def TableCall.fault? : TableCall → Option Fault
  | .declare name _ => some (.name .declaredTwice name)
  | .assign name _ => some (.name .undefinedVariable name)
  | .lookup name => some (.name .undefinedName name)
  | .isDeclared _ => none

def SymbolTable.call (table : SymbolTable) : TableCall → TableAnswer × SymbolTable
  | .declare name value =>
    match table.declare name value with
    | .ok declared => (.value value, declared)
    | .error fault => (.fault fault, table)
  | .assign name value =>
    match table.assign name value with
    | .ok assigned => (.done, assigned)
    | .error fault => (.fault fault, table)
  | .lookup name =>
    match table.lookup name with
    | .ok value => (.value value, table)
    | .error fault => (.fault fault, table)
  | .isDeclared name => (.known (table.isDeclared name), table)

/-- What the calls are meant to do: a name is bound once, behind all others; only a bound name can
be given another value; nothing else changes. -/
def OrderedMap.call (map : OrderedMap) : TableCall → TableAnswer × OrderedMap
  | .declare name value =>
    if known : name ∈ map.names then (.fault (.name .declaredTwice name), map)
    else (.value value, map.insert name value known)
  | .assign name value =>
    if known : name ∈ map.names then (.done, map.replace name value known)
    else (.fault (.name .undefinedVariable name), map)
  | .lookup name =>
    match map.value? name with
    | some value => (.value value, map)
    | none => (.fault (.name .undefinedName name), map)
  | .isDeclared name => (.known (decide (name ∈ map.names)), map)

/-- A table with the names of a map in their order, and with the same values. -/
structure SymbolTable.Refines (table : SymbolTable) (map : OrderedMap) : Prop where
  names : table.entries.map Variable.name = map.names
  values : ∀ name, table.value? name = map.value? name

namespace SymbolTable

variable {table : SymbolTable} {map : OrderedMap} {name : String} {value : Float}

theorem value?_declared (fresh : table.value? name = none) (other : String) :
    value? ⟨table.entries ++ [⟨name, value⟩]⟩ other =
      Function.update table.value? name (some value) other := by
  by_cases same : other = name
  · subst same
    rw [value?, Option.map_eq_none_iff] at fresh
    simp [value?, List.find?_append, fresh]
  · simp [value?, List.find?_append, same, Ne.symm same]

theorem assignIn_eq_none {entries : List Variable} :
    assignIn name value entries = none ↔ name ∉ entries.map Variable.name := by
  induction entries with
  | nil => simp [assignIn]
  | cons first rest ih =>
    unfold assignIn
    split
    next same => simp [same]
    next other => simp [ih, Ne.symm other]

/-- Giving a name another value keeps the names, and the values of the other names. -/
theorem assignIn_eq_some {entries assigned : List Variable}
    (h : assignIn name value entries = some assigned) :
    assigned.map Variable.name = entries.map Variable.name ∧
      ∀ other, value? ⟨assigned⟩ other =
        Function.update (value? ⟨entries⟩) name (some value) other := by
  induction entries generalizing assigned with
  | nil => cases h
  | cons first rest ih =>
    unfold assignIn at h
    split at h
    next here =>
      cases h
      refine ⟨by simp [here], fun other => ?_⟩
      by_cases same : other = name
      · simp [value?, same]
      · simp [value?, same, here, Ne.symm same]
    next elsewhere =>
      obtain ⟨further, later, rfl⟩ := Option.map_eq_some_iff.mp h
      obtain ⟨names, values⟩ := ih later
      refine ⟨by simp [names], fun other => ?_⟩
      have values := values other
      by_cases same : other = first.name
      · have unlike : other ≠ name := fun h => elsewhere (same.symm.trans h)
        simp [value?, same, elsewhere]
      · simpa [value?, Ne.symm same, Function.update_apply] using values

/-- A call that fails does so with the fault of its kind, and changes nothing. -/
theorem call_fault {call : TableCall} {fault : Fault} {left : SymbolTable}
    (h : table.call call = (.fault fault, left)) : call.fault? = some fault ∧ left = table := by
  cases call with
  | declare name value =>
    cases refused : table.declare name value with
    | ok declared => simp [SymbolTable.call, refused] at h
    | error cause =>
      simp only [SymbolTable.call, refused] at h
      cases h
      unfold declare at refused
      split at refused <;> cases refused
      exact ⟨rfl, rfl⟩
  | assign name value =>
    cases refused : table.assign name value with
    | ok assigned => simp [SymbolTable.call, refused] at h
    | error cause =>
      simp only [SymbolTable.call, refused] at h
      cases h
      unfold assign at refused
      split at refused <;> cases refused
      exact ⟨rfl, rfl⟩
  | lookup name =>
    cases refused : table.lookup name with
    | ok value => simp [SymbolTable.call, refused] at h
    | error cause =>
      simp only [SymbolTable.call, refused] at h
      cases h
      unfold lookup at refused
      split at refused <;> cases refused
      exact ⟨rfl, rfl⟩
  | isDeclared name => cases h

namespace Refines

theorem mem_names (h : table.Refines map) : table.isDeclared name = true ↔ name ∈ map.names := by
  rw [mem_names_of_isDeclared, h.names]

/-- Each call on a table answers as on the map that it refines, and leaves a table that refines
the map left there. -/
theorem call (h : table.Refines map) (call : TableCall) :
    (table.call call).1 = (map.call call).1 ∧ (table.call call).2.Refines (map.call call).2 := by
  cases call with
  | declare name value =>
    by_cases known : name ∈ map.names
    · have refused : table.isDeclared name = true := h.mem_names.mpr known
      simp only [SymbolTable.call, declare, refused, OrderedMap.call, known, ↓reduceIte, ↓reduceDIte]
      exact ⟨trivial, h⟩
    · have fresh : table.isDeclared name = false := by simpa [← h.mem_names] using known
      simp only [SymbolTable.call, declare, fresh, OrderedMap.call, known, Bool.false_eq_true,
        ↓reduceIte, ↓reduceDIte]
      have unbound : table.value? name = none := by rw [h.values, OrderedMap.value?_eq_none known]
      refine ⟨trivial, by simp [h.names], fun other => ?_⟩
      rw [value?_declared unbound, funext h.values, OrderedMap.value?_insert]
  | assign name value =>
    cases assigned : assignIn name value table.entries with
    | none =>
      have fresh : name ∉ map.names := h.names ▸ assignIn_eq_none.mp assigned
      simp only [SymbolTable.call, assign, assigned, OrderedMap.call, fresh, ↓reduceDIte]
      exact ⟨trivial, h⟩
    | some entries =>
      have known : name ∈ map.names := by
        by_contra fresh
        rw [← h.names, ← @assignIn_eq_none name value, assigned] at fresh
        cases fresh
      obtain ⟨names, values⟩ := assignIn_eq_some assigned
      simp only [SymbolTable.call, assign, assigned, OrderedMap.call, known, ↓reduceDIte]
      refine ⟨trivial, names.trans h.names, fun other => ?_⟩
      rw [values, OrderedMap.value?_replace, ← funext h.values]
  | lookup name =>
    simp only [SymbolTable.call, lookup, OrderedMap.call, h.values]
    cases map.value? name with
    | none => exact ⟨rfl, h⟩
    | some value => exact ⟨rfl, h⟩
  | isDeclared name =>
    refine ⟨congrArg TableAnswer.known ?_, h⟩
    rw [Bool.eq_iff_iff, h.mem_names, decide_eq_true_iff]

end Refines

end SymbolTable

/-- The name that a call declares, if it succeeds in that. -/
def TableRecord.declared? : TableRecord → Option String
  | (.declare name _, .value _) => some name
  | _ => none

/-- The name that a call gives a value, with this value, if it succeeds in that. -/
def TableRecord.written? : TableRecord → Option (String × Float)
  | (.declare name value, .value _) => some (name, value)
  | (.assign name value, .done) => some (name, value)
  | _ => none

/-- The value that a name was given last. -/
def lastWritten? (name : String) (records : List TableRecord) : Option Float :=
  (((records.filterMap TableRecord.written?).filter (·.1 = name)).getLast?).map Prod.snd

/-- What the calls would have been that declare the entries of a table. -/
def SymbolTable.seeds (table : SymbolTable) : List TableRecord :=
  table.entries.map fun entry => (.declare entry.name entry.value, .value entry.value)

/-- A map that is what a history of calls made of it. -/
structure OrderedMap.Tells (map : OrderedMap) (records : List TableRecord) : Prop where
  names : map.names = records.filterMap TableRecord.declared?
  values : ∀ name, map.value? name = lastWritten? name records

theorem lastWritten?_append_none {record : TableRecord} (silent : record.written? = none)
    (records : List TableRecord) (name : String) :
    lastWritten? name (records ++ [record]) = lastWritten? name records := by
  simp [lastWritten?, silent]

theorem lastWritten?_append_some {record : TableRecord} {name : String} {value : Float}
    (written : record.written? = some (name, value)) (records : List TableRecord) :
    (lastWritten? · (records ++ [record])) =
      Function.update (lastWritten? · records) name (some value) := by
  funext other
  by_cases same : other = name
  · simp [lastWritten?, written, same]
  · simp [lastWritten?, written, same, Ne.symm same]

namespace OrderedMap.Tells

variable {map : OrderedMap} {records : List TableRecord} {record : TableRecord}

/-- A call that neither declares nor gives a value. -/
theorem unchanged (h : map.Tells records) (noName : record.declared? = none)
    (noValue : record.written? = none) : map.Tells (records ++ [record]) := by
  refine ⟨by simp [noName, h.names], fun name => ?_⟩
  rw [lastWritten?_append_none noValue, h.values]

theorem call (h : map.Tells records) (call : TableCall) :
    (map.call call).2.Tells (records ++ [(call, (map.call call).1)]) := by
  cases call with
  | declare name value =>
    by_cases known : name ∈ map.names
    · simp only [OrderedMap.call, known, ↓reduceDIte]
      exact h.unchanged rfl rfl
    · simp only [OrderedMap.call, known, ↓reduceDIte]
      refine ⟨by simp [h.names, TableRecord.declared?], fun other => ?_⟩
      rw [value?_insert, funext h.values]
      exact (congrFun (lastWritten?_append_some rfl records) other).symm
  | assign name value =>
    by_cases known : name ∈ map.names
    · simp only [OrderedMap.call, known, ↓reduceDIte]
      refine ⟨by simp [h.names, TableRecord.declared?], fun other => ?_⟩
      rw [value?_replace, funext h.values]
      exact (congrFun (lastWritten?_append_some rfl records) other).symm
    · simp only [OrderedMap.call, known, ↓reduceDIte]
      exact h.unchanged rfl rfl
  | lookup name =>
    simp only [OrderedMap.call]
    cases map.value? name with
    | none => exact h.unchanged rfl rfl
    | some value => exact h.unchanged rfl rfl
  | isDeclared name => exact h.unchanged rfl rfl

theorem recordCalls (h : map.Tells records) (calls : List TableCall) :
    (Calculator.recordCalls OrderedMap.call map calls).2.Tells
      (records ++ (Calculator.recordCalls OrderedMap.call map calls).1) := by
  induction calls generalizing map records with
  | nil => simpa [Calculator.recordCalls] using h
  | cons first rest ih =>
    have further := ih (h.call first)
    rwa [List.append_assoc] at further

end OrderedMap.Tells

/-- Where no name stands twice, the first entry of a name is also its last. -/
theorem getLast?_filter_name {entries : List Variable}
    (distinct : (entries.map Variable.name).Nodup) (name : String) :
    (entries.filter (·.name = name)).getLast? = entries.find? (·.name = name) := by
  induction entries with
  | nil => rfl
  | cons first rest ih =>
    obtain ⟨new, further⟩ := List.nodup_cons.mp distinct
    by_cases here : first.name = name
    · have unlisted : rest.filter (·.name = name) = [] := by
        rw [List.filter_eq_nil_iff]
        intro entry later same
        have same : entry.name = first.name := (of_decide_eq_true same).trans here.symm
        exact new (same ▸ List.mem_map_of_mem later)
      simp [here, unlisted]
    · simpa [here] using ih further

namespace SymbolTable

variable {table : SymbolTable} (distinct : (table.entries.map Variable.name).Nodup)
include distinct

/-- The map that a table is in which no name stands twice. -/
def toMap : OrderedMap where
  names := table.entries.map Variable.name
  value? := table.value?
  distinct
  bound name := by rw [← isDeclared_eq, mem_names_of_isDeclared]

theorem refines_toMap : table.Refines (toMap distinct) := ⟨rfl, fun _ => rfl⟩

theorem tells_seeds : (toMap distinct).Tells table.seeds := by
  refine ⟨?_, fun name => ?_⟩
  · simp [toMap, seeds, List.filterMap_map, Function.comp_def, TableRecord.declared?]
  · have written : table.seeds.filterMap TableRecord.written? =
        table.entries.map fun entry => (entry.name, entry.value) := by
      simp [seeds, List.filterMap_map, Function.comp_def, TableRecord.written?]
    have last := getLast?_filter_name distinct name
    rw [lastWritten?, written, List.filter_map, List.getLast?_map, Option.map_map]
    exact congrArg (Option.map Variable.value) last.symm

end SymbolTable

/-- A table is a finite map that remembers the order in which its names came. Along any calls it
answers as that map does. What a name was given last is what it stands for, the names stand in the
order in which they were declared, whatever they were assigned, and a call that fails changes
nothing. -/
theorem table_refines_ordered_map (constants : Bool) (calls : List TableCall) :
    let start := if constants then SymbolTable.withConstants else .empty
    let first := SymbolTable.toMap (SymbolTable.nodup_seeded constants)
    let records := (recordCalls SymbolTable.call start calls).1
    let table := (recordCalls SymbolTable.call start calls).2
    records = (recordCalls OrderedMap.call first calls).1 ∧
      table.Refines (recordCalls OrderedMap.call first calls).2 ∧
      (∀ name, table.lookup name = match lastWritten? name (start.seeds ++ records) with
        | some value => .ok value
        | none => .error (.name .undefinedName name)) ∧
      (∀ name, table.isDeclared name = true ↔ ∃ value, table.lookup name = .ok value) ∧
      (∀ call fault left, table.call call = (.fault fault, left) →
        call.fault? = some fault ∧ left = table) ∧
      table.entries.map Variable.name =
        (start.seeds ++ records).filterMap TableRecord.declared? ∧
      (table.entries.map Variable.name).Nodup ∧
      table.size = start.size + (records.filterMap TableRecord.declared?).length := by
  intro start first records table
  obtain ⟨same, refines⟩ := recordCalls_alike (fun _ _ call refines => refines.call call)
    (SymbolTable.refines_toMap (SymbolTable.nodup_seeded constants)) calls
  have tells := (SymbolTable.tells_seeds (SymbolTable.nodup_seeded constants)).recordCalls calls
  rw [← same] at tells
  have names : table.entries.map Variable.name =
      (start.seeds ++ records).filterMap TableRecord.declared? := refines.names.trans tells.names
  refine ⟨same, refines, fun name => ?_, fun name => ?_, ?_, names, ?_, ?_⟩
  · have stands : table.value? name = lastWritten? name (start.seeds ++ records) :=
      (refines.values name).trans (tells.values name)
    cases last : lastWritten? name (start.seeds ++ records) with
    | none => simp only [SymbolTable.lookup, stands, last]
    | some value => simp only [SymbolTable.lookup, stands, last]
  · rw [SymbolTable.isDeclared_eq, Option.isSome_iff_exists]
    simp only [SymbolTable.lookup_eq_ok]
  · exact fun call fault left => SymbolTable.call_fault
  · rw [refines.names]
    exact OrderedMap.distinct _
  · have seeded : start.seeds.filterMap TableRecord.declared? =
        start.entries.map Variable.name :=
      (SymbolTable.tells_seeds (SymbolTable.nodup_seeded constants)).names.symm
    have count := congrArg List.length names
    rwa [List.filterMap_append, seeded, List.length_append, List.length_map, List.length_map]
      at count

end Calculator

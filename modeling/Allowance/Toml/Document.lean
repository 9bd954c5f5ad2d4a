import Allowance.Data.Value

/-!
# TOML documents under construction

A document is built statement by statement. A table remembers the section that defined it, because
it may be extended within that section only; values, inline tables and arrays are closed once they
are written. Section zero is the part before the first header.
-/

namespace Allowance.Toml

open Data

/-- A name in a table that is still being built. -/
inductive Node where
  /-- A finished value. -/
  | leaf (value : Value)
  /-- A table with the section that defined it; one that only lies on the way to another has
  none. -/
  | table (definedIn : Option Nat) (entries : List (String × Node))
  /-- An array of tables: those that are finished and the one that is being written. -/
  | tables (done : List Value) (entries : List (String × Node))

/-- The names of a table that is being built, in the order of their first use. -/
abbrev Nodes := List (String × Node)

mutual

def Node.toValue : Node → Value
  | .leaf value => value
  | .table _ entries => .table (toTable entries)
  | .tables done entries => .list (done ++ [.table (toTable entries)])

def toTable : List (String × Node) → Table
  | [] => []
  | (key, node) :: rest => (key, node.toValue) :: toTable rest

end

namespace Nodes

/-- The names with one of them given a node: in place if it is present, otherwise last. -/
def set (nodes : Nodes) (key : String) (node : Node) : Nodes :=
  if nodes.any (·.1 == key) then
    nodes.map fun entry => if entry.1 == key then (key, node) else entry
  else
    nodes ++ [(key, node)]

/-- Opens the table of a header. It must not have been defined before. -/
def openTable (number : Nat) : List String → Nodes → Option Nodes
  | [], nodes => some nodes
  | [key], nodes =>
    match nodes.lookup key with
    | none => some (nodes.set key (.table (some number) []))
    | some (.table none entries) => some (nodes.set key (.table (some number) entries))
    | some _ => none
  | key :: path, nodes =>
    match nodes.lookup key with
    | none => do return nodes.set key (.table none (← openTable number path []))
    | some (.table mark entries) => do
      return nodes.set key (.table mark (← openTable number path entries))
    | some (.tables done entries) => do
      return nodes.set key (.tables done (← openTable number path entries))
    | some (.leaf _) => none

/-- Starts the next table of an array of tables. -/
def openItem : List String → Nodes → Option Nodes
  | [], nodes => some nodes
  | [key], nodes =>
    match nodes.lookup key with
    | none => some (nodes.set key (.tables [] []))
    | some (.tables done entries) =>
      some (nodes.set key (.tables (done ++ [.table (toTable entries)]) []))
    | some _ => none
  | key :: path, nodes =>
    match nodes.lookup key with
    | none => do return nodes.set key (.table none (← openItem path []))
    | some (.table mark entries) => do
      return nodes.set key (.table mark (← openItem path entries))
    | some (.tables done entries) => do
      return nodes.set key (.tables done (← openItem path entries))
    | some (.leaf _) => none

/-- Adds a value under a dotted key. The tables on its way have to be of this section or new. -/
def insert (number : Nat) (value : Value) : List String → Nodes → Option Nodes
  | [], _ => none
  | [key], nodes =>
    match nodes.lookup key with
    | none => some (nodes.set key (.leaf value))
    | some _ => none
  | key :: path, nodes =>
    match nodes.lookup key with
    | none => do
      return nodes.set key (.table (some number) (← insert number value path []))
    | some (.table mark entries) =>
      if mark.all (· == number) then do
        return nodes.set key (.table (some number) (← insert number value path entries))
      else
        none
    | some _ => none

/-- Changes the table that a header has opened. -/
def within (change : Nodes → Option Nodes) : List String → Nodes → Option Nodes
  | [], nodes => change nodes
  | key :: path, nodes =>
    match nodes.lookup key with
    | some (.table mark entries) => do
      return nodes.set key (.table mark (← within change path entries))
    | some (.tables done entries) => do
      return nodes.set key (.tables done (← within change path entries))
    | _ => none

end Nodes

/-- A document that is being read: its names, the path of the last header and the number of
headers. -/
structure Document where
  nodes : Nodes
  header : List String
  sections : Nat

namespace Document

def empty : Document :=
  ⟨[], [], 0⟩

def openTable (d : Document) (path : List String) : Option Document := do
  return ⟨← d.nodes.openTable (d.sections + 1) path, path, d.sections + 1⟩

def openItem (d : Document) (path : List String) : Option Document := do
  return ⟨← d.nodes.openItem path, path, d.sections + 1⟩

def insert (d : Document) (path : List String) (value : Value) : Option Document := do
  return { d with nodes := ← d.nodes.within (Nodes.insert d.sections value path) d.header }

end Document

end Allowance.Toml

import TypedTables.Number.Float
import TypedTables.Toml.Fault

/-!
# Values of a settings document

What the keys of a document stand for, and how tables grow while the document is read. A table
remembers how it came about, for that decides who may still add to it: a header may open a table
that so far was only implied, a dotted key may add to a table that dotted keys made, and a table
written in one line is closed.
-/

namespace TypedTables.Toml

/-- How a table came about. -/
inductive Opening where
  | header
  | implied
  | dotted
  | inline
deriving DecidableEq, Repr

/-- What a key stands for. -/
inductive Value where
  | string (s : String)
  | integer (i : Int)
  | boolean (b : Bool)
  | float (x : Double)
  /-- A date, a time or both, as written. -/
  | moment (text : String)
  | array (items : List Value)
  | table (opening : Opening) (entries : List (String × Value))
  /-- Tables that headers in double brackets list one by one. -/
  | tables (items : List (List (String × Value)))

/-- The keys of a table with their values, in the order in which they were first given. -/
abbrev Entries := List (String × Value)

namespace Entries

/-- Puts a value in the place of a key's present one, or at the end if there is none. -/
def set (entries : Entries) (key : String) (v : Value) : Entries :=
  match entries with
  | [] => [(key, v)]
  | e :: rest => if e.1 = key then (key, v) :: rest else e :: set rest key v

/-- Adds a key that is not there yet. -/
def add (entries : Entries) (key : String) (v : Value) : Except Fault Entries :=
  match entries.lookup key with
  | none => .ok (entries.set key v)
  | some _ => .error (.duplicateKey key)

/-- Adds a value under a dotted key: `path` leads to the table, `key` is its last part. Tables on
the way that are not there yet are made; the last one must have been made by dotted keys. -/
def addDotted (entries : Entries) (path : List String) (key : String) (v : Value) :
    Except Fault Entries :=
  match path with
  | [] => entries.add key v
  | p :: path =>
    match entries.lookup p with
    | none => return entries.set p (.table .dotted (← addDotted [] path key v))
    | some (.table opening inner) =>
      if opening = .dotted ∨ opening = .implied ∧ path ≠ [] then do
        return entries.set p (.table opening (← addDotted inner path key v))
      else .error (.duplicateKey p)
    | some (.tables items) =>
      if path = [] then .error (.duplicateKey p)
      else do
        let last ← addDotted (items.getLastD []) path key v
        return entries.set p (.tables (items.dropLast ++ [last]))
    | some _ => .error (.duplicateKey p)

/-- Changes the table that a header leads to. Tables on the way that are not there yet are implied;
of listed tables the last is meant. -/
def within (change : Entries → Except Fault Entries) (entries : Entries) (path : List String) :
    Except Fault Entries :=
  match path with
  | [] => change entries
  | p :: path =>
    match entries.lookup p with
    | none => return entries.set p (.table .implied (← within change [] path))
    | some (.table opening inner) =>
      if opening = .inline then .error (.duplicateKey p)
      else return entries.set p (.table opening (← within change inner path))
    | some (.tables items) => do
      let last ← within change (items.getLastD []) path
      return entries.set p (.tables (items.dropLast ++ [last]))
    | some _ => .error (.duplicateKey p)

/-- Opens the table of a header. It must not be there, or only be implied. -/
def openTable (key : String) (entries : Entries) : Except Fault Entries :=
  match entries.lookup key with
  | none => .ok (entries.set key (.table .header []))
  | some (.table .implied inner) => .ok (entries.set key (.table .header inner))
  | some _ => .error (.duplicateKey key)

/-- Opens the next of the tables that headers in double brackets list. -/
def openNext (key : String) (entries : Entries) : Except Fault Entries :=
  match entries.lookup key with
  | none => .ok (entries.set key (.tables [[]]))
  | some (.tables items) => .ok (entries.set key (.tables (items ++ [[]])))
  | some _ => .error (.duplicateKey key)

end Entries

end TypedTables.Toml

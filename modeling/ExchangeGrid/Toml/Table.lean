import ExchangeGrid.Json.Document

namespace ExchangeGrid
namespace Toml

/-!
# Tables of a settings file

A table is built from lines that may come in any order, so it remembers how it came about: from a
header of its own, from the header of a table below it, or from a key with dots.  That decides
whether a later line may still add to it.  Nothing is ever given twice.
-/

/-- How a table came about. -/
inductive Origin
  | header
  | below
  | dotted
  deriving DecidableEq, Repr

mutual

/-- What a key of a table stands for. -/
inductive Item
  | value (document : Json.Document)
  | table (inner : Table)
  | tables (done : List Table)

/-- A table: its origin, and its keys in order. -/
inductive Table
  | mk (origin : Origin) (entries : List (String × Item))

end

namespace Table

def origin : Table → Origin
  | mk origin _ => origin

def entries : Table → List (String × Item)
  | mk _ entries => entries

def empty (origin : Origin) : Table :=
  mk origin []

def get? (table : Table) (key : String) : Option Item :=
  (table.entries.find? (·.1 == key)).map (·.2)

def set (table : Table) (key : String) (item : Item) : Table :=
  if (table.get? key).isSome then
    mk table.origin (table.entries.map fun entry => if entry.1 == key then (key, item) else entry)
  else mk table.origin (table.entries ++ [(key, item)])

def erase (table : Table) (key : String) : Table :=
  mk table.origin (table.entries.filter (·.1 != key))

/-- Change the table at a path of headers, or of parts of a dotted key.  Missing tables are made
on the way; a path goes on in the last table of a list. -/
def descend (made : Origin) (change : Table → Option Table) : List String → Table → Option Table
  | [], table => change table
  | key :: path, table => do
    match table.get? key with
    | none =>
      let inner ← descend made change path (empty made)
      some (table.set key (.table inner))
    | some (.value _) => none
    | some (.table inner) =>
      if made = .dotted ∧ inner.origin = .header then none
      else
        let inner ← descend made change path inner
        some (table.set key (.table inner))
    | some (.tables done) =>
      match done.getLast? with
      | none => none
      | some last =>
        let last ← descend made change path last
        some (table.set key (.tables (done.dropLast ++ [last])))

/-- Put a value at a dotted key, whose tables are all made by dotted keys. -/
def put (path : List String) (value : Json.Document) (table : Table) : Option Table :=
  match path.getLast? with
  | none => none
  | some key =>
    let add := fun inner : Table =>
      if (inner.origin = .dotted) ≠ (path.length > 1) then none
      else if (inner.get? key).isSome then none
      else some (inner.set key (.value value))
    descend .dotted add path.dropLast table

end Table

mutual

def Item.document : Item → Json.Document
  | .value document => document
  | .table inner => inner.document
  | .tables done => .array (documentsOf done)

def Table.document : Table → Json.Document
  | .mk _ entries => .object (membersOf entries)

def documentsOf : List Table → List Json.Document
  | [] => []
  | table :: rest => table.document :: documentsOf rest

def membersOf : List (String × Item) → List (Option String × Json.Document)
  | [] => []
  | (key, item) :: rest => (some key, item.document) :: membersOf rest

end

end Toml
end ExchangeGrid

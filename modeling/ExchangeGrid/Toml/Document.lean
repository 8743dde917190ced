import ExchangeGrid.Toml.Scalar
import ExchangeGrid.Toml.Table

namespace ExchangeGrid
namespace Toml

/-!
# Settings files

Reads a whole settings file into the same documents that a JSON text is read into, so that one
description of the settings serves both forms.
-/

/-- How deep arrays and inline tables may nest, and how many parts a key may have. -/
def depthLimit : Nat := 79

def skipLines : Nat → List Char → List Char
  | 0, text => text
  | fuel + 1, text =>
    let rest := skipComment (skipGaps text)
    match lineEnd? rest with
    | some rest => skipLines fuel rest
    | none => rest

mutual

def readValue : Nat → Nat → List Char → Option (Json.Document × List Char)
  | 0, _, _ => none
  | fuel + 1, depth, text =>
    match text with
    | '[' :: rest => if depth = 0 then none else readItems fuel (depth - 1) [] rest
    | '\x7b' :: rest =>
      if depth = 0 then none
      else
        match skipGaps rest with
        | '\x7d' :: rest => some (.object [], rest)
        | rest => readPairs fuel (depth - 1) (.empty .header) rest
    | _ =>
      if text.head? = some '"' ∨ text.head? = some '\'' then
        (readString text).map fun (value, rest) => (.string (some (String.ofList value)), rest)
      else
        let word := takeWord text
        (wordValue? word).map fun value => (value, text.drop word.length)

/-- Read the items of an array up to its end, with those already read in reverse order. -/
def readItems : Nat → Nat → List Json.Document → List Char → Option (Json.Document × List Char)
  | 0, _, _, _ => none
  | fuel + 1, depth, done, text =>
    match skipLines text.length text with
    | ']' :: rest => some (.array done.reverse, rest)
    | text =>
      match readValue fuel depth text with
      | none => none
      | some (item, rest) =>
        match skipLines rest.length rest with
        | ',' :: rest => readItems fuel depth (item :: done) rest
        | ']' :: rest => some (.array (item :: done).reverse, rest)
        | _ => none

def readPairs : Nat → Nat → Table → List Char → Option (Json.Document × List Char)
  | 0, _, _, _ => none
  | fuel + 1, depth, table, text =>
    match readKey depthLimit text with
    | some (path, '=' :: rest) =>
      match readValue fuel depth (skipGaps rest) with
      | none => none
      | some (value, rest) =>
        match table.put path value, skipGaps rest with
        | some table, ',' :: rest => readPairs fuel depth table rest
        | some table, '\x7d' :: rest => some (table.document, rest)
        | _, _ => none
    | _ => none

end

/-- A settings file while its lines are read: the finished tables, and the table of the last
header with its path. -/
structure Progress where
  root : Table := .empty .header
  path : List String := []
  listed : Bool := false
  current : Table := .empty .header

/-- Put the current table where its header says. -/
def Progress.close (state : Progress) : Option Table :=
  match state.path.getLast? with
  | none => some state.current
  | some key =>
    let add := fun parent : Table =>
      match state.listed, parent.get? key with
      | false, _ => some (parent.set key (.table state.current))
      | true, none => some (parent.set key (.tables [state.current]))
      | true, some (.tables done) => some (parent.set key (.tables (done ++ [state.current])))
      | true, _ => none
    state.root.descend .below add state.path.dropLast

/-- Start the table of a header.  A table that only the headers below it have made is gone on
with; no other is given again. -/
def Progress.openTable (state : Progress) (path : List String) : Option Progress := do
  let root ← state.close
  let key ← path.getLast?
  let mut found := Table.empty .header
  let take := fun parent : Table =>
    match parent.get? key with
    | none => some parent
    | some (.table inner) => if inner.origin = .below then some (parent.erase key) else none
    | some _ => none
  let cleared ← root.descend .below take path.dropLast
  match lookUp path root with
  | some (.table inner) => found := .mk .header inner.entries
  | _ => pure ()
  some { root := cleared, path, current := found }
where
  lookUp : List String → Table → Option Item
    | [], _ => none
    | [key], table => table.get? key
    | key :: path, table =>
      match table.get? key with
      | some (.table inner) => lookUp path inner
      | some (.tables done) => done.getLast?.bind (lookUp path)
      | _ => none

/-- Start one more table of a list. -/
def Progress.openListed (state : Progress) (path : List String) : Option Progress := do
  let root ← state.close
  let key ← path.getLast?
  let check := fun parent : Table =>
    match parent.get? key with
    | none | some (.tables _) => some parent
    | some _ => none
  let root ← root.descend .below check path.dropLast
  some { root, path, listed := true, current := .empty .header }

/-- The text behind the end of a line, which only a comment may precede. -/
def finishLine (text : List Char) : Option (List Char) :=
  match skipComment (skipGaps text) with
  | [] => some []
  | rest => lineEnd? rest

/-- Read one line that says something: a header or a pair. -/
def readLine (fuel : Nat) (state : Progress) (text : List Char) :
    Option (Progress × List Char) := do
  match text with
  | '[' :: '[' :: rest =>
    match readKey depthLimit rest with
    | some (path, ']' :: ']' :: rest) => some (← state.openListed path, ← finishLine rest)
    | _ => none
  | '[' :: rest =>
    match readKey depthLimit rest with
    | some (path, ']' :: rest) => some (← state.openTable path, ← finishLine rest)
    | _ => none
  | _ =>
    match readKey depthLimit text with
    | some (path, '=' :: rest) =>
      let (value, rest) ← readValue fuel depthLimit (skipGaps rest)
      let current ← state.current.put path value
      some ({ state with current }, ← finishLine rest)
    | _ => none

def readFile : Nat → Progress → List Char → Option Table
  | 0, _, _ => none
  | fuel + 1, state, text =>
    match skipLines text.length text with
    | [] => state.close
    | rest =>
      match readLine (fuel + 1) state rest with
      | none => none
      | some (state, rest) => readFile fuel state rest

def parse? (text : String) : Option Json.Document :=
  let text := match text.toList with
    | '\uFEFF' :: rest => rest
    | rest => rest
  (readFile (text.length + 2) {} text).map Table.document

end Toml
end ExchangeGrid

namespace ExchangeGrid
namespace Runs

/-!
# Sorted tables

A property of characters is kept as a table of runs of code points, in order.  The entry for a
code point is the last one that starts at or before it, and it is found by halving.
-/

/-- How many entries start at or before a code point, when all below `low` do and none from
`high` on does.  Every step halves what is between them. -/
def countUpTo {Entry : Type} (start : Entry → Nat) (table : Array Entry) (point : Nat) :
    Nat → Nat → Nat → Nat
  | 0, low, _ => low
  | fuel + 1, low, high =>
    if low < high then
      let middle := (low + high) / 2
      match table[middle]? with
      | none => low
      | some entry =>
        if start entry ≤ point then countUpTo start table point fuel (middle + 1) high
        else countUpTo start table point fuel low middle
    else low

/-- The last entry that starts at or before a code point. -/
def last? {Entry : Type} (start : Entry → Nat) (table : Array Entry) (point : Nat) :
    Option Entry :=
  match countUpTo start table point table.size 0 table.size with
  | 0 => none
  | count + 1 => table[count]?

/-- What is found is an entry of the table. -/
theorem mem_of_last? {Entry : Type} {start : Entry → Nat} {table : Array Entry} {point : Nat}
    {entry : Entry} (found : last? start table point = some entry) : entry ∈ table := by
  unfold last? at found
  split at found
  · cases found
  · exact Array.mem_of_getElem? found

/-- Whether a character lies in one of some runs, each given by its first and last code point. -/
def contains (runs : Array (Nat × Nat)) (c : Char) : Bool :=
  match last? Prod.fst runs c.toNat with
  | some (_, last) => c.toNat ≤ last
  | none => false

end Runs
end ExchangeGrid

import LoginGate.Toml.Value

/-! # Tables of a TOML document

A document builds its table from headers and from keys with dots, and may name a table in several
places, but define it only once. So while it is built, a table remembers how it came about: by a
header of its own, as the parent of a table with a header, or by a dotted key.

A table with a header of its own cannot get a second one, nor be extended by dotted keys. A table
that came about as a parent can still get its own header. A table made by dotted keys can be
extended by dotted keys alone.
-/

namespace LoginGate.Toml

/-- How a table came about. -/
inductive Origin where
  /-- By a header of its own, or as the whole document. -/
  | header
  /-- As the parent of a table with a header. -/
  | parent
  /-- By a key with dots. -/
  | dotted
  deriving DecidableEq, Repr

/-- An entry of a table that is still being built. -/
inductive Entry where
  | value (value : Toml)
  | table (origin : Origin) (entries : List (String × Entry))
  /-- Tables that share a header with two brackets. -/
  | tables (elements : List (List (String × Entry)))

/-- The entries of a table. -/
abbrev Entries := List (String × Entry)

namespace Entries

def get? (entries : Entries) (key : String) : Option Entry :=
  (entries.find? (·.1 == key)).map (·.2)

def put (entries : Entries) (key : String) (entry : Entry) : Entries :=
  entries.filter (·.1 != key) ++ [(key, entry)]

/-- Changes the table that a path leads to. Missing tables are made with the given origin; the last
of several tables under one key is taken. The change is told how the table came about. -/
def change? (making : Origin) (change : Origin → Entries → Option Entries) :
    List String → Origin → Entries → Option Entries
  | [], origin, entries => change origin entries
  | key :: path, _, entries =>
    match entries.get? key with
    | none => do
      let inner ← change? making change path making []
      some (entries.put key (.table making inner))
    | some (.table origin inner) =>
      if making = .dotted && origin = .header then none
      else do
        let inner ← change? making change path origin inner
        some (entries.put key (.table origin inner))
    | some (.tables elements) =>
      match elements.getLast? with
      | none => none
      | some last => do
        let inner ← change? making change path .header last
        some (entries.put key (.tables (elements.dropLast ++ [inner])))
    | some (.value _) => none

/-- Adds an entry that is not there yet. A key without dots belongs to a table that was not made by
dotted keys, and a key with dots to one that was. -/
def add? (dotted : Bool) (key : String) (value : Toml) (origin : Origin) (entries : Entries) :
    Option Entries :=
  if (origin == .dotted) != dotted then none
  else if (entries.get? key).isSome then none
  else some (entries.put key (.value value))

/-- Adds a value under a key, with dots if it has several parts. -/
def assign? (key : List String) (value : Toml) (origin : Origin) (entries : Entries) :
    Option Entries :=
  match key.getLast? with
  | none => none
  | some last =>
    change? .dotted (add? (1 < key.length) last value) key.dropLast origin entries

/-- Gives a table its own header. -/
def openTable? (key : String) (_ : Origin) (entries : Entries) : Option Entries :=
  match entries.get? key with
  | none => some (entries.put key (.table .header []))
  | some (.table .parent inner) => some (entries.put key (.table .header inner))
  | some _ => none

/-- Adds one more table under a header with two brackets. -/
def openElement? (key : String) (_ : Origin) (entries : Entries) : Option Entries :=
  match entries.get? key with
  | none => some (entries.put key (.tables [[]]))
  | some (.tables elements) => some (entries.put key (.tables (elements ++ [[]])))
  | some _ => none

mutual

def valueOf : Entry → Toml
  | .value value => value
  | .table _ entries => .table (valuesOf entries)
  | .tables elements => .array (tablesOf elements)

def valuesOf : List (String × Entry) → List (String × Toml)
  | [] => []
  | (key, entry) :: rest => (key, valueOf entry) :: valuesOf rest

def tablesOf : List (List (String × Entry)) → List Toml
  | [] => []
  | entries :: rest => .table (valuesOf entries) :: tablesOf rest

end

end Entries
end LoginGate.Toml

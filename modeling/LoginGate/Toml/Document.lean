import LoginGate.Toml.Scan
import LoginGate.Toml.Table
import LoginGate.Toml.Value

/-! # Reading TOML documents

A document is a series of headers and assignments, one to a line. Arrays may spread over lines and
end with a comma; inline tables may do neither. Values do not nest deeper than `maxNesting`.

The recursion is bounded by a number of calls of which every character of the text needs two at
most.
-/

namespace LoginGate.Toml

/-- How deep arrays and inline tables may stand inside each other. -/
def maxNesting : Nat := 79

def inlineTable? (assignments : List (List String × Toml)) : Option Toml := do
  let entries ← assignments.foldlM (fun entries (key, value) =>
    Entries.assign? key value .header entries) []
  some (.table (Entries.valuesOf entries))

/-- A value that is neither an array nor a table. -/
def scalarValue? (text : List Char) : Option (Toml × List Char) :=
  match text with
  | 't' :: 'r' :: 'u' :: 'e' :: rest => some (.bool true, rest)
  | 'f' :: 'a' :: 'l' :: 's' :: 'e' :: rest => some (.bool false, rest)
  | '"' :: _ | '\'' :: _ => (string? text).map fun (value, rest) => (.string value, rest)
  | _ => (moment? text).orElse fun _ => number? text

mutual

/-- A value, with containers nested up to `nesting` deep. -/
def value? (calls nesting : Nat) (text : List Char) : Option (Toml × List Char) :=
  match calls, text with
  | 0, _ => none
  | calls + 1, '[' :: rest =>
    match nesting with
    | 0 => none
    | nesting + 1 => items? calls nesting [] rest
  | calls + 1, '\x7b' :: rest =>
    match nesting with
    | 0 => none
    | nesting + 1 =>
      match skipBlanks rest with
      | '\x7d' :: rest => some (.table [], rest)
      | rest => assignments? calls nesting [] rest
  | _ + 1, text => scalarValue? text

def items? (calls nesting : Nat) (items : List Toml) (text : List Char) :
    Option (Toml × List Char) :=
  match calls with
  | 0 => none
  | calls + 1 => do
    match ← skipGaps? false text with
    | ']' :: rest => some (.array items.reverse, rest)
    | text =>
      let (item, rest) ← value? calls nesting text
      match ← skipGaps? false rest with
      | ']' :: rest => some (.array (item :: items).reverse, rest)
      | ',' :: rest => items? calls nesting (item :: items) rest
      | _ => none

/-- The assignments of an inline table from some assignment on, and its end. -/
def assignments? (calls nesting : Nat) (assignments : List (List String × Toml))
    (text : List Char) : Option (Toml × List Char) :=
  match calls with
  | 0 => none
  | calls + 1 => do
    let (key, rest) ← key? text
    let rest ← after? '=' rest
    let (value, rest) ← value? calls nesting (skipBlanks rest)
    match skipBlanks rest with
    | '\x7d' :: rest =>
      let table ← inlineTable? ((key, value) :: assignments).reverse
      some (table, rest)
    | ',' :: rest => assignments? calls nesting ((key, value) :: assignments) rest
    | _ => none

end

/-- A document read up to some line: its entries and the header that the next line stands under. -/
structure Draft where
  header : List String := []
  entries : Entries := []

namespace Draft

def assign? (draft : Draft) (key : List String) (value : Toml) : Option Draft := do
  let entries ← Entries.change? .parent (Entries.assign? key value) draft.header .header
    draft.entries
  some { draft with entries }

def enter? (opening : String → Origin → Entries → Option Entries) (draft : Draft)
    (header : List String) : Option Draft := do
  let last ← header.getLast?
  let entries ← Entries.change? .parent (opening last) header.dropLast .header draft.entries
  some { header, entries }

end Draft

/-- One header or assignment with the end of its line. -/
def expression? (calls : Nat) (draft : Draft) (text : List Char) : Option (Draft × List Char) :=
  match text with
  | '[' :: '[' :: rest => do
    let (header, rest) ← key? rest
    let rest ← after? ']' (← after? ']' rest)
    some (← draft.enter? Entries.openElement? header, ← lineEnd? rest)
  | '[' :: rest => do
    let (header, rest) ← key? rest
    let rest ← after? ']' rest
    some (← draft.enter? Entries.openTable? header, ← lineEnd? rest)
  | text => do
    let (key, rest) ← key? text
    let (value, rest) ← value? calls maxNesting (skipBlanks (← after? '=' rest))
    some (← draft.assign? key value, ← lineEnd? rest)

def lines? : Nat → Draft → List Char → Option Draft
  | 0, _, _ => none
  | calls + 1, draft, text => do
    match ← skipGaps? false text with
    | [] => some draft
    | text =>
      let (draft, rest) ← expression? calls draft text
      lines? calls draft rest

/-- The members of the table that a document denotes. -/
def read? (text : String) : Option (List (String × Toml)) := do
  let chars := text.toList
  let chars := if chars.head? = some '\uFEFF' then chars.tail else chars
  let draft ← lines? (2 * chars.length + 2) {} chars
  some (Entries.valuesOf draft.entries)

end LoginGate.Toml

import Courier.Toml.Number

/-!
# TOML documents

`parse?` reads a whole document into a table.  A table is defined once: under one header, or by
dotted keys, or as a value; only tables that headers below them imply may still get a header.
-/

namespace Courier.Toml

/-- The entries of a table. -/
abbrev Entries := List (String × Document)

/-! ## Building tables -/

/-- Replaces the value of a key, or adds the key at the end. -/
def putEntry (entries : Entries) (key : String) (value : Document) : Entries :=
  if entries.any (·.1 == key) then
    entries.map fun entry => if entry.1 == key then (key, value) else entry
  else entries ++ [(key, value)]

/-- Changes the last of a sequence. -/
def changeLast {α : Type} (change : α → Option α) (items : List α) : Option (List α) :=
  match items.reverse with
  | [] => none
  | last :: others => do return (← change last) :: others |>.reverse

/-- A change to the entries of the table that a path of keys leads to.  Missing tables are made
with the given origin; a dotted key does not enter a table that has a header or is a value. -/
def changeAt (origin : TableOrigin) (change : TableOrigin → Entries → Option Entries) :
    List String → TableOrigin → Entries → Option Entries
  | [], own, entries => change own entries
  | key :: path, _, entries => do
    let inner (own : TableOrigin) (below : Entries) : Option Document :=
      (changeAt origin change path own below).map (.table own)
    let value ← match Document.get? entries key with
      | none => inner origin []
      | some (.table own below) =>
        if own == .inline || (origin == .dotted && own == .header) then none else inner own below
      | some (.tables items) =>
        (changeLast (fun item => match item with
          | .table own below => inner own below
          | _ => none) items).map .tables
      | some _ => none
    return putEntry entries key value

/-- Adds a value under a dotted key to a table. -/
def addValue (path : List String) (value : Document) (entries : Entries) : Option Entries :=
  match path.reverse with
  | [] => none
  | key :: parents =>
    changeAt .dotted (fun own below =>
      if !parents.isEmpty && own != .dotted then none
      else if (Document.get? below key).isSome then none
      else some (below ++ [(key, value)])) parents.reverse .header entries

/-- Opens a table under a header.  A table implied by headers below it keeps what it holds. -/
def openTable (path : List String) (entries : Entries) : Option Entries :=
  match path.reverse with
  | [] => none
  | key :: parents =>
    changeAt .implied (fun _ below =>
      match Document.get? below key with
      | none => some (below ++ [(key, .table .header [])])
      | some (.table .implied held) =>
        some (below.filter (·.1 != key) ++ [(key, .table .header held)])
      | some _ => none) parents.reverse .header entries

/-- Opens one more table of a sequence of tables. -/
def openItem (path : List String) (entries : Entries) : Option Entries :=
  match path.reverse with
  | [] => none
  | key :: parents =>
    changeAt .implied (fun _ below =>
      match Document.get? below key with
      | none => some (below ++ [(key, .tables [.table .header []])])
      | some (.tables items) => some (putEntry below key (.tables (items ++ [.table .header []])))
      | some _ => none) parents.reverse .header entries

/-- Adds a value to the table that the latest header opened. -/
def addUnder (header path : List String) (value : Document) (entries : Entries) : Option Entries :=
  changeAt .implied (fun _ below => addValue path value below) header .header entries

/-! ## Values -/

/-- Reads the items of an array up to its end; the bracket has been read.  The number bounds the
items. -/
def arrayItems (item : Scanner Document) : Nat → Scanner (List Document)
  | 0 => reject
  | bound + 1 => do
    layout
    if (← peek) == some ']' then
      expect ']'
      return []
    let first ← item
    layout
    if (← peek) == some ',' then
      expect ','
      return first :: (← arrayItems item bound)
    expect ']'
    return [first]

/-- Reads the entries of an inline table up to its end; at least one follows. -/
def inlineEntries (item : Scanner Document) : Nat → Entries → Scanner Entries
  | 0, _ => reject
  | bound + 1, entries => do
    let path ← key
    expect '='
    blanks
    let value ← item
    blanks
    match addValue path value entries with
    | none => reject
    | some entries =>
      if (← peek) == some ',' then
        expect ','
        inlineEntries item bound entries
      else
        expect '\x7d'
        return entries

/-- Reads an array whose items a scanner reads. -/
def arrayOf (item : Scanner Document) : Scanner Document := do
  expect '['
  return .array (← arrayItems item ((← get).length + 1))

/-- Reads an inline table whose values a scanner reads. -/
def inlineTableOf (item : Scanner Document) : Scanner Document := do
  expect '\x7b'
  blanks
  if (← peek) == some '\x7d' then
    expect '\x7d'
    return .table .inline []
  return .table .inline (← inlineEntries item ((← get).length + 1) [])

/-- Reads a value; its arrays and tables nest fewer levels deep than the number says. -/
def valueWithin : Nat → Scanner Document
  | 0 => reject
  | depth + 1 => do
    match ← peek with
    | some '"' | some '\'' => return .string (← stringValue)
    | some '[' => if depth == 0 then reject else arrayOf (valueWithin depth)
    | some '\x7b' => if depth == 0 then reject else inlineTableOf (valueWithin depth)
    | some 't' =>
      expectAll ['t', 'r', 'u', 'e']
      return .boolean true
    | some 'f' =>
      expectAll ['f', 'a', 'l', 's', 'e']
      return .boolean false
    | _ => number

/-- Reads a value. -/
def value : Scanner Document := valueWithin nestingLimit

/-! ## Lines -/

/-- A document read so far: its table and the path of the latest header. -/
structure Draft where
  /-- The table of the document. -/
  entries : Entries := []
  /-- Path of the latest header; empty before the first. -/
  header : List String := []

/-- Reads one line. -/
def line (draft : Draft) : Scanner Draft := do
  blanks
  match ← peek with
  | none | some '#' | some '\n' | some '\r' =>
    lineEnd
    return draft
  | some '[' =>
    expect '['
    if (← peek) == some '[' then
      expect '['
      let path ← key
      expectAll [']', ']']
      lineEnd
      match openItem path draft.entries with
      | some entries => return ⟨entries, path⟩
      | none => reject
    else
      let path ← key
      expect ']'
      lineEnd
      match openTable path draft.entries with
      | some entries => return ⟨entries, path⟩
      | none => reject
  | _ =>
    let path ← key
    expect '='
    blanks
    let found ← value
    lineEnd
    match addUnder draft.header path found draft.entries with
    | some entries => return { draft with entries }
    | none => reject

/-- Reads lines up to the end of the text; the number bounds them. -/
def lines : Nat → Draft → Scanner Draft
  | 0, _ => reject
  | bound + 1, draft => do
    if (← get).isEmpty then return draft
    lines bound (← line draft)

/-- The table that a text stands for, if it is a TOML document. -/
def parse? (text : String) : Option Document :=
  let chars := match text.toList with
    | '\uFEFF' :: rest => rest
    | chars => chars
  (lines (chars.length + 1) {} chars).map fun (draft, _) => .table .header draft.entries

end Courier.Toml

import LogForwarding.Document.Basic

/-!
# Tables in TOML

A table is made by a header, or implied by the header of a table inside it, or by a
dotted key. Where it comes from decides what may be added later: a header may open an
implied table, but no table twice, and a dotted key may only go through tables that
dotted keys have made. Several tables under one name form a row, of which the last one
is open.
-/

namespace LogForwarding.Toml

/-- Where a table comes from. -/
inductive Origin where
  /-- A header of its own, or the document as a whole. -/
  | header
  /-- The header of a table inside it. -/
  | implied
  /-- A dotted key. -/
  | dotted
  deriving DecidableEq, Repr, Inhabited

/-- What stands under a key. -/
inductive Item where
  /-- A value, to which nothing can be added. -/
  | value (document : Document)
  /-- A table. -/
  | table (origin : Origin) (entries : List (String × Item))
  /-- Tables in a row. -/
  | row (tables : List Item)
  deriving Inhabited

namespace Item

/-- The document as a whole, as long as it is empty. -/
def root : Item := table .header []

/-- The entries of a table. -/
def entries : Item → List (String × Item)
  | table _ entries => entries
  | _ => []

/-- What stands under a key of a table. -/
def get? (item : Item) (key : String) : Option Item := item.entries.lookup key

/-- Puts something under a key of a list of entries. -/
def putEntry (key : String) (new : Item) : List (String × Item) → List (String × Item)
  | [] => [(key, new)]
  | (other, old) :: rest =>
    if other = key then (key, new) :: rest else (other, old) :: putEntry key new rest

/-- Puts something under a key of a table. -/
def put (item : Item) (key : String) (new : Item) : Item :=
  match item with
  | table origin entries => table origin (putEntry key new entries)
  | other => other

/-- Whether a table comes from a dotted key. -/
def isDotted : Item → Bool
  | table .dotted _ => true
  | _ => false

/-- Changes the table at the end of a path, making the tables on the way. Dotted keys do
not go through a table with a header of its own. -/
def change? (dotted : Bool) (act : Item → Option Item) : List String → Item → Option Item
  | [], item => act item
  | key :: rest, item =>
    match item.get? key with
    | none => do
      let inner ← change? dotted act rest (table (if dotted then .dotted else .implied) [])
      return item.put key inner
    | some (table origin entries) =>
      if dotted && origin = .header then none
      else (change? dotted act rest (table origin entries)).map (item.put key)
    | some (row tables) => do
      let last ← tables.getLast?
      let inner ← change? dotted act rest last
      return item.put key (row (tables.dropLast ++ [inner]))
    | some (value _) => none

/-- Opens a table with a header, given the last key of its path. -/
def openTable? (key : String) (parent : Item) : Option Item :=
  match parent.get? key with
  | none => some (parent.put key root)
  | some (table .implied entries) => some (parent.put key (table .header entries))
  | some _ => none

/-- Opens another table of a row, given the last key of its path. -/
def openRow? (key : String) (parent : Item) : Option Item :=
  match parent.get? key with
  | none => some (parent.put key (row [root]))
  | some (row tables) => some (parent.put key (row (tables ++ [root])))
  | some _ => none

/-- Gives a key of a table its value; it must not have one. A key behind dots belongs
into a table that dotted keys have made. -/
def assign? (hasDots : Bool) (key : String) (document : Document) (item : Item) : Option Item :=
  if item.isDotted != hasDots || (item.get? key).isSome then none
  else some (item.put key (value document))

/-- Gives the key at the end of a dotted path its value. -/
def assignPath? (path : List String) (document : Document) (item : Item) : Option Item :=
  match path.getLast? with
  | none => none
  | some key =>
    item.change? true (assign? (path.length != 1) key document) path.dropLast

mutual

/-- The document of what stands under a key. -/
def toDocument : Item → Document
  | value document => document
  | table _ entries => .map (toEntries entries)
  | row tables => .list (toItems tables)

/-- The documents of the entries of a table. -/
def toEntries : List (String × Item) → List (Document × Document)
  | [] => []
  | (key, item) :: rest => (.text key, item.toDocument) :: toEntries rest

/-- The documents of the tables of a row. -/
def toItems : List Item → List Document
  | [] => []
  | item :: rest => item.toDocument :: toItems rest

end

end Item

end LogForwarding.Toml

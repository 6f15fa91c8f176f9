import Middleware.Toml.Value

namespace Middleware.Toml

/-!
# Building the tables of a document

While a document is read, a table is known to be written out by a header, or
implied by the header of a table inside it, or implied by a dotted key. What
may still be added to it depends on that:

* a dotted key does not reach into a table that was written out;
* a table implied by a dotted key takes entries by dotted keys only;
* a header may write out an implied table once, and no other;
* a key is given a value once.
-/

/-- What stands under a key while a document is read. -/
inductive Item where
  /-- A value that is complete. -/
  | value (value : Value)
  /-- A table, whether it is only implied, and whether by a dotted key. -/
  | table (implied dotted : Bool) (entries : List (String × Item))
  /-- A series of tables, the newest first. -/
  | series (tables : List (List (String × Item)))

/-- A table that is being built. -/
structure Section where
  implied : Bool
  dotted : Bool
  entries : List (String × Item)

mutual

/-- The value that an item has become. -/
def Item.toValue : Item → Value
  | .value value => value
  | .table _ _ entries => .table (entriesToValues entries)
  | .series tables => .array (tablesToValues tables).reverse

/-- The values that the entries of a table have become. -/
def entriesToValues : List (String × Item) → List (String × Value)
  | [] => []
  | (key, item) :: rest => (key, item.toValue) :: entriesToValues rest

/-- The values that tables of a series have become. -/
def tablesToValues : List (List (String × Item)) → List Value
  | [] => []
  | entries :: rest => .table (entriesToValues entries) :: tablesToValues rest

end

/-- Put an item under a key, in place of an earlier one. -/
def putItem
    (key : String)
    (item : Item) :
    List (String × Item) →
    List (String × Item)
  | [] => [(key, item)]
  | entry :: rest =>
      if entry.1 == key then (key, item) :: rest else entry :: putItem key item rest

namespace Section

/-- The section of a root or inline table, without entries. -/
def written : Section :=
  ⟨false, false, []⟩

/-- Put an item under a key of a section. -/
def put
    (parent : Section)
    (key : String)
    (item : Item) :
    Section :=
  { parent with entries := putItem key item parent.entries }

/-- Edit the section that a path leads to; missing tables on the way are implied. -/
def editAt
    (byDottedKey : Bool)
    (edit : Section → Option Section)
    (parent : Section) :
    List String →
    Option Section
  | [] => edit parent
  | key :: rest =>
      match lookup? key parent.entries with
      | none => do
          let child ← editAt byDottedKey edit ⟨true, byDottedKey, []⟩ rest
          return parent.put key (.table child.implied child.dotted child.entries)
      | some (.table implied dotted entries) =>
          if byDottedKey && !implied then
            none
          else do
            let child ← editAt byDottedKey edit ⟨implied, dotted, entries⟩ rest
            return parent.put key (.table child.implied child.dotted child.entries)
      | some (.series (newest :: older)) => do
          let child ← editAt byDottedKey edit ⟨false, false, newest⟩ rest
          return parent.put key (.series (child.entries :: older))
      | some (.series []) => none
      | some (.value _) => none

/-- Give a dotted key its value. -/
def assign
    (target : Section)
    (path : List String)
    (key : String)
    (value : Value) :
    Option Section :=
  target.editAt true
    (fun parent =>
      if parent.dotted == path.isEmpty || (lookup? key parent.entries).isSome then
        none
      else
        some (parent.put key (.value value)))
    path

/-- Write out the table of a header. -/
def openTable
    (root : Section)
    (path : List String)
    (key : String) :
    Option Section :=
  root.editAt false
    (fun parent =>
      match lookup? key parent.entries with
      | none => some (parent.put key (.table false false []))
      | some (.table true false entries) =>
          some (parent.put key (.table false false entries))
      | some _ => none)
    path

/-- Begin another table of a series. -/
def extendSeries
    (root : Section)
    (path : List String)
    (key : String) :
    Option Section :=
  root.editAt false
    (fun parent =>
      match lookup? key parent.entries with
      | none => some (parent.put key (.series [[]]))
      | some (.series tables) => some (parent.put key (.series ([] :: tables)))
      | some _ => none)
    path

/-- The entries that a section has come to. -/
def toEntries (root : Section) : List (String × Value) :=
  entriesToValues root.entries

end Section

end Middleware.Toml

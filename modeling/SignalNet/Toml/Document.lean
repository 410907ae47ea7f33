import SignalNet.Toml.Tree

/-!
Contract: how the lines of a configuration build its tree.

A document is a list of sections. The first has no header; every other one has a
header that names a table, or one more element of a list of tables. The key of a
line may be dotted, and then makes the tables on its way.

Tables remember how they came about, because that decides what may still be added
to them: an implicit table was never written itself, and a dotted one was made by
a dotted key.

Owns: where headers and keys lead, and which of them clash.
-/

set_option autoImplicit false

namespace SignalNet.Toml

/-- A node of a document that is being built. -/
inductive Item where
  | value (value : Toml)
  | table (implicit dotted : Bool) (entries : List (String × Item))
  | tables (elements : List (List (String × Item)))
deriving Inhabited

abbrev Items := List (String × Item)

/-- A line `key = value`, with the tables on the way to the key. -/
structure Line where
  path : List String
  key : String
  value : Toml
deriving Inhabited

/-- What a header announces: a table, or an element of a list of tables. -/
structure Header where
  path : List String
  key : String
  element : Bool
deriving Inhabited

/-- A header with the lines below it. -/
structure Section where
  header : Header
  lines : List Line
deriving Inhabited

namespace Items

def get? (items : Items) (key : String) : Option Item := (items.find? (·.1 == key)).map (·.2)

/-- Put an item in the place of the one that has its key. -/
def replace (items : Items) (key : String) (item : Item) : Items :=
  items.map fun entry => if entry.1 == key then (key, item) else entry

def erase (items : Items) (key : String) : Items := items.filter (·.1 != key)

/-- Change the table at the end of a path, making tables where there are none. On the
way a list of tables stands for its last element. A dotted key may not enter a
table that was written itself. The function is told whether the table is dotted. -/
def edit (dotted : Bool) (f : Bool → Items → Option Items) :
    List String → Bool → Items → Option Items
  | [], isDotted, items => f isDotted items
  | key :: path, _, items =>
      match items.get? key with
      | none =>
          (edit dotted f path dotted []).map fun inner =>
            items ++ [(key, .table true dotted inner)]
      | some (.value _) => none
      | some (.tables elements) =>
          match elements.getLast? with
          | none => none
          | some last =>
              (edit dotted f path false last).map fun inner =>
                items.replace key (.tables (elements.dropLast ++ [inner]))
      | some (.table implicit isDotted inner) =>
          if dotted && !implicit then none
          else (edit dotted f path isDotted inner).map fun inner =>
            items.replace key (.table implicit isDotted inner)

/-- Add a line to a table. The table that holds the key must have been made by dotted
keys exactly if the key is dotted, and the key must be new. -/
def addLine (items : Items) (line : Line) : Option Items :=
  edit true (fun isDotted inner =>
    if isDotted == line.path.isEmpty then none
    else match inner.get? line.key with
      | some _ => none
      | none => some (inner ++ [(line.key, .value line.value)])) line.path false items

def addLines (items : Items) (lines : List Line) : Option Items := lines.foldlM addLine items

/-- Add a section. A table that so far was only on the way of others moves to the end;
one that was written, or made by dotted keys, cannot be written again. -/
def addSection (root : Items) (part : Section) : Option Items :=
  let key := part.header.key
  edit false (fun _ parent =>
    match part.header.element, parent.get? key with
    | false, none =>
        (addLines [] part.lines).map fun own => parent ++ [(key, .table false false own)]
    | false, some (.table true false inner) =>
        (addLines inner part.lines).map fun own =>
          parent.erase key ++ [(key, .table false false own)]
    | false, some _ => none
    | true, none =>
        (addLines [] part.lines).map fun own => parent ++ [(key, .tables [own])]
    | true, some (.tables elements) =>
        (addLines [] part.lines).map fun own =>
          parent.replace key (.tables (elements ++ [own]))
    | true, some _ => none) part.header.path false root

end Items

mutual

def Item.toToml : Item → Toml
  | .value value => value
  | .table _ _ items => .table (itemsToToml items)
  | .tables elements => .array (elementsToToml elements)

def itemsToToml : List (String × Item) → List (String × Toml)
  | [] => []
  | (key, item) :: rest => (key, item.toToml) :: itemsToToml rest

def elementsToToml : List (List (String × Item)) → List Toml
  | [] => []
  | items :: rest => .table (itemsToToml items) :: elementsToToml rest

end

/-- The table of the lines before the first header and of all sections. -/
def ofSections? (lines : List Line) (sections : List Section) :
    Option (List (String × Toml)) :=
  ((Items.addLines [] lines).bind fun root => sections.foldlM Items.addSection root).map
    itemsToToml

def ofLines? (lines : List Line) : Option Toml :=
  (Items.addLines [] lines).map fun items => .table (itemsToToml items)

end SignalNet.Toml

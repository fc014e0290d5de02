import WidgetLocator.Config.Setting

/-! The tables of a TOML document while it is read. Every name may be given a value once, and every
table may be opened once: by a header of its own, or by dotted keys that follow each other inside the
table where they begin. A table that only stands on the way to another may still be opened by a
header. An array of tables grows by a header for each of its tables, and names lead into the last of
them. -/

namespace WidgetLocator.Toml

inductive Origin where
  | header
  /-- It stands on the way to the table of a header. -/
  | onTheWay
  /-- It stands on the way to the value of a dotted key. -/
  | dottedKey
deriving DecidableEq, Repr

inductive Node where
  | value (s : Setting)
  | table (origin : Origin) (entries : List (String × Node))
  /-- An array of tables, all but the last of which are finished. -/
  | tables (finished : List Setting) (last : List (String × Node))

abbrev Entries := List (String × Node)

structure Dotted where
  parents : List String
  last : String

/-- The entries after a change to what stands under a name. A new name goes to the end. -/
def alterEntry (name : String) (f : Option Node → Option Node) : Entries → Option Entries
  | [] => (f none).map fun node => [(name, node)]
  | (n, node) :: rest =>
    if n = name then (f (some node)).map fun node => (name, node) :: rest
    else (alterEntry name f rest).map fun rest => (n, node) :: rest

/-- Changes the table at the end of the path; tables that are missing on the way are made. -/
def inTable (change : Entries → Option Entries) : List String → Entries → Option Entries
  | [], entries => change entries
  | name :: path, entries =>
    alterEntry name (fun
      | none => (inTable change path []).map (.table .onTheWay)
      | some (.table origin inner) => (inTable change path inner).map (.table origin)
      | some (.tables finished last) => (inTable change path last).map (.tables finished)
      | some (.value _) => none) entries

/-- Whether a dotted key may lead on into a table, `rest` being the names that stand between the
table and the name of the value. -/
def leadsOn (origin : Origin) (rest : List String) : Bool :=
  match origin with
  | .header => false
  | .onTheWay => !rest.isEmpty
  | .dottedKey => true

def assign (last : String) (s : Setting) : List String → Entries → Option Entries
  | [], entries =>
    alterEntry last (fun
      | none => some (.value s)
      | some _ => none) entries
  | name :: path, entries =>
    alterEntry name (fun
      | none => (assign last s path []).map (.table .dottedKey)
      | some (.table origin inner) =>
        if leadsOn origin path then (assign last s path inner).map (.table origin) else none
      | some (.tables finished inner) =>
        if path.isEmpty then none else (assign last s path inner).map (.tables finished)
      | some (.value _) => none) entries

mutual

def Node.setting : Node → Setting
  | .value s => s
  | .table _ entries => .table (settings entries)
  | .tables finished last => .array (finished ++ [.table (settings last)])

def settings : List (String × Node) → List (String × Setting)
  | [] => []
  | (name, node) :: rest => (name, node.setting) :: settings rest

end

def openTable (path : Dotted) : Entries → Option Entries :=
  inTable
    (alterEntry path.last fun
      | none => some (.table .header [])
      | some (.table .onTheWay inner) => some (.table .header inner)
      | some _ => none)
    path.parents

def addTable (path : Dotted) : Entries → Option Entries :=
  inTable
    (alterEntry path.last fun
      | none => some (.tables [] [])
      | some (.tables finished last) => some (.tables (finished ++ [.table (settings last)]) [])
      | some _ => none)
    path.parents

end WidgetLocator.Toml

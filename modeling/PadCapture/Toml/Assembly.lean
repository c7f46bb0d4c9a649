import PadCapture.Toml.Value

/-!
# Assembling tables

A document or an inline table is written as a sequence of statements.  They are
assembled one after the other; a statement that defines again what is defined
already is refused.  While tables are assembled, each remembers how it came to
be, because that decides what may still be added to it.
-/

namespace PadCapture.Toml

/-- How a table came to be. -/
inductive Origin where
  | header
  /-- As the parent of a table with a header. -/
  | parent
  | dotted
deriving DecidableEq, Repr

/-- A part of a document that is being assembled. -/
inductive Node where
  | value (value : Value)
  | table (origin : Origin) (entries : List (String × Node))
  /-- Tables under one repeated header, newest first. -/
  | tables (items : List (List (String × Node)))

/-- The entries of a table in the order of their definition. -/
abbrev Entries := List (String × Node)

/-- Put a node in the place of the one under a key. -/
def Entries.replace (entries : Entries) (key : String) (node : Node) : Entries :=
  entries.map fun entry => if entry.1 = key then (key, node) else entry

def Entries.add (entries : Entries) (key : String) (node : Node) : Entries :=
  entries ++ [(key, node)]

/-- Define a value under the key at the end of a path of dotted parts.  `mayDefine`
tells whether the table reached so far may take the key itself: only a table made
by a dotted key may, or the one where the path starts. -/
def defineIn (value : Value) (key : String) :
    (mayDefine : Bool) → (path : List String) → Entries → Option Entries
  | mayDefine, [], entries =>
      if mayDefine && (entries.lookup key).isNone then some (entries.add key (.value value))
      else none
  | _, part :: path, entries =>
      match entries.lookup part with
      | none =>
          (defineIn value key true path []).map fun inner =>
            entries.add part (.table .dotted inner)
      | some (.value _) => none
      | some (.table .header _) => none
      | some (.table origin inner) =>
          (defineIn value key (origin = .dotted) path inner).map fun inner =>
            entries.replace part (.table origin inner)
      | some (.tables []) => none
      | some (.tables (newest :: older)) =>
          (defineIn value key false path newest).map fun newest =>
            entries.replace part (.tables (newest :: older))

def define (entries : Entries) (path : List String) (key : String) (value : Value) :
    Option Entries :=
  defineIn value key true path entries

/-- Change the table that a header's path leads to.  Missing tables on the way are
made, and of repeated tables the newest counts. -/
def changeAt (change : Entries → Option Entries) : (path : List String) → Entries → Option Entries
  | [], entries => change entries
  | part :: path, entries =>
      match entries.lookup part with
      | none =>
          (changeAt change path []).map fun inner => entries.add part (.table .parent inner)
      | some (.value _) => none
      | some (.table origin inner) =>
          (changeAt change path inner).map fun inner => entries.replace part (.table origin inner)
      | some (.tables []) => none
      | some (.tables (newest :: older)) =>
          (changeAt change path newest).map fun newest =>
            entries.replace part (.tables (newest :: older))

def openTable (key : String) (entries : Entries) : Option Entries :=
  match entries.lookup key with
  | none => some (entries.add key (.table .header []))
  | some (.table .parent inner) => some (entries.replace key (.table .header inner))
  | some _ => none

/-- Open a further table of a repeated header. -/
def openRepeated (key : String) (entries : Entries) : Option Entries :=
  match entries.lookup key with
  | none => some (entries.add key (.tables [[]]))
  | some (.tables items) => some (entries.replace key (.tables ([] :: items)))
  | some _ => none

inductive Statement where
  | define (path : List String) (key : String) (value : Value)
  | table (path : List String) (key : String)
  | repeated (path : List String) (key : String)

/-- A document that is being assembled, and the path to its current table. -/
structure Draft where
  root : Entries
  current : List String

def Draft.take (draft : Draft) : Statement → Option Draft
  | .define path key value =>
      (changeAt (fun entries => define entries path key value) draft.current draft.root).map
        fun root => { draft with root }
  | .table path key =>
      (changeAt (openTable key) path draft.root).map fun root => ⟨root, path ++ [key]⟩
  | .repeated path key =>
      (changeAt (openRepeated key) path draft.root).map fun root => ⟨root, path ++ [key]⟩

mutual

def Node.finish : Node → Value
  | .value value => value
  | .table _ entries => .table (finishEntries entries)
  | .tables items => .array (finishTables items).reverse

def finishEntries : List (String × Node) → List (String × Value)
  | [] => []
  | (key, node) :: rest => (key, node.finish) :: finishEntries rest

def finishTables : List (List (String × Node)) → List Value
  | [] => []
  | entries :: rest => .table (finishEntries entries) :: finishTables rest

end

def assemble (statements : List Statement) : Option Value :=
  (statements.foldlM Draft.take ⟨[], []⟩).map fun draft => .table (finishEntries draft.root)

end PadCapture.Toml

import PrivateComputation.Config.Toml.Value
import PrivateComputation.SortedMap

/-!
Tables while a TOML document is read. Headers and dotted keys open tables on the way to theirs;
such a table is implicit until a header of its own makes it explicit, and a dotted one stays closed
to headers.
-/

namespace PrivateComputation

mutual

inductive TomlNode where
  | value (value : Toml)
  | table (section_ : TomlSection)
  | tables (sections : List TomlSection)

inductive TomlSection where
  | mk (implicit dotted : Bool) (entries : List (String × TomlNode))

end

namespace TomlSection

def empty : TomlSection := .mk false false []

instance : Inhabited TomlSection := ⟨empty⟩

def implicit : TomlSection → Bool
  | .mk implicit _ _ => implicit

def dotted : TomlSection → Bool
  | .mk _ dotted _ => dotted

def entries : TomlSection → List (String × TomlNode)
  | .mk _ _ entries => entries

def get? (table : TomlSection) (key : String) : Option TomlNode := table.entries.lookup key

def insert (table : TomlSection) (key : String) (node : TomlNode) : TomlSection :=
  .mk table.implicit table.dotted (insertEntry key node table.entries)

def erase (table : TomlSection) (key : String) : TomlSection :=
  .mk table.implicit table.dotted (table.entries.filter (fun entry => entry.1 ≠ key))

def explicit (table : TomlSection) : TomlSection := .mk false false table.entries

mutual

def finish : TomlSection → List (String × Toml)
  | .mk _ _ entries => finishEntries entries

def finishEntries : List (String × TomlNode) → List (String × Toml)
  | [] => []
  | (key, node) :: entries => (key, finishNode node) :: finishEntries entries

def finishNode : TomlNode → Toml
  | .value value => value
  | .table table => .table table.finish
  | .tables tables => .array (finishAll tables)

def finishAll : List TomlSection → List Toml
  | [] => []
  | table :: tables => .table table.finish :: finishAll tables

end

/-- Changes the table at the end of a path, opening tables on the way; a path into an array of
tables goes to its last one. Dotted keys do not go into explicit tables. -/
def update (byDots : Bool) (change : TomlSection → Option TomlSection) :
    List String → TomlSection → Option TomlSection
  | [], table => change table
  | key :: path, table =>
      match table.get? key with
      | none => do
          let inner ← update byDots change path (.mk true byDots [])
          some (table.insert key (.table inner))
      | some (.value _) => none
      | some (.tables tables) => do
          let inner ← update byDots change path (← tables.getLast?)
          some (table.insert key (.tables (tables.dropLast ++ [inner])))
      | some (.table inner) =>
          if byDots && !inner.implicit then none
          else do
            let inner ← update byDots change path inner
            some (table.insert key (.table inner))

/-- Binds the key at the end of a dotted path to a value; no key is bound twice. -/
def bind (path : List String) (key : String) (value : Toml) (table : TomlSection) :
    Option TomlSection :=
  update true
    (fun inner =>
      if inner.dotted == path.isEmpty then none
      else match inner.get? key with
        | some _ => none
        | none => some (inner.insert key (.value value)))
    path table

end TomlSection

structure TomlDraft where
  root : TomlSection
  current : TomlSection
  /-- The header of the current table; none at the front of a document. -/
  header : Option (List String × String)
  inArray : Bool

namespace TomlDraft

def empty : TomlDraft := ⟨.empty, .empty, none, false⟩

def close (draft : TomlDraft) : Option TomlSection :=
  match draft.header with
  | none => some draft.current
  | some (path, key) =>
      draft.root.update false
        (fun parent =>
          if draft.inArray then
            match parent.get? key with
            | none => some (parent.insert key (.tables [draft.current]))
            | some (.tables tables) =>
                some (parent.insert key (.tables (tables ++ [draft.current])))
            | some _ => none
          else match parent.get? key with
            | some _ => none
            | none => some (parent.insert key (.table draft.current)))
        path

def bind (draft : TomlDraft) (path : List String) (key : String) (value : Toml) :
    Option TomlDraft := do
  let current ← draft.current.bind path key value
  some { draft with current }

def lookup : List String → TomlSection → Option TomlSection
  | [], table => some table
  | key :: path, table =>
      match table.get? key with
      | some (.table inner) => lookup path inner
      | some (.tables tables) => tables.getLast?.bind (lookup path)
      | _ => none

/-- Goes on with the table of a header. Only a table that was opened on the way to others may get a
header of its own, and what it holds stays. -/
def openTable (draft : TomlDraft) (path : List String) (key : String) : Option TomlDraft := do
  let root ← draft.close
  let parent := (lookup path root).getD .empty
  match parent.get? key with
  | none =>
      let root ← root.update false some path
      some ⟨root, .empty, some (path, key), false⟩
  | some (.table table) =>
      if table.implicit && !table.dotted then
        let root ← root.update false (fun parent => some (parent.erase key)) path
        some ⟨root, table.explicit, some (path, key), false⟩
      else none
  | some _ => none

def openArray (draft : TomlDraft) (path : List String) (key : String) : Option TomlDraft := do
  let root ← draft.close
  let root ← root.update false
    (fun parent => match parent.get? key with
      | none => some parent
      | some (.tables _) => some parent
      | some _ => none)
    path
  some ⟨root, .empty, some (path, key), true⟩

end TomlDraft

end PrivateComputation

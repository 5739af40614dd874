import PrivateComputation.Files.Directory
import PrivateComputation.Text.Split

/-!
Files and folders of a whole working directory, by their paths.
-/

namespace PrivateComputation

/-- Entries by their paths: the names on the way, with slashes between them. Every folder on the way
to an entry is an entry too. A path from the root of the file system starts with the name `/`. -/
structure FileTree where
  entries : SortedMap DirectoryEntry

namespace FileTree

def empty : FileTree := ⟨∅⟩

def key (names : List String) : String := "/".intercalate names

/-- The entry that some names lead to; the working directory and the root are always there. -/
def entryAt? (tree : FileTree) (names : List String) : Option DirectoryEntry :=
  if names = [] ∨ names = ["/"] then some .folder else tree.entries.get? (key names)

def isFolder (tree : FileTree) (names : List String) : Bool :=
  match tree.entryAt? names with
  | some .folder => true
  | _ => false

def components (path : String) : List String × List String :=
  let names := (splitOn '/' path.toList).map String.ofList
  (if path.startsWith "/" then ["/"] else [], names)

/-- Follows names from a folder. The last one need not lead to an entry. -/
def walk (tree : FileTree) (here : List String) : List String → Except FileFault (List String)
  | [] => .ok here
  | name :: names =>
      match tree.entryAt? here with
      | none => .error .missing
      | some (.file _) => .error .notDirectory
      | some .folder =>
          if name = "" ∨ name = "." then walk tree here names
          else if name = ".." then walk tree here.dropLast names
          else if Directory.isLongName name then .error .nameTooLong
          else walk tree (here ++ [name]) names

def resolve (tree : FileTree) (path : String) : Except FileFault (List String) :=
  if path = "" then .error .missing
  else
    let (start, names) := components path
    tree.walk start names

def entry? (tree : FileTree) (path : String) : Option DirectoryEntry :=
  (tree.resolve path).toOption.bind tree.entryAt?

def read (tree : FileTree) (path : String) : Except FileFault ByteArray := do
  let names ← tree.resolve path
  match tree.entryAt? names with
  | none => .error .missing
  | some .folder => .error .isDirectory
  | some (.file content) => .ok content

def readText (tree : FileTree) (path : String) : Except FileFault String := do
  let content ← tree.read path
  match String.fromUTF8? content with
  | some text => .ok text
  | none => .error .notText

def makeFolders (tree : FileTree) (here : List String) : List String → FileTree
  | [] => tree
  | name :: names =>
      let here := here ++ [name]
      let tree : FileTree :=
        match tree.entryAt? here with
        | some _ => tree
        | none => ⟨tree.entries.insert (key here) .folder⟩
      tree.makeFolders here names

def put (tree : FileTree) (names : List String) (entry : DirectoryEntry) : FileTree :=
  let tree := tree.makeFolders [] names.dropLast
  ⟨tree.entries.insert (key names) entry⟩

def plainNames (path : String) : List String :=
  let (start, names) := components path
  names.foldl
    (fun here name =>
      if name = "" ∨ name = "." then here
      else if name = ".." then here.dropLast
      else here ++ [name])
    start

def putAt (tree : FileTree) (path : String) (entry : DirectoryEntry) : FileTree :=
  tree.put (plainNames path) entry

def write (tree : FileTree) (path : String) (content : ByteArray) : Except FileFault FileTree := do
  let names ← tree.resolve path
  match tree.entryAt? names with
  | some .folder => .error .isDirectory
  | _ =>
      if tree.isFolder names.dropLast then .ok (tree.put names (.file content))
      else .error .missing

def remove (tree : FileTree) (names : List String) : FileTree :=
  let below := key names ++ "/"
  ⟨⟨tree.entries.entries.filter
      (fun entry => entry.1 ≠ key names && !entry.1.startsWith below),
    tree.entries.ascending.filter _⟩⟩

def childName? (folder : List String) (path : String) : Option String :=
  let below := if folder.isEmpty then "" else key folder ++ "/"
  if path.startsWith below then
    let name := String.ofList (path.toList.drop below.length)
    if name = "" ∨ name.contains '/' then none else some name
  else none

/-- The path of a directory; an empty one is that of the working directory. -/
def directoryPath (path : String) : String := if path = "" then "." else path

def directory (tree : FileTree) (path : String) : Directory :=
  match tree.resolve (directoryPath path) with
  | .error .missing => .absent
  | .error fault => .blocked fault
  | .ok names =>
      match tree.entryAt? names with
      | none => .absent
      | some (.file _) => .blocked .exists
      | some .folder =>
          .present (.ofList (tree.entries.entries.filterMap (fun (path, entry) =>
            (childName? names path).map (fun name => (name, entry)))))

def withDirectory (tree : FileTree) (path : String) : Directory → FileTree
  | .absent | .blocked _ => tree
  | .present entries =>
      let names := match tree.resolve (directoryPath path) with
        | .ok names => names
        | .error _ => plainNames path
      let tree := tree.makeFolders [] names
      let gone := (tree.entries.keys.filterMap (childName? names)).filter
        (fun name => !entries.contains name)
      let tree := gone.foldl (fun tree name => tree.remove (names ++ [name])) tree
      entries.entries.foldl (fun tree (name, entry) => tree.put (names ++ [name]) entry) tree

end FileTree

end PrivateComputation

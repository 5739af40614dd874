import PrivateComputation.Files.Fault
import PrivateComputation.SortedMap

/-!
One directory of a file system: whether it is there, and the files and folders in it.
-/

namespace PrivateComputation

inductive DirectoryEntry where
  | file (content : ByteArray)
  | folder

instance : DecidableEq DirectoryEntry
  | .file left, .file right =>
      if same : left.data = right.data then
        isTrue (congrArg (fun data => DirectoryEntry.file (ByteArray.mk data)) same)
      else isFalse (fun equal => same (congrArg ByteArray.data (DirectoryEntry.file.inj equal)))
  | .folder, .folder => isTrue rfl
  | .file _, .folder => isFalse nofun
  | .folder, .file _ => isFalse nofun

inductive Directory where
  | absent
  | present (entries : SortedMap DirectoryEntry)
  /-- Something that is not a directory stands in its place. -/
  | blocked (fault : FileFault)
  deriving DecidableEq

namespace Directory

def isLongName (name : String) : Bool := 255 < name.utf8ByteSize

def entry? (directory : Directory) (name : String) : Option DirectoryEntry :=
  match directory with
  | .present entries => entries.get? name
  | .absent | .blocked _ => none

def names : Directory → List String
  | .present entries => entries.keys
  | .absent | .blocked _ => []

def contains (directory : Directory) (name : String) : Bool := (directory.entry? name).isSome

def create : Directory → Except FileFault Directory
  | .absent => .ok (.present ∅)
  | .present entries => .ok (.present entries)
  | .blocked fault => .error fault

def entriesFor (directory : Directory) (name : String) :
    Except FileFault (SortedMap DirectoryEntry) :=
  match directory with
  | .blocked .exists => .error .notDirectory
  | .blocked fault => .error fault
  | .absent => .error .missing
  | .present entries => if isLongName name then .error .nameTooLong else .ok entries

def read (directory : Directory) (name : String) : Except FileFault ByteArray := do
  let entries ← directory.entriesFor name
  match entries.get? name with
  | none => .error .missing
  | some .folder => .error .isDirectory
  | some (.file content) => .ok content

def readText (directory : Directory) (name : String) : Except FileFault String := do
  let content ← directory.read name
  match String.fromUTF8? content with
  | some text => .ok text
  | none => .error .notText

def write (directory : Directory) (name : String) (content : ByteArray) :
    Except FileFault Directory := do
  let entries ← directory.entriesFor name
  match entries.get? name with
  | some .folder => .error .isDirectory
  | _ => .ok (.present (entries.insert name (.file content)))

/-- Gives a file another name; a file of that name is replaced at once. -/
def rename (directory : Directory) (source target : String) : Except FileFault Directory := do
  let entries ← directory.entriesFor source
  match entries.get? source, entries.get? target with
  | some (.file _), some .folder => .error .isDirectory
  | some (.file content), _ =>
      .ok (.present ((entries.erase source).insert target (.file content)))
  | some .folder, _ => .error .isDirectory
  | none, _ => .error .missing

def remove (directory : Directory) (name : String) : Except FileFault Directory := do
  let entries ← directory.entriesFor name
  match entries.get? name with
  | none => .error .missing
  | some .folder => .error .isDirectory
  | some (.file _) => .ok (.present (entries.erase name))

def put (directory : Directory) (name : String) (entry : DirectoryEntry) : Directory :=
  match directory with
  | .present entries => .present (entries.insert name entry)
  | .absent => .present (SortedMap.empty.insert name entry)
  | .blocked fault => .blocked fault

end Directory

end PrivateComputation

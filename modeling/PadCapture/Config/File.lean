import PadCapture.Config.Document
import PadCapture.Log.Logged
import PadCapture.Text.Utf8

/-!
# The configuration file

The configuration is kept in a file below a given directory.  A missing file is
written with the defaults; a file that exists is never changed by loading.
Where there is no usable file, the program runs with the defaults.
-/

namespace PadCapture

/-- What the system says when it refuses to read or to write. -/
structure Obstacle where
  message : String
deriving DecidableEq, Repr

namespace Obstacle

def notFound : Obstacle := ⟨"No such file or directory (os error 2)"⟩
def inFolderPlace : Obstacle := ⟨"Not a directory (os error 20)"⟩
def isFolder : Obstacle := ⟨"Is a directory (os error 21)"⟩
def folderIsFile : Obstacle := ⟨"File exists (os error 17)"⟩
def notText : Obstacle := ⟨"stream did not contain valid UTF-8"⟩

end Obstacle

/-- What keeps a file from being written: its folder cannot be made, or the file itself
cannot be. -/
inductive Barrier where
  | folder (obstacle : Obstacle)
  | file (obstacle : Obstacle)

/-- What stands in the place of a file. -/
inductive Place where
  /-- There is nothing, and a file can be written. -/
  | missing
  /-- There is nothing, and no file can be written. -/
  | barred (reading : Obstacle) (writing : Barrier)
  /-- There is something that can be neither read nor written, such as a folder. -/
  | unreadable (reading writing : Obstacle)
  | file (content : ByteArray)

namespace Place

/-- There is a file in the place of the folder. -/
def blocked : Place := .barred .inFolderPlace (.folder .folderIsFile)

/-- There is a folder in the place of the file. -/
def folder : Place := .unreadable .isFolder .isFolder

def isTaken : Place → Bool
  | missing | barred .. => false
  | unreadable .. | file _ => true

end Place

namespace Config

def folderPath (directory : String) : String := directory ++ "/gcpoller"

def filePath (directory : String) : String := folderPath directory ++ "/config.toml"

inductive FileFault where
  | unreadable (path : String) (obstacle : Obstacle)
  | unwritable (path : String) (obstacle : Obstacle)
  | malformed (path : String)
  | unwritten
  | invalid (fault : Fault)
deriving DecidableEq, Repr

def FileFault.message : FileFault → String
  | .unreadable path obstacle => "Failed to read " ++ path ++ ": " ++ obstacle.message
  | .unwritable path obstacle => "Failed to write " ++ path ++ ": " ++ obstacle.message
  | .malformed path => "Failed to parse " ++ path ++ ": not a configuration"
  | .unwritten => "Failed to serialize configuration: out-of-range value for u64 type"
  | .invalid fault => "Invalid configuration: " ++ fault.reason

def readText : Place → Except Obstacle String
  | .missing => .error .notFound
  | .barred reading _ => .error reading
  | .unreadable reading _ => .error reading
  | .file content =>
      match Text.decode? content with
      | some text => .ok text
      | none => .error .notText

def read (directory : String) (place : Place) : Except FileFault Config :=
  match readText place with
  | .error obstacle => .error (.unreadable (filePath directory) obstacle)
  | .ok text =>
      match parse text with
      | .ok config => .ok config
      | .error .malformed => .error (.malformed (filePath directory))
      | .error (.invalid fault) => .error (.invalid fault)

def load (directory : String) (place : Place) : Logged (Except FileFault Config) := do
  Logged.note (.configurationLoading (filePath directory))
  return read directory place

def save (config : Config) (directory : String) (place : Place) : Except FileFault Place :=
  match config.text? with
  | none => .error .unwritten
  | some text =>
      match place with
      | .missing | .file _ => .ok (.file (Text.encode text))
      | .barred _ (.folder obstacle) => .error (.unwritable (folderPath directory) obstacle)
      | .barred _ (.file obstacle) => .error (.unwritable (filePath directory) obstacle)
      | .unreadable _ writing => .error (.unwritable (filePath directory) writing)

/-- Load the configuration file, or write one with the defaults if there is none. -/
def ensure (directory : String) (place : Place) :
    Logged (Except FileFault Config × Place) := do
  if place.isTaken then
    let loaded ← load directory place
    return (loaded, place)
  else do
    Logged.note (.configurationMissing (filePath directory))
    match default.save directory place with
    | .ok written => return (.ok default, written)
    | .error fault => return (.error fault, place)

/-- The configuration to run with: that of the file, or the defaults. -/
def obtain (directory : String) (place : Place) : Logged (Config × Place) := do
  let (ensured, place) ← ensure directory place
  match ensured with
  | .ok config => return (config, place)
  | .error fault => do
      Logged.note (.configurationReplaced fault.message)
      return (default, place)

end Config

end PadCapture

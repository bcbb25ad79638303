import CrawlAudit.Command.EnvironmentFile
import CrawlAudit.Store.Database
import CrawlAudit.Store.Directory

/-!
# Workspaces

What a program finds when it starts: the files of its working directory, those of the directory
`data` in it, a database there, and the environment.
-/

namespace CrawlAudit

structure Workspace where
  files : Directory
  data : Directory
  database : Option Database
  environment : Environment

namespace Workspace

/-- The names on a path; a path that leaves the working directory has none. -/
def names? (path : String) : Option (List String) :=
  let pieces := (path.toList.splitOn '/').map String.ofList
  if path = "" ∨ pieces.head? = some "" ∨ pieces.contains ".." then none
  else some (pieces.filter fun p => p != "" && p != ".")

def dataName : String :=
  "data"

def databaseName : String :=
  "crawlstats.db"

/-- The entry at a path below the working directory. -/
def entryAt? (workspace : Workspace) : List String → Option DirectoryEntry
  | [name] => if name == dataName then some .folder else workspace.files.lookup name
  | [folder, name] => if folder == dataName then workspace.data.lookup name else none
  | _ => none

def directory? (workspace : Workspace) (path : String) : Option Directory :=
  (names? path).bind fun
    | [] => some (workspace.files ++ [(dataName, .folder)])
    | names =>
      match workspace.entryAt? names with
      | some .folder => some (if names == [dataName] then workspace.data else [])
      | _ => none

def file? (workspace : Workspace) (path : String) : Option (List UInt8) :=
  (names? path).bind fun names =>
    match workspace.entryAt? names with
    | some (.file octets) => some octets
    | _ => none

/-- Whether a file stands where a path has a folder. -/
def isCutOff (workspace : Workspace) (names : List String) : Bool :=
  (List.range names.length).any fun n =>
    match workspace.entryAt? (names.take n) with
    | some (.file _) => true
    | _ => false

/-- Whether the folder that a path leads into is there. -/
def hasFolder (workspace : Workspace) (names : List String) : Bool :=
  match names.dropLast with
  | [] => !names.isEmpty
  | folder =>
    match workspace.entryAt? folder with
    | some .folder => true
    | _ => false

def isDatabasePath (path : String) : Bool :=
  names? path == some [dataName, databaseName]

/-- Whether a database can be opened at a path: there is a file, or a place for one. An empty path
stands for a database of no place. -/
def opensDatabase (workspace : Workspace) (path : String) : Bool :=
  path == "" || (names? path).any fun names =>
    match workspace.entryAt? names with
    | some .folder => false
    | some (.file _) => true
    | none => workspace.hasFolder names

/-- The tables of the database at a path. A database that is missing or an empty file is an empty
one, and any other file is none. -/
def store (workspace : Workspace) (path : String) : Except Fault TableStore :=
  match workspace.file? path with
  | some octets => if octets.isEmpty then .ok [] else .error .databaseUnavailable
  | none =>
    .ok (if isDatabasePath path then (workspace.database.getD []).toStore else [])

def loadedEnvironment (workspace : Workspace) : Environment :=
  match workspace.files.lookup ".env" with
  | some (.file octets) => EnvironmentFile.loadFile workspace.environment octets
  | _ => workspace.environment

def configuration (workspace : Workspace) : Configuration :=
  .ofEnvironment workspace.loadedEnvironment

end Workspace

end CrawlAudit

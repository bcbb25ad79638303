import CrawlAudit.Command.Workspace
import CrawlAudit.Derivation
import CrawlAudit.Query.Metrics
import CrawlAudit.Query.Suggest

/-!
# Programs

The two programs: one runs a query on the database, the other derives the records of a crawl.
-/

namespace CrawlAudit

/-- Why a program ends early. -/
inductive ProgramFault where
  | failure (fault : Fault)
  /-- The settings file is missing or cannot be read. -/
  | settingsUnreadable
  /-- The settings file is not text. -/
  | settingsNotText
  /-- The place of the output is taken by something else. -/
  | outputBlocked

def ProgramFault.message : ProgramFault → String
  | .failure fault => fault.message?.getD "the storage cannot be used"
  | .settingsUnreadable => "the settings cannot be read"
  | .settingsNotText => "the settings are not text"
  | .outputBlocked => "there is no place for the output"

/-- What a program leaves: its output, the fault that ended it, and the sink it wrote to. -/
structure Outcome where
  output : String
  fault : Option ProgramFault
  sink : Option Sink

namespace Outcome

def failed (fault : ProgramFault) : Outcome :=
  ⟨"", some fault, none⟩

def exitCode (outcome : Outcome) : Nat :=
  if outcome.fault.isSome then 1 else 0

end Outcome

namespace Program

def pagesFlag : String :=
  "--urls-done"

def isFlag (arg : String) : Bool :=
  "--".toList.isPrefixOf arg.toList

/-- The first argument that is neither a flag nor the value of one. -/
def settingsPath? : List String → Option String
  | [] => none
  | arg :: args =>
    if arg == pagesFlag then settingsPath? (args.drop 1)
    else if isFlag arg then settingsPath? args
    else some arg
termination_by args => args.length

def settings (workspace : Workspace) (path : String) : Except ProgramFault QuerySettings :=
  match workspace.file? path with
  | none => .error .settingsUnreadable
  | some octets =>
    match Utf8.decode? octets with
    | none => .error .settingsNotText
    | some cs => (QuerySettings.ofText (String.ofList cs)).mapError .failure

/-- Which groups the arguments ask to keep. -/
def kept (args : List String) : Except Fault (Group → Bool) :=
  match Backend.flagValue? pagesFlag args with
  | none => .ok MetricsQuery.keepAll
  | some text =>
    match Decimal.word? 64 text.toList with
    | some urlsDone => .ok (MetricsQuery.keepAbove (MetricsQuery.minimumPages urlsDone))
    | none => .error (.config (.invalidPageCount text))

def answer (configuration : Configuration) (tables : Except Fault TableStore)
    (settings : QuerySettings) (args : List String) : Except Fault Json := do
  let check : FieldCheck := if configuration.strictFields then .strict else .advisory
  if args.contains "--suggest" then
    let store ← tables
    let query : SuggestQuery :=
      ⟨.crawl, check, configuration.maxResults, configuration.maxChildren⟩
    let outputs ← query.run store settings (Resolver.ofRequests store)
      (args.contains "--relevance")
    return .array (outputs.map PatternOutput.toDocument)
  else
    let query : MetricsQuery := ⟨.crawl, check, ← kept args⟩
    let result ← query.run (← tables) settings
    return result.toDocument

def query (workspace : Workspace) (args : List String) : Outcome :=
  let result : Except ProgramFault Json := do
    let configuration := workspace.configuration
    let path ←
      match settingsPath? args with
      | some path => .ok path
      | none => .error (.failure (.config .missingSettingsPath))
    let settings ← settings workspace path
    let databasePath := configuration.databasePath
    if workspace.opensDatabase databasePath then
      (answer configuration (workspace.store databasePath) settings args).mapError .failure
    else .error (.failure .databaseUnavailable)
  match result with
  | .ok document => ⟨document.laidOut ++ "\n", none, none⟩
  | .error fault => .failed fault

def sinkPath (configuration : Configuration) : Backend → String
  | .lines => configuration.outputPath
  | .tables => configuration.databasePath

/-- Why there is no place for the records: a file stands where a folder has to be, or what stands
at the path of the database is none. -/
def obstacle? (workspace : Workspace) (backend : Backend) (path : String) : Option ProgramFault :=
  let cutOff := ((Workspace.names? path).map workspace.isCutOff).getD false
  match backend, workspace.file? path with
  | .lines, file => if cutOff || file.isSome then some .outputBlocked else none
  | .tables, file =>
    if cutOff then some .outputBlocked
    else if file.any (!·.isEmpty) || (workspace.directory? path).isSome then
      some (.failure .databaseUnavailable)
    else none

/-- The program that derives the records of a crawl. -/
def metrics (workspace : Workspace) (args : List String) (stamp : Int64) : Outcome :=
  let configuration := workspace.configuration
  let backend := Backend.ofArguments args
  let directory := workspace.directory? configuration.dataDir
  match obstacle? workspace backend (sinkPath configuration backend) with
  | some fault => .failed fault
  | none =>
    let (result, sink) := Derivation.run configuration directory (Resolver.ofUrlStream directory)
      (.create backend stamp)
    match result with
    | .ok _ => ⟨"", none, some sink⟩
    | .error fault => ⟨"", some (.failure fault), some sink⟩

end Program

end CrawlAudit

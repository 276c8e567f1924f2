import Colloquy.Command.Failure
import Colloquy.Command.Line
import Colloquy.Configuration.Load
import Colloquy.FrontEnd
import Colloquy.Json.Print
import Colloquy.Provider
import Colloquy.Run.Record
import Colloquy.Terminal.Summary
import Colloquy.Variables.File
import Colloquy.Workflow.File

/-!
# Commands

A command checks a workflow, runs it, or adds the files of a directory to an index.  What
it finds around it is given to it, and what it prints and leaves behind is its result.
-/

namespace Colloquy
namespace Command

/-- What a command finds around it. -/
structure Context (τ : Type) where
  files : Files
  environment : Variables
  machine : Script.Machine
  send : Http.Transport τ
  /-- What was saved of a collection in the index at a path. -/
  stored : (path collection : String) -> Option Collection := fun _ _ => none
  /-- The number of the run. -/
  identifier : Nat
  startedAt : Moment
  /-- How long the run has taken. -/
  milliseconds : τ -> Nat

/-- A collection that was saved in the index at a path. -/
structure Saved where
  path : String
  collection : String
  content : Option Collection

/-- What a command printed, whether it failed, and what it left behind. -/
structure Result where
  out : String := ""
  err : String := ""
  failure : Option Failure := none
  saved : Option Saved := none

namespace Result

def failed (f : Failure) : Result where
  failure := some f

/-- The status that a command ends with. -/
def status (r : Result) : Nat :=
  if r.failure.isSome then 1 else 0

/-- All that goes to the error output. -/
def errors (r : Result) : String :=
  match r.failure with
  | some f => r.err ++ f.text
  | none => r.err

end Result

def setupFailure (e : SetupError) : Failure where
  message := e.message

/-!
# Checking
-/

def validate (f : Files) (colored : Bool) (path : String) : Result :=
  match Workflow.Program.ofFile f path with
  | .ok p =>
      { out := Terminal.Notice.success.render colored (path ++ " is valid") ++
          Terminal.agents colored p }
  | .error e =>
      { err := Terminal.Notice.error.render colored e.message
        failure := some ⟨path ++ " failed validation", []⟩ }

/-!
# Running
-/

/-- The index that a configuration names, as it was last saved. -/
def openIndex (stored : String -> String -> Option Collection) (r : Configuration.Retrieval)
    (path : String) : Except SetupError Index :=
  (Chunk.Settings.ofSizes r.chunkSize r.chunkOverlap).map fun settings =>
    let saved := stored path r.collection
    { settings := settings, onDisk := true, collection := saved, saved := saved }

/-- The index for searches, if the configuration names one. -/
def searchIndex (c : Context τ) (r : Configuration.Retrieval) : Except SetupError (Option Index) :=
  match r.indexPath with
  | none => .ok none
  | some path => (openIndex c.stored r path).map some

def services (c : Context τ) (executor : Script.Executor) (client : Client)
    (index : Option Index) : Services τ where
  complete := client.complete c.send
  search t text limit :=
    match index with
    | none => (.error Index.missing, t)
    | some x => x.find (client.embed c.send) t text limit
  execute t source := (executor.execute c.machine source, t)

def announcement (colored : Bool) (path : String) (p : Provider) : String :=
  Terminal.banner colored ++
    Terminal.Notice.info.render colored
      ("Running " ++ path ++ " with " ++ p.name ++ " (" ++ p.model ++ ")") ++ "\n"

/-- Runs all agents and reports on them. -/
def runProgram (c : Context τ) (t : τ) (config : Configuration) (colored json quiet : Bool)
    (path : String) (p : Provider) (services : Services τ) (program : Workflow.Program) :
    Result :=
  let front : FrontEnd := { screen := if quiet || json then .silent else .terminal colored }
  let ((t, front), agents) :=
    runAgents services.surroundings config.options (t, front) program.agents
  let report : Report := agents.map Finished.report
  let failed := report.failed.length
  { out :=
      if json then
        (report.record c.identifier c.startedAt (c.milliseconds t)).pretty ++ "\n"
      else
        announcement colored path p ++ front.printed ++
          Terminal.report colored (Identifier.text c.identifier) (c.milliseconds t) report
    err := if json then "" else Terminal.failures colored report
    failure :=
      if failed == 0 then none
      else some ⟨toString failed ++ " of " ++ toString report.length ++ " agents failed", []⟩ }

def run (c : Context τ) (t : τ) (config : Configuration) (colored json quiet : Bool)
    (path : String) : Result :=
  match Workflow.Program.ofFile c.files path with
  | .error e => .failed ⟨"Failed to load workflow " ++ path, e.message :: e.causes⟩
  | .ok program =>
      let setup := do
        let p <- Provider.ofBackend c.environment config.backend
        let client <- p.client
        let index <- searchIndex c config.retrieval
        return (p, services c config.executor client index)
      match setup with
      | .error e => .failed (setupFailure e)
      | .ok (p, services) => runProgram c t config colored json quiet path p services program

/-!
# Indexing
-/

def indexTotals (totals : Index.Totals) (stored : Nat) : String :=
  "Indexed " ++ toString totals.documents ++ " documents as " ++ toString totals.snippets ++
    " snippets (" ++ toString stored ++ " stored)"

/-- Adds files to an index and saves it. -/
def addToIndex (c : Context τ) (t : τ) (r : Configuration.Retrieval) (colored : Bool)
    (directory path : String) (client : Client) (x : Index) (files : List Index.File) :
    Result :=
  let announced := Terminal.Notice.info.render colored
    ("Indexing " ++ directory ++ " into " ++ path)
  match x.addFiles (client.embed c.send) t files with
  | (.error e, _, _) => { out := announced, failure := some ⟨e.message, []⟩ }
  | (.ok totals, _, x) =>
      let warning :=
        if totals.documents == 0 then
          Terminal.Notice.warning.render colored
            ("No readable files found under " ++ directory)
        else ""
      { out := announced ++ warning ++
          Terminal.Notice.success.render colored (indexTotals totals x.size)
        saved := some ⟨path, r.collection, x.save.saved⟩ }

def index (c : Context τ) (t : τ) (config : Configuration) (colored : Bool)
    (directory : String) : Result :=
  match config.retrieval.indexPath with
  | none => .failed ⟨"retrieval.index_path must be set to build a snippet index", []⟩
  | some path =>
      match c.files directory with
      | some (.directory files) =>
          let setup := do
            let p <- Provider.ofBackend c.environment config.backend
            let client <- p.client
            let x <- openIndex c.stored config.retrieval path
            return (client, x)
          match setup with
          | .error e => .failed (setupFailure e)
          | .ok (client, x) =>
              addToIndex c t config.retrieval colored directory path client x files
      | _ => .failed ⟨directory ++ " is not a directory", []⟩

/-!
# All commands
-/

/-- The file whose variables are set before anything else is done. -/
def variablesFile : String := ".env"

/-- The variables with those of the file in the directory. -/
def Context.withVariablesFile (c : Context τ) : Context τ :=
  match c.files variablesFile with
  | some (.file content) => { c with environment := c.environment.withFile content }
  | _ => c

def withConfiguration (c : Context τ) (path : String) (act : Configuration -> Result) :
    Result :=
  match Configuration.loadOrDefault c.files c.environment path with
  | .error e => .failed ⟨"Failed to load configuration from " ++ path, e.message :: e.causes⟩
  | .ok config => act config

/-- Does what a command line asks for. -/
def execute (c : Context τ) (t : τ) (l : Line) : Result :=
  let c := c.withVariablesFile
  let colored := !l.noColor
  match l.task with
  | .validate workflow => validate c.files colored workflow
  | .run workflow json quiet =>
      withConfiguration c l.config fun config => run c t config colored json quiet workflow
  | .index directory =>
      withConfiguration c l.config fun config => index c t config colored directory

end Command
end Colloquy

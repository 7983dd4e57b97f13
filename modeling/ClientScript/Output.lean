import ClientScript.Emission.Script
import ClientScript.Files

namespace ClientScript

def Names.fileName (names : Names) (id : Int32) : String :=
  (names.script id).map (fun c => if c = '/' ∨ c = '\\' then '_' else c) ++ ".cs2"

inductive OutputFault
  | file (fault : FileFault)
  | scripts (failed total : Nat)
  deriving DecidableEq, Repr

structure Logged (α : Type) where
  log   : List String
  value : α
  deriving Repr

namespace Output

def failureLine (label : String) (id : Int32) (e : EmitError) : String :=
  "[" ++ label ++ "] script " ++ toString id.toInt ++ ": " ++ e.message

-- Writes the scripts that have a text, and counts those that have none. It stops at a file that
-- cannot be written.
def writeScripts [Monad m] (files : Files m) (directory : Path) (names : Names) (unit : String) :
    List Script → m (Logged (Except FileFault Nat))
  | []      => return { log := [], value := .ok 0 }
  | s :: ss =>
    match s.emit names unit with
    | .ok text => do
      match ← files.writeText (.inside directory (names.fileName s.id)) text with
      | .ok ()       => writeScripts files directory names unit ss
      | .error fault => return { log := [], value := .error fault }
    | .error e => do
      let rest ← writeScripts files directory names unit ss
      return {
        log   := failureLine "strict" s.id e :: rest.log
        value := rest.value.map (· + 1) }

def summaryLine (written total : Nat) (directory : Path) : String :=
  "[strict] wrote " ++ toString written ++ " of " ++ toString total ++ " scripts to " ++
    directory.text

def writeModule [Monad m] (files : Files m) (directory : Path) (names : Names) (unit : String)
    (source : Module) : m (Logged (Except OutputFault Unit)) := do
  match ← files.makeDirectories directory with
  | .error fault => return { log := [], value := .error (.file fault) }
  | .ok ()       =>
    let done ← writeScripts files directory names unit source.scripts
    match done.value with
    | .error fault => return { log := done.log, value := .error (.file fault) }
    | .ok failed   =>
      let total := source.scripts.length
      return {
        log   := done.log ++ [summaryLine (total - failed) total directory]
        value := if failed = 0 then .ok () else .error (.scripts failed total) }

def print (names : Names) (unit : String) (source : Module) :
    Logged (Except OutputFault Unit) × String :=
  let results := source.scripts.map fun s => (s.id, s.emit names unit)
  let texts := results.filterMap fun (_, result) => result.toOption
  let log := results.filterMap fun (id, result) =>
    match result with
    | .ok _    => none
    | .error e => some (failureLine "cs2" id e)
  let value :=
    if log.isEmpty then .ok () else .error (.scripts log.length source.scripts.length)
  ({ log, value }, "\n".intercalate texts)

end Output
end ClientScript

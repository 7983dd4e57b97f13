import ClientScript.CommandLine.Failure
import ClientScript.CommandLine.Usage
import ClientScript.Encoding.Reader
import ClientScript.Filter

namespace ClientScript.CommandLine

structure Outcome where
  code   : Nat
  stdout : String
  stderr : String
  deriving DecidableEq, Repr

def linesText (lines : List String) : String :=
  String.join (lines.map (· ++ "\n"))

namespace Outcome

def printed (lines : List String) : Outcome :=
  { code := 0, stdout := linesText lines, stderr := "" }

def failed (log : List String) (stdout : String) (f : Failure) : Outcome :=
  { code := 1, stdout, stderr := linesText log ++ f.report }

def ofEmission (log : List String) (stdout : String) (done : Logged (Except OutputFault Unit)) :
    Outcome :=
  match done.value with
  | .ok ()       => { code := 0, stdout, stderr := linesText (log ++ done.log) }
  | .error fault => failed (log ++ done.log) stdout (.output fault)

end Outcome

def EmitOptions.unknownPass? (o : EmitOptions) : Option String :=
  o.skipped.find? fun name => !(Pass.all.map Pass.name).contains name

def EmitOptions.unit (o : EmitOptions) : String :=
  if o.tabs then "\t" else "    "

-- `complaint` is what the JSON library says of a text that is not the form of a module.
def moduleOfText (complaint : String → String) (path text : String) : Except Failure Module :=
  match Module.ofText? text with
  | none        => .error (.moduleText path (complaint text))
  | some source => .ok source

def loadModule [Monad m] (files : Files m) (complaint : String → String) (path : String) :
    m (Except Failure Module) := do
  match ← files.readText (.given path) with
  | .error fault => return .error (.moduleFile path fault)
  | .ok text     => return moduleOfText complaint path text

-- The directory of name tables: the one that is asked for, which must be there, or the usual one if
-- it is there.
def namesDirectory [Monad m] (files : Files m) (config : Option String) :
    Option String → m (Except Failure (Option Path))
  | some path => do
    if ← files.isDirectory (.given path) then return .ok (some (.given path))
    else return .error (.noNames path)
  | none      =>
    match config with
    | none      => return .ok none
    | some base => do
      let path := Path.inside (.inside (.given base) "cs2") "names"
      return .ok (if ← files.isDirectory path then some path else none)

def loadNames [Monad m] (files : Files m) (config : Option String) (path : Option String) :
    m (Logged (Except Failure NameTable)) := do
  match ← namesDirectory files config path with
  | .error f     => return { log := [], value := .error f }
  | .ok none     => return { log := [], value := .ok {} }
  | .ok (some d) =>
    match ← NameTable.load files d with
    | .error fault => return { log := [], value := .error (.names fault) }
    | .ok t        => return {
        log   := ["[cs2] loaded " ++ toString t.size ++ " names from " ++ d.text]
        value := .ok t }

def dumpText (names : Names) (s : Script) : String :=
  "=== IR: " ++ names.script s.id ++ " ===\n" ++ s.dump ++ "=== end IR ===\n"

def passLog (o : EmitOptions) (names : Names) (changes : List (Pass × Bool)) (left : Module) :
    List String :=
  let changing := changes.filter fun (_, changed) => changed
  let dumped :=
    if o.dump then left.scripts.filter fun s => accepts o.filter (names.script s.id) else []
  changing.map (fun (p, _) => "[cs2] pass " ++ p.name ++ " changed the module") ++
    dumped.map (dumpText names)

def emitLoaded [Monad m] (files : Files m) (o : EmitOptions) (log : List String) (names : Names)
    (source : Module) : m Outcome := do
  let (left, changes) := (Pipeline.standard o.skipped).run source
  let log := log ++ passLog o names changes left
  match o.output with
  | none      =>
    let (done, text) := Output.print names o.unit left
    return .ofEmission log text done
  | some path =>
    return .ofEmission log "" (← Output.writeModule files (.given path) names o.unit left)

def runEmit [Monad m] (files : Files m) (config : Option String) (complaint : String → String)
    (o : EmitOptions) : m Outcome := do
  match o.unknownPass? with
  | some name => return .failed [] "" (.unknownPass name)
  | none      =>
    match ← loadModule files complaint o.input with
    | .error f   => return .failed [] "" f
    | .ok source =>
      let log := [
        "[cs2] loaded " ++ toString source.scripts.length ++ " scripts from " ++ o.input]
      let loaded ← loadNames files config o.names
      let log := log ++ loaded.log
      match loaded.value with
      | .error f => return .failed log "" f
      | .ok t    => emitLoaded files o log t.names source

def runCommand [Monad m] (files : Files m) (config : Option String) (complaint : String → String) :
    Command → m Outcome
  | .emit o     => runEmit files config complaint o
  | .passes     => return .printed (Pass.all.map Pass.name)
  | .version    => return .printed [version]
  | .help topic => return .printed (usage topic)

-- Runs the program. Arguments that ask for nothing get its usage, as an error. `config` is where
-- programs keep their configuration.
def run [Monad m] (files : Files m) (config : Option String) (arguments : List String)
    (complaint : String → String := fun _ => noModule) : m Outcome :=
  match readArguments arguments with
  | some command => runCommand files config complaint command
  | none         => return { code := 2, stdout := "", stderr := linesText (usage .program) }

def configDirectory (xdg home : Option String) : Option String :=
  match xdg with
  | some path => if path.toList.head? = some '/' then some path else inHome
  | none      => inHome
where
  inHome := (home.filter (· ≠ "")).map fun path => (Path.inside (.given path) ".config").text

end ClientScript.CommandLine

import ClientScript.Text.Lines

namespace ClientScript.CommandLine

structure EmitOptions where
  input   : String
  names   : Option String := none
  output  : Option String := none
  skipped : List String := []
  dump    : Bool := false
  filter  : Option String := none
  tabs    : Bool := false
  deriving DecidableEq, Repr

inductive Topic
  | program
  | emit
  | passes
  | help
  deriving DecidableEq, Repr

inductive Command
  | emit (o : EmitOptions)
  | passes
  | version
  | help (topic : Topic)
  deriving DecidableEq, Repr

-- The shape of one argument. A dash alone is plain, and two end the options.
inductive Word
  | plain (s : String)
  | option (name : String) (value : Option String)
  | letters (cs : List Char)
  | ending
  deriving DecidableEq, Repr

def Word.ofArgument (s : String) : Word :=
  match s.toList with
  | ['-', '-']       => ending
  | '-' :: '-' :: cs =>
    match Text.splitAtFirst? '=' cs with
    | some (name, value) => option (String.ofList name) (some (String.ofList value))
    | none               => option (String.ofList cs) none
  | '-' :: c :: cs   => letters (c :: cs)
  | _                => plain s

structure Draft where
  input   : Option String := none
  names   : Option String := none
  output  : Option String := none
  skipped : List String := []
  dump    : Bool := false
  filter  : Option String := none
  tabs    : Bool := false
  deriving DecidableEq, Repr

namespace Draft

def takesValue (name : String) : Bool :=
  ["names", "output", "skip-pass", "filter"].contains name

-- Only passes may be given more than once. A path is never empty.
def set (d : Draft) (name value : String) : Option Draft :=
  match name with
  | "names"     => if d.names.isNone ∧ value ≠ "" then some { d with names := value } else none
  | "output"    => if d.output.isNone ∧ value ≠ "" then some { d with output := value } else none
  | "skip-pass" => some { d with skipped := d.skipped ++ [value] }
  | "filter"    => if d.filter.isNone then some { d with filter := value } else none
  | _           => none

def raise (d : Draft) (name : String) : Option Draft :=
  match name with
  | "dump-ir" => if d.dump then none else some { d with dump := true }
  | "tabs"    => if d.tabs then none else some { d with tabs := true }
  | _         => none

def place (d : Draft) (input : String) : Option Draft :=
  if d.input.isNone ∧ input ≠ "" then some { d with input } else none

def finish (d : Draft) : Option Command :=
  d.input.map fun input =>
    .emit { d with input }

end Draft

def value? (s : String) : Option String :=
  match Word.ofArgument s with
  | .plain s => some s
  | _        => none

-- Arguments are read from left to right, and the first that is wrong decides. A request for help ends
-- the reading.
def readEmit (d : Draft) : List String → Option Command
  | []        => d.finish
  | s :: rest =>
    match Word.ofArgument s with
    | .plain input               => do readEmit (← d.place input) rest
    | .ending                    => do (← rest.foldlM Draft.place d).finish
    | .option name (some value)  => do readEmit (← d.set name value) rest
    | .option name none          =>
      if name = "help" then some (.help .emit)
      else if Draft.takesValue name then
        match rest with
        | v :: rest => do readEmit (← d.set name (← value? v)) rest
        | []        => none
      else do readEmit (← d.raise name) rest
    | .letters ('h' :: _)        => some (.help .emit)
    | .letters ['o']             =>
      match rest with
      | v :: rest => do readEmit (← d.set "output" (← value? v)) rest
      | []        => none
    | .letters ('o' :: '=' :: v) => do readEmit (← d.set "output" (String.ofList v)) rest
    | .letters ('o' :: v)        => do readEmit (← d.set "output" (String.ofList v)) rest
    | .letters _                 => none

def readPasses : List String → Option Command
  | []        => some .passes
  | s :: rest =>
    match Word.ofArgument s with
    | .option "help" none => some (.help .passes)
    | .letters ('h' :: _) => some (.help .passes)
    | .ending             => if rest.isEmpty then some .passes else none
    | _                   => none

def readHelp : List String → Option Command
  | []         => some (.help .program)
  | ["emit"]   => some (.help .emit)
  | ["passes"] => some (.help .passes)
  | ["help"]   => some (.help .help)
  | _          => none

def readArguments : List String → Option Command
  | []               => none
  | "emit" :: rest   => readEmit {} rest
  | "passes" :: rest => readPasses rest
  | "help" :: rest   => readHelp rest
  | s :: _           =>
    match Word.ofArgument s with
    | .option "help" none    => some (.help .program)
    | .option "version" none => some .version
    | .letters ('h' :: _)    => some (.help .program)
    | .letters ('V' :: _)    => some .version
    | _                      => none

end ClientScript.CommandLine

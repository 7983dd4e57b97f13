import ClientScript.Names.Directory
import ClientScript.Output
import ClientScript.Pipeline
import ClientScript.Text.Quoted

namespace ClientScript.CommandLine

inductive Failure
  | unknownPass (name : String)
  | moduleFile (path : String) (fault : FileFault)
  | moduleText (path message : String)
  | noNames (path : String)
  | names (fault : NamesFault)
  | output (fault : OutputFault)
  deriving DecidableEq, Repr

def fileMessage (fault : FileFault) : String :=
  "I/O error: " ++ fault.message

def parseMessage (path : Path) (message : String) : String :=
  "failed to parse " ++ path.text ++ ": " ++ message

-- Said of a text that is not the JSON form of a module, where nothing else is known of it.
def noModule : String :=
  "the text is not a module in JSON form"

namespace Failure

def message : Failure → String
  | unknownPass name                => "unknown pass " ++ Text.quoted name ++ " (valid passes: " ++
      ", ".intercalate (Pass.all.map Pass.name) ++ ")"
  | moduleFile path _               => "failed to load IR module " ++ path
  | moduleText path _               => "failed to load IR module " ++ path
  | noNames path                    => "names directory " ++ path ++ " does not exist"
  | names (.file fault)             => fileMessage fault
  | names (.table path fault)       => parseMessage path fault.message
  | output (.file fault)            => fileMessage fault
  | output (.scripts failed total)  =>
    toString failed ++ " of " ++ toString total ++ " scripts failed to emit"

def causes : Failure → List String
  | moduleFile _ fault      => [fileMessage fault, fault.message]
  | moduleText path message => [parseMessage (.given path) message]
  | names (.file fault)     => [fault.message]
  | output (.file fault)    => [fault.message]
  | _                       => []

def causeText (lead rest cause : String) : String :=
  let lines := (cause.toList.splitOn '\n').map String.ofList
  "\n" ++ lead ++ ("\n" ++ rest).intercalate lines

def report (f : Failure) : String :=
  let causes :=
    match f.causes with
    | []      => ""
    | [cause] => "\n\nCaused by:" ++ causeText "    " "    " cause
    | causes  => "\n\nCaused by:" ++ String.join (causes.mapIdx fun n cause =>
        causeText ("    " ++ toString n ++ ": ") "       " cause)
  "Error: " ++ f.message ++ causes ++ "\n"

end Failure
end ClientScript.CommandLine

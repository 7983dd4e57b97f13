import ClientScript.CommandLine.Run

namespace ClientScript

namespace Disk

def faultOf : IO.Error → FileFault
  | .noFileOrDirectory ..       => .missing
  | .alreadyExists ..           => .taken
  | .inappropriateType _ code _ => if code = 20 then .notDirectory else .isDirectory
  | .invalidArgument _ 36 _     => .tooLong
  | .permissionDenied ..        => .other "Permission denied (os error 13)"
  | e                           => .other (toString e)

def attempt (action : IO α) : IO (Except FileFault α) := do
  match ← action.toBaseIO with
  | .ok a    => return .ok a
  | .error e => return .error (faultOf e)

-- Only a directory has itself inside of it.
def isDirectory (path : String) : IO Bool := do
  return (← attempt (IO.FS.Handle.mk (path ++ "/.") .read)).isOk

-- A file that refuses to be read is one all the same.
def isFile (path : String) : IO Bool := do
  if ← isDirectory path then return false
  match ← attempt (IO.FS.Handle.mk path .read) with
  | .ok _             => return true
  | .error (.other _) => return true
  | .error _          => return false

def readText (path : String) : IO (Except FileFault String) := do
  if ← isDirectory path then return .error .isDirectory
  match ← attempt (do (← IO.FS.Handle.mk path .read).readBinToEnd) with
  | .error fault => return .error fault
  | .ok bytes    =>
    match String.fromUTF8? bytes with
    | some text => return .ok text
    | none      => return .error .notText

def makeDirectory (path : String) : IO (Except FileFault Unit) :=
  attempt (IO.FS.createDir path)

def writeText (path text : String) : IO (Except FileFault Unit) :=
  if path.toList.contains '\x00' then return .error .nulInName
  else attempt (IO.FS.writeFile path text)

def files : Files IO where
  isFile p        := isFile p.text
  isDirectory p   := isDirectory p.text
  readText p      := readText p.text
  makeDirectory p := makeDirectory p.text
  writeText p s   := writeText p.text s

end Disk
end ClientScript

open ClientScript in
def main (arguments : List String) : IO UInt32 := do
  let xdg ← IO.getEnv "XDG_CONFIG_HOME"
  let home ← IO.getEnv "HOME"
  let config := CommandLine.configDirectory xdg home
  let outcome ← CommandLine.run Disk.files config arguments
  (← IO.getStdout).putStr outcome.stdout
  (← IO.getStderr).putStr outcome.stderr
  return .ofNat outcome.code

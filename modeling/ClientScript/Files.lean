import ClientScript.Path

namespace ClientScript

inductive FileFault
  | missing
  | taken
  | notDirectory
  | isDirectory
  | notText
  | nulInName
  | tooLong
  | other (message : String)
  deriving DecidableEq, Repr

def FileFault.message : FileFault → String
  | missing       => "No such file or directory (os error 2)"
  | taken         => "File exists (os error 17)"
  | notDirectory  => "Not a directory (os error 20)"
  | isDirectory   => "Is a directory (os error 21)"
  | notText       => "stream did not contain valid UTF-8"
  | nulInName     => "file name contained an unexpected NUL byte"
  | tooLong       => "File name too long (os error 36)"
  | other message => message

structure Files (m : Type → Type) where
  isFile        : Path → m Bool
  isDirectory   : Path → m Bool
  readText      : Path → m (Except FileFault String)
  makeDirectory : Path → m (Except FileFault Unit)
  writeText     : Path → String → m (Except FileFault Unit)

namespace Files

variable [Monad m] (files : Files m)

def ensureDirectory (p : Path) : m (Except FileFault Unit) := do
  match ← files.makeDirectory p with
  | .ok ()       => return .ok ()
  | .error fault => return if ← files.isDirectory p then .ok () else .error fault

-- The first of some directories, each of which lies in the next one. The outer ones are only made
-- where one of them is missing.
def makeInward : List Path → m (Except FileFault Unit)
  | []         => return .ok ()
  | p :: outer => do
    match ← files.ensureDirectory p with
    | .error .missing =>
      match ← makeInward outer with
      | .ok ()       => files.ensureDirectory p
      | .error fault => return .error fault
    | result => return result

def makeDirectories (p : Path) : m (Except FileFault Unit) :=
  files.makeInward (p :: p.outward)

end Files
end ClientScript

import ClientScript.Files
import ClientScript.Names.Table

namespace ClientScript

inductive NamesFault
  | file (fault : FileFault)
  | table (path : Path) (fault : TableFault)
  deriving DecidableEq, Repr

namespace NameTable

def path (directory : Path) (kind : NameKind) : Path :=
  .inside directory (kind.plural ++ ".tsv")

-- Takes in the tables of some kinds, one after another. A table that is no file is left out.
def loadKinds [Monad m] (files : Files m) (directory : Path) :
    List NameKind → NameTable → m (Except NamesFault NameTable)
  | [],            t => return .ok t
  | kind :: kinds, t => do
    let path := path directory kind
    if ← files.isFile path then
      match ← files.readText path with
      | .error fault => return .error (.file fault)
      | .ok text     =>
        match t.read kind text with
        | .error fault => return .error (.table path fault)
        | .ok t        => loadKinds files directory kinds t
    else loadKinds files directory kinds t

def load [Monad m] (files : Files m) (directory : Path) : m (Except NamesFault NameTable) :=
  loadKinds files directory NameKind.all {}

end NameTable
end ClientScript

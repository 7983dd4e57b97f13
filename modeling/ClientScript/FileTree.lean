import ClientScript.Files

namespace ClientScript

inductive Content
  | text (s : String)
  | binary
  deriving DecidableEq, Repr

-- A locked node is a file that can neither be read nor written, with what is said then.
inductive Node
  | file (content : Content)
  | locked (message : String)
  | directory
  deriving DecidableEq, Repr

structure FileTree where
  nodes : List (List String × Node) := []
  deriving DecidableEq, Repr

namespace FileTree

def start (here : List String) (p : Path) : List String :=
  if p.isAbsolute then [] else here

def node? (t : FileTree) : List String → Option Node
  | []   => some .directory
  | path => t.nodes.lookup path

def put (t : FileTree) (path : List String) (n : Node) : FileTree :=
  { nodes := t.nodes.filter (fun (other, _) => other ≠ path) ++ [(path, n)] }

def step (here : List String) (name : String) : List String :=
  if name = "." then here
  else if name = ".." then here.dropLast
  else here ++ [name]

def next (t : FileTree) (here : List String) (name : String) : Except FileFault (List String) :=
  match t.node? here with
  | none            => .error .missing
  | some .directory => if name.utf8ByteSize ≤ 255 then .ok (step here name) else .error .tooLong
  | some _          => .error .notDirectory

-- Where some steps lead. The last one may lead to nothing.
def walk (t : FileTree) (here names : List String) : Except FileFault (List String) :=
  names.foldlM t.next here

def checkText (p : Path) : Except FileFault Unit :=
  if p.text.toList.contains '\x00' then .error .nulInName
  else if p.text.utf8ByteSize < 4096 then .ok ()
  else .error .tooLong

def find? (t : FileTree) (here : List String) (p : Path) : Except FileFault Node := do
  checkText p
  match t.node? (← t.walk (start here p) p.steps) with
  | some n => return n
  | none   => throw .missing

def isFile (t : FileTree) (here : List String) (p : Path) : Bool :=
  match t.find? here p with
  | .ok n    => n ≠ .directory
  | .error _ => false

def isDirectory (t : FileTree) (here : List String) (p : Path) : Bool :=
  match t.find? here p with
  | .ok .directory => true
  | _              => false

def readText (t : FileTree) (here : List String) (p : Path) : Except FileFault String := do
  match ← t.find? here p with
  | .file (.text s) => return s
  | .file .binary   => throw .notText
  | .locked message => throw (.other message)
  | .directory      => throw .isDirectory

-- A slash at the end of what is to be made does not count.
def makeDirectory (t : FileTree) (here : List String) (p : Path) : Except FileFault FileTree := do
  checkText p
  let path ← t.walk (start here p) p.names
  match t.node? path with
  | some _ => throw .taken
  | none   => return t.put path .directory

def writeText (t : FileTree) (here : List String) (p : Path) (s : String) :
    Except FileFault FileTree := do
  checkText p
  let path ← t.walk (start here p) p.steps
  match t.node? path with
  | some .directory        => throw .isDirectory
  | some (.locked message) => throw (.other message)
  | _                      => return t.put path (.file (.text s))

def filesBelow (t : FileTree) (here : List String) : List (List String × Content) :=
  t.nodes.filterMap fun (path, n) =>
    match here.isPrefixOf? path, n with
    | some rest, .file content => some (rest, content)
    | _, _                     => none

-- Keeps a tree in which something fails.
def updated (t : FileTree) : Except FileFault FileTree → Except FileFault Unit × FileTree
  | .ok t    => (.ok (), t)
  | .error e => (.error e, t)

def files (here : List String) : Files (StateM FileTree) where
  isFile p        := fun t => (t.isFile here p, t)
  isDirectory p   := fun t => (t.isDirectory here p, t)
  readText p      := fun t => (t.readText here p, t)
  makeDirectory p := fun t => t.updated (t.makeDirectory here p)
  writeText p s   := fun t => t.updated (t.writeText here p s)

end FileTree
end ClientScript

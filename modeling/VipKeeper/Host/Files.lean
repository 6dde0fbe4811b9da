import VipKeeper.Fault
import VipKeeper.Ordered
import VipKeeper.Text.Lines

/-! Files of a host: what lies at which path, and the operations on it. -/

namespace VipKeeper

/-- What lies at a path. -/
inductive Content where
  | file (bytes : List UInt8)
  | directory
  | pipe
  deriving DecidableEq

namespace Path

/-- The names that lead to a file; empty names and names of the same directory lead nowhere. -/
def names (path : String) : List String :=
  ((path.toList.splitOn '/').map String.ofList).filter (fun name => !name.isEmpty && name != ".")

def key (names : List String) : String :=
  String.intercalate "/" names

/-- The path of a name in a directory. -/
def inside (directory name : String) : String :=
  directory ++ "/" ++ name

def isAbsolute (path : String) : Bool :=
  path.toList.head? == some '/'

/-- The longest name of a file, in bytes. -/
def longestName : Nat := 255

end Path

/-- The files of a host, by the key of their path. The root directory is always there. -/
structure Files where
  contents : OrderedMap String Content

namespace Files

def empty : Files := ⟨.empty⟩

/-- What lies at the end of a path whose first names are walked already, if anything does. -/
def walk (files : Files) : List String → List String → Except FileProblem (Option Content)
  | _, [] => .ok (some .directory)
  | walked, name :: rest =>
    if Path.longestName < name.utf8ByteSize then .error .nameTooLong
    else
      let here := walked ++ [name]
      match rest, files.contents.get? (Path.key here) with
      | [], content => .ok content
      | _ :: _, none => .error .missing
      | _ :: _, some .directory => walk files here rest
      | _ :: _, some _ => .error .notDirectory

def find (files : Files) (path : String) : Except FileProblem (Option Content) :=
  files.walk [] (Path.names path)

def get (files : Files) (path : String) : Except FileProblem Content :=
  match files.find path with
  | .ok (some content) => .ok content
  | .ok none => .error .missing
  | .error problem => .error problem

def isFile (files : Files) (path : String) : Bool :=
  match files.get path with
  | .ok (.file _) => true
  | _ => false

def put (files : Files) (path : String) (content : Content) : Files :=
  ⟨files.contents.insert (Path.key (Path.names path)) content⟩

def remove (files : Files) (path : String) : Files :=
  ⟨files.contents.erase (Path.key (Path.names path))⟩

def read (files : Files) (path : String) : Except FileProblem (List UInt8) :=
  match files.get path with
  | .ok (.file bytes) => .ok bytes
  | .ok .directory => .error .isDirectory
  | .ok .pipe => .ok []
  | .error problem => .error problem

def readText (files : Files) (path : String) : Except FileProblem String :=
  match files.read path with
  | .ok bytes =>
    match Text.ofBytes? bytes with
    | some text => .ok text
    | none => .error .notText
  | .error problem => .error problem

/-- Writes a whole file, which is made if it is not there. What goes into a pipe is never safe. -/
def write (files : Files) (path : String) (bytes : List UInt8) : Except FileProblem Files :=
  match files.find path with
  | .error problem => .error problem
  | .ok (some .directory) => .error .isDirectory
  | .ok (some .pipe) => .error .invalid
  | .ok _ => .ok (files.put path (.file bytes))

/-- Moves a file over what lies at another path, unless that is a directory. -/
def rename (files : Files) (source target : String) : Except FileProblem Files :=
  match files.get source, files.find target with
  | .error problem, _ => .error problem
  | .ok _, .error problem => .error problem
  | .ok _, .ok (some .directory) => .error .isDirectory
  | .ok content, .ok _ => .ok ((files.remove source).put target content)

/-- The names in a directory, in order. -/
def list (files : Files) (directory : String) : List String :=
  let names := Path.names directory
  files.contents.entries.filterMap (fun (key, _) =>
    let walked := Path.names key
    if walked.length = names.length + 1 ∧ walked.take names.length = names then walked.getLast? else none)

/-! ### Replacing a file

A file is replaced by way of a new file beside it, so that its path never shows half a text. -/

/-- Where a replacement breaks off: before the new file is made, after some bytes of it are written, before
they are safe, or before it takes its place. -/
inductive Accident where
  | none
  | creating (problem : FileProblem)
  | writing (count : Nat) (problem : FileProblem)
  | syncing (problem : FileProblem)
  | renaming (problem : FileProblem)

def besidePath (path : String) : String :=
  path ++ ".tmp"

/-- The files at each moment of a replacement, the last moment first, and how it ends. -/
def replaceSteps (files : Files) (path : String) (bytes : List UInt8) (accident : Accident) :
    List Files × Except FileProblem Unit :=
  match accident, files.write (besidePath path) [] with
  | .creating problem, _ => ([files], .error problem)
  | _, .error problem => ([files], .error problem)
  | .writing count problem, .ok created =>
    ([created.put (besidePath path) (.file (bytes.take count)), created, files], .error problem)
  | .syncing problem, .ok created =>
    ([created.put (besidePath path) (.file bytes), created, files], .error problem)
  | .renaming problem, .ok created =>
    ([created.put (besidePath path) (.file bytes), created, files], .error problem)
  | .none, .ok created =>
    let written := created.put (besidePath path) (.file bytes)
    match written.rename (besidePath path) path with
    | .ok renamed => ([renamed, written, created, files], .ok ())
    | .error problem => ([written, created, files], .error problem)

/-- Replaces a file where nothing but the files themselves stands in the way. -/
def replace (files : Files) (path : String) (bytes : List UInt8) : Files × Except FileProblem Unit :=
  let (moments, result) := files.replaceSteps path bytes .none
  (moments.headD files, result)

end Files

end VipKeeper

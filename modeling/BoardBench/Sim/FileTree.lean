import BoardBench.Bytes
import BoardBench.Fault
import BoardBench.Text.Path

/-!
# Simulated files

A tree of files, directories and links, kept as a table from paths to what stands there. A path is
walked step by step from the directory in which the bench runs, or from the root if it is absolute;
links are followed.
-/

namespace BoardBench.Sim

/-- What stands at a path. -/
inductive Node where
  | file (bytes : Bytes) (executable : Bool)
  /-- A file of so many zero bytes. -/
  | zeros (size : Nat)
  | directory
  | link (target : String)
  /-- A serial adapter, by its number. -/
  | adapter (wire : Nat)
  /-- A device that holds nothing: it drops the bytes that it is given, or refuses them. -/
  | void (refuses : Bool)
  deriving Repr

/-- Files. -/
structure FileTree where
  nodes : List (List String × Node)
  /-- The directory in which the bench runs. -/
  home : List String
  /-- Where device files and their descriptions are looked up, if not where they say. -/
  deviceRoot : Option (List String) := none
  deriving Repr

/-- What a walk comes to. -/
inductive Located where
  | found (path : List String) (node : Node)
  /-- Nothing is there, but it could be made. -/
  | missing (path : List String)
  | fault (f : Fault)
  deriving Repr

namespace FileTree

/-- The directories that every machine has. -/
def systemDirectories : List (List String) :=
  [[], ["bin"], ["dev"], ["etc"], ["proc"], ["sys"], ["tmp"], ["usr"]]

/-- The devices that every machine has. -/
def systemDevices : List (List String × Node) :=
  [(["dev", "null"], .void false), (["dev", "full"], .void true)]

/-- A machine on which the bench has an empty directory of its own. -/
def empty : FileTree where
  nodes := (["bench"] :: systemDirectories).map (·, .directory) ++ systemDevices
  home := ["bench"]

def node? (path : List String) (t : FileTree) : Option Node :=
  (t.nodes.find? (·.1 == path)).map (·.2)

/-- Whether steps from the root name a device or its description. -/
def isDevicePath : List String → Bool
  | "sys" :: "class" :: _ => true
  | ["dev", name] => name.startsWith "tty" && ((name.drop 3).toString.toList.head?.any Char.isUpper)
  | _ => false

/-- Where the steps of a path begin: the directory and the steps from there. -/
def origin (path : String) (cwd : List String) (t : FileTree) : List String × List String :=
  let steps := Text.Path.steps path
  if Text.Path.isAbsolute path then
    match t.deviceRoot with
    | some root => if isDevicePath steps then (root, steps) else ([], steps)
    | none => ([], steps)
  else (cwd, steps)

/-- Follows steps from a directory. -/
def walk (t : FileTree) : Nat → List String → List String → Located
  | 0, _, _ => .fault ⟨.other, "Too many levels of symbolic links (os error 40)"⟩
  | fuel + 1, dir, steps =>
    match steps with
    | [] => (t.node? dir).elim (.fault .noSuchFile) (.found dir)
    | ".." :: rest => walk t fuel dir.dropLast rest
    | step :: rest =>
      let path := dir ++ [step]
      match t.node? path with
      | none => if rest.isEmpty then .missing path else .fault .noSuchFile
      | some (.link target) =>
        let (start, more) := t.origin target dir
        walk t fuel start (more ++ rest)
      | some .directory => walk t fuel path rest
      | some node => if rest.isEmpty then .found path node else .fault .notDirectory

/-- What a path leads to, from a directory. -/
def locateFrom (cwd : List String) (path : String) (t : FileTree) : Located :=
  if path.isEmpty then .fault .noSuchFile
  else
    let (dir, steps) := t.origin path cwd
    walk t (steps.length + 200) dir steps

/-- What a path leads to. -/
def locate (path : String) (t : FileTree) : Located := t.locateFrom t.home path

def isThere (path : String) (t : FileTree) : Bool :=
  match t.locate path with
  | .found .. => true
  | _ => false

/-- Puts a node in place of what is there. -/
def set (path : List String) (node : Node) (t : FileTree) : FileTree :=
  { t with nodes := (path, node) :: t.nodes.filter (·.1 != path) }

/-- Puts a node at a path, with the directories above it. -/
def put (path : String) (node : Node) (t : FileTree) : FileTree :=
  let (dir, steps) := t.origin path t.home
  let above := (List.range (steps.length - 1)).map fun k => dir ++ steps.take (k + 1)
  let t := above.foldl (fun t p => if (t.node? p).isSome then t else t.set p .directory) t
  t.set (dir ++ steps) node

/-- Takes away what is at a path below the directory in which the bench runs. -/
def remove (path : String) (t : FileTree) : FileTree :=
  { t with nodes := t.nodes.filter (·.1 != t.home ++ Text.Path.steps path) }

/-- Size of a file. -/
def size (path : String) (t : FileTree) : Except Fault Nat :=
  match t.locate path with
  | .found _ (.file bytes _) => .ok bytes.length
  | .found _ (.zeros n) => .ok n
  | .found _ .directory => .ok 4096
  | .found _ _ => .ok 0
  | .missing _ => .error .noSuchFile
  | .fault f => .error f

/-- The bytes of a file. -/
def read (path : String) (t : FileTree) : Except Fault Bytes :=
  match t.locate path with
  | .found _ (.file bytes _) => .ok bytes
  | .found _ (.zeros n) => .ok (List.replicate n 0)
  | .found _ .directory => .error .isDirectory
  | .found _ _ => .ok []
  | .missing _ => .error .noSuchFile
  | .fault f => .error f

/-- Replaces the bytes of a file, or makes one, walking from a directory. -/
def writeFrom (cwd : List String) (path : String) (bytes : Bytes) (t : FileTree) :
    Except Fault Unit × FileTree :=
  match t.locateFrom cwd path with
  | .found p (.file _ executable) => (.ok (), t.set p (.file bytes executable))
  | .found p (.zeros _) => (.ok (), t.set p (.file bytes false))
  | .found _ .directory => (.error .isDirectory, t)
  | .found _ (.void true) => (if bytes.isEmpty then .ok () else .error .noSpace, t)
  | .found _ _ => (.ok (), t)
  | .missing p => (.ok (), t.set p (.file bytes false))
  | .fault f => (.error f, t)

/-- Replaces the bytes of a file, or makes one. -/
def write (path : String) (bytes : Bytes) (t : FileTree) : Except Fault Unit × FileTree :=
  t.writeFrom t.home path bytes

/-- Names of what stands in a directory, in the order of the alphabet. -/
def list (path : String) (t : FileTree) : List String :=
  match t.locate path with
  | .found dir .directory =>
    let names := t.nodes.filterMap fun (p, _) =>
      if p.length == dir.length + 1 && dir.isPrefixOf p then p.getLast? else none
    names.mergeSort (fun a b => decide (a ≤ b))
  | _ => []

/-- The absolute path of what a path leads to. -/
def realPath? (path : String) (t : FileTree) : Option String :=
  match t.locate path with
  | .found steps _ => some ("/" ++ "/".intercalate steps)
  | _ => none

end FileTree
end BoardBench.Sim

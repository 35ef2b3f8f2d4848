import TopicShell.Files.Path
import TopicShell.Text.Utf8

/-!
# Files

A tree holds the files below the working directory, by the components of their paths, and perhaps
some files by their whole paths: those have the root in front.  It also knows two devices: one that
swallows what is written to it, and one that is always full.  Opening for writing creates a missing
file and empties it unless it is opened for appending; what is written through an open file arrives
when the file is flushed or closed, or is refused then.
-/

namespace TopicShell.Files

/-- Why a path cannot be used. -/
inductive FileError where
  | missing
  | denied
  | notDirectory
  | isDirectory
  | nameTooLong
  | full
  | inputOutput
  | badFormat
  | nullCharacter
  deriving DecidableEq

namespace FileError

def text : FileError → String
  | missing => "No such file or directory"
  | denied => "Permission denied"
  | notDirectory => "Not a directory"
  | isDirectory => "Is a directory"
  | nameTooLong => "File name too long"
  | full => "No space left on device"
  | inputOutput => "Input/output error"
  | badFormat => "Exec format error"
  | nullCharacter => "embedded null byte"

def number : FileError → Nat
  | missing => 2
  | denied => 13
  | notDirectory => 20
  | isDirectory => 21
  | nameTooLong => 36
  | full => 28
  | inputOutput => 5
  | badFormat => 8
  | nullCharacter => 0

/-- The number of the error with its text. -/
def numbered (e : FileError) : String :=
  "[Errno " ++ toString e.number ++ "] " ++ e.text

end FileError

inductive Node where
  | directory
  | file (content : Octets) (executable : Bool)
  /-- A file where nothing can be stored any more: every attempt to do so has the fault. -/
  | failing (content : Octets) (fault : FileError)
  deriving DecidableEq

/-- What a file holds. -/
def Node.content? : Node → Option Octets
  | directory => none
  | file content _ | failing content _ => some content

/-- What a path leads to. -/
inductive Place where
  | node (spot : List String) (node : Node)
  /-- Nothing yet, in a directory that exists. -/
  | free (spot : List String)
  | sink
  | fullDevice
  deriving DecidableEq

structure Tree where
  nodes : List (List String × Node) := []

namespace Tree

def node? (t : Tree) (parts : List String) : Option Node :=
  if parts.isEmpty then some .directory else t.nodes.lookup parts

/-- The tree with one node put in or replaced. -/
def put (t : Tree) (parts : List String) (n : Node) : Tree :=
  if t.nodes.any (·.1 == parts) then
    { nodes := t.nodes.map fun e => if e.1 == parts then (parts, n) else e }
  else { nodes := t.nodes ++ [(parts, n)] }

/-- The component in front of those of a whole path. -/
def root : String := "/"

/-- The components under which a node is kept. -/
def spot (p : Path) : List String :=
  if p.isAbsolute then root :: p.parts else p.parts

/-- The components of the directory above. -/
def above (spot : List String) : List String :=
  if spot = [root] then spot else spot.dropLast

/-- Puts a node and the directories above it. -/
def add (t : Tree) (path : String) (n : Node) : Tree :=
  let parts := spot (Path.parse path)
  let above := (List.range parts.length).map fun k => parts.take k
  let t := above.foldl (fun t d => if (t.node? d).isSome then t else t.put d .directory) t
  t.put parts n

/-! ## Looking up -/

/-- Walks down the components; every one but the last must lead to a directory. -/
def walk (t : Tree) : List String → List String → Except FileError Place
  | here, [] =>
    match t.node? here with
    | some n => .ok (.node here n)
    | none => .error .missing
  | here, name :: rest =>
    if 255 < name.utf8ByteSize then .error .nameTooLong
    else
      let next := if name = ".." then above here else here ++ [name]
      match t.node? next, rest with
      | some .directory, _ => walk t next rest
      | some n, [] => .ok (.node next n)
      | some _, _ :: _ => .error .notDirectory
      | none, [] => .ok (.free next)
      | none, _ :: _ => .error .missing

def isDevicePath (p : Path) (name : String) : Bool :=
  p.isAbsolute && p.parts == ["dev", name]

/-- Where a path leads.  A slash at the end asks for a directory. -/
def locate (t : Tree) (path : String) : Except FileError Place :=
  let p := Path.parse path
  if path.isEmpty then .error .missing
  else if path.toList.contains '\x00' then .error .nullCharacter
  else if 4096 ≤ path.utf8ByteSize then .error .nameTooLong
  else if isDevicePath p "null" then .ok .sink
  else if isDevicePath p "full" then .ok .fullDevice
  else
    let start := if p.isAbsolute then [root] else []
    match t.node? start, walk t start p.parts with
    | none, _ => .error .missing
    | some _, .ok (.node s n) =>
      if n.content?.isSome && path.toList.getLast? = some '/' then .error .notDirectory
      else .ok (.node s n)
    | some _, r => r

def isFile (t : Tree) (path : String) : Bool :=
  match t.locate path with
  | .ok (.node _ n) => n.content?.isSome
  | _ => false

def isDirectory (t : Tree) (path : String) : Bool :=
  match t.locate path with
  | .ok (.node _ .directory) => true
  | _ => false

def read (t : Tree) (path : String) : Except FileError Octets :=
  match t.locate path with
  | .error e => .error e
  | .ok (.node _ (.file content _)) | .ok (.node _ (.failing content _)) => .ok content
  | .ok (.node _ .directory) => .error .isDirectory
  | .ok (.free _) => .error .missing
  | .ok .sink => .ok []
  | .ok .fullDevice => .ok []

/-- The path of components. -/
def pathText (spot : List String) : String :=
  match spot with
  | first :: rest => if first = root then root ++ "/".intercalate rest else "/".intercalate spot
  | [] => ""

/-- All regular files with their contents. -/
def files (t : Tree) : List (String × Octets) :=
  t.nodes.filterMap fun e => e.2.content?.map fun content => (pathText e.1, content)

end Tree

/-! ## Writing -/

inductive Device where
  | regular (spot : List String)
  | sink
  | failing (fault : FileError)
  deriving DecidableEq

/-- A file that is open for writing: `position` is where the next octet goes when the file was not
opened for appending. -/
structure Target where
  device : Device
  appends : Bool
  position : Nat := 0
  deriving DecidableEq

/-- Octets written over a content from a position on; a gap is filled with zeros. -/
def overwrite (content : Octets) (position : Nat) (octets : Octets) : Octets :=
  content.take position ++ List.replicate (position - content.length) 0 ++ octets
    ++ content.drop (position + octets.length)

theorem overwrite_nil (octets : Octets) : overwrite [] 0 octets = octets := by
  simp [overwrite]

namespace Tree

def openTarget (t : Tree) (path : String) (appends : Bool) : Except FileError (Target × Tree) :=
  match t.locate path with
  | .error e => .error e
  | .ok (.node _ .directory) => .error .isDirectory
  | .ok (.node spot (.file _ executable)) =>
    .ok (⟨.regular spot, appends, 0⟩, if appends then t else t.put spot (.file [] executable))
  | .ok (.node spot (.failing _ fault)) =>
    .ok (⟨.failing fault, appends, 0⟩, if appends then t else t.put spot (.failing [] fault))
  | .ok (.free spot) =>
    if path.toList.getLast? = some '/' then .error .isDirectory
    else .ok (⟨.regular spot, appends, 0⟩, t.put spot (.file [] false))
  | .ok .sink => .ok (⟨.sink, appends, 0⟩, t)
  | .ok .fullDevice => .ok (⟨.failing .full, appends, 0⟩, t)

/-- Lets octets arrive in the file of a target. -/
def store (t : Tree) (target : Target) (octets : Octets) : Tree :=
  match target.device with
  | .regular spot =>
    match t.node? spot with
    | some (.file content executable) =>
      t.put spot (.file (if target.appends then content ++ octets
        else overwrite content target.position octets) executable)
    | _ => t
  | .sink | .failing _ => t

end Tree

/-- The target after octets have been written through it. -/
def Target.advance (target : Target) (octets : Octets) : Target :=
  { target with position := target.position + octets.length }

end TopicShell.Files

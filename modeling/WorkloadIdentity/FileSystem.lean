/-
  WorkloadIdentity.FileSystem ──── **FILES, DIRECTORIES AND SYMBOLIC LINKS.**

  Nodes are found by their absolute path.  A path is walked component by component; a link puts
  its target in front of what is left.  **RULE**: everything before the last component must lead
  to a directory, and at most forty links are followed.

  ✓ `FileSystem.resolve`      — the absolute path behind a path
  ✓ `FileSystem.readText`     — the text of a file
  ✓ `FileError.message`       — the wording of what can go wrong
-/
import WorkloadIdentity.Text.Utf8

namespace WorkloadIdentity

/-! ## §1. Errors. -/

/-- Why a file cannot be had. -/
inductive FileError where
  /-- Nothing is there. -/
  | notFound
  /-- A component of the path is no directory. -/
  | notDirectory
  /-- A directory has no text. -/
  | isDirectory
  /-- A component or the whole path is too long. -/
  | nameTooLong
  /-- Links lead to links. -/
  | tooManyLinks
  /-- A path has no NUL in it. -/
  | nul
  /-- The content is not UTF-8. -/
  | notText
  deriving DecidableEq

/-- The wording of an error. -/
def FileError.message : FileError → String
  | .notFound => "No such file or directory (os error 2)"
  | .notDirectory => "Not a directory (os error 20)"
  | .isDirectory => "Is a directory (os error 21)"
  | .nameTooLong => "File name too long (os error 36)"
  | .tooManyLinks => "Too many levels of symbolic links (os error 40)"
  | .nul => "file name contained an unexpected NUL byte"
  | .notText => "stream did not contain valid UTF-8"

/-! ## §2. The tree. -/

/-- What can be at a path. -/
inductive FileNode where
  /-- A regular file. -/
  | file (content : List UInt8)
  /-- A directory. -/
  | directory
  /-- A device; it has no content. -/
  | device
  /-- A symbolic link. -/
  | link (target : String)

/-- An absolute path: the names from the root down. -/
abbrev AbsolutePath := List String

/-- **A tree of nodes**, and the directory from which relative paths start. -/
structure FileSystem where
  /-- Where relative paths start. -/
  working : AbsolutePath
  /-- The nodes but the root. -/
  nodes : List (AbsolutePath × FileNode)

/-- The node at an absolute path. -/
def FileSystem.node? (fs : FileSystem) (p : AbsolutePath) : Option FileNode :=
  if p = [] then some .directory else (fs.nodes.find? (·.1 == p)).map (·.2)

/-- Put a node at an absolute path, in place of what was there. -/
def FileSystem.put (fs : FileSystem) (p : AbsolutePath) (n : FileNode) : FileSystem :=
  { fs with nodes := (p, n) :: fs.nodes.filter (·.1 != p) }

/-- Take the node at an absolute path away. -/
def FileSystem.remove (fs : FileSystem) (p : AbsolutePath) : FileSystem :=
  { fs with nodes := fs.nodes.filter (·.1 != p) }

/-! ## §3. Walking a path. -/

/-- The longest name, in bytes. -/
def FileSystem.nameBound : Nat := 255

/-- The longest path, in bytes. -/
def FileSystem.pathBound : Nat := 4095

/-- How many links are followed. -/
def FileSystem.linkBound : Nat := 40

/-- The components of a path between slashes. -/
def components (path : List Char) : List (List Char) :=
  match path with
  | [] => [[]]
  | c :: rest =>
    if c = '/' then [] :: components rest
    else match components rest with
      | [] => [[c]]
      | piece :: pieces => (c :: piece) :: pieces

/-- The components of a path as names. -/
def componentsOf (path : String) : List String := (components path.toList).map String.ofList

/-- Where a path starts: at the root if it begins with a slash. -/
def FileSystem.startOf (base : AbsolutePath) (path : String) : AbsolutePath :=
  if path.toList.head? = some '/' then [] else base

/-- Whether the node at a path is a directory. -/
def FileSystem.isDirectory (fs : FileSystem) (p : AbsolutePath) : Bool :=
  match fs.node? p with
  | some .directory => true
  | _ => false

/-- Walk components from a place that has been reached.  The fuel counts components, those of
followed links included. -/
def FileSystem.walk (fs : FileSystem) :
    Nat → Nat → AbsolutePath → List String → Except FileError AbsolutePath
  | _, _, here, [] => .ok here
  | 0, _, _, _ :: _ => .error .tooManyLinks
  | fuel + 1, links, here, name :: rest =>
    if !fs.isDirectory here then .error .notDirectory
    else if name = "" ∨ name = "." then fs.walk fuel links here rest
    else if name = ".." then fs.walk fuel links here.dropLast rest
    else if FileSystem.nameBound < name.utf8ByteSize then .error .nameTooLong
    else
      match fs.node? (here ++ [name]) with
      | none => .error .notFound
      | some (.link target) =>
        if links = 0 then .error .tooManyLinks
        else if target = "" then .error .notFound
        else fs.walk fuel (links - 1) (FileSystem.startOf here target) (componentsOf target ++ rest)
      | some _ => fs.walk fuel links (here ++ [name]) rest

/-- How many components a walk can meet: those of the path, and those of each link that may be
followed. -/
def FileSystem.walkBound (fs : FileSystem) (path : String) : Nat :=
  let longest := fs.nodes.foldl (fun acc p => match p.2 with
    | .link target => max acc (componentsOf target).length
    | _ => acc) 0
  (componentsOf path).length + longest * (FileSystem.linkBound + 1) + 1

/-- **The absolute path behind a path**, with all links followed. -/
def FileSystem.resolve (fs : FileSystem) (path : String) : Except FileError AbsolutePath :=
  if path.toList.contains '\x00' then .error .nul
  else if path = "" then .error .notFound
  else fs.walk (fs.walkBound path) FileSystem.linkBound (FileSystem.startOf fs.working path)
    (componentsOf path)

/-! ## §4. Reading. -/

/-- Whether a resolved path is a regular file. -/
def FileSystem.isFile (fs : FileSystem) (p : AbsolutePath) : Bool :=
  match fs.node? p with
  | some (.file _) => true
  | _ => false

/-- The text of the node at a resolved path; a device has none. -/
def FileSystem.textAt (fs : FileSystem) (p : AbsolutePath) : Except FileError String :=
  match fs.node? p with
  | some (.file content) =>
    match Utf8.decode? content with
    | some s => .ok s
    | none => .error .notText
  | some .directory => .error .isDirectory
  | some .device => .ok ""
  | _ => .error .notFound

/-- **The text of a file.** -/
def FileSystem.readText (fs : FileSystem) (path : String) : Except FileError String :=
  if path.toList.contains '\x00' then .error .nul
  else if FileSystem.pathBound < path.utf8ByteSize then .error .nameTooLong
  else do fs.textAt (← fs.resolve path)

/-! ## §5. Changing. -/

/-- The place that a path names: its last component in the directory that the others lead to. -/
def FileSystem.placeOf? (fs : FileSystem) (path : String) : Option AbsolutePath :=
  let names := (componentsOf path).filter (fun n => n ≠ "" ∧ n ≠ ".")
  match names.getLast? with
  | none => none
  | some last =>
    match fs.walk (fs.walkBound path) FileSystem.linkBound (FileSystem.startOf fs.working path)
        names.dropLast with
    | .ok parent => some (parent ++ [last])
    | .error _ => none

/-- Put a node at a path, or take the one there away. -/
def FileSystem.change (fs : FileSystem) (path : String) (n : Option FileNode) : FileSystem :=
  match fs.placeOf? path, n with
  | some p, some n => fs.put p n
  | some p, none => fs.remove p
  | none, _ => fs

end WorkloadIdentity

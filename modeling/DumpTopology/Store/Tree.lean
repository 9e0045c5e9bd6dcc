import DumpTopology.Store.Basic

/-!
# Directory trees

A directory tree holds files, sparse files (a length of zero bytes), symbolic links and
empty directories at paths of names; every proper prefix of a path is a directory.

A path resolves from the top of the tree name by name: `.` stays, `..` goes up, and a
symbolic link, when it must be followed, is replaced by its target, read from the
directory that holds it. More than forty replacements in one resolution are a loop, a
name under a file is not a directory, and a name that is not there is not found. Link
targets that leave the tree, and the empty path, do not resolve.

A directory store lists the regular files below its root, not entering linked
directories, by their paths relative to the root in the order of their bytes. It reads
files through links; a directory opens, but reading it fails.
-/
namespace DumpTopology

/-- A node of a directory tree. -/
inductive FsNode
  | file (content : ByteArray)
  | sparse (size : Nat)
  | link (target : String)
  | dir

/-- The faults of resolving and reading paths, as the operating system words them. -/
inductive OsFault
  | notFound
  | notDirectory
  | isDirectory
  | loop
  | alreadyExists
  deriving BEq, Repr, Inhabited

/-- The text of an operating system fault. -/
def OsFault.message : OsFault → String
  | .notFound => "No such file or directory (os error 2)"
  | .notDirectory => "Not a directory (os error 20)"
  | .isDirectory => "Is a directory (os error 21)"
  | .loop => "Too many levels of symbolic links (os error 40)"
  | .alreadyExists => "File exists (os error 17)"

/-- A directory tree: its nodes by path, the latest written first. -/
structure FileTree where
  nodes : List (List String × FsNode) := []

/-- The names of a path; a path that ends in `/` ends in `.`, so that it must be a
directory. -/
def pathNames (s : String) : List String :=
  let names := (s.splitOn "/").filter (· != "")
  if s.endsWith "/" && !names.isEmpty then names ++ ["."] else names

/-- The most links one resolution follows. -/
def maxLinks : Nat := 40

namespace FileTree

/-- Writes a node at a path, over any node written there before. -/
def write (t : FileTree) (path : List String) (n : FsNode) : FileTree :=
  ⟨(path, n) :: t.nodes.filter (·.1 != path)⟩

/-- The node at a path of names, without following links. -/
def nodeAt (t : FileTree) (path : List String) : Option FsNode :=
  if path.isEmpty then some .dir
  else
    match t.nodes.lookup path with
    | some n => some n
    | none =>
      if t.nodes.any fun (q, _) => path.isPrefixOf q && path.length < q.length then some .dir
      else none

/-- Resolves names from the directory `at_`. `links` counts the links still allowed,
and `follow` says whether a link in last place is followed. -/
def resolveFrom (t : FileTree) (follow : Bool) :
    Nat → Nat → List String → List String → Except OsFault (List String × FsNode)
  | 0, _, _, _ => .error .loop
  | _ + 1, _, at_, [] => .ok (at_, .dir)
  | fuel + 1, links, at_, name :: rest =>
    if name == "." then resolveFrom t follow fuel links at_ rest
    else if name == ".." then resolveFrom t follow fuel links at_.dropLast rest
    else
      let path := at_ ++ [name]
      match t.nodeAt path with
      | none => .error .notFound
      | some .dir => resolveFrom t follow fuel links path rest
      | some (.link target) =>
        if rest.isEmpty && !follow then .ok (path, .link target)
        else if links == 0 then .error .loop
        else if target.startsWith "/" then .error .notFound
        else resolveFrom t follow fuel (links - 1) at_ (pathNames target ++ rest)
      | some n => if rest.isEmpty then .ok (path, n) else .error .notDirectory

/-- Resolves a path from the top of the tree. -/
def resolve (t : FileTree) (path : String) (follow : Bool := true) :
    Except OsFault (List String × FsNode) :=
  if path.isEmpty || path.startsWith "/" then .error .notFound
  else
    let names := pathNames path
    t.resolveFrom follow (names.length + maxLinks * (t.nodes.length + 2) + 2) maxLinks [] names

/-- The regular files below a directory, by relative path, with their lengths. -/
def filesBelow (t : FileTree) (root : List String) : List (String × Nat) :=
  t.nodes.filterMap fun (q, n) =>
    if root.isPrefixOf q && root.length < q.length then
      let rel := "/".intercalate (q.drop root.length)
      match n with
      | .file c => some (rel, c.size)
      | .sparse k => some (rel, k)
      | _ => none
    else none

/-- Opens a path: a file's bytes, or a directory whose reading fails. -/
def openPath (t : FileTree) (path : String) : Except OsFault (Except OsFault ByteArray) :=
  match t.resolve path with
  | .error e => .error e
  | .ok (_, .file c) => .ok (.ok c)
  | .ok (_, .sparse k) => .ok (.ok (ByteArray.mk (Array.replicate k 0)))
  | .ok (_, _) => .ok (.error .isDirectory)

/-- Whether a path resolves to a directory. -/
def isDirAt (t : FileTree) (path : String) : Bool :=
  match t.resolve path with
  | .ok (_, .dir) => true
  | _ => false

/-- Makes one directory: its parent must resolve to a directory, and nothing may be at
its own place. -/
def makeDir (t : FileTree) (names : List String) : Except OsFault FileTree :=
  match names.getLast? with
  | none => .error .alreadyExists
  | some last =>
    let parent := names.dropLast
    let found := if parent.isEmpty then .ok ([], .dir) else t.resolve ("/".intercalate parent)
    match found with
    | .error e => .error e
    | .ok (at_, .dir) =>
      if last == "." || last == ".." then .error .alreadyExists
      else if (t.nodeAt (at_ ++ [last])).isSome then .error .alreadyExists
      else .ok (t.write (at_ ++ [last]) .dir)
    | .ok _ => .error .notDirectory

/-- Makes a directory and its missing parents. A directory that cannot be made because
its parent is missing is made after the parent; a fault is no fault when a directory
stands at the path in the end. -/
def makeDirs (t : FileTree) : List String → Except OsFault FileTree
  | [] => .ok t
  | x :: xs =>
    let names := x :: xs
    let whole := "/".intercalate names
    let settle (t' : FileTree) (e : OsFault) : Except OsFault FileTree :=
      if t'.isDirAt whole then .ok t' else .error e
    match t.makeDir names with
    | .ok t' => .ok t'
    | .error .notFound =>
      match makeDirs t names.dropLast with
      | .error e => .error e
      | .ok t' =>
        match t'.makeDir names with
        | .ok t'' => .ok t''
        | .error e => settle t' e
    | .error e => settle t e
termination_by names => names.length
decreasing_by simp_wf

/-- Makes a directory at a path, with its missing parents. -/
def createDirAll (t : FileTree) (path : String) : Except OsFault FileTree :=
  t.makeDirs ((path.splitOn "/").filter (· != ""))

/-- Reads a whole file: a fault opening it, or reading it. -/
def readAll (t : FileTree) (path : String) : Except OsFault ByteArray :=
  match t.openPath path with
  | .error e => .error e
  | .ok r => r

/-- Inserts into a list ascending by path. -/
def insertByPath (e : String × Nat) : List (String × Nat) → List (String × Nat)
  | [] => [e]
  | f :: rest => if e.1 < f.1 then e :: f :: rest else f :: insertByPath e rest

/-- The store of the directory at `dir`, refused when it is not there or is no
directory. -/
def store (t : FileTree) (dir : String) : Except DiscoveryFault Store :=
  match t.resolve dir with
  | .error _ => .error (.listing dir "path not found")
  | .ok (root, .dir) =>
    .ok {
      location := dir
      listing := (t.filesBelow root).foldl (fun acc e => insertByPath e acc) []
      checksRoot := true
      openFile := fun path =>
        match t.openPath (dir ++ "/" ++ path) with
        | .error e => .error e.message
        | .ok r => .ok (r.mapError OsFault.message) }
  | .ok _ => .error (.listing dir "not a directory")

end FileTree

end DumpTopology

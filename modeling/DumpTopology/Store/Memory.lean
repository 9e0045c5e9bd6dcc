import DumpTopology.Store.Basic

/-!
# Stores in memory

A store in memory maps paths to files, each with the size it reports and its bytes. Its
paths are kept in ascending order, which for UTF-8 text is the order of their bytes, and
the walk follows it. Putting a path that is already there replaces its file.
-/
namespace DumpTopology

/-- A file held in memory: the size it reports and its content. -/
structure StoredFile where
  size : Nat
  content : ByteArray

/-- A file of the given bytes, reporting their count. -/
def StoredFile.ofBytes (b : ByteArray) : StoredFile := ⟨b.size, b⟩

/-- A file that reports a size but holds no bytes. -/
def StoredFile.sized (n : Nat) : StoredFile := ⟨n, ByteArray.empty⟩

/-- Files by path, in ascending order of paths. -/
structure MemoryStore where
  files : List (String × StoredFile) := []

namespace MemoryStore

/-- Puts a file into an ascending list of files, replacing one of the same path. -/
def putSorted (path : String) (f : StoredFile) : List (String × StoredFile) → List (String × StoredFile)
  | [] => [(path, f)]
  | (p, g) :: rest =>
    if path == p then (path, f) :: rest
    else if path < p then (path, f) :: (p, g) :: rest
    else (p, g) :: putSorted path f rest

/-- Puts a file at a path. -/
def put (s : MemoryStore) (path : String) (f : StoredFile) : MemoryStore := ⟨putSorted path f s.files⟩

/-- The store of files put in order. -/
def ofList (entries : List (String × StoredFile)) : MemoryStore :=
  entries.foldl (fun s (p, f) => s.put p f) {}

/-- The number of files. -/
def size (s : MemoryStore) : Nat := s.files.length

/-- Whether the store holds no file. -/
def isEmpty (s : MemoryStore) : Bool := s.files.isEmpty

/-- The location of stores in memory. -/
def location : String := "memory://"

/-- The store seen through the common interface. -/
def toStore (s : MemoryStore) : Store where
  location := location
  listing := s.files.map fun (p, f) => (p, f.size)
  checksRoot := false
  openFile path :=
    match s.files.lookup path with
    | some f => .ok (.ok f.content)
    | none => .error s!"{path} not found"

end MemoryStore

end DumpTopology

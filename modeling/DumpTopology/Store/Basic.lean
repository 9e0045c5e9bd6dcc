import DumpTopology.Fault

/-!
# Stores

A store is where a dump's files are: it has a location to name it by, a listing of its
files with their sizes in the order a walk visits them, and a way to read a file's bytes.

A walk checks the cancellation flag before each file and then hands the file to a
visitor, which may fail, and so stop the walk, or fire the flag. A store whose
enumeration visits its root before any file checks the flag once more before it lists
anything, so a fired flag stops it even when it holds no file.
-/
namespace DumpTopology

/-- The outcome of reading an opened file: its bytes, or the text of the fault that stops
the reading. -/
abbrev Reading := Except String ByteArray

/-- A store of files. -/
structure Store where
  location : String
  /-- The files and their sizes in walk order. -/
  listing : List (String × Nat)
  /-- Whether the walk checks the flag before it lists anything. -/
  checksRoot : Bool
  /-- Opens a file: the text of the fault that stops the opening, or what reading it
  gives. -/
  openFile : String → Except String Reading

/-- Visits files in order, checking the flag of the state before each one. Returns the
last state and the fault that stopped the walk, if any. -/
def walkFiles {σ : Type} (cancelled : σ → Bool) (visit : σ → String → Nat → Except DiscoveryFault σ) :
    σ → List (String × Nat) → σ × Option DiscoveryFault
  | st, [] => (st, none)
  | st, (path, size) :: rest =>
    if cancelled st then (st, some .cancelled)
    else
      match visit st path size with
      | .ok st' => walkFiles cancelled visit st' rest
      | .error e => (st, some e)

/-- Reads an opened file, a failure being an I/O fault. -/
def Reading.bytes (r : Reading) : Except DiscoveryFault ByteArray := r.mapError .io

namespace Store

/-- Walks the store from a state. -/
def walk {σ : Type} (s : Store) (cancelled : σ → Bool)
    (visit : σ → String → Nat → Except DiscoveryFault σ) (init : σ) : σ × Option DiscoveryFault :=
  if s.checksRoot && cancelled init then (init, some .cancelled)
  else walkFiles cancelled visit init s.listing

/-- Folds a visitor over the files while the flag stays as `cancelled` says. -/
def fold {σ : Type} (s : Store) (cancelled : Bool)
    (visit : σ → String → Nat → Except DiscoveryFault σ) (init : σ) : Except DiscoveryFault σ :=
  match s.walk (fun _ => cancelled) visit init with
  | (st, none) => .ok st
  | (_, some e) => .error e

/-- Opens a file, a failure being an I/O fault. -/
def openAt (s : Store) (path : String) : Except DiscoveryFault Reading :=
  (s.openFile path).mapError .io

end Store

end DumpTopology

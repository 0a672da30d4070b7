import Std.Data.HashMap
import BurstProfiler.Memory.Maps
import BurstProfiler.Module

/-! From addresses to modules. A resolver holds a snapshot of the memory map and remembers the
build id that it first read for each path. -/

set_option autoImplicit false

namespace BurstProfiler.Memory

/-- What a resolver can read while it works: the build ids in files and the current memory map.
Neither has to succeed. -/
structure Surroundings where
  buildId : String → Option String
  maps : Option Maps

structure Resolver where
  maps : Maps
  buildIds : Std.HashMap String String
  /-- What came of each reading of the memory map. Nothing depends on it. -/
  readings : List (Option Maps)

namespace Resolver

def ofMaps (maps : Maps) : Resolver := ⟨maps, ∅, []⟩

/-- The remembered build id of a path. It is read once, and is empty if it cannot be read. -/
def buildId (around : Surroundings) (r : Resolver) (path : String) : String × Resolver :=
  match r.buildIds[path]? with
  | some id => (id, r)
  | none =>
    let id := (around.buildId path).getD ""
    (id, { r with buildIds := r.buildIds.insert path id })

def locate? (maps : Maps) (address : UInt64) : Option (String × UInt64) := do
  let mapping ← maps.findExecutable? address
  let path ← mapping.filePath?
  let base ← maps.loadBase? path
  pure (path, base)

def lookup (around : Surroundings) (r : Resolver) (address : UInt64) :
    Option Module × Resolver :=
  match locate? r.maps address with
  | none => (none, r)
  | some (path, base) =>
    let (id, r) := r.buildId around path
    (some ⟨base, id, .ofString path⟩, r)

/-- Reads the memory map for a new snapshot, and keeps the old one if that fails. -/
def reread (around : Surroundings) (r : Resolver) : Bool × Resolver :=
  let r := { r with readings := r.readings ++ [around.maps] }
  match around.maps with
  | some maps => (true, { r with maps := maps })
  | none => (false, r)

def refresh (around : Surroundings) (r : Resolver) : Option Resolver :=
  match r.reread around with
  | (true, r) => some r
  | (false, _) => none

/-- The module of an address, with one new snapshot if the present one misses it. -/
def resolve (around : Surroundings) (r : Resolver) (address : UInt64) :
    Option Module × Resolver :=
  match r.lookup around address with
  | (some m, r) => (some m, r)
  | (none, r) =>
    match r.reread around with
    | (false, r) => (none, r)
    | (true, r) => r.lookup around address

end Resolver

end BurstProfiler.Memory

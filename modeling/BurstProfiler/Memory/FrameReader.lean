import BurstProfiler.Frame
import BurstProfiler.Memory.Resolver
import BurstProfiler.ModuleTable

/-! From the addresses of a stack to frames. Between two starts of a recording the memory map is
read again at most once: at the first address that the snapshot misses. -/

set_option autoImplicit false

namespace BurstProfiler.Memory

structure FrameReader where
  resolver : Resolver
  refreshed : Bool

namespace FrameReader

def ofMaps (maps : Maps) : FrameReader := ⟨.ofMaps maps, false⟩

def recordingStarts (r : FrameReader) : FrameReader := { r with refreshed := false }

def moduleOf (around : Surroundings) (r : FrameReader) (address : UInt64) :
    Option Module × FrameReader :=
  match r.resolver.lookup around address with
  | (some m, resolver) => (some m, { r with resolver := resolver })
  | (none, resolver) =>
    if r.refreshed then (none, { r with resolver := resolver })
    else
      let (found, resolver) := resolver.resolve around address
      (found, ⟨resolver, true⟩)

def frame (around : Surroundings) (r : FrameReader) (table : ModuleTable) (address : UInt64) :
    Frame × FrameReader × ModuleTable :=
  match r.moduleOf around address with
  | (some m, r) =>
    let (index, table) := table.intern m
    (⟨address, some index⟩, r, table)
  | (none, r) => (⟨address, none⟩, r, table)

def frames (around : Surroundings) (r : FrameReader) (table : ModuleTable) :
    List UInt64 → Sample × FrameReader × ModuleTable
  | [] => ([], r, table)
  | address :: rest =>
    let (frame, r, table) := r.frame around table address
    let (sample, r, table) := r.frames around table rest
    (frame :: sample, r, table)

end FrameReader

end BurstProfiler.Memory

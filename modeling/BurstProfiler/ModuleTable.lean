import Std.Data.HashMap
import BurstProfiler.Module

/-! The table of modules of one profile. A module gets the next index when its base address is
new, and the index of the module with that base otherwise. -/

set_option autoImplicit false

namespace BurstProfiler

structure ModuleTable where
  modules : Array Module
  byBase : Std.HashMap UInt64 Nat

namespace ModuleTable

def empty : ModuleTable := ⟨#[], ∅⟩

instance : Inhabited ModuleTable := ⟨empty⟩

/-- The index of the module with this base address, adding the module if there is none. -/
def intern (table : ModuleTable) (m : Module) : Nat × ModuleTable :=
  match table.byBase[m.base]? with
  | some index => (index, table)
  | none =>
    (table.modules.size,
      ⟨table.modules.push m, table.byBase.insert m.base table.modules.size⟩)

def get? (table : ModuleTable) (index : Nat) : Option Module := table.modules[index]?

def size (table : ModuleTable) : Nat := table.modules.size

def isEmpty (table : ModuleTable) : Bool := table.modules.isEmpty

def toList (table : ModuleTable) : List Module := table.modules.toList

end ModuleTable

end BurstProfiler

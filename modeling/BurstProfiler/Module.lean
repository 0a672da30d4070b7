import BurstProfiler.Path

/-! A module: a file mapped into memory, with the address it is loaded at and its build id. -/

set_option autoImplicit false

namespace BurstProfiler

structure Module where
  base : UInt64
  buildId : String
  path : Path
  deriving DecidableEq, Repr

namespace Module

/-- Equality of modules, with paths compared by what they name. -/
def same (a b : Module) : Bool :=
  a.base == b.base && a.buildId == b.buildId && a.path.same b.path

def inspect (m : Module) : String :=
  Text.inspectRecord "Module" [
    ("base_address", toString m.base.toNat),
    ("id", Text.quote m.buildId),
    ("path", m.path.inspect)]

end Module

end BurstProfiler

/-! The number by which the platform knows a thread. -/

set_option autoImplicit false

namespace BurstProfiler

structure ThreadId where
  raw : Nat
  deriving DecidableEq, Repr

namespace ThreadId

def compare (a b : ThreadId) : Ordering := Ord.compare a.raw b.raw

def text (t : ThreadId) : String := toString t.raw

def inspect (t : ThreadId) : String := "PlatformThreadId(" ++ t.text ++ ")"

end ThreadId

end BurstProfiler

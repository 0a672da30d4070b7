import BurstProfiler.Profile

/-! A profile under construction: samples are appended and modules interned until the profile
is finished with the time it took. -/

set_option autoImplicit false

namespace BurstProfiler.Profile

structure Builder where
  table : ModuleTable
  samples : Array Sample
  period : Duration
  preservesOrder : Bool

namespace Builder

def start (period : Duration) (preservesOrder : Bool) : Builder :=
  ⟨.empty, #[], period, preservesOrder⟩

def push (b : Builder) (frames : Sample) : Builder :=
  { b with samples := b.samples.push frames }

def finish (b : Builder) (duration : Duration) : Profile :=
  ⟨b.table.toList, b.samples.toList, duration, b.period, b.preservesOrder⟩

end Builder

end BurstProfiler.Profile

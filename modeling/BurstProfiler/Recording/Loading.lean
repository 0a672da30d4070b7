import BurstProfiler.Recording.Tables

/-! Reading a recording back: its profiles in the order they were written, and its totals. -/

set_option autoImplicit false

namespace BurstProfiler.Recording

/-- A stored number of microseconds; negative ones count as zero. -/
def loadedDuration (micros : Int) : Duration := .ofMicros (UInt64.ofNat micros.toNat)

namespace Tables

def profilesInOrder (t : Tables) : List ProfileRow :=
  t.profiles.mergeSort (fun a b => a.id ≤ b.id)

def loadModules (t : Tables) (profile : Int) : List Module :=
  (((t.links.filter (fun link => link.profile == profile)).mergeSort
    (fun a b => a.ordinal ≤ b.ordinal)).filterMap
      (fun link => t.modules.find? (fun row => row.id == link.moduleId))).map
    (fun row => ⟨word row.base, row.buildId, .ofString row.path⟩)

def loadFrame (modules : Nat) (row : FrameRow) : Frame :=
  ⟨word row.address,
    (row.moduleIndex.bind (fun i => if 0 ≤ i then some i.toNat else none)).filter (· < modules)⟩

def framesOf (t : Tables) (sample : Int) : List FrameRow :=
  (t.frames.filter (fun row => row.sample == sample)).mergeSort (fun a b => a.depth ≤ b.depth)

/-- A row of the samples joined with their frames; a sample without frames has one row. -/
structure Joined where
  sample : Int
  position : Int
  frame : Option FrameRow
  deriving DecidableEq, Repr

def Joined.depth (row : Joined) : Option Int := row.frame.map FrameRow.depth

def Joined.le (a b : Joined) : Bool :=
  a.position < b.position ||
    (a.position == b.position &&
      match a.depth, b.depth with
      | none, _ => true
      | some _, none => false
      | some i, some j => i ≤ j)

def joinedRows (t : Tables) (profile : Int) : List Joined :=
  let samples := (t.samples.filter (fun row => row.profile == profile)).mergeSort
    (fun a b => a.position < b.position || (a.position == b.position && a.id ≤ b.id))
  (samples.flatMap (fun row =>
    match t.framesOf row.id with
    | [] => [⟨row.id, row.position, none⟩]
    | frames => frames.map (fun frame => ⟨row.id, row.position, some frame⟩))).mergeSort Joined.le

/-- Neighbouring rows of one sample make a sample. -/
def regroup (modules : Nat) : List Joined → List Sample
  | [] => []
  | row :: rest =>
    let frames := row.frame.toList.map (loadFrame modules)
    match rest, regroup modules rest with
    | next :: _, sample :: samples =>
      if next.sample = row.sample then (frames ++ sample) :: samples
      else frames :: sample :: samples
    | _, samples => frames :: samples

def loadProfile (t : Tables) (row : ProfileRow) : Profile :=
  let modules := t.loadModules row.id
  { modules := modules
    samples := regroup modules.length (t.joinedRows row.id)
    duration := loadedDuration row.durationMicros
    period := loadedDuration row.periodMicros
    preservesOrder := row.preservesOrder != 0 }

def loadProfiles (t : Tables) : List Profile := t.profilesInOrder.map t.loadProfile

end Tables

structure Totals where
  profiles : Nat
  samples : Nat
  frames : Nat
  duration : Duration
  deriving DecidableEq, Repr

/-- A sum of signed values in order; none as soon as it leaves their range. -/
def signedSum (total : Int) : List Int → Option Int
  | [] => some total
  | n :: rest => if fitsSigned (total + n) then signedSum (total + n) rest else none

def Tables.totals (t : Tables) : Except EngineFault Totals :=
  match signedSum 0 (t.profilesInOrder.map (·.durationMicros)) with
  | none => .error .integerOverflow
  | some micros =>
    .ok ⟨t.profiles.length, t.samples.length, t.frames.length, loadedDuration micros⟩

end BurstProfiler.Recording

import BurstProfiler.Duration.Decimal
import BurstProfiler.Frame
import BurstProfiler.ModuleTable

/-! A profile: the samples of one burst and the modules that their frames refer to. -/

set_option autoImplicit false

namespace BurstProfiler

structure Profile where
  modules : List Module
  samples : List Sample
  duration : Duration
  period : Duration
  preservesOrder : Bool
  deriving DecidableEq, Repr

/-- A frame that refers to a module outside the profile's list. -/
structure BadReference where
  sample : Nat
  address : UInt64
  index : Nat
  modules : Nat
  deriving DecidableEq, Repr

def BadReference.message (bad : BadReference) : String :=
  "sample " ++ toString bad.sample ++ " frame 0x" ++
    String.ofList (Number.hex bad.address.toNat) ++ " references module " ++
    toString bad.index ++ " of " ++ toString bad.modules

namespace Profile

def frameCount (p : Profile) : Nat := (p.samples.map List.length).foldr (· + ·) 0

def badFrame? (modules : Nat) (frames : Sample) : Option (UInt64 × Nat) :=
  frames.findSome? (fun frame =>
    match frame.moduleIndex with
    | some index => if index < modules then none else some (frame.instructionPointer, index)
    | none => none)

def badReferenceFrom? (modules : Nat) (first : Nat) : List Sample → Option BadReference
  | [] => none
  | frames :: rest =>
    match badFrame? modules frames with
    | some (address, index) => some ⟨first, address, index, modules⟩
    | none => badReferenceFrom? modules (first + 1) rest

def badReference? (p : Profile) : Option BadReference :=
  badReferenceFrom? p.modules.length 0 p.samples

def isValid (p : Profile) : Bool := p.badReference?.isNone

def same (p q : Profile) : Bool :=
  p.modules.length == q.modules.length &&
    (p.modules.zip q.modules).all (fun pair => pair.1.same pair.2) &&
    p.samples == q.samples && p.duration == q.duration && p.period == q.period &&
    p.preservesOrder == q.preservesOrder

def inspect (p : Profile) : String :=
  Text.inspectRecord "Profile" [
    ("modules", Text.inspectList (p.modules.map Module.inspect)),
    ("samples", Text.inspectList
      (p.samples.map (fun frames => Text.inspectList (frames.map Frame.inspect)))),
    ("profile_duration", p.duration.inspect),
    ("sampling_period", p.period.inspect),
    ("preserve_sample_ordering", Text.inspectBool p.preservesOrder)]

end Profile

end BurstProfiler

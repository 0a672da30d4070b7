import BurstProfiler.Error
import BurstProfiler.Profile

/-! The tables of a recording. Columns of whole numbers hold signed 64-bit values; an address is
stored as the signed value of the same bits. -/

set_option autoImplicit false

namespace BurstProfiler.Recording

structure ProfileRow where
  id : Int
  durationMicros : Int
  periodMicros : Int
  preservesOrder : Int
  deriving DecidableEq, Repr

structure ModuleRow where
  id : Int
  base : Int
  buildId : String
  path : String
  deriving DecidableEq, Repr

/-- An entry of a profile's module list; frames refer to it by the ordinal. -/
structure LinkRow where
  profile : Int
  ordinal : Int
  moduleId : Int
  deriving DecidableEq, Repr

structure SampleRow where
  id : Int
  profile : Int
  position : Int
  deriving DecidableEq, Repr

/-- Depth zero is the innermost frame. -/
structure FrameRow where
  sample : Int
  depth : Int
  address : Int
  moduleIndex : Option Int
  deriving DecidableEq, Repr

/-- Rows stand in the order in which they were inserted. -/
structure Tables where
  metadata : List (String × String)
  profiles : List ProfileRow
  modules : List ModuleRow
  links : List LinkRow
  samples : List SampleRow
  frames : List FrameRow
  deriving DecidableEq, Repr

def signed (w : UInt64) : Int :=
  if w.toNat < 9_223_372_036_854_775_808 then w.toNat
  else (w.toNat : Int) - 18_446_744_073_709_551_616

def word (n : Int) : UInt64 := UInt64.ofNat (n % 18_446_744_073_709_551_616).toNat

def maxSigned : Int := 9_223_372_036_854_775_807
def minSigned : Int := -9_223_372_036_854_775_808

def fitsSigned (n : Int) : Bool := minSigned ≤ n && n ≤ maxSigned

/-- Whole microseconds, cut at the largest that can be stored. -/
def storedMicros (d : Duration) : Int := min (d.micros : Int) maxSigned

/-- One more than the largest id; ids start at one. -/
def nextId (ids : List Int) : Int := ids.foldl max 0 + 1

namespace Tables

def empty : Tables := ⟨[], [], [], [], [], []⟩

def metadata? (t : Tables) (key : String) : Option String :=
  (t.metadata.find? (fun entry => entry.1 == key)).map Prod.snd

def setMetadata (t : Tables) (key value : String) : Tables :=
  { t with metadata := t.metadata.filter (fun entry => entry.1 != key) ++ [(key, value)] }

def moduleRow? (t : Tables) (base : Int) (buildId path : String) : Option ModuleRow :=
  t.modules.find? (fun row => row.base == base && row.buildId == buildId && row.path == path)

def linkedModule? (t : Tables) (profile ordinal : Int) : Option ModuleRow :=
  match t.links.find? (fun link => link.profile == profile && link.ordinal == ordinal) with
  | none => none
  | some link => t.modules.find? (fun row => row.id == link.moduleId)

end Tables

theorem word_signed (w : UInt64) : word (signed w) = w := by
  have small := w.toNat_lt
  have bits : ((signed w) % 18_446_744_073_709_551_616).toNat = w.toNat := by
    unfold signed
    split <;> omega
  unfold word
  rw [bits]
  exact UInt64.ofNat_toNat

theorem signed_injective {v w : UInt64} (h : signed v = signed w) : v = w := by
  rw [← word_signed v, h, word_signed]

end BurstProfiler.Recording

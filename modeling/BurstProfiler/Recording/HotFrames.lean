import BurstProfiler.Number.Binary64
import BurstProfiler.Recording.Tables

/-! The hottest innermost frames of a recording: samples grouped by the module of their innermost
frame and the offset in it, the largest groups first. -/

set_option autoImplicit false

namespace BurstProfiler.Recording

open Number

/-- A difference of stored addresses: a whole number, or, where it does not fit, a real number. The
real numbers that are met have whole values too. -/
inductive Offset where
  | whole (n : Int)
  | real (n : Int)
  deriving DecidableEq, Repr

def Offset.value : Offset → Int
  | .whole n | .real n => n

def Offset.isReal : Offset → Bool
  | .whole _ => false
  | .real _ => true

/-- A difference that does not fit is one of rounded numbers, rounded again. -/
def offsetFrom (address base : Int) : Offset :=
  if fitsSigned (address - base) then .whole (address - base)
  else .real (roundSigned (roundSigned address - roundSigned base))

/-- What samples are grouped by: the path of the module, if the frame is resolved, and the offset
in it, or else the address. A whole and a real number of one value are the same. -/
structure HotKey where
  path : Option String
  offset : Int
  deriving DecidableEq, Repr

structure LeafRow where
  moduleIndex : Option Int
  path : Option String
  offset : Offset
  deriving DecidableEq, Repr

def LeafRow.key (r : LeafRow) : HotKey := ⟨r.path, r.offset.value⟩

/-- A group of rows with one key. The number in its row is of the type that the first row has. -/
structure HotGroup where
  key : HotKey
  isReal : Bool
  samples : Nat
  deriving DecidableEq, Repr

def compareOption {α : Type} [Ord α] : Option α → Option α → Ordering
  | none, none => .eq
  | none, some _ => .lt
  | some _, none => .gt
  | some a, some b => compare a b

/-- Which of two rows the query meets first. It goes along the index on the module index of frames,
and otherwise in the order of insertion. -/
def LeafRow.earlier (inserted later : LeafRow) : LeafRow :=
  if (compareOption inserted.moduleIndex later.moduleIndex).isLE then inserted else later

def firstRow? (rows : List LeafRow) (key : HotKey) : Option LeafRow :=
  match rows.filter (fun row => row.key == key) with
  | [] => none
  | row :: rest => some (rest.foldl LeafRow.earlier row)

def startsReal (rows : List LeafRow) (key : HotKey) : Bool :=
  (firstRow? rows key).any (fun row => row.offset.isReal)

namespace Tables

def leafRow (t : Tables) (profile : Int) (frame : FrameRow) : LeafRow :=
  match frame.moduleIndex.bind (t.linkedModule? profile) with
  | some row => ⟨frame.moduleIndex, some row.path, offsetFrom frame.address row.base⟩
  | none => ⟨frame.moduleIndex, none, .whole frame.address⟩

def leafRows (t : Tables) : List LeafRow :=
  (t.frames.filter (fun frame => frame.depth == 0)).filterMap (fun frame =>
    (t.samples.find? (fun row => row.id == frame.sample)).map
      (fun row => t.leafRow row.profile frame))

def hotKeys (t : Tables) : List HotKey := t.leafRows.map LeafRow.key

def hotGroups (t : Tables) : List HotGroup :=
  let keys := t.hotKeys
  keys.eraseDups.map (fun key => ⟨key, startsReal t.leafRows key, keys.count key⟩)

end Tables

def HotGroup.compare (a b : HotGroup) : Ordering :=
  (Ord.compare b.samples a.samples).then
    ((compareOption a.key.path b.key.path).then (Ord.compare a.key.offset b.key.offset))

def Tables.ranking (t : Tables) : List HotGroup :=
  t.hotGroups.mergeSort (fun a b => (a.compare b).isLE)

/-- A limit of 2^63 and above is none. -/
def firstGroups (limit : Nat) (groups : List HotGroup) : List HotGroup :=
  if limit < 9_223_372_036_854_775_808 then groups.take limit else groups

structure HotFrame where
  module : Option String
  offset : UInt64
  samples : Nat
  deriving DecidableEq, Repr

def HotGroup.frame (g : HotGroup) : Except DatabaseFault HotFrame :=
  if g.isReal then .error (.realColumn 1 "offset")
  else .ok ⟨g.key.path, word g.key.offset, g.samples⟩

/-- The hottest frames: of the first groups those whose number of samples reaches the threshold.
Without samples there are none. -/
def Tables.hotFrames (t : Tables) (limit : Nat) (reaches : Nat → Bool) :
    Except DatabaseFault (List HotFrame) :=
  if t.samples.isEmpty then .ok []
  else do
    let frames ← (firstGroups limit t.ranking).mapM HotGroup.frame
    pure (frames.filter (fun frame => reaches frame.samples))

/-- A count's share of all samples, in percent. Both counts and the hundredfold count are rounded
to floating-point numbers before the division is. -/
def percent (samples total : Nat) : Binary64 :=
  .ofQuotient (roundSignificant (roundSignificant samples * 100)) (roundSignificant total)

def atLeast (x threshold : Binary64) : Bool :=
  x.isNumber && threshold.isNumber && threshold.place ≤ x.place

def Tables.hotFramesFrom (t : Tables) (limit : Nat) (threshold : Binary64) :
    Except DatabaseFault (List HotFrame) :=
  t.hotFrames limit (fun samples => atLeast (percent samples t.samples.length) threshold)

end BurstProfiler.Recording

import BurstProfiler.Elf.Header
import BurstProfiler.Error

/-! The build id of a file: the descriptor of its first build-id note, in hexadecimal. Notes are
looked for in the sections if the file has any, and in its segments otherwise. -/

set_option autoImplicit false

namespace BurstProfiler.Elf

def File.buildIdIn (file : File) (range : Range) (alignment : Nat) (outside : Fault) :
    Except Fault (Option (List UInt8)) :=
  match slice? file.image.bytes range with
  | none => .error outside
  | some bytes =>
    match noteAlignment? alignment with
    | none => .error (.note .alignment)
    | some alignment =>
      match findBuildId file.image.layout alignment bytes with
      | .ok found => .ok found
      | .error fault => .error (.note fault)

/-- The first answer of a list of searches; a fault before it is the result. -/
def firstFound {α : Type} (search : α → Except Fault (Option (List UInt8))) :
    List α → Except Fault (Option (List UInt8))
  | [] => .ok none
  | a :: rest =>
    match search a with
    | .error fault => .error fault
    | .ok (some id) => .ok (some id)
    | .ok none => firstFound search rest

def File.buildId (file : File) : Except Fault (Option (List UInt8)) :=
  if file.sections.isEmpty then
    firstFound (fun (s : Segment) => file.buildIdIn s.range s.alignment .noteSegment)
      (file.segments.filter (·.kind == segmentNotes))
  else
    firstFound (fun (s : Section) => file.buildIdIn s.range s.alignment .noteSection)
      (file.sections.toList.filter (·.kind == kindNotes))

def hexByte (b : UInt8) : List Char :=
  [Nat.digitChar (b.toNat / 16), Nat.digitChar (b.toNat % 16)]

inductive Content where
  | missing
  | directory
  | bytes (content : Array UInt8)

def readBuildId (path : Path) : Content → Except Error (Option String)
  | .missing => .error (.io "No such file or directory (os error 2)")
  | .directory => .error (.io "No such device (os error 19)")
  | .bytes content =>
    match (File.parse content).bind File.buildId with
    | .ok id => .ok (id.map (fun bytes => String.ofList (bytes.flatMap hexByte)))
    | .error fault => .error (.moduleParse path fault.message)

end BurstProfiler.Elf

import BurstProfiler.Number.Integer
import BurstProfiler.Text.Blank

/-! The memory map of a process: the mappings listed one a line as
`start-end perms offset device inode`, with the path of the mapped file behind. -/

set_option autoImplicit false

namespace BurstProfiler.Memory

open BurstProfiler.Text BurstProfiler.Number

structure Mapping where
  start : UInt64
  finish : UInt64
  perms : String
  offset : UInt64
  pathname : Option String
  deriving DecidableEq, Repr

namespace Mapping

def isExecutable (m : Mapping) : Bool := m.perms.toList.contains 'x'

def contains (m : Mapping) (address : UInt64) : Bool :=
  m.start ≤ address && address < m.finish

/-- The path of a mapping with a file behind it. Names such as `[stack]` are no paths. -/
def filePath? (m : Mapping) : Option String :=
  m.pathname.filter (fun path => path.toList.head? == some '/')

/-- The address at which offset zero of the file lies, wrapping around. -/
def loadBase (m : Mapping) : UInt64 := m.start - m.offset

end Mapping

def readAddress? (text : List Char) : Option UInt64 :=
  match readWord 16 text with
  | .ok n => some (UInt64.ofNat n)
  | .error _ => none

def splitHyphen? (text : List Char) : Option (List Char × List Char) :=
  match text.dropWhile (· != '-') with
  | [] => none
  | _ :: behind => some (text.takeWhile (· != '-'), behind)

/-- A mapping from its line. The path's words are joined by single blanks. -/
def Mapping.ofLine? (line : List Char) : Option Mapping :=
  match words line with
  | range :: perms :: offset :: _ :: _ :: path => do
    let (low, high) ← splitHyphen? range
    let start ← readAddress? low
    let finish ← readAddress? high
    let offset ← readAddress? offset
    let pathname :=
      if path.isEmpty then none else some (String.ofList ([' '].intercalate path))
    pure ⟨start, finish, String.ofList perms, offset, pathname⟩
  | _ => none

structure Maps where
  mappings : List Mapping
  deriving DecidableEq, Repr

namespace Maps

def empty : Maps := ⟨[]⟩

def parse (text : List Char) : Maps := ⟨(lines text).filterMap Mapping.ofLine?⟩

def findExecutable? (maps : Maps) (address : UInt64) : Option Mapping :=
  maps.mappings.find? (fun m => m.isExecutable && m.contains address)

def findExecutableIndex? (maps : Maps) (address : UInt64) : Option Nat :=
  maps.mappings.findIdx? (fun m => m.isExecutable && m.contains address)

def loadBase? (maps : Maps) (path : String) : Option UInt64 :=
  (maps.mappings.find? (fun m => m.pathname == some path)).map Mapping.loadBase

end Maps

end BurstProfiler.Memory

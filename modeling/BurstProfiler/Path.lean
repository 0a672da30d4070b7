import BurstProfiler.Text.Inspect

/-! File paths as bytes. Two paths name the same place when their components agree: repeated
slashes, `.` between slashes and a slash at the end do not count. -/

set_option autoImplicit false

namespace BurstProfiler

structure Path where
  bytes : List UInt8
  deriving DecidableEq, Repr

namespace Path

def slash : UInt8 := 47
def dot : UInt8 := 46

def ofText (text : List Char) : Path := ⟨Text.encodeUtf8 text⟩

def ofString (text : String) : Path := ofText text.toList

/-- The path's text, with a replacement character for bytes that are no UTF-8. -/
def lossy (path : Path) : List Char := Text.lossyText path.bytes

def display (path : Path) : String := String.ofList path.lossy

/-- The bytes between slashes; `piece` is the start of the first piece in reverse. -/
def splitSlashes (piece : List UInt8) : List UInt8 → List (List UInt8)
  | [] => [piece.reverse]
  | b :: rest =>
    if b == slash then piece.reverse :: splitSlashes [] rest else splitSlashes (b :: piece) rest

structure Components where
  rooted : Bool
  names : List (List UInt8)
  deriving DecidableEq, Repr

/-- The components of a path. A `.` counts only at the start of a relative path. -/
def components (path : Path) : Components :=
  let pieces := splitSlashes [] path.bytes
  let rooted := path.bytes.head? == some slash
  let counted := fun piece => piece != [] && piece != [dot]
  let leading := if !rooted && pieces.head? == some [dot] then [[dot]] else []
  ⟨rooted, leading ++ pieces.filter counted⟩

def same (a b : Path) : Bool := a.components == b.components

def inspect (path : Path) : String := Text.quoteBytes path.bytes

theorem same_refl (path : Path) : path.same path = true := by simp [same]

theorem same_symm {a b : Path} (h : a.same b = true) : b.same a = true := by
  simp only [same, beq_iff_eq] at *; exact h.symm

theorem same_trans {a b c : Path} (h : a.same b = true) (k : b.same c = true) :
    a.same c = true := by
  simp only [same, beq_iff_eq] at *; exact h.trans k

end Path

end BurstProfiler

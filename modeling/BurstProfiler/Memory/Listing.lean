import BurstProfiler.Memory.Maps

/-! The text of a memory map: a line for each mapping, with the device and the inode of its file
and blanks in front of the path. -/

set_option autoImplicit false

namespace BurstProfiler.Memory

open BurstProfiler.Number

structure Listed where
  mapping : Mapping
  major : Nat
  minor : Nat
  inode : Nat
  /-- How many blanks follow the first one behind the inode. -/
  blanks : Nat
  deriving DecidableEq, Repr

def paddedHex (width n : Nat) : List Char :=
  List.replicate (width - (hex n).length) '0' ++ hex n

def Listed.line (l : Listed) : List Char :=
  paddedHex 8 l.mapping.start.toNat ++ ['-'] ++ paddedHex 8 l.mapping.finish.toNat ++ [' '] ++
    l.mapping.perms.toList ++ [' '] ++ paddedHex 8 l.mapping.offset.toNat ++ [' '] ++
    paddedHex 2 l.major ++ [':'] ++ paddedHex 2 l.minor ++ [' '] ++ Nat.toDigits 10 l.inode ++
    List.replicate (l.blanks + 1) ' ' ++ (l.mapping.pathname.getD "").toList

def listing (entries : List Listed) : List Char :=
  entries.flatMap (fun entry => entry.line ++ ['\n'])

end BurstProfiler.Memory

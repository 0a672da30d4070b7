import BurstProfiler.Text.Ranges
import BurstProfiler.Text.WidthClasses

/-! The number of columns a text takes on a terminal. Wide characters take two, marks none and
controls one; a carriage return with its line feed takes one. Emoji sequences take two: with a
presentation selector, with a skin tone, or joined. A lam with the alef behind it takes one. -/

set_option autoImplicit false

namespace BurstProfiler.Text

def charWidth (c : Char) : Nat :=
  if c.toNat < 0x300 then (if c = '\u00AD' then 0 else 1)
  else if inRanges wideRanges c then 2
  else if inRanges zeroWidthRanges c then 0
  else 1

def isLam (c : Char) : Bool :=
  [0x644, 0x6B5, 0x6B6, 0x6B7, 0x6B8, 0x76A, 0x8A6, 0x8C7].contains c.toNat

def isAlef (c : Char) : Bool :=
  let n := c.toNat
  [0x622, 0x623, 0x625, 0x627, 0x671, 0x672, 0x673, 0x675, 0x773, 0x774].contains n ||
    (0x870 ≤ n && n ≤ 0x882)

def isSkinTone (c : Char) : Bool := 0x1F3FB ≤ c.toNat && c.toNat ≤ 0x1F3FF

def isEnclosedIdeograph (c : Char) : Bool := 0x1F200 ≤ c.toNat && c.toNat ≤ 0x1F2FF

/-- The columns so far, with the last character that is no mark and the columns it took. -/
structure Pen where
  columns : Nat
  base : Char
  baseWidth : Nat
  touching : Bool
  joined : Bool
  deriving DecidableEq, Repr

namespace Pen

def start : Pen := ⟨0, '\x00', 0, false, false⟩

def mark (p : Pen) : Pen := { p with touching := false, joined := false }

def resize (p : Pen) (width : Nat) : Pen :=
  { p with columns := p.columns - p.baseWidth + width, baseWidth := width, joined := false }

def place (p : Pen) (c : Char) (width : Nat) : Pen := ⟨p.columns + width, c, width, true, false⟩

def step (p : Pen) (c : Char) : Pen :=
  if c = '\n' ∧ p.base = '\r' ∧ p.touching then p.place c 0
  else if c = '\uFE0F' then
    if p.touching ∧ p.baseWidth = 1 ∧ inRanges emojiRanges p.base then p.resize 2 else p.mark
  else if c = '\uFE0E' then
    if p.touching ∧ p.baseWidth = 2 ∧ inRanges emojiPresentationRanges p.base ∧
        ¬isEnclosedIdeograph p.base then
      p.resize 1
    else p.mark
  else if c = '\u200D' then { p with joined := inRanges emojiRanges p.base && 0x80 < p.base.toNat }
  else if isSkinTone c ∧ p.touching ∧ inRanges modifierBaseRanges p.base then
    { p.resize 2 with touching := true }
  else if p.joined ∧ inRanges emojiRanges c ∧ 0x80 < c.toNat then
    { p with base := c, baseWidth := p.baseWidth, touching := true, joined := false }
  else if isAlef c ∧ isLam p.base then p.place c 0
  else if charWidth c = 0 then p.mark
  else p.place c (charWidth c)

end Pen

def displayWidth (text : List Char) : Nat := (text.foldl Pen.step .start).columns

end BurstProfiler.Text

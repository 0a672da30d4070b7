import BurstProfiler.Elf.Note

/-! The header of an ELF file and its tables of segments and sections, checked in the order in
which a reader meets them. -/

set_option autoImplicit false

namespace BurstProfiler.Elf

inductive Fault where
  | noMagic
  | unknownMagic
  | unknownDosFile
  | unsupportedFormat
  | headerSize
  | unsupportedHeader
  | segmentEntrySize
  | segmentTable
  | segmentCount
  | sectionEntrySize
  | firstSection
  | sectionTable
  | nameTableIndex
  | nameTableSize
  | symbolTable
  | extendedIndexTable
  | sectionIndex
  | stringSectionType
  | stringSectionSize
  | relocationTarget
  | relocatedRelocation
  | noteSection
  | noteSegment
  | note (fault : NoteFault)
  deriving DecidableEq, Repr

def Fault.message : Fault → String
  | .noMagic => "Could not read file magic"
  | .unknownMagic => "Unknown file magic"
  | .unknownDosFile => "Unknown MS-DOS file"
  | .unsupportedFormat => "Unsupported file format"
  | .headerSize => "Invalid ELF header size or alignment"
  | .unsupportedHeader => "Unsupported ELF header"
  | .segmentEntrySize => "Invalid ELF program header entry size"
  | .segmentTable => "Invalid ELF program header size or alignment"
  | .segmentCount => "Missing ELF section headers for e_phnum overflow"
  | .sectionEntrySize => "Invalid ELF section header entry size"
  | .firstSection => "Invalid ELF section header offset or size"
  | .sectionTable => "Invalid ELF section header offset/size/alignment"
  | .nameTableIndex => "Invalid ELF e_shstrndx"
  | .nameTableSize => "Invalid ELF shstrtab size"
  | .symbolTable => "Invalid ELF symbol table data"
  | .extendedIndexTable => "Invalid ELF symtab_shndx data"
  | .sectionIndex => "Invalid ELF section index"
  | .stringSectionType => "Invalid ELF string section type"
  | .stringSectionSize => "Invalid ELF string section offset or size"
  | .relocationTarget => "Invalid ELF sh_info for relocation section"
  | .relocatedRelocation => "Unsupported ELF sh_info for relocation section"
  | .noteSection => "Invalid ELF note section offset or size"
  | .noteSegment => "Invalid ELF note segment offset or size"
  | .note fault => fault.message

structure Segment where
  kind : Nat
  range : Range
  alignment : Nat
  deriving DecidableEq, Repr

structure Section where
  kind : Nat
  range : Range
  link : Nat
  info : Nat
  alignment : Nat
  deriving DecidableEq, Repr

def kindSymbols : Nat := 2
def kindStrings : Nat := 3
def kindRelocationsAddend : Nat := 4
def kindNotes : Nat := 7
def kindNoBits : Nat := 8
def kindRelocations : Nat := 9
def kindDynamicSymbols : Nat := 11
def kindExtendedIndices : Nat := 18
def segmentNotes : Nat := 4

def startsWith (bytes : Array UInt8) (start : List UInt8) : Bool :=
  (bytes.toList.take start.length) == start

def identify (bytes : Array UInt8) : Except Fault Image :=
  if bytes.size < 16 then .error .noMagic
  else if startsWith bytes [0x7F, 0x45, 0x4C, 0x46, 1] ∨
      startsWith bytes [0x7F, 0x45, 0x4C, 0x46, 2] then
    let wide := bytes[4]? == some 2
    if bytes.size < (if wide then 64 else 52) then .error .headerSize
    else
      let order := bytes[5]?
      if (order == some 1 || order == some 2) && bytes[6]? == some 1 then
        .ok ⟨bytes, wide, order == some 2⟩
      else .error .unsupportedHeader
  else if startsWith bytes [0x4D, 0x5A] then .error .unknownDosFile
  else if startsWith bytes [0x21, 0x3C, 0x61, 0x72, 0x63, 0x68, 0x3E, 0x0A] ∨
      startsWith bytes [0x21, 0x3C, 0x74, 0x68, 0x69, 0x6E, 0x3E, 0x0A] ∨
      startsWith bytes [0xCA, 0xFE, 0xBA, 0xBE] ∨ startsWith bytes [0xCA, 0xFE, 0xBA, 0xBF] then
    .error .unsupportedFormat
  else .error .unknownMagic

namespace Image

def segmentTableOffset (image : Image) : Nat :=
  image.number (image.pick 28 32) image.wordSize
def sectionTableOffset (image : Image) : Nat :=
  image.number (image.pick 32 40) image.wordSize
def segmentEntrySize (image : Image) : Nat := image.number (image.pick 42 54) 2
def statedSegments (image : Image) : Nat := image.number (image.pick 44 56) 2
def sectionEntrySize (image : Image) : Nat := image.number (image.pick 46 58) 2
def statedSections (image : Image) : Nat := image.number (image.pick 48 60) 2
def statedNameTable (image : Image) : Nat := image.number (image.pick 50 62) 2

def segmentSize (image : Image) : Nat := image.pick 32 56
def sectionSize (image : Image) : Nat := image.pick 40 64

def segmentAt (image : Image) (offset : Nat) : Segment :=
  let word := fun narrow wide => image.number (offset + image.pick narrow wide) image.wordSize
  { kind := image.number offset 4
    range := ⟨word 4 8, word 16 32⟩
    alignment := word 28 48 }

def sectionAt (image : Image) (offset : Nat) : Section :=
  let word := fun narrow wide => image.number (offset + image.pick narrow wide) image.wordSize
  { kind := image.number (offset + 4) 4
    range := ⟨word 16 24, word 20 32⟩
    link := image.number (offset + image.pick 24 40) 4
    info := image.number (offset + image.pick 28 44) 4
    alignment := word 32 48 }

/-- The first entry of the section table, in which counts that do not fit the header stand. -/
def firstSection? (image : Image) : Except Fault (Option Section) :=
  let start := image.sectionTableOffset
  if start = 0 then .ok none
  else if image.sectionEntrySize ≠ image.sectionSize then .error .sectionEntrySize
  else if image.fits ⟨start, image.sectionSize⟩ then .ok (some (image.sectionAt start))
  else .error .firstSection

def segmentCount (image : Image) : Except Fault Nat :=
  if image.statedSegments < 0xFFFF then .ok image.statedSegments
  else
    match image.firstSection? with
    | .error fault => .error fault
    | .ok none => .error .segmentCount
    | .ok (some first) => .ok first.info

def segments (image : Image) : Except Fault (List Segment) :=
  let start := image.segmentTableOffset
  if start = 0 then .ok []
  else do
    let count ← image.segmentCount
    if count = 0 then pure []
    else if image.segmentEntrySize ≠ image.segmentSize then throw .segmentEntrySize
    else if image.fits ⟨start, count * image.segmentSize⟩ then
      pure ((List.range count).map (fun i => image.segmentAt (start + i * image.segmentSize)))
    else throw .segmentTable

def sectionCount (image : Image) : Except Fault Nat :=
  if 0 < image.statedSections then .ok image.statedSections
  else
    match image.firstSection? with
    | .error fault => .error fault
    | .ok none => .ok 0
    | .ok (some first) => .ok first.range.size

def sections (image : Image) : Except Fault (Array Section) :=
  let start := image.sectionTableOffset
  if start = 0 then .ok #[]
  else do
    let count ← image.sectionCount
    if count = 0 then pure #[]
    else if image.sectionEntrySize ≠ image.sectionSize then throw .sectionEntrySize
    else if image.fits ⟨start, count * image.sectionSize⟩ then
      pure ((List.range count).map
        (fun i => image.sectionAt (start + i * image.sectionSize))).toArray
    else throw .sectionTable

def checkNameTable (image : Image) (sections : Array Section) : Except Fault Unit :=
  if sections.isEmpty then .ok ()
  else do
    let index ←
      if image.statedNameTable ≠ 0xFFFF then pure image.statedNameTable
      else
        match image.firstSection? with
        | .error fault => throw fault
        | .ok none => pure 0
        | .ok (some first) => pure first.link
    if index = 0 then pure ()
    else
      match sections[index]? with
      | none => throw .nameTableIndex
      | some names =>
        if names.kind ≠ kindNoBits ∧ offsetLimit ≤ names.range.offset + names.range.size then
          throw .nameTableSize
        else pure ()

def checkStrings (sections : Array Section) (index : Nat) : Except Fault Unit :=
  if index = 0 then .ok ()
  else
    match sections[index]? with
    | none => .error .sectionIndex
    | some strings =>
      if strings.kind ≠ kindStrings then .error .stringSectionType
      else if offsetLimit ≤ strings.range.offset + strings.range.size then
        .error .stringSectionSize
      else .ok ()

def hasData (image : Image) (s : Section) : Bool := s.kind == kindNoBits || image.fits s.range

/-- Checks the first symbol table of a kind and answers its index, zero if there is none. -/
def checkSymbols (image : Image) (sections : Array Section) (kind : Nat) : Except Fault Nat :=
  let numbered := (sections.toList.zipIdx).drop 1
  match numbered.find? (fun entry => entry.1.kind == kind) with
  | none => .ok 0
  | some (table, index) => do
    if !image.hasData table then throw .symbolTable
    checkStrings sections table.link
    let extended := numbered.filter
      (fun entry => entry.1.kind == kindExtendedIndices && entry.1.link == index)
    if extended.all (fun entry => image.hasData entry.1) then pure index
    else throw .extendedIndexTable

def Section.isRelocation (s : Section) : Bool :=
  s.kind == kindRelocations || s.kind == kindRelocationsAddend

/-- Relocations of the symbol table have to apply to a section that is no relocation itself. -/
def checkRelocations (sections : Array Section) (symbols : Nat) : Except Fault Unit :=
  (sections.toList.drop 1).reverse.forM (fun s =>
    if Section.isRelocation s && s.link == symbols && s.info != 0 then
      match sections[s.info]? with
      | none => .error .relocationTarget
      | some target =>
        if Section.isRelocation target then .error .relocatedRelocation else .ok ()
    else .ok ())

end Image

structure File where
  image : Image
  segments : List Segment
  sections : Array Section

def File.parse (bytes : Array UInt8) : Except Fault File := do
  let image ← identify bytes
  let segments ← image.segments
  let sections ← image.sections
  image.checkNameTable sections
  let symbols ← image.checkSymbols sections kindSymbols
  let _ ← image.checkSymbols sections kindDynamicSymbols
  Image.checkRelocations sections symbols
  pure ⟨image, segments, sections⟩

end BurstProfiler.Elf

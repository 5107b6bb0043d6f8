import ItabRecovery.Layout

/-!
# Records of Mach-O files

The fixed-size records that a Mach-O file is made of.  A file is narrow or wide, with 32-bit or
64-bit addresses, and written in one byte order throughout; its magic tells both.
-/

namespace ItabRecovery.MachO

/-! ## Width and byte order -/

structure Flavor where
  /-- Whether addresses have 64 bits. -/
  wide : Bool
  order : ByteOrder
  deriving DecidableEq

/-- The flavor that the first four bytes tell, read as a big-endian word. -/
def Flavor.ofMagic? (magic : UInt32) : Option Flavor :=
  if magic = 0xfeedfacf then some ⟨true, .big⟩
  else if magic = 0xcffaedfe then some ⟨true, .little⟩
  else if magic = 0xfeedface then some ⟨false, .big⟩
  else if magic = 0xcefaedfe then some ⟨false, .little⟩
  else none

def word (wide : Bool) : Layout UInt64 :=
  if wide then Layout.u64 else Layout.u32.iso UInt32.toUInt64 UInt64.toUInt32

/-- Text in a field of fixed size ends at the first NUL, if there is one. -/
def trimNul (bs : List UInt8) : List UInt8 :=
  bs.takeWhile (· != 0)

/-! ## Header -/

structure Header where
  magic : UInt32
  processor : UInt32
  processorSubtype : UInt32
  fileType : UInt32
  commandCount : UInt32
  commandsSize : UInt32
  flags : UInt32
  deriving DecidableEq

def Header.layout : Layout Header :=
  (Layout.u32.seq <| Layout.u32.seq <| Layout.u32.seq <| Layout.u32.seq <| Layout.u32.seq <|
    Layout.u32.seq Layout.u32).iso
  (fun (magic, processor, subtype, fileType, count, size, flags) =>
    ⟨magic, processor, subtype, fileType, count, size, flags⟩)
  (fun h => (h.magic, h.processor, h.processorSubtype, h.fileType, h.commandCount,
    h.commandsSize, h.flags))

/-- Where the load commands start; a wide header ends with four bytes of no use. -/
def Header.extent (wide : Bool) : Nat :=
  if wide then 32 else 28

/-! ## Load commands -/

structure CommandHeader where
  command : UInt32
  size : UInt32
  deriving DecidableEq

def CommandHeader.layout : Layout CommandHeader :=
  (Layout.u32.seq Layout.u32).iso (fun (command, size) => ⟨command, size⟩)
    (fun h => (h.command, h.size))

/-- A load command that maps a part of the file. -/
structure SegmentCommand where
  header : CommandHeader
  name : List UInt8
  address : UInt64
  memorySize : UInt64
  fileOffset : UInt64
  fileSize : UInt64
  maxProtection : UInt32
  initProtection : UInt32
  sectionCount : UInt32
  flags : UInt32
  deriving DecidableEq

def SegmentCommand.layout (wide : Bool) : Layout SegmentCommand :=
  (CommandHeader.layout.seq <| (Layout.bytes 16).seq <| (word wide).seq <| (word wide).seq <|
    (word wide).seq <| (word wide).seq <| Layout.u32.seq <| Layout.u32.seq <|
    Layout.u32.seq Layout.u32).iso
  (fun (header, name, address, memorySize, fileOffset, fileSize, maxProt, initProt, count,
      flags) =>
    ⟨header, name, address, memorySize, fileOffset, fileSize, maxProt, initProt, count, flags⟩)
  (fun c => (c.header, c.name, c.address, c.memorySize, c.fileOffset, c.fileSize,
    c.maxProtection, c.initProtection, c.sectionCount, c.flags))

/-- A load command that tells where the symbols and their names are. -/
structure SymbolTableCommand where
  header : CommandHeader
  symbolsOffset : UInt32
  symbolCount : UInt32
  stringsOffset : UInt32
  stringsSize : UInt32
  deriving DecidableEq

def SymbolTableCommand.layout : Layout SymbolTableCommand :=
  (CommandHeader.layout.seq <| Layout.u32.seq <| Layout.u32.seq <|
    Layout.u32.seq Layout.u32).iso
  (fun (header, symbolsOffset, symbolCount, stringsOffset, stringsSize) =>
    ⟨header, symbolsOffset, symbolCount, stringsOffset, stringsSize⟩)
  (fun c => (c.header, c.symbolsOffset, c.symbolCount, c.stringsOffset, c.stringsSize))

/-! ## Sections and symbols -/

structure SectionHeader where
  name : List UInt8
  segment : List UInt8
  address : UInt64
  size : UInt64
  offset : UInt32
  align : UInt32
  relocationsOffset : UInt32
  relocationCount : UInt32
  flags : UInt32
  deriving DecidableEq

def SectionHeader.layout (wide : Bool) : Layout SectionHeader :=
  ((Layout.bytes 16).seq <| (Layout.bytes 16).seq <| (word wide).seq <| (word wide).seq <|
    Layout.u32.seq <| Layout.u32.seq <| Layout.u32.seq <| Layout.u32.seq <| Layout.u32.seq <|
    Layout.gap (if wide then 12 else 8)).iso
  (fun (name, segment, address, size, offset, align, relOffset, relCount, flags, _) =>
    ⟨name, segment, address, size, offset, align, relOffset, relCount, flags⟩)
  (fun s => (s.name, s.segment, s.address, s.size, s.offset, s.align, s.relocationsOffset,
    s.relocationCount, s.flags, ()))

/-- Whether a section takes memory but no bytes of the file. -/
def SectionHeader.isZeroFill (s : SectionHeader) : Bool :=
  [0x1, 0xc, 0x12].contains (s.flags &&& 0xff)

structure SymbolEntry where
  /-- The offset of the name in the string table. -/
  name : UInt32
  type : UInt8
  sectionNumber : UInt8
  description : UInt16
  value : UInt64
  deriving DecidableEq

def SymbolEntry.layout (wide : Bool) : Layout SymbolEntry :=
  (Layout.u32.seq <| Layout.u8.seq <| Layout.u8.seq <| Layout.u16.seq (word wide)).iso
    (fun (name, type, number, description, value) => ⟨name, type, number, description, value⟩)
    (fun s => (s.name, s.type, s.sectionNumber, s.description, s.value))

end ItabRecovery.MachO

import ItabRecovery.MachO.LoadCommand

/-!
# Parsing Mach-O files

`parse` finds the parts of a file: first the header and all load commands, then the section headers
of each segment, then the symbol table.  What it finds need not all be readable; that is left to
those who ask for a part.
-/

namespace ItabRecovery.MachO

structure ParsedSection where
  name : Except Fault String
  segment : Except Fault String
  address : UInt64
  data : ByteArray

/-- The parts of a file: the sections of each segment, and the names and values of its symbols. -/
structure Parsed where
  flavor : Flavor
  segments : List (Except Fault (List ParsedSection))
  symbols : List (Except Fault (String × UInt64))

/-! ## Tables -/

/-- The `n` records in a row from `start` on, if all of them are within the file. -/
def records? {α : Type} (file : ByteArray) (l : Layout α) (o : ByteOrder) (start n : Nat) :
    Option (List α) :=
  if n = 0 ∨ start + n * l.size ≤ file.size then
    (List.range n).mapM fun i => record? file l o (start + i * l.size)
  else none

/-- The bytes of a section; none if it has none in the file. -/
def sectionData (file : ByteArray) (s : SectionHeader) : ByteArray :=
  if s.isZeroFill ∨ file.size < s.offset.toNat + s.size.toNat then ByteArray.empty
  else file.extract s.offset.toNat (s.offset.toNat + s.size.toNat)

def parsedSection (file : ByteArray) (s : SectionHeader) : ParsedSection :=
  ⟨readable (Utf8.strict? (trimNul s.name)), readable (Utf8.strict? (trimNul s.segment)), s.address,
    sectionData file s⟩

/-- The sections of a segment.  Their headers follow its command at a distance that the
width of the file decides, not that of the command. -/
def sectionsOf (file : ByteArray) (f : Flavor) (segment : Nat × SegmentCommand) :
    Except Fault (List ParsedSection) := do
  let (start, c) := segment
  let headers ← readable <| records? file (SectionHeader.layout f.wide) f.order
    (start + (SegmentCommand.layout f.wide).size) c.sectionCount.toNat
  return headers.map (parsedSection file)

/-- The symbols of a symbol table; a table that is not within the file counts as one symbol that
cannot be read. -/
def symbolsOf (file : ByteArray) (f : Flavor) (c : SymbolTableCommand) :
    List (Except Fault (String × UInt64)) :=
  match records? file (SymbolEntry.layout f.wide) f.order c.symbolsOffset.toNat
      c.symbolCount.toNat with
  | some entries => entries.map fun e =>
    (readable (textAt? file (c.stringsOffset.toNat + e.name.toNat))).map (·, e.value)
  | none => [.error .unreadable]

/-! ## The whole file -/

/-- How the name of the segment starts that entry points are counted from. -/
def textSegmentName : List UInt8 := [0x5f, 0x5f, 0x54, 0x45, 0x58, 0x54, 0]

/-- An entry point needs a segment to be counted from. -/
def checkEntry (s : Survey) : Except Fault Unit :=
  match s.entry with
  | some entry =>
    if s.segments.any fun (_, c) => textSegmentName.isPrefixOf c.name then .ok ()
    else .error (.entryWithoutText entry)
  | none => .ok ()

def flavorOf (file : ByteArray) : Except Fault Flavor := do
  let magic ← require file .big Layout.u32 0
  match Flavor.ofMagic? magic with
  | some f => return f
  | none => throw (.badMagic magic)

def headerOf (file : ByteArray) (f : Flavor) : Except Fault Header := do
  if file.size < Header.extent true then
    throw .noHeader
  let header ← require file f.order Header.layout 0
  if header.commandsSize.toNat / CommandHeader.layout.size < header.commandCount.toNat ∨
      file.size < header.commandsSize.toNat then
    throw (.noRoomForCommands header.commandCount)
  return header

def parse (file : ByteArray) : Except Fault Parsed := do
  let f ← flavorOf file
  let header ← headerOf file f
  let survey ← Survey.empty.walk file f.order header.processor header.commandCount.toNat
    (Header.extent f.wide)
  checkEntry survey
  return ⟨f, survey.segments.reverse.map (sectionsOf file f),
    survey.symbolTable.elim [] (symbolsOf file f)⟩

end ItabRecovery.MachO

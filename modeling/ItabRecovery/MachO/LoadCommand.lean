import ItabRecovery.MachO.Fault
import ItabRecovery.MachO.Record
import ItabRecovery.Slice
import ItabRecovery.Text.Utf8

/-!
# Load commands

The header of a file promises a number of load commands; `Survey.walk` reads them one after
the other and keeps what the rest of the file is read by: the segments, the symbol table and
the entry point.  Every command is checked before it is used:

- its size has to be within the file,
- the record that its number calls for has to be within the file,
- what it points to (a mapped part, a name, a table) has to be within the file.
-/

namespace ItabRecovery.MachO

/-! ## Texts and records -/

/-- The offset of the first NUL from `i` on, or the end of the file. -/
def textEnd (file : ByteArray) (i : Nat) : Nat :=
  if h : i < file.size then
    if file[i] = 0 then i else textEnd file (i + 1)
  else i
termination_by file.size - i

/-- The text that starts at an offset and ends at a NUL or with the file; at the very end of the
file it is empty. -/
def textAt? (file : ByteArray) (offset : Nat) : Option String :=
  (slice? file offset (textEnd file offset - offset)).bind Utf8.strict?

/-- What has to be there for the file to be read. -/
def readable {α : Type} (x : Option α) : Except Fault α :=
  x.elim (.error .unreadable) .ok

def require {α : Type} (file : ByteArray) (o : ByteOrder) (l : Layout α) (offset : Nat) :
    Except Fault α :=
  readable (record? file l o offset)

/-! ## Numbers of commands -/

def segmentCommand : UInt32 := 0x1
def symbolTableCommand : UInt32 := 0x2
def threadCommand : UInt32 := 0x4
def unixThreadCommand : UInt32 := 0x5
def segment64Command : UInt32 := 0x19
def mainCommand : UInt32 := 0x80000028

/-- The commands whose word at offset 8 is the place of a library's name or a path. -/
def namingCommands : List UInt32 :=
  [0xc, 0xd, 0x80000018, 0x8000001f, 0x20, 0x80000023, 0x8000001c]

def recordSizes : List (Nat × Nat) :=
  [(0x1, 56), (0x2, 24), (0x3, 16), (0x4, 16), (0x5, 16), (0x6, 20), (0x7, 20), (0x8, 8),
   (0x9, 16), (0xa, 8), (0xb, 80), (0xc, 24), (0xd, 24), (0xe, 12), (0xf, 12), (0x10, 20),
   (0x11, 40), (0x12, 12), (0x13, 12), (0x14, 12), (0x15, 12), (0x16, 16), (0x17, 12),
   (0x80000018, 24), (0x19, 72), (0x1a, 72), (0x1b, 24), (0x8000001c, 12), (0x1d, 16),
   (0x1e, 16), (0x8000001f, 24), (0x20, 24), (0x21, 20), (0x22, 48), (0x80000022, 48),
   (0x80000023, 24), (0x24, 16), (0x25, 16), (0x26, 16), (0x27, 12), (0x80000028, 24),
   (0x29, 16), (0x2a, 16), (0x2b, 16), (0x2c, 24), (0x2d, 16), (0x2e, 16), (0x2f, 16),
   (0x30, 16), (0x31, 40), (0x32, 24), (0x80000033, 16), (0x80000034, 16)]

/-- How many bytes the record of a command takes; eight if nothing is known of it. -/
def recordSize (command : UInt32) : Nat :=
  (recordSizes.lookup command.toNat).getD CommandHeader.layout.size

/-- The processors whose instruction pointer can be found in a thread state. -/
def knownProcessors : List UInt32 :=
  [7, 0x01000007, 12, 0x0100000c, 0x0200000c, 18]

def maxThreadWords : UInt32 := 70

/-! ## Survey -/

/-- What the load commands have told so far. -/
structure Survey where
  /-- The segments and where their commands start, last one first. -/
  segments : List (Nat × SegmentCommand)
  /-- The last symbol table. -/
  symbolTable : Option SymbolTableCommand
  /-- The first entry point. -/
  entry : Option UInt64
  hasThread : Bool

namespace Survey

def empty : Survey := ⟨[], none, none, false⟩

variable (file : ByteArray) (o : ByteOrder)

/-- The start of a command, its size and record checked against the end of the file. -/
def commandAt (start : Nat) : Except Fault CommandHeader := do
  let head ← require file o CommandHeader.layout start
  let left := file.size - start
  if left < head.size.toNat then
    throw (.commandTooLong head.command head.size left)
  if left < recordSize head.command then
    throw .unreadable
  return head

/-- Notes a segment; the part of the file that it maps has to exist. -/
def addSegment (s : Survey) (wide : Bool) (start : Nat) : Except Fault Survey := do
  let c ← require file o (SegmentCommand.layout wide) start
  if c.fileSize ≠ 0 ∧ file.size < c.fileOffset.toNat + c.fileSize.toNat then
    throw .unreadable
  return { s with segments := (start, c) :: s.segments }

def addSymbolTable (s : Survey) (start : Nat) : Except Fault Survey := do
  let c ← require file o SymbolTableCommand.layout start
  if c.stringsOffset < c.symbolsOffset then
    throw .stringsBeforeSymbols
  if file.size < c.symbolsOffset.toNat then
    throw .unreadable
  return { s with symbolTable := some c }

def checkName (s : Survey) (start : Nat) : Except Fault Survey := do
  let offset ← require file o Layout.u32 (start + 8)
  match textAt? file (start + offset.toNat) with
  | some _ => return s
  | none => throw .unreadable

/-- Checks a thread state, which follows the sixteen bytes that a thread's command starts with. -/
def checkThread (start : Nat) : Except Fault Unit := do
  let words ← require file o Layout.u32 (start + 12)
  if maxThreadWords < words then
    throw (.threadTooLong words)
  let left := file.size - start
  if left < 16 + words.toNat * 4 then
    throw (.threadTruncated (words.toNat * 4) left)

/-- Notes the first entry point that a thread state gives. -/
def addThread (s : Survey) (processor : UInt32) : Except Fault Survey :=
  if !s.hasThread && !knownProcessors.contains processor then
    .error (.noInstructionPointer processor)
  else .ok { s with hasThread := true }

def addEntry (s : Survey) (start : Nat) : Except Fault Survey := do
  let entry ← require file o Layout.u64 (start + 8)
  return { s with entry := s.entry.or (some entry) }

def add (s : Survey) (processor : UInt32) (command : UInt32) (start : Nat) :
    Except Fault Survey :=
  if command = segmentCommand then s.addSegment file o false start
  else if command = segment64Command then s.addSegment file o true start
  else if command = symbolTableCommand then s.addSymbolTable file o start
  else if command = threadCommand then do
    checkThread file o start
    return s
  else if command = unixThreadCommand then do
    checkThread file o start
    s.addThread processor
  else if command = mainCommand then s.addEntry file o start
  else if namingCommands.contains command then s.checkName file o start
  else .ok s

/-- Reads a number of commands, each of which starts where the one before ends. -/
def walk (processor : UInt32) : Nat → Nat → Survey → Except Fault Survey
  | 0, _, s => .ok s
  | n + 1, start, s => do
    let head ← commandAt file o start
    let s ← s.add file o processor head.command start
    walk processor n (start + head.size.toNat) s

end Survey

end ItabRecovery.MachO

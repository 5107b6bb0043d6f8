import ItabRecovery.Executable
import ItabRecovery.Proofs.Layouts

/-!
# Writing Mach-O files down

A wide little-endian file in the simplest shape: a header, one segment with all sections, a symbol
table, then the contents of the sections, the entries of the symbol table and the names of the
symbols, one after the other.  What stands where follows from the sizes of what stands before it;
`Carries` says it for every part at once.

    standsAt plan.file (each part) (the sizes of the parts before it)      (Plan.carries)
-/

namespace ItabRecovery.MachO.Writing

/-! ## Plans -/

/-- What is to be written.  Sections and symbols come with records whose other fields are free. -/
structure Plan where
  header : Header
  segment : SegmentCommand
  sections : List (Section × SectionHeader)
  symbols : List (Symbol × SymbolEntry)
  /-- The bytes between the load commands and the first section. -/
  filler : List UInt8

def nameField (name : String) : List UInt8 :=
  Utf8.encode name ++ List.replicate (16 - (Utf8.encode name).length) 0

/-- A name with the NUL that ends it. -/
def terminated (name : String) : List UInt8 :=
  Utf8.encode name ++ [0]

/-- The headers of sections whose contents stand in a row from an offset on. -/
def sectionHeaders : Nat → List (Section × SectionHeader) → List SectionHeader
  | _, [] => []
  | offset, (s, h) :: rest =>
    { h with
      name := nameField s.name
      segment := nameField s.segment
      address := s.base
      size := UInt64.ofNat s.size
      offset := UInt32.ofNat offset } :: sectionHeaders (offset + s.size) rest

/-- The entries of symbols whose names stand in a row from an offset of the string table on. -/
def symbolEntries : Nat → List (Symbol × SymbolEntry) → List SymbolEntry
  | _, [] => []
  | offset, (s, e) :: rest =>
    { e with name := UInt32.ofNat offset, value := s.value } ::
      symbolEntries (offset + (terminated s.name).length) rest

namespace Plan

variable (plan : Plan)

/-! ## Places -/

def segmentSize : Nat :=
  72 + 80 * plan.sections.length

def symbolTableStart : Nat :=
  32 + plan.segmentSize

def contentsStart : Nat :=
  plan.symbolTableStart + 24 + plan.filler.length

def contents : List UInt8 :=
  plan.sections.flatMap fun s => s.1.data.data.toList

def symbolsStart : Nat :=
  plan.contentsStart + plan.contents.length

def stringsStart : Nat :=
  plan.symbolsStart + 16 * plan.symbols.length

/-- The string table starts with the empty name. -/
def strings : List UInt8 :=
  0 :: plan.symbols.flatMap fun s => terminated s.1.name

/-! ## Records -/

def fileHeader : Header :=
  { plan.header with
    magic := 0xfeedfacf
    commandCount := 2
    commandsSize := UInt32.ofNat (plan.segmentSize + 24) }

def segmentRecord : SegmentCommand :=
  { plan.segment with
    header := ⟨segment64Command, UInt32.ofNat plan.segmentSize⟩
    name := (Layout.bytes 16).encode .little plan.segment.name
    fileOffset := UInt64.ofNat plan.contentsStart
    fileSize := UInt64.ofNat plan.contents.length
    sectionCount := UInt32.ofNat plan.sections.length }

def headers : List SectionHeader :=
  sectionHeaders plan.contentsStart plan.sections

def symbolTableRecord : SymbolTableCommand where
  header := ⟨symbolTableCommand, 24⟩
  symbolsOffset := UInt32.ofNat plan.symbolsStart
  symbolCount := UInt32.ofNat plan.symbols.length
  stringsOffset := UInt32.ofNat plan.stringsStart
  stringsSize := UInt32.ofNat plan.strings.length

def entries : List SymbolEntry :=
  symbolEntries 1 plan.symbols

/-! ## The file -/

/-- The parts of the file in order. -/
def parts : List (List UInt8) :=
  [Header.layout.encode .little plan.fileHeader,
    [0, 0, 0, 0],
    (SegmentCommand.layout true).encode .little plan.segmentRecord,
    plan.headers.flatMap ((SectionHeader.layout true).encode .little),
    SymbolTableCommand.layout.encode .little plan.symbolTableRecord,
    plan.filler,
    plan.contents,
    plan.entries.flatMap ((SymbolEntry.layout true).encode .little),
    plan.strings]

def bytes : List UInt8 :=
  plan.parts.flatten

def file : ByteArray :=
  ⟨plan.bytes.toArray⟩

def image : Image :=
  ⟨plan.sections.map Prod.fst, plan.symbols.map Prod.fst⟩

end Plan

/-! ## What can be written -/

/-- A name without NULs that fits its field. -/
structure FitsField (name : String) : Prop where
  short : (Utf8.encode name).length ≤ 16
  plain : 0 ∉ Utf8.encode name

instance (name : String) : Decidable (FitsField name) :=
  decidable_of_iff ((Utf8.encode name).length ≤ 16 ∧ 0 ∉ Utf8.encode name)
    ⟨fun h => ⟨h.1, h.2⟩, fun h => ⟨h.short, h.plain⟩⟩

/-- A plan whose file has room for what it writes: names fit their fields or end at their NULs,
sections have their bytes in the file, and 32 bits are enough for every offset. -/
structure Plan.Writable (plan : Plan) : Prop where
  sections : ∀ s ∈ plan.sections, FitsField s.1.name ∧ FitsField s.1.segment
  filled : ∀ s ∈ plan.sections, s.2.isZeroFill = false
  symbols : ∀ s ∈ plan.symbols, 0 ∉ Utf8.encode s.1.name
  short : plan.bytes.length < 2 ^ 32

/-! ## Lemmas -/

@[simp] theorem length_nameField {name : String} (h : FitsField name) :
    (nameField name).length = 16 := by
  have := h.short
  rw [nameField, List.length_append, List.length_replicate]
  omega

@[simp] theorem length_sectionHeaders (offset : Nat) (l : List (Section × SectionHeader)) :
    (sectionHeaders offset l).length = l.length := by
  induction l generalizing offset with
  | nil => rfl
  | cons s l ih => rw [sectionHeaders, List.length_cons, ih, List.length_cons]

@[simp] theorem length_symbolEntries (offset : Nat) (l : List (Symbol × SymbolEntry)) :
    (symbolEntries offset l).length = l.length := by
  induction l generalizing offset with
  | nil => rfl
  | cons s l ih => rw [symbolEntries, List.length_cons, ih, List.length_cons]

@[simp] theorem Plan.length_headers (plan : Plan) :
    plan.headers.length = plan.sections.length :=
  length_sectionHeaders _ _

@[simp] theorem Plan.length_entries (plan : Plan) : plan.entries.length = plan.symbols.length :=
  length_symbolEntries _ _

theorem keeps_sectionHeaders {o : ByteOrder} {offset : Nat} {l : List (Section × SectionHeader)}
    (h : ∀ s ∈ l, FitsField s.1.name ∧ FitsField s.1.segment) :
    ∀ r ∈ sectionHeaders offset l, (SectionHeader.layout true).Keeps o r := by
  induction l generalizing offset with
  | nil => simp [sectionHeaders]
  | cons s l ih =>
    obtain ⟨hs, hl⟩ := List.forall_mem_cons.1 h
    rw [sectionHeaders, List.forall_mem_cons]
    exact ⟨SectionHeader.keeps (length_nameField hs.1) (length_nameField hs.2), ih hl⟩

theorem Plan.keeps_headers {plan : Plan} (h : plan.Writable) {o : ByteOrder} :
    ∀ r ∈ plan.headers, (SectionHeader.layout true).Keeps o r :=
  keeps_sectionHeaders h.sections

theorem Plan.keeps_segmentRecord {plan : Plan} {o : ByteOrder} :
    (SegmentCommand.layout true).Keeps o plan.segmentRecord := by
  apply SegmentCommand.keeps
  show ((plan.segment.name ++ List.replicate 16 0).take 16).length = 16
  rw [List.length_take, List.length_append, List.length_replicate]
  omega

/-! ## What stands where -/

/-- The parts of a plan's file stand where its records say. -/
structure Carries (file : ByteArray) (plan : Plan) : Prop where
  size : file.size = plan.stringsStart + plan.strings.length
  short : file.size < 2 ^ 32
  header : standsAt file (Header.layout.encode .little plan.fileHeader) 0 = true
  segment : standsAt file ((SegmentCommand.layout true).encode .little plan.segmentRecord) 32 = true
  headers : standsAt file (plan.headers.flatMap ((SectionHeader.layout true).encode .little)) 104 =
    true
  symbolTable : standsAt file (SymbolTableCommand.layout.encode .little plan.symbolTableRecord)
    plan.symbolTableStart = true
  contents : standsAt file plan.contents plan.contentsStart = true
  entries : standsAt file (plan.entries.flatMap ((SymbolEntry.layout true).encode .little))
    plan.symbolsStart = true
  strings : standsAt file plan.strings plan.stringsStart = true

theorem standsAt_whole (x : List UInt8) : standsAt ⟨x.toArray⟩ x 0 = true := by
  rw [standsAt_iff]
  have hsize : (ByteArray.mk x.toArray).size = x.length := List.size_toArray
  rw [hsize]
  exact ⟨by omega, by simp [window]⟩

theorem Plan.carries {plan : Plan} (h : plan.Writable) : Carries plan.file plan := by
  have hheader : (Header.layout.encode .little plan.fileHeader).length = 28 :=
    (Header.keeps _).length
  have hsegment : ((SegmentCommand.layout true).encode .little plan.segmentRecord).length = 72 :=
    Plan.keeps_segmentRecord.length
  have hheaders : (plan.headers.flatMap ((SectionHeader.layout true).encode .little)).length =
      80 * plan.sections.length := by
    rw [length_flatMap_encode (Plan.keeps_headers h), plan.length_headers]
    rfl
  have hsymbolTable : (SymbolTableCommand.layout.encode .little plan.symbolTableRecord).length =
      24 := (SymbolTableCommand.keeps _).length
  have hentries : (plan.entries.flatMap ((SymbolEntry.layout true).encode .little)).length =
      16 * plan.symbols.length := by
    rw [length_flatMap_encode fun e _ => SymbolEntry.keeps e, plan.length_entries]
    rfl
  have hsize : plan.file.size = plan.bytes.length := List.size_toArray
  have hlength : plan.bytes.length = plan.stringsStart + plan.strings.length := by
    simp only [bytes, parts, List.flatten_cons, List.flatten_nil, List.length_append, hheader,
      hsegment, hheaders, hsymbolTable, hentries, List.length_cons, List.length_nil, stringsStart,
      symbolsStart, contentsStart, symbolTableStart, segmentSize]
    omega
  have hall : standsAt plan.file plan.bytes 0 = true := standsAt_whole plan.bytes
  -- Each part stands behind those before it.
  simp only [bytes, parts, List.flatten_cons, List.flatten_nil, standsAt_append, hheader, hsegment,
    hheaders, hsymbolTable, hentries, List.length_cons, List.length_nil] at hall
  obtain ⟨hat0, -, hat32, hat104, hatTable, -, hatContents, hatEntries, hatStrings, -⟩ := hall
  have htable : 0 + 28 + (0 + 1 + 1 + 1 + 1) + 72 + 80 * plan.sections.length =
      plan.symbolTableStart := by
    simp only [symbolTableStart, segmentSize]
    omega
  rw [htable] at hatTable hatContents hatEntries hatStrings
  exact ⟨hsize.trans hlength, hsize ▸ h.short, hat0, hat32, hat104, hatTable, hatContents,
    hatEntries, hatStrings⟩

end ItabRecovery.MachO.Writing

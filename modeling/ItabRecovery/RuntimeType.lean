import ItabRecovery.Layout

/-!
# Runtime type records

The records that a Go executable for a 64-bit target keeps about its types: a type, a
function type, an interface type, a slice header, an entry of an interface's method table and
a dispatch record (itab).  Each has a structure, a `layout` and the few facts that are read
off its bits.
-/

namespace ItabRecovery

/-! ## Types -/

/-- A type, which is also the start of the records of function and interface types. -/
structure TypeRecord where
  size : UInt64
  /-- How many of the leading bytes may hold pointers. -/
  pointerBytes : UInt64
  hash : UInt32
  /-- A set of flags; bits without a meaning are kept. -/
  flags : UInt8
  align : UInt8
  fieldAlign : UInt8
  /-- The kind in the low five bits, and bits that do not matter here. -/
  rawKind : UInt8
  equal : UInt64
  gcData : UInt64
  text : Int32
  pointerToThis : Int32
  deriving DecidableEq

namespace TypeRecord

def layout : Layout TypeRecord :=
  (Layout.u64.seq <| Layout.u64.seq <| Layout.u32.seq <| Layout.u8.seq <| Layout.u8.seq <|
    Layout.u8.seq <| Layout.u8.seq <| Layout.u64.seq <| Layout.u64.seq <|
    Layout.i32.seq Layout.i32).iso
  (fun (size, pointerBytes, hash, flags, align, fieldAlign, rawKind, equal, gcData, text, ptr) =>
    ⟨size, pointerBytes, hash, flags, align, fieldAlign, rawKind, equal, gcData, text, ptr⟩)
  (fun t => (t.size, t.pointerBytes, t.hash, t.flags, t.align, t.fieldAlign, t.rawKind, t.equal,
    t.gcData, t.text, t.pointerToThis))

def kind (t : TypeRecord) : UInt8 :=
  t.rawKind &&& 0x1f

/-- Kind 22 is that of pointers. -/
def isPointer (t : TypeRecord) : Bool :=
  t.kind == 22

/-- The lowest flag says that 16 bytes of further data follow the record. -/
def hasExtra (t : TypeRecord) : Bool :=
  t.flags &&& 1 != 0

/-- The flags that have a name, lowest bit first. -/
def flagNames : List (UInt8 × String) :=
  [(1, "UNCOMMON"), (2, "EXTRA_STAR"), (4, "NAMED"), (8, "REGULAR_MEMORY")]

def setFlags (t : TypeRecord) : List String :=
  (flagNames.filter fun (bit, _) => t.flags &&& bit != 0).map (·.2)

end TypeRecord

/-! ## Function types -/

/-- A function type: the counts of its parameters; their slots follow the record. -/
structure FuncRecord where
  type : TypeRecord
  inCount : UInt16
  /-- The number of results in the low 15 bits, the variadic mark in the highest. -/
  outCount : UInt16
  deriving DecidableEq

namespace FuncRecord

def layout : Layout FuncRecord :=
  (TypeRecord.layout.seq <| Layout.u16.seq Layout.u16).iso
    (fun (type, inCount, outCount) => ⟨type, inCount, outCount⟩)
    (fun f => (f.type, f.inCount, f.outCount))

/-- The bytes the record takes in its section: its fields, and a gap up to a multiple of eight. -/
def extent : Nat := 56

def extraExtent : Nat := 16

def parameterCount (f : FuncRecord) : Nat :=
  f.inCount.toNat

def resultCount (f : FuncRecord) : Nat :=
  (f.outCount &&& 0x7fff).toNat

/-- Whether the last parameter takes any number of values. -/
def isVariadic (f : FuncRecord) : Bool :=
  f.outCount &&& 0x8000 != 0

def slotsStart (f : FuncRecord) : Nat :=
  if f.type.hasExtra then extent + extraExtent else extent

end FuncRecord

/-! ## Interface types -/

structure SliceRecord where
  data : UInt64
  len : UInt64
  cap : UInt64
  deriving DecidableEq

def SliceRecord.layout : Layout SliceRecord :=
  (Layout.u64.seq <| Layout.u64.seq Layout.u64).iso
    (fun (data, len, cap) => ⟨data, len, cap⟩) (fun h => (h.data, h.len, h.cap))

structure InterfaceRecord where
  type : TypeRecord
  pkgPath : UInt64
  methods : SliceRecord
  deriving DecidableEq

def InterfaceRecord.layout : Layout InterfaceRecord :=
  (TypeRecord.layout.seq <| Layout.u64.seq SliceRecord.layout).iso
    (fun (type, pkgPath, methods) => ⟨type, pkgPath, methods⟩)
    (fun i => (i.type, i.pkgPath, i.methods))

/-- An entry of a method table: the offsets of a name record and of a function type. -/
structure MethodEntry where
  name : Int32
  type : Int32
  deriving DecidableEq

namespace MethodEntry

def layout : Layout MethodEntry :=
  (Layout.i32.seq Layout.i32).iso (fun (name, type) => ⟨name, type⟩) (fun h => (h.name, h.type))

/-- Whether an offset is positive and not past the end of a section of `size` bytes. -/
def pointsInto (size : Nat) (offset : Int32) : Bool :=
  0 < offset.toInt && offset.toInt ≤ size

/-- A padding entry stands for no method: its offsets are equal, or one of them points nowhere. -/
def isPadding (h : MethodEntry) (size : Nat) : Bool :=
  h.name == h.type || !pointsInto size h.name || !pointsInto size h.type

end MethodEntry

/-! ## Dispatch records -/

/-- A dispatch record (itab): one concrete type seen through one interface. -/
structure DispatchRecord where
  interface : UInt64
  concrete : UInt64
  hash : UInt32
  /-- The first function pointer, which is not followed. -/
  firstFunction : UInt64
  deriving DecidableEq

def DispatchRecord.layout : Layout DispatchRecord :=
  (Layout.u64.seq <| Layout.u64.seq <| Layout.u32.seq <| (Layout.gap 4).seq Layout.u64).iso
    (fun (interface, concrete, hash, _, firstFunction) =>
      ⟨interface, concrete, hash, firstFunction⟩)
    (fun r => (r.interface, r.concrete, r.hash, (), r.firstFunction))

/-! ## Sizes -/

@[simp] theorem TypeRecord.size_layout : TypeRecord.layout.size = 48 := rfl

@[simp] theorem FuncRecord.size_layout : FuncRecord.layout.size = 52 := rfl

@[simp] theorem SliceRecord.size_layout : SliceRecord.layout.size = 24 := rfl

@[simp] theorem InterfaceRecord.size_layout : InterfaceRecord.layout.size = 80 := rfl

@[simp] theorem MethodEntry.size_layout : MethodEntry.layout.size = 8 := rfl

@[simp] theorem DispatchRecord.size_layout : DispatchRecord.layout.size = 32 := rfl

end ItabRecovery

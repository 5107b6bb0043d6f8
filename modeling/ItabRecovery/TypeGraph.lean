import ItabRecovery.RuntimeType
import ItabRecovery.Image

/-!
# The graph of type records behind a dispatch record

From a dispatch record the interface type, its method table, the concrete type, and for each
method its function type and the types of its parameters are followed.  Records hold addresses,
which are translated by the section's base; method headers hold offsets into the section.

Every read is checked against the end of the section, and the whole method table before its
first entry is read, so a length in the file cannot ask for more than the section holds.
-/

namespace ItabRecovery

/-- The section of the type records and the byte order they are written in. -/
structure TypeData extends Section where
  order : ByteOrder

/-- An interface type with its method table, padding entries included. -/
structure InterfaceNode where
  type : TypeRecord
  pkgPath : UInt64
  methods : List MethodEntry
  deriving DecidableEq

structure MethodNode where
  header : MethodEntry
  func : FuncRecord
  inputs : List TypeRecord
  outputs : List TypeRecord
  deriving DecidableEq

/-- A dispatch record and everything that is reached from it; the methods without padding. -/
structure DispatchNode where
  record : DispatchRecord
  interface : InterfaceNode
  concrete : TypeRecord
  methods : List MethodNode
  deriving DecidableEq

namespace TypeData

variable (d : TypeData)

def slotSize : Nat := 8

/-- The largest length that a 64-bit word can state. -/
def maxLength : Nat := 0xffffffffffffffff

def dispatchRecordAt (offset : Nat) : Except Error DispatchRecord :=
  d.recordAt DispatchRecord.layout d.order offset DispatchRecord.layout.size

def typeAt (addr : UInt64) : Except Error TypeRecord := do
  let offset ← d.locate addr
  d.recordAt TypeRecord.layout d.order offset TypeRecord.layout.size

def funcAt (offset : Nat) : Except Error FuncRecord :=
  d.recordAt FuncRecord.layout d.order offset FuncRecord.extent

/-- The entries of a method table.  The data address of an empty table is not looked at, and a
table longer than any word can state is reported with the largest such length. -/
def methodTable (table : SliceRecord) : Except Error (List MethodEntry) :=
  if table.len = 0 then .ok []
  else do
    let start ← d.locate table.data
    let count := table.len.toNat
    let extent := count * MethodEntry.layout.size
    match slice? d.data start extent with
    | some entries => return MethodEntry.layout.decodeMany d.order count entries
    | none => throw (.outOfBounds start (min extent maxLength) d.size)

def interfaceAt (addr : UInt64) : Except Error InterfaceNode := do
  let offset ← d.locate addr
  let raw ← d.recordAt InterfaceRecord.layout d.order offset InterfaceRecord.layout.size
  let methods ← d.methodTable raw.methods
  return ⟨raw.type, raw.pkgPath, methods⟩

def slotType (offset : Nat) : Except Error TypeRecord := do
  let slot ← d.bytesAt offset slotSize
  d.typeAt (Layout.u64.decode d.order slot)

def slotTypes (start count : Nat) : Except Error (List TypeRecord) :=
  (List.range count).mapM fun i => d.slotType (start + i * slotSize)

/-- The method of a header that is no padding: parameter slots first, result slots after them. -/
def methodOf (header : MethodEntry) : Except Error MethodNode := do
  let offset := header.type.toInt.toNat
  let func ← d.funcAt offset
  let inStart := offset + func.slotsStart
  let outStart := inStart + func.parameterCount * slotSize
  let inputs ← d.slotTypes inStart func.parameterCount
  let outputs ← d.slotTypes outStart func.resultCount
  return ⟨header, func, inputs, outputs⟩

/-- The dispatch record at an address and all that is reached from it. -/
def dispatchAt (addr : UInt64) : Except Error DispatchNode := do
  let offset ← d.locate addr
  let record ← d.dispatchRecordAt offset
  let interface ← d.interfaceAt record.interface
  let concrete ← d.typeAt record.concrete
  let methods ← (interface.methods.filter fun h => !h.isPadding d.size).mapM d.methodOf
  return ⟨record, interface, concrete, methods⟩

end TypeData

end ItabRecovery

import ItabRecovery.Error
import ItabRecovery.Slice

/-!
# Images: named sections and a symbol table

What recovery needs of an executable, whatever container it came in.  A `Section` knows the
address it is loaded at, so addresses can be turned into offsets (`locate`) and bytes be cut out
(`bytesAt`, `recordAt`); all fail with `Error.outOfBounds` where the section does not reach.
-/

namespace ItabRecovery

/-- A named stretch of bytes with the address of its first one. -/
structure Section where
  name : String
  segment : String
  base : UInt64
  data : ByteArray
  deriving DecidableEq

structure Symbol where
  name : String
  value : UInt64
  deriving DecidableEq

/-- The sections and symbols of an executable, in the order of its tables. -/
structure Image where
  sections : List Section
  symbols : List Symbol
  deriving DecidableEq

namespace Section

def size (s : Section) : Nat :=
  s.data.size

/-- The offset of the byte loaded at `addr`.  An address outside is reported by its distance
from the base, modulo 2^64, with length 0. -/
def locate (s : Section) (addr : UInt64) : Except Error Nat :=
  if s.base ≤ addr ∧ addr.toNat - s.base.toNat < s.size then
    .ok (addr.toNat - s.base.toNat)
  else
    .error (.outOfBounds (addr - s.base).toNat 0 s.size)

def bytesAt (s : Section) (offset len : Nat) : Except Error (List UInt8) :=
  match slice? s.data offset len with
  | some bytes => .ok bytes
  | none => .error (.outOfBounds offset len s.size)

/-- The record at `offset`, which takes `extent` bytes of the section. -/
def recordAt {α : Type} (s : Section) (l : Layout α) (o : ByteOrder) (offset extent : Nat) :
    Except Error α := do
  let bytes ← s.bytesAt offset extent
  return l.decode o bytes

end Section

namespace Image

/-- The first section of a name, whichever segment it is in. -/
def sectionNamed? (image : Image) (name : String) : Option Section :=
  image.sections.find? (·.name == name)

def sectionNamed (image : Image) (name : String) : Except Error Section :=
  match image.sectionNamed? name with
  | some s => .ok s
  | none => .error (.sectionFault name .notFound)

end Image

end ItabRecovery

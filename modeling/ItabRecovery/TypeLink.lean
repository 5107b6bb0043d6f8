import ItabRecovery.Image

/-!
# The type-link table and the byte order

An executable does not say in which byte order its type records are written.  The table of
32-bit offsets in the section `__typelink` hints at it: its sixteenth byte is zero exactly
when the fourth offset is stored least significant byte first and below 2^24.
-/

namespace ItabRecovery.TypeLink

def sectionName : String := "__typelink"

def probeSize : Nat := 16

/-- The byte order that the table hints at. -/
def byteOrder (table : Option Section) : Except Error ByteOrder :=
  match table with
  | none => .error (.byteOrder (.notFound sectionName))
  | some s =>
    match slice? s.data 0 probeSize with
    | none => .error (.byteOrder (.tooShort s.size probeSize))
    | some probe => .ok (if probe.getD (probeSize - 1) 0 = 0 then .little else .big)

/-- A table of offsets as it is stored. -/
def encode (o : ByteOrder) (offsets : List UInt32) : List UInt8 :=
  offsets.flatMap (Layout.u32.encode o)

end ItabRecovery.TypeLink

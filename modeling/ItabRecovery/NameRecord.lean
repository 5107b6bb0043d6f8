import ItabRecovery.Image
import ItabRecovery.Text.Utf8

/-!
# Name records

A text beside the type records is stored as a flag byte, its length in two bytes, most
significant first whatever the byte order of the rest, and its bytes in UTF-8.  Four bytes are
asked for before the length is looked at, so an empty text is refused as the last three
bytes of a section.
-/

namespace ItabRecovery

def rodataName : String := "__rodata"

namespace NameRecord

/-- The bytes that have to be there before the length is looked at. -/
def headSize : Nat := 4

/-- The distance from the start of a record to its text. -/
def textOffset : Nat := 3

/-- A record with a text of at most 65535 bytes. -/
def encode (flag : UInt8) (text : String) : List UInt8 :=
  flag :: ByteOrder.big.encode 2 (Utf8.encode text).length ++ Utf8.encode text

/-- An offset as an unsigned 64-bit number, the sign extended. -/
def unsigned (offset : Int32) : Nat :=
  offset.toInt64.toUInt64.toNat

end NameRecord

open NameRecord in
def Section.nameAt (s : Section) (offset : Int32) : Except Error String :=
  if offset.toInt < 0 then .error (.outOfBounds (unsigned offset) headSize s.size)
  else do
    let start := offset.toInt.toNat
    let head ← s.bytesAt start headSize
    let len := ByteOrder.big.decode ((head.drop 1).take 2)
    match slice? s.data (start + textOffset) len with
    | some text => return Utf8.lossy text
    | none => throw (.sectionFault rodataName (.nameTooLong start len s.size))

end ItabRecovery

import ItabRecovery.Slice

/-!
# Formats of executables

The format of a file is told by its first bytes alone.  `ofStart?` looks at no more than four
of them, so bytes that follow a recognised start change nothing.
-/

namespace ItabRecovery

inductive FileFormat where
  | elf
  | machO
  | pe
  deriving DecidableEq

namespace FileFormat

def name : FileFormat → String
  | elf => "elf"
  | machO => "macho"
  | pe => "pe"

/-- How many bytes a file needs to have before its format is looked for. -/
def probeSize : Nat := 16

def elfStart : List UInt8 := [0x7f, 0x45, 0x4c, 0x46]

def peStart : List UInt8 := [0x4d, 0x5a]

/-- The start of a big-endian Mach-O file, up to the byte that tells its width. -/
def machOBigStart : List UInt8 := [0xfe, 0xed, 0xfa]

/-- What follows the first byte of a little-endian Mach-O file. -/
def machOLittleStart : List UInt8 := [0xfa, 0xed, 0xfe]

def ofStart? (file : ByteArray) : Option FileFormat :=
  if standsAt file elfStart 0 then some elf
  else if standsAt file peStart 0 then some pe
  else if standsAt file machOBigStart 0 || standsAt file machOLittleStart 1 then some machO
  else none

end FileFormat

end ItabRecovery

import ItabRecovery.Image
import ItabRecovery.MachO.Parse

/-!
# Mach-O files

`File.read` copies the sections and symbols out of a parsed file, in the order in which they stand
there; the first that cannot be read is the fault of the file.
-/

namespace ItabRecovery.MachO

/-- What is read of a Mach-O file. -/
structure File where
  flavor : Flavor
  image : Image
  deriving DecidableEq

def copySymbol (s : String × UInt64) : Symbol :=
  ⟨s.1, s.2⟩

def ParsedSection.copy (s : ParsedSection) : Except Fault Section := do
  return ⟨← s.name, ← s.segment, s.address, s.data⟩

/-- All sections, whichever segment they are in, and all symbols. -/
def Parsed.image (p : Parsed) : Except Fault Image := do
  let sections ← p.segments.mapM fun segment => do (← segment).mapM ParsedSection.copy
  let symbols ← p.symbols.mapM fun symbol => symbol.map copySymbol
  return ⟨sections.flatten, symbols⟩

namespace File

/-- Reads a file with a given parser. -/
def readBy (parser : ByteArray → Except Fault Parsed) (file : ByteArray) : Except Fault File := do
  let p ← parser file
  return ⟨p.flavor, ← p.image⟩

def read (file : ByteArray) : Except Fault File :=
  readBy parse file

end File

end ItabRecovery.MachO

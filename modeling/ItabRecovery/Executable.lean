import ItabRecovery.MachO.File
import ItabRecovery.Recovery

/-!
# Executables

A file of a recognised format.  The format is told by the first sixteen bytes; only
Mach-O files are looked into, the others are kept as they are and recovery refuses them.
-/

namespace ItabRecovery

inductive Executable where
  | elf (file : ByteArray)
  | machO (file : MachO.File)
  | pe (file : ByteArray)
  deriving DecidableEq

namespace Executable

def format : Executable → FileFormat
  | elf _ => .elf
  | machO _ => .machO
  | pe _ => .pe

section
variable (parser : ByteArray → Except MachO.Fault MachO.Parsed)

/-- Reads a file that is taken to be of a given format. -/
def ofFormatBy (format : FileFormat) (file : ByteArray) : Except Error Executable :=
  match format with
  | .elf => .ok (.elf file)
  | .pe => .ok (.pe file)
  | .machO => (MachO.File.readBy parser file).mapError Error.machO |>.map machO

/-- Recognises the format of a file and reads it. -/
def ofFileBy (file : ByteArray) : Except Error Executable :=
  if file.size < FileFormat.probeSize then .error (.file (.tooShort file.size))
  else
    match FileFormat.ofStart? (file.extract 0 FileFormat.probeSize) with
    | some format => ofFormatBy parser format file
    | none => .error .unrecognized

end

def ofFormat : FileFormat → ByteArray → Except Error Executable :=
  ofFormatBy MachO.parse

def ofFile : ByteArray → Except Error Executable :=
  ofFileBy MachO.parse

def implementations : Executable → Except Error (List Implementation)
  | elf _ => .error (.unsupported .elf)
  | machO file => file.image.implementations
  | pe _ => .error (.unsupported .pe)

end Executable

end ItabRecovery

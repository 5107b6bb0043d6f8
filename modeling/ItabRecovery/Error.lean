import ItabRecovery.FileFormat
import ItabRecovery.MachO.Fault
import ItabRecovery.Text.Quoted

/-!
# Errors

Why an executable cannot be read or its dispatch tables not be recovered.  The constructors
name causes; `Error.message` is the one place that words them.
-/

namespace ItabRecovery

/-- Why a file gave no bytes, or too few of them. -/
inductive FileError where
  | notFound
  | isDirectory
  | notDirectory
  | permissionDenied
  /-- Too few bytes to recognise a format by. -/
  | tooShort (size : Nat)
  | other (text : String)
  deriving DecidableEq

def FileError.message : FileError → String
  | notFound => "No such file or directory (os error 2)"
  | isDirectory => "Is a directory (os error 21)"
  | notDirectory => "Not a directory (os error 20)"
  | permissionDenied => "Permission denied (os error 13)"
  | tooShort size => s!"need {FileFormat.probeSize} bytes to detect format, got {size}"
  | other text => text

inductive ProbeFault where
  | notFound (name : String)
  | tooShort (size needed : Nat)
  deriving DecidableEq

def ProbeFault.message : ProbeFault → String
  | notFound name => name ++ " section not found"
  | tooShort size needed => s!"data length ({size}) is smaller than {needed}"

inductive SectionFault where
  | notFound
  /-- The name record at `offset` announces a text of `len` bytes, too many for the section. -/
  | nameTooLong (offset len size : Nat)
  deriving DecidableEq

def SectionFault.message : SectionFault → String
  | notFound => "section not found"
  | nameTooLong offset len size =>
    "name at " ++ hex offset ++ s!" needs {len} bytes, section has {size}"

/-- Why an executable cannot be read or its dispatch tables not be recovered. -/
inductive Error where
  | unsupported (format : FileFormat)
  | unrecognized
  | byteOrder (fault : ProbeFault)
  | sectionFault (name : String) (fault : SectionFault)
  | malformedLabel (symbol : String)
  /-- The `len` bytes at `offset` are not all in a section of `bound` bytes. -/
  | outOfBounds (offset len bound : Nat)
  | file (error : FileError)
  | machO (fault : MachO.Fault)
  deriving DecidableEq

namespace Error

/-- The error that lies beneath, for the errors that pass one on. -/
def cause? : Error → Option String
  | file error => some error.message
  | machO fault => some fault.message
  | _ => none

def message : Error → String
  | unsupported format => "interface recovery is not supported for " ++ format.name ++ " containers"
  | unrecognized => "unknown container format"
  | byteOrder fault => "failed to detect byte order: " ++ fault.message
  | sectionFault name fault => "malformed section " ++ name ++ ": " ++ fault.message
  | malformedLabel symbol =>
    "failed to get interface name from itab symbol " ++ Text.quoted symbol
  | outOfBounds offset len bound =>
    "offset " ++ hex offset ++ s!" (+{len}) out of range for section of " ++ hex bound ++ " bytes"
  | file error => "I/O error: " ++ error.message
  | machO fault => "container parse error: " ++ fault.message

end Error

end ItabRecovery

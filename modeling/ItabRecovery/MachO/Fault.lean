import ItabRecovery.Text.Quoted

/-!
# Faults of Mach-O files

Each constructor is one reason why a file is refused; `message` words it.
-/

namespace ItabRecovery.MachO

inductive Fault where
  /-- The first four bytes, read as a big-endian word, are no Mach-O magic. -/
  | badMagic (magic : UInt32)
  | noHeader
  | noRoomForCommands (count : UInt32)
  | commandTooLong (command size : UInt32) (left : Nat)
  | stringsBeforeSymbols
  | threadTooLong (words : UInt32)
  /-- A thread state runs past the end of the file, of which so much is left from the start of its
  command on. -/
  | threadTruncated (needed left : Nat)
  | noInstructionPointer (processor : UInt32)
  | entryWithoutText (entry : UInt64)
  /-- Something lies outside the file, or a name is not UTF-8. -/
  | unreadable
  deriving DecidableEq

def commandNames : List (Nat × String) :=
  [(0x1, "LC_SEGMENT"), (0x2, "LC_SYMTAB"), (0x3, "LC_SYMSEG"), (0x4, "LC_THREAD"),
   (0x5, "LC_UNIXTHREAD"), (0x6, "LC_LOADFVMLIB"), (0x7, "LC_IDFVMLIB"), (0x8, "LC_IDENT"),
   (0x9, "LC_FVMFILE"), (0xa, "LC_PREPAGE"), (0xb, "LC_DYSYMTAB"), (0xc, "LC_LOAD_DYLIB"),
   (0xd, "LC_ID_DYLIB"), (0xe, "LC_LOAD_DYLINKER"), (0xf, "LC_ID_DYLINKER"),
   (0x10, "LC_PREBOUND_DYLIB"), (0x11, "LC_ROUTINES"), (0x12, "LC_SUB_FRAMEWORK"),
   (0x13, "LC_SUB_UMBRELLA"), (0x14, "LC_SUB_CLIENT"), (0x15, "LC_SUB_LIBRARY"),
   (0x16, "LC_TWOLEVEL_HINTS"), (0x17, "LC_PREBIND_CKSUM"), (0x80000018, "LC_LOAD_WEAK_DYLIB"),
   (0x19, "LC_SEGMENT_64"), (0x1a, "LC_ROUTINES_64"), (0x1b, "LC_UUID"), (0x8000001c, "LC_RPATH"),
   (0x1d, "LC_CODE_SIGNATURE"), (0x1e, "LC_SEGMENT_SPLIT_INFO"), (0x8000001f, "LC_REEXPORT_DYLIB"),
   (0x20, "LC_LAZY_LOAD_DYLIB"), (0x21, "LC_ENCRYPTION_INFO"), (0x22, "LC_DYLD_INFO"),
   (0x80000022, "LC_DYLD_INFO_ONLY"), (0x80000023, "LC_LOAD_UPWARD_DYLIB"),
   (0x24, "LC_VERSION_MIN_MACOSX"), (0x25, "LC_VERSION_MIN_IPHONEOS"),
   (0x26, "LC_FUNCTION_STARTS"), (0x27, "LC_DYLD_ENVIRONMENT"), (0x80000028, "LC_MAIN"),
   (0x29, "LC_DATA_IN_CODE"), (0x2a, "LC_SOURCE_VERSION"), (0x2b, "LC_DYLIB_CODE_SIGN_DRS"),
   (0x2c, "LC_ENCRYPTION_INFO_64"), (0x2d, "LC_LINKER_OPTION"),
   (0x2e, "LC_LINKER_OPTIMIZATION_HINT"), (0x2f, "LC_VERSION_MIN_TVOS"),
   (0x30, "LC_VERSION_MIN_WATCHOS"), (0x31, "LC_NOTE"), (0x32, "LC_BUILD_VERSION"),
   (0x80000033, "LC_DYLD_EXPORTS_TRIE"), (0x80000034, "LC_DYLD_CHAINED_FIXUPS")]

def commandName (command : UInt32) : String :=
  (commandNames.lookup command.toNat).getD "LC_UNKNOWN"

namespace Fault

def message : Fault → String
  | badMagic magic => "Invalid magic number: " ++ hex magic.toNat
  | noHeader => "Malformed entity: bytes size is smaller than a Mach-o header"
  | noRoomForCommands count => s!"Buffer is too short for {count.toNat} load commands"
  | commandTooLong command size left =>
    "Malformed entity: LoadCommandHeader: " ++ commandName command ++
      s!" size: {size.toNat} has size larger than remainder of binary: {left}"
  | stringsBeforeSymbols => "Malformed entity: invalid symbol table offset"
  | threadTooLong words =>
    s!"Malformed entity: thread command specifies {words.toNat} longs for thread state" ++
      " but we handle only 70"
  | threadTruncated needed left =>
    s!"Malformed entity: thread command specifies {needed} bytes for thread state" ++
      s!" but has only {left}"
  | noInstructionPointer processor =>
    s!"Malformed entity: unable to find instruction pointer for cputype {processor.toNat}"
  | entryWithoutText entry =>
    s!"Malformed entity: image specifies LC_MAIN offset {entry.toNat} but has no __TEXT segment"
  | unreadable => "a record or a name cannot be read from the file"

end Fault

end ItabRecovery.MachO

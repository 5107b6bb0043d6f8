import ItabRecovery.Executable
import ItabRecovery.Report.Document
import ItabRecovery.Report.Listing

/-!
# The command line

Arguments are read from left to right into a `Request`; the first one that asks for help or
the version, or that is not known, decides.  `Request.run` gives the exit code and everything
that is written, as a function of the request and of what the file gave.
-/

namespace ItabRecovery.CommandLine

/-! ## Requests -/

/-- What help can be asked about. -/
inductive Topic where
  | program
  | kind
  | interfaces
  | help
  deriving DecidableEq

inductive Task where
  | kind
  | interfaces (json : Bool)
  deriving DecidableEq

inductive Request where
  | help (topic : Topic)
  | version
  | inspect (path : String) (task : Task)
  deriving DecidableEq

/-- Whether an argument is a short option, possibly with more letters behind it. -/
def isShort (letter : Char) (arg : String) : Bool :=
  ['-', letter].isPrefixOf arg.toList

def asksHelp (arg : String) : Bool :=
  arg == "--help" || isShort 'h' arg

def asksVersion (arg : String) : Bool :=
  arg == "--version" || isShort 'V' arg

/-- Whether an argument is written like an option; a dash alone is not. -/
def isOption (arg : String) : Bool :=
  ['-'].isPrefixOf arg.toList && arg != "-"

def helpRequest : List String → Option Request
  | [] => some (.help .program)
  | ["kind"] => some (.help .kind)
  | ["interfaces"] => some (.help .interfaces)
  | ["help"] => some (.help .help)
  | _ => none

/-- The request to do something with a file; a path has to be given, and not an empty one. -/
def inspectRequest (path : Option String) (task : Task) : Option Request :=
  match path with
  | some path => if path = "" then none else some (.inspect path task)
  | none => none

def kindRequest (path : Option String) : List String → Option Request
  | [] => inspectRequest path .kind
  | ["--"] => inspectRequest path .kind
  | arg :: _ => if asksHelp arg then some (.help .kind) else none

def interfacesRequest (path : Option String) (json : Bool) : List String → Option Request
  | [] => inspectRequest path (.interfaces json)
  | ["--"] => inspectRequest path (.interfaces json)
  | arg :: args =>
    if asksHelp arg then some (.help .interfaces)
    else if arg = "--json" ∧ json = false then interfacesRequest path true args
    else none

def programRequest (path : Option String) : List String → Option Request
  | [] => none
  | arg :: args =>
    if arg = "help" then helpRequest args
    else if arg = "kind" then kindRequest path args
    else if arg = "interfaces" then interfacesRequest path false args
    else if asksHelp arg then if path = some "" then none else some (.help .program)
    else if asksVersion arg then if path = some "" then none else some .version
    else if isOption arg ∨ path.isSome then none
    else programRequest (some arg) args

def Request.ofArgs (args : List String) : Option Request :=
  programRequest none args

/-! ## Texts -/

def versionText : String := "itabscan 0.1.0\n"

def Topic.text : Topic → String
  | program =>
    "List the interfaces a Go binary's concrete types implement\n\n" ++
    "Usage: itabscan <PATH> <COMMAND>\n\n" ++
    "Commands:\n" ++
    "  kind        Show the detected container format\n" ++
    "  interfaces  List every recovered interface implementation\n" ++
    "  help        Print this message or the help of the given subcommand(s)\n\n" ++
    "Arguments:\n" ++
    "  <PATH>  Path to binary file\n\n" ++
    "Options:\n" ++
    "  -h, --help     Print help\n" ++
    "  -V, --version  Print version\n"
  | kind =>
    "Show the detected container format\n\n" ++
    "Usage: itabscan <PATH> kind\n\n" ++
    "Options:\n" ++
    "  -h, --help  Print help\n"
  | interfaces =>
    "List every recovered interface implementation\n\n" ++
    "Usage: itabscan <PATH> interfaces [OPTIONS]\n\n" ++
    "Options:\n" ++
    "      --json  Emit JSON instead of tables\n" ++
    "  -h, --help  Print help\n"
  | help =>
    "Print this message or the help of the given subcommand(s)\n\n" ++
    "Usage: itabscan <PATH> help [COMMAND]...\n\n" ++
    "Arguments:\n" ++
    "  [COMMAND]...  Print help for the subcommand(s)\n"

def usageText : String :=
  "error: the arguments are not understood\n\n" ++
  "Usage: itabscan <PATH> <COMMAND>\n\n" ++
  "For more information, try '--help'.\n"

/-! ## Outcomes -/

structure Outcome where
  exit : UInt8
  stdout : String
  stderr : String
  deriving DecidableEq

def Outcome.success (text : String) : Outcome := ⟨0, text, ""⟩

def Outcome.usage : Outcome := ⟨2, "", usageText⟩

/-- An error below what was attempted; the error that lies beneath it is shown as well. -/
def Outcome.failure (attempt : String) (error : Error) : Outcome :=
  let causes := match error.cause? with
    | some cause => "    0: " ++ error.message ++ "\n    1: " ++ cause ++ "\n"
    | none => "    " ++ error.message ++ "\n"
  ⟨1, "", "Error: " ++ attempt ++ "\n\nCaused by:\n" ++ causes⟩

def Task.run (task : Task) (color : Bool) (path : String) (executable : Executable) : Outcome :=
  match task with
  | .kind => .success ("Format: " ++ executable.format.name ++ "\n")
  | .interfaces json =>
    match executable.implementations with
    | .error e => .failure ("failed to recover interfaces from " ++ path) e
    | .ok found =>
      .success (if json then (Report.document found).render ++ "\n"
        else Report.listing color found)

def openFile (file : Except FileError ByteArray) : Except Error Executable :=
  match file with
  | .ok bytes => Executable.ofFile bytes
  | .error e => .error (.file e)

def Request.path? : Request → Option String
  | inspect path _ => some path
  | _ => none

/-- Does what a request asks for, given what its path led to. -/
def Request.run (request : Request) (color : Bool) (file : Except FileError ByteArray) :
    Outcome :=
  match request with
  | help topic => .success topic.text
  | version => .success versionText
  | inspect path task =>
    match openFile file with
    | .error e => .failure ("failed to open " ++ path) e
    | .ok executable => task.run color path executable

end ItabRecovery.CommandLine

import ItabRecovery.Recovery
import ItabRecovery.Report.Table

/-!
# Implementations as tables

For each implementation a line that says which type implements which interface, a table of the
methods if there are any, and an empty line.
-/

namespace ItabRecovery.Report

/-! ## Colour -/

/-- What switches a terminal back to plain text. -/
def reset : List Char := ['\x1b', '[', '0', 'm']

/-- A text with `style` put in again after every reset that it contains. -/
def restyle (style : List Char) : List Char → List Char
  | '\x1b' :: '[' :: '0' :: 'm' :: rest => reset ++ style ++ restyle style rest
  | c :: rest => c :: restyle style rest
  | [] => []

/-- A text in a style, given by the numbers that a terminal knows it by. -/
def paint (color : Bool) (style : String) (s : String) : String :=
  if color then
    let start := ['\x1b', '['] ++ style.toList ++ ['m']
    String.ofList (start ++ restyle start s.toList ++ reset)
  else s

def concreteStyle : String := "1;32"  -- bold, green

def verbStyle : String := "2"  -- dim

def interfaceStyle : String := "1;36"  -- bold, cyan

/-! ## Tables -/

def shownTypes (types : List TypeRef) : String :=
  ", ".intercalate (types.map TypeRef.shown)

def heading : List String := ["Method", "Signature", "In", "Out"]

def row (m : Method) : List String :=
  [m.name, m.signature, shownTypes m.inputs, shownTypes m.outputs]

def entry (color : Bool) (i : Implementation) : String :=
  paint color concreteStyle i.concrete ++ " " ++ paint color verbStyle "implements" ++ " " ++
    paint color interfaceStyle i.interface.text ++ "\n" ++
    (if i.methods.isEmpty then "" else table heading (i.methods.map row) ++ "\n") ++ "\n"

def listing (color : Bool) (found : List Implementation) : String :=
  if found.isEmpty then "No interface implementations found (no itab symbols).\n"
  else String.join (found.map (entry color))

end ItabRecovery.Report

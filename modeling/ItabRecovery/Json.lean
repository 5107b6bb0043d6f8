/-!
# JSON documents

The values a report is made of, and their text: two spaces of indentation for each level, one
element or member a line, and only those characters escaped that have to be.
-/

namespace ItabRecovery

/-- A JSON value without numbers and null, which no report contains. -/
inductive Json where
  | bool (b : Bool)
  | text (s : String)
  | list (items : List Json)
  | record (members : List (String × Json))

namespace Json

/-! ## Texts -/

/-- A control character by its number, in four hexadecimal digits. -/
def numberEscape (c : Char) : List Char :=
  ['\\', 'u', '0', '0', Nat.digitChar (c.toNat / 16), Nat.digitChar (c.toNat % 16)]

def escape (c : Char) : List Char :=
  if c = '"' then ['\\', '"']
  else if c = '\\' then ['\\', '\\']
  else if c = '\x08' then ['\\', 'b']
  else if c = '\t' then ['\\', 't']
  else if c = '\n' then ['\\', 'n']
  else if c = '\x0c' then ['\\', 'f']
  else if c = '\r' then ['\\', 'r']
  else if c.toNat < 0x20 then numberEscape c
  else [c]

def quote (s : String) : List Char :=
  '"' :: s.toList.flatMap escape ++ ['"']

/-! ## Values -/

/-- The start of a new line at a level of indentation. -/
def newLine (depth : Nat) : List Char :=
  '\n' :: List.replicate (2 * depth) ' '

mutual

/-- The text of a value whose first character stands at a level of indentation. -/
def print (depth : Nat) : Json → List Char
  | .bool true => ['t', 'r', 'u', 'e']
  | .bool false => ['f', 'a', 'l', 's', 'e']
  | .text s => quote s
  | .list [] => ['[', ']']
  | .list (j :: js) =>
    '[' :: newLine (depth + 1) ++ print (depth + 1) j ++ printItems (depth + 1) js ++
      newLine depth ++ [']']
  | .record [] => ['\x7b', '\x7d']
  | .record ((k, j) :: ms) =>
    '\x7b' :: newLine (depth + 1) ++ quote k ++ [':', ' '] ++ print (depth + 1) j ++
      printMembers (depth + 1) ms ++ newLine depth ++ ['\x7d']

/-- The items of a list after its first. -/
def printItems (depth : Nat) : List Json → List Char
  | [] => []
  | j :: js => ',' :: newLine depth ++ print depth j ++ printItems depth js

/-- The members of a record after its first. -/
def printMembers (depth : Nat) : List (String × Json) → List Char
  | [] => []
  | (k, j) :: ms =>
    ',' :: newLine depth ++ quote k ++ [':', ' '] ++ print depth j ++ printMembers depth ms

end

def render (j : Json) : String :=
  String.ofList (print 0 j)

end Json

end ItabRecovery

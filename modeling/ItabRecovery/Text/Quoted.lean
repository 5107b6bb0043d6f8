import ItabRecovery.Text.Unprintable

/-!
# Numbers and texts in messages

An error message shows offsets and sizes in hexadecimal digits.  A text shown in it stands in
double quotes, and what a reader could not see or could take for something else is escaped.
-/

namespace ItabRecovery

/-- A number in lower-case hexadecimal digits, none of them a leading zero, after `0x`. -/
def hex (n : Nat) : String :=
  "0x" ++ String.ofList (Nat.toDigits 16 n)

namespace Text

/-- A character by its number, as in `\\u{1f}`. -/
def numberEscape (c : Char) : List Char :=
  ['\\', 'u', '\x7b'] ++ Nat.toDigits 16 c.toNat ++ ['\x7d']

def quotedChar (c : Char) : List Char :=
  if c = '\x00' then ['\\', '0']
  else if c = '\t' then ['\\', 't']
  else if c = '\r' then ['\\', 'r']
  else if c = '\n' then ['\\', 'n']
  else if c = '"' then ['\\', '"']
  else if c = '\\' then ['\\', '\\']
  else if isUnprintable c || isExtender c || isFiller c then numberEscape c
  else [c]

def quoted (s : String) : String :=
  String.ofList ('"' :: s.toList.flatMap quotedChar ++ ['"'])

end Text

end ItabRecovery

import ItabRecovery.Json

/-!
# What is a JSON document

A JSON document is a sequence of tokens with blanks between them as one likes.  Here the tokens of a
value are told (`Value.tokens`), and how each token is written; of a text there is more than one
way, since characters may be escaped that need not be.

    Json.IsDocument text v ↔ text is the tokens of v with blanks between them
-/

namespace ItabRecovery.Json

/-! ## Values -/

/-- Any JSON value.  A number is kept as it is written, the members of an object in their order. -/
inductive Value where
  | null
  | bool (b : Bool)
  | number (lexeme : String)
  | text (s : String)
  | array (items : List Value)
  | object (members : List (String × Value))

inductive Token where
  | openArray
  | closeArray
  | openObject
  | closeObject
  | colon
  | comma
  | null
  | bool (b : Bool)
  | number (lexeme : String)
  | text (s : String)

mutual

def Value.tokens : Value → List Token
  | .null => [.null]
  | .bool b => [.bool b]
  | .number lexeme => [.number lexeme]
  | .text s => [.text s]
  | .array [] => [.openArray, .closeArray]
  | .array (v :: vs) => .openArray :: v.tokens ++ itemTokens vs
  | .object [] => [.openObject, .closeObject]
  | .object ((k, v) :: ms) => .openObject :: .text k :: .colon :: v.tokens ++ memberTokens ms

def itemTokens : List Value → List Token
  | [] => [.closeArray]
  | v :: vs => .comma :: v.tokens ++ itemTokens vs

def memberTokens : List (String × Value) → List Token
  | [] => [.closeObject]
  | (k, v) :: ms => .comma :: .text k :: .colon :: v.tokens ++ memberTokens ms

end

/-! ## Texts -/

def hexDigit? (c : Char) : Option Nat :=
  if '0' ≤ c ∧ c ≤ '9' then some (c.toNat - '0'.toNat)
  else if 'a' ≤ c ∧ c ≤ 'f' then some (c.toNat - 'a'.toNat + 10)
  else if 'A' ≤ c ∧ c ≤ 'F' then some (c.toNat - 'A'.toNat + 10)
  else none

def unit? : List Char → Option Nat
  | [a, b, c, d] => do
    return (((← hexDigit? a) * 16 + (← hexDigit? b)) * 16 + (← hexDigit? c)) * 16 + (← hexDigit? d)
  | _ => none

/-- The characters that a backslash and one more character stand for. -/
def shortEscapes : List (Char × Char) :=
  [('"', '"'), ('\\', '\\'), ('/', '/'), ('b', '\x08'), ('f', '\x0c'), ('n', '\n'), ('r', '\r'),
    ('t', '\t')]

/-- The number of a character above 0xffff, from the two surrogates that stand for it. -/
def joined (high low : Nat) : Nat :=
  0x10000 + (high - 0xd800) * 0x400 + (low - 0xdc00)

/-- What stands for a character inside a text: the character itself, a short escape, its number in
four hexadecimal digits, or those of its two surrogates. -/
inductive Stands (c : Char) : List Char → Prop
  | plain (hquote : c ≠ '"') (hslash : c ≠ '\\') (hcontrol : 0x20 ≤ c.toNat) : Stands c [c]
  | short {e : Char} (h : shortEscapes.lookup e = some c) : Stands c ['\\', e]
  | unit {digits : List Char} (h : unit? digits = some c.toNat) : Stands c ('\\' :: 'u' :: digits)
  | pair {highs lows : List Char} {high low : Nat} (hhighs : unit? highs = some high)
      (hlows : unit? lows = some low) (hhigh : 0xd800 ≤ high ∧ high < 0xdc00)
      (hlow : 0xdc00 ≤ low ∧ low < 0xe000) (h : c.toNat = joined high low) :
      Stands c ('\\' :: 'u' :: highs ++ '\\' :: 'u' :: lows)

/-- What stands for the characters of a text, one after the other. -/
inductive StandsFor : List Char → List Char → Prop
  | nil : StandsFor [] []
  | cons {c : Char} {s p q : List Char} (hc : Stands c p) (hs : StandsFor s q) :
      StandsFor (c :: s) (p ++ q)

/-! ## Numbers -/

/-- The characters that numbers are made of. -/
def isNumberChar (c : Char) : Bool :=
  c.isDigit || ['-', '+', '.', 'e', 'E'].contains c

/-- Whether there are digits and nothing else. -/
def isDigits (cs : List Char) : Bool :=
  !cs.isEmpty && cs.all Char.isDigit

/-- Some characters without a sign in front. -/
def unsigned (signs cs : List Char) : List Char :=
  match cs with
  | c :: rest => if signs.contains c then rest else cs
  | [] => []

/-- Whether this may follow the digits of a number: nothing, or an exponent. -/
def isExponent : List Char → Bool
  | [] => true
  | c :: rest => (c == 'e' || c == 'E') && isDigits (unsigned ['+', '-'] rest)

/-- Whether this may follow the digits before the point: a fraction if there is a point, and then
perhaps an exponent. -/
def isFraction : List Char → Bool
  | '.' :: rest =>
    isDigits (rest.takeWhile Char.isDigit) && isExponent (rest.dropWhile Char.isDigit)
  | cs => isExponent cs

/-- Whether this is a number.  Only a lone zero begins with one. -/
def isNumber (cs : List Char) : Bool :=
  let whole := (unsigned ['-'] cs).takeWhile Char.isDigit
  (whole == ['0'] || isDigits whole && whole.head? != some '0') &&
    isFraction ((unsigned ['-'] cs).dropWhile Char.isDigit)

/-! ## Documents -/

/-- The tokens that are always written in the same way. -/
def fixedTokens : List (List Char × Token) :=
  [(['['], .openArray), ([']'], .closeArray), (['\x7b'], .openObject), (['\x7d'], .closeObject),
    ([':'], .colon), ([','], .comma), (['n', 'u', 'l', 'l'], .null),
    (['t', 'r', 'u', 'e'], .bool true), (['f', 'a', 'l', 's', 'e'], .bool false)]

/-- How a token is written when the characters `rest` come after it: a number ends where no
character of a number follows. -/
inductive Token.Written (rest : List Char) : Token → List Char → Prop
  | fixed {p : List Char} {t : Token} (h : (p, t) ∈ fixedTokens) : Written rest t p
  | number {p : List Char} (hchars : ∀ c ∈ p, isNumberChar c = true) (h : isNumber p = true)
      (hrest : ∀ c ∈ rest.head?, isNumberChar c = false) :
      Written rest (.number (String.ofList p)) p
  | text {s p : List Char} (h : StandsFor s p) :
      Written rest (.text (String.ofList s)) ('"' :: p ++ ['"'])

def isBlank (c : Char) : Bool :=
  [' ', '\t', '\n', '\r'].contains c

/-- Characters that are some tokens, with blanks between them, before them and after them. -/
inductive Lexed : List Char → List Token → Prop
  | nil : Lexed [] []
  | blank {c : Char} {cs : List Char} {ts : List Token} (hc : isBlank c = true) (h : Lexed cs ts) :
      Lexed (c :: cs) ts
  | token {t : Token} {p cs : List Char} {ts : List Token} (ht : t.Written cs p) (h : Lexed cs ts) :
      Lexed (p ++ cs) (t :: ts)

/-- The text is a JSON document, and it says this value. -/
def IsDocument (text : String) (v : Value) : Prop :=
  Lexed text.toList v.tokens

end ItabRecovery.Json

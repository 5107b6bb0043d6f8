import ItabRecovery.Text.Emoji
import ItabRecovery.Text.Ligature

/-!
# Columns of a terminal

How many columns a line of text takes.  A character takes the columns of its own
(`charColumns`), unless it forms a ligature or an emoji with what follows it.  So the line is
read from its end: `Ahead` is what follows a place, as far as a character there can join with
it, and `Ahead.put` puts one more character in front.

    columns (c :: line) = columns line + what `c` adds in front of `line`
-/

namespace ItabRecovery.Text

/-! ## What follows a place -/

inductive Following where
  | plain
  /-- A line feed, which forms one line end with a carriage return. -/
  | lineFeed
  | emoji (e : EmojiEnd)
  | ligature (l : LigatureEnd)
  deriving DecidableEq

/-- How a variation selector has the character before it shown. -/
inductive Selector where
  | text
  | emoji
  /-- As a quotation mark of full width. -/
  | fullWidth
  deriving DecidableEq

def Selector.ofChar? (c : Char) : Option Selector :=
  if c.toNat = 0xfe0e then some .text
  else if c.toNat = 0xfe0f then some .emoji
  else if c.toNat = 0xfe01 then some .fullWidth
  else none

/-- What follows a place, a variation selector in front set apart. -/
structure Ahead where
  selector : Option Selector
  following : Following
  deriving DecidableEq

namespace Following

def ofChar (c : Char) : Following :=
  match EmojiEnd.ofChar? c with
  | some e => .emoji e
  | none => ((LigatureEnd.ofChar? c).map .ligature).getD .plain

def isLigature : Following → Bool
  | ligature _ => true
  | _ => false

/-- Whether an emoji in front belongs to the same picture. -/
def takesEmoji : Following → Bool
  | emoji e => e.takesEmoji
  | _ => false

/-- Puts a variation selector in front.  Ligatures form across it, and pictures if it selects
emoji. -/
def select (f : Following) (s : Selector) : Ahead :=
  ⟨some s, if f.isLigature || (s = .emoji && f.takesEmoji) then f else .plain⟩

/-- What follows a character that the selector in front does not go with: ligatures still
form. -/
def unselect (f : Following) : Following :=
  if f.isLigature then f else .plain

/-- Puts a character in front; gives the columns that it adds. -/
def put (f : Following) (c : Char) : Int × Following :=
  let alone : Int × Following := (charColumns c, ofChar c)
  match f with
  | plain | lineFeed => alone
  | emoji e =>
    match e.join? c with
    | some (n, e) => (n, .emoji e)
    | none => alone
  | ligature l =>
    match l.skip? c, l.join? c with
    | some l, _ => (0, .ligature l)
    | none, some (n, l?) => (n, (l?.map .ligature).getD .plain)
    | none, none => alone

end Following

/-! ## Width of a line -/

/-- A quotation mark that U+FE01 has shown in full width. -/
def isQuotationMark (c : Char) : Bool :=
  [0x2018, 0x2019, 0x201c, 0x201d].contains c.toNat

namespace Ahead

def empty : Ahead := ⟨none, .plain⟩

/-- Puts a character in front; gives the columns that it adds. -/
def put (a : Ahead) (c : Char) : Int × Ahead :=
  if a.selector = some .emoji && inRanges variationBaseRanges c then
    (if a.following.takesEmoji then 0 else 2, ⟨none, .emoji .whole⟩)
  else
    let f := if a.selector.isSome then a.following.unselect else a.following
    if c = '\r' && f = .lineFeed then (0, empty)
    else if c = '\n' then (1, ⟨none, .lineFeed⟩)
    else if c.toNat ≤ 0xa0 then (1, empty)
    else
      match Selector.ofChar? c with
      | some s => (0, f.select s)
      | none =>
        if a.selector = some .text && inRanges textVariationBaseRanges c then (1, empty)
        else if a.selector = some .fullWidth && isQuotationMark c then (2, empty)
        else
          let (n, f) := f.put c
          (n, ⟨none, f⟩)

end Ahead

/-- The columns of a line, and what it is to a character in front of it. -/
def measure (line : List Char) : Int × Ahead :=
  line.foldr
    (fun c (n, a) =>
      let (added, a) := a.put c
      (n + added, a))
    (0, Ahead.empty)

def columns (line : List Char) : Nat :=
  (measure line).1.toNat

end ItabRecovery.Text

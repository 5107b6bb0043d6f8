import ItabRecovery.Text.CharWidth

/-!
# Ligatures

Letters of some scripts run into the letter before them, so that the two take the columns of
one.  Texts are measured from their end, and so the last letter of a ligature is seen first:
`LigatureEnd` is what has been seen of one, `LigatureEnd.join?` tells whether the next
character on the left runs into it, and `LigatureEnd.skip?` whether it may stand between.
-/

namespace ItabRecovery.Text

/-! ## Tables -/

/-- Characters without width that are no marks on an Arabic letter and so keep two letters
apart. -/
def separatorRanges : Array (Nat × Nat) := #[
  (0x605, 0x605), (0x890, 0x891), (0x8e2, 0x8e2), (0x9be, 0x9be), (0x9d7, 0x9d7), (0xb3e, 0xb3e),
   (0xb57, 0xb57), (0xbbe, 0xbbe), (0xbd7, 0xbd7), (0xcc0, 0xcc0), (0xcc2, 0xcc2), (0xcc7, 0xcc8),
   (0xcca, 0xccb), (0xcd5, 0xcd6), (0xd3e, 0xd3e), (0xd4e, 0xd4e), (0xd57, 0xd57), (0xdcf, 0xdcf),
   (0xddf, 0xddf), (0x1160, 0x11ff), (0x1715, 0x1715), (0x1734, 0x1734), (0x180e, 0x180e),
   (0x1b35, 0x1b35), (0x1b3b, 0x1b3b), (0x1b3d, 0x1b3d), (0x1b43, 0x1b44), (0x1baa, 0x1baa),
   (0x1bf2, 0x1bf3), (0x200c, 0x200d), (0x2065, 0x2069), (0x302e, 0x302f), (0x3164, 0x3164),
   (0xa8fa, 0xa8fa), (0xa953, 0xa953), (0xa9c0, 0xa9c0), (0xd7b0, 0xd7c6), (0xd7cb, 0xd7fb),
   (0xffa0, 0xffa0), (0xfff0, 0xfff8), (0x111c0, 0x111c0), (0x111c2, 0x111c3), (0x11235, 0x11235),
   (0x1133e, 0x1133e), (0x1134d, 0x1134d), (0x11357, 0x11357), (0x113b8, 0x113b8),
   (0x113c2, 0x113c2), (0x113c5, 0x113c5), (0x113c7, 0x113c9), (0x113cf, 0x113cf),
   (0x113d1, 0x113d1), (0x114b0, 0x114b0), (0x114bd, 0x114bd), (0x115af, 0x115af),
   (0x116b6, 0x116b6), (0x11930, 0x11930), (0x1193d, 0x1193d), (0x1193f, 0x1193f),
   (0x11941, 0x11941), (0x11a84, 0x11a89), (0x11d46, 0x11d46), (0x11f02, 0x11f02),
   (0x11f41, 0x11f41), (0x16ff0, 0x16ff1), (0x1d165, 0x1d166), (0x1d16d, 0x1d172),
   (0xe0000, 0xe0000), (0xe0002, 0xe001f), (0xe0080, 0xe00ff), (0xe01f0, 0xe0fff)]

/-- Marks that are never drawn. -/
def hiddenMarkRanges : Array (Nat × Nat) := #[
  (0x34f, 0x34f), (0x17b4, 0x17b5), (0x180b, 0x180d), (0x180f, 0x180f), (0xfe00, 0xfe0f),
   (0xe0100, 0xe01ef)]

def alefRanges : Array (Nat × Nat) := #[
  (0x622, 0x623), (0x625, 0x625), (0x627, 0x627), (0x671, 0x673), (0x675, 0x675),
   (0x773, 0x774), (0x870, 0x882)]

def lamRanges : Array (Nat × Nat) := #[
  (0x644, 0x644), (0x6b5, 0x6b8), (0x76a, 0x76a), (0x8a6, 0x8a6), (0x8c7, 0x8c7)]

/-- Khmer letters that can be written below another. -/
def khmerSubscriptRanges : Array (Nat × Nat) := #[
  (0x1780, 0x1782), (0x1784, 0x1787), (0x1789, 0x178c), (0x178e, 0x1793), (0x1795, 0x1798),
   (0x179b, 0x179d), (0x17a0, 0x17a0), (0x17a2, 0x17a2), (0x17a7, 0x17a7), (0x17ab, 0x17ac),
   (0x17af, 0x17af)]

def tifinaghConsonantRanges : Array (Nat × Nat) := #[(0x2d31, 0x2d65), (0x2d6f, 0x2d6f)]

/-! ## Classes of characters -/

def isJoiner (c : Char) : Bool :=
  c.toNat = 0x200d

/-- Whether a character is a mark on an Arabic letter: the letters beside it still join. -/
def isArabicMark (c : Char) : Bool :=
  charColumns c = 0 && !inRanges separatorRanges c

def isTifinaghConsonant (c : Char) : Bool :=
  inRanges tifinaghConsonantRanges c

/-! ## Ends of ligatures -/

/-- The end of what may become a ligature; `joined` tells whether a joiner stands in front. -/
inductive LigatureEnd where
  | alef
  | lamed (joined : Bool)
  | ya (joined : Bool)
  /-- A Buginese vowel sign i in front of a joined ya. -/
  | vowelYa
  | tifinagh (joined : Bool)
  /-- The joiner of Tifinagh consonants in front of one. -/
  | tifinaghJoiner
  | lisuTone
  | orkhonI (joined : Bool)
  | khmer
  | kiratE
  /-- A Kirat Rai vowel sign ai, or two signs e. -/
  | kiratAi
  deriving DecidableEq

namespace LigatureEnd

def ofChar? (c : Char) : Option LigatureEnd :=
  let n := c.toNat
  if inRanges alefRanges c then some .alef
  else if n = 0x5dc then some (.lamed false)
  else if inRanges khmerSubscriptRanges c then some .khmer
  else if n = 0x1a10 then some (.ya false)
  else if isTifinaghConsonant c then some (.tifinagh false)
  else if n = 0xa4fc || n = 0xa4fd then some .lisuTone
  else if n = 0x10c03 then some (.orkhonI false)
  else if n = 0x16d67 then some .kiratE
  else if n = 0x16d68 then some .kiratAi
  else none

/-- The same end with a joiner in front; it matters to four of them only. -/
def withJoiner : LigatureEnd → LigatureEnd
  | lamed _ => .lamed true
  | ya _ => .ya true
  | tifinagh _ => .tifinagh true
  | orkhonI _ => .orkhonI true
  | l => l

/-- What the end becomes if the character in front of it takes no part: marks, and outside of
Arabic joiners. -/
def skip? (l : LigatureEnd) (c : Char) : Option LigatureEnd :=
  if l = .alef then if isArabicMark c then some l else none
  else if isJoiner c then some l.withJoiner
  else if inRanges hiddenMarkRanges c then some l
  else none

/-- The columns that the character in front adds if it runs into the end, and what it is the
end of in turn.  Where the character takes columns out of those counted so far, it adds less
than none. -/
def join? (l : LigatureEnd) (c : Char) : Option (Int × Option LigatureEnd) :=
  let n := c.toNat
  match l with
  | alef => if inRanges lamRanges c then some (0, none) else none
  | lamed true => if n = 0x5d0 then some (0, none) else none
  | ya true => if n = 0x1a17 then some (0, some .vowelYa) else none
  | vowelYa => if n = 0x1a15 then some (0, none) else none
  | tifinagh joined =>
    if n = 0x2d7f then some (1, some .tifinaghJoiner)
    else if joined && isTifinaghConsonant c then some (0, none)
    else none
  | tifinaghJoiner => if isTifinaghConsonant c then some (-1, none) else none
  | lisuTone => if 0xa4f8 ≤ n && n ≤ 0xa4fb then some (0, none) else none
  | orkhonI true => if n = 0x10c32 then some (0, none) else none
  | khmer => if n = 0x17d2 then some (-1, none) else none
  | kiratE =>
    if n = 0x16d63 || n = 0x16d69 then some (0, none)
    else if n = 0x16d67 then some (0, some .kiratAi)
    else if n = 0x16d68 then some (1, some .kiratE)
    else none
  | kiratAi => if n = 0x16d63 then some (0, none) else none
  | lamed false | ya false | orkhonI false => none

end LigatureEnd

end ItabRecovery.Text

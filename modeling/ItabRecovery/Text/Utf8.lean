/-!
# UTF-8

Bytes are taken one at a time.  `pieces` cuts them into the characters of well-formed
sequences and into marks for ill-formed ones, one mark for each longest start of a sequence
that goes wrong.  `lossy` shows a mark as U+FFFD, `strict?` refuses it.
-/

namespace ItabRecovery.Utf8

/-- A sequence that has begun: the value so far, how many bytes are wanted, and the range the
next one has to be in. -/
structure Partial where
  bits : Nat
  want : Nat
  low : Nat
  high : Nat

inductive Lead where
  | char (c : Char)
  | more (p : Partial)
  | bad

/-- The meaning of a byte at the start of a sequence.  The second byte after E0, ED, F0 and F4
is restricted: that rules out overlong forms, surrogates and numbers beyond U+10FFFF. -/
def lead (b : Nat) : Lead :=
  if b < 0x80 then .char (Char.ofNat b)
  else if b < 0xc2 then .bad
  else if b < 0xe0 then .more ⟨b - 0xc0, 1, 0x80, 0xbf⟩
  else if b = 0xe0 then .more ⟨0, 2, 0xa0, 0xbf⟩
  else if b = 0xed then .more ⟨13, 2, 0x80, 0x9f⟩
  else if b < 0xf0 then .more ⟨b - 0xe0, 2, 0x80, 0xbf⟩
  else if b = 0xf0 then .more ⟨0, 3, 0x90, 0xbf⟩
  else if b = 0xf4 then .more ⟨4, 3, 0x80, 0x8f⟩
  else if b < 0xf4 then .more ⟨b - 0xf0, 3, 0x80, 0xbf⟩
  else .bad

/-- The state between two bytes: the pieces so far, last one first, and a sequence begun. -/
structure State where
  done : List (Option Char)
  pending : Option Partial

def begin (done : List (Option Char)) (b : Nat) : State :=
  match lead b with
  | .char c => ⟨some c :: done, none⟩
  | .more p => ⟨done, some p⟩
  | .bad => ⟨none :: done, none⟩

/-- One byte.  A byte that cannot continue the sequence ends it as ill-formed and begins anew. -/
def step (s : State) (b : UInt8) : State :=
  match s.pending with
  | none => begin s.done b.toNat
  | some p =>
    if p.low ≤ b.toNat ∧ b.toNat ≤ p.high then
      let bits := p.bits * 64 + (b.toNat - 0x80)
      if p.want ≤ 1 then ⟨some (Char.ofNat bits) :: s.done, none⟩
      else ⟨s.done, some ⟨bits, p.want - 1, 0x80, 0xbf⟩⟩
    else begin (none :: s.done) b.toNat

/-- The end of the bytes: a sequence that is still open is ill-formed. -/
def State.finish (s : State) : List (Option Char) :=
  match s.pending with
  | none => s.done.reverse
  | some _ => (none :: s.done).reverse

/-- The characters in order, `none` for each ill-formed sequence. -/
def pieces (bs : List UInt8) : List (Option Char) :=
  (bs.foldl step ⟨[], none⟩).finish

/-- The text, with U+FFFD in place of each ill-formed sequence. -/
def lossy (bs : List UInt8) : String :=
  String.ofList ((pieces bs).map (·.getD '\uFFFD'))

def strict? (bs : List UInt8) : Option String :=
  ((pieces bs).mapM id).map String.ofList

def encode (s : String) : List UInt8 :=
  s.toList.flatMap String.utf8EncodeChar

end ItabRecovery.Utf8

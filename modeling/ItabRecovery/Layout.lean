import ItabRecovery.ByteOrder

/-!
# Layouts of fixed-size records

A `Layout α` says once how a record is stored: the widths of its fields in order, how the
bytes are read and how a record is written.  Layouts are put together field by field with
`seq` and renamed with `iso`.  Reading from the start of some bytes fails only when they
are too few:

    l.read? o bs = none ↔ bs.length < l.size                 (read?_eq_none_iff)
-/

namespace ItabRecovery

/-- How a record of type `α` is stored. -/
structure Layout (α : Type) where
  /-- The widths of the fields in bytes, first field first. -/
  widths : List Nat
  /-- The record that the first bytes hold; bytes that are missing count as zero. -/
  decode : ByteOrder → List UInt8 → α
  encode : ByteOrder → α → List UInt8

namespace Layout

variable {α β : Type}

def size (l : Layout α) : Nat :=
  l.widths.foldr (· + ·) 0

/-! ## Single fields -/

def u8 : Layout UInt8 where
  widths := [1]
  decode o bs := UInt8.ofNat (o.decode (bs.take 1))
  encode o v := o.encode 1 v.toNat

def u16 : Layout UInt16 where
  widths := [2]
  decode o bs := UInt16.ofNat (o.decode (bs.take 2))
  encode o v := o.encode 2 v.toNat

def u32 : Layout UInt32 where
  widths := [4]
  decode o bs := UInt32.ofNat (o.decode (bs.take 4))
  encode o v := o.encode 4 v.toNat

def u64 : Layout UInt64 where
  widths := [8]
  decode o bs := UInt64.ofNat (o.decode (bs.take 8))
  encode o v := o.encode 8 v.toNat

/-- A signed 32-bit word in two's complement. -/
def i32 : Layout Int32 where
  widths := [4]
  decode o bs := (UInt32.ofNat (o.decode (bs.take 4))).toInt32
  encode o v := o.encode 4 v.toUInt32.toNat

def bytes (n : Nat) : Layout (List UInt8) where
  widths := List.replicate n 1
  decode _ bs := bs.take n
  encode _ v := (v ++ List.replicate n 0).take n

/-- A gap of `n` bytes, ignored when read and written as zeros. -/
def gap (n : Nat) : Layout Unit where
  widths := [n]
  decode _ _ := ()
  encode _ _ := List.replicate n 0

/-! ## Composition -/

def seq (a : Layout α) (b : Layout β) : Layout (α × β) where
  widths := a.widths ++ b.widths
  decode o bs := (a.decode o bs, b.decode o (bs.drop a.size))
  encode o v := a.encode o v.1 ++ b.encode o v.2

def iso (l : Layout α) (make : α → β) (split : β → α) : Layout β where
  widths := l.widths
  decode o bs := make (l.decode o bs)
  encode o v := l.encode o (split v)

/-! ## Reading -/

def read? (l : Layout α) (o : ByteOrder) (bs : List UInt8) : Option (α × List UInt8) :=
  if l.size ≤ bs.length then some (l.decode o bs, bs.drop l.size) else none

/-- The `n` records at the start of some bytes. -/
def decodeMany (l : Layout α) (o : ByteOrder) : Nat → List UInt8 → List α
  | 0, _ => []
  | n + 1, bs => l.decode o bs :: decodeMany l o n (bs.drop l.size)

/-! ## Lemmas -/

@[simp] theorem size_seq (a : Layout α) (b : Layout β) : (a.seq b).size = a.size + b.size := by
  simp only [size, seq, ← List.sum_eq_foldr, List.sum_append]

theorem read?_eq_none_iff (l : Layout α) (o : ByteOrder) (bs : List UInt8) :
    l.read? o bs = none ↔ bs.length < l.size := by
  simp [read?]

end Layout

end ItabRecovery

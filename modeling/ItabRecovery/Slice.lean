import ItabRecovery.Layout

/-!
# Slices of a byte array

`slice? b offset len` is the list of the `len` bytes from `offset` on, when all of them are
there; `record? b l o offset` is the record stored at `offset`.  Offsets and lengths are
natural numbers, so no sum of them wraps.
-/

namespace ItabRecovery

/-- Byte arrays are compared by their bytes, the same way in every module. -/
instance instDecidableEqBytes : DecidableEq ByteArray :=
  ByteArray.instDecidableEq

def slice? (b : ByteArray) (offset len : Nat) : Option (List UInt8) :=
  if offset + len ≤ b.size then some (b.extract offset (offset + len)).data.toList else none

def record? {α : Type} (b : ByteArray) (l : Layout α) (o : ByteOrder) (offset : Nat) : Option α :=
  (slice? b offset l.size).map (l.decode o)

def standsAt (b : ByteArray) (magic : List UInt8) (offset : Nat) : Bool :=
  slice? b offset magic.length == some magic

/-! ## Lemmas -/

/-- A slice in terms of the list of all bytes. -/
theorem slice?_eq (b : ByteArray) (offset len : Nat) :
    slice? b offset len =
      if offset + len ≤ b.size then some ((b.data.toList.drop offset).take len) else none := by
  unfold slice?
  split
  · simp [List.extract_eq_take_drop]
  · rfl

theorem length_of_slice? {b : ByteArray} {offset len : Nat} {bs : List UInt8}
    (h : slice? b offset len = some bs) : bs.length = len := by
  unfold slice? at h
  split at h
  · obtain rfl := Option.some.inj h
    simp
    omega
  · contradiction

end ItabRecovery

/-!
# Words and the order of their bytes

A word of `w` bytes is a natural number below `256 ^ w`.  `ByteOrder.encode` writes it,
`ByteOrder.decode` reads it back; the two orders differ by one reversal:

    o.encode bs.length (o.decode bs) = bs                    (encode_decode)
-/

namespace ItabRecovery

inductive ByteOrder where
  | little
  | big
  deriving DecidableEq

namespace ByteOrder

/-! ## Least significant byte first -/

/-- The low `w` bytes of a number, least significant first. -/
def digits : Nat → Nat → List UInt8
  | 0, _ => []
  | w + 1, n => UInt8.ofNat n :: digits w (n / 256)

/-- The number whose bytes are given, least significant first. -/
def value : List UInt8 → Nat
  | [] => 0
  | b :: bs => b.toNat + 256 * value bs

/-! ## Either order -/

/-- Bytes in this order, from or to least significant first. -/
def arrange : ByteOrder → List UInt8 → List UInt8
  | little, bs => bs
  | big, bs => bs.reverse

/-- A word of `w` bytes; what does not fit is dropped. -/
def encode (o : ByteOrder) (w n : Nat) : List UInt8 :=
  o.arrange (digits w n)

def decode (o : ByteOrder) (bs : List UInt8) : Nat :=
  value (o.arrange bs)

/-! ## Lemmas -/

@[simp] theorem length_digits (w n : Nat) : (digits w n).length = w := by
  induction w generalizing n with
  | zero => rfl
  | succ w ih => simp [digits, ih]

theorem digits_value (bs : List UInt8) : digits bs.length (value bs) = bs := by
  induction bs with
  | nil => rfl
  | cons b bs ih =>
    have hb := b.toNat_lt
    have hd : (b.toNat + 256 * value bs) / 256 = value bs := by omega
    have hm : UInt8.ofNat (b.toNat + 256 * value bs) = b := by
      apply UInt8.toNat_inj.mp
      simp only [UInt8.toNat_ofNat']
      omega
    simp only [List.length_cons, digits, value, hd, hm, ih]

@[simp] theorem arrange_arrange (o : ByteOrder) (bs : List UInt8) :
    o.arrange (o.arrange bs) = bs := by
  cases o <;> simp [arrange]

@[simp] theorem length_arrange (o : ByteOrder) (bs : List UInt8) :
    (o.arrange bs).length = bs.length := by
  cases o <;> simp [arrange]

@[simp] theorem length_encode (o : ByteOrder) (w n : Nat) : (o.encode w n).length = w := by
  simp [encode]

theorem encode_decode (o : ByteOrder) (bs : List UInt8) :
    o.encode bs.length (o.decode bs) = bs := by
  have h := digits_value (o.arrange bs)
  rw [length_arrange] at h
  simp [encode, decode, h]

end ByteOrder

end ItabRecovery

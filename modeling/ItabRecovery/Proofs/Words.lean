import Mathlib.Algebra.Ring.Int.Defs
import Mathlib.Algebra.Ring.Nat
import ItabRecovery.RuntimeType
import ItabRecovery.Slice

/-!
# Bytes and words of a section by their positions

What stands at a position of a byte array, told by single bytes and powers of 256: `byteAt`,
`wordAt`, `signed32`, and `window` for the bytes in a row.  Records are decoded from slices with
layouts; here every field that recovery looks at is found again as a word at its position.

    o.decode (o.encode w n) = n % 256 ^ w                    (decode_encode)
    o.decode (window b i w) = wordAt b o w i                 (decode_window)

What `standsAt` a position can be split where one likes, and bytes added at the end of the array
do not change it.
-/

namespace ItabRecovery

/-! ## Words and numbers -/

namespace ByteOrder

theorem value_digits (w n : Nat) : value (digits w n) = n % 256 ^ w := by
  induction w generalizing n with
  | zero => simp [digits, value, Nat.mod_one]
  | succ w ih =>
    rw [digits, value, ih, Nat.pow_succ, Nat.mul_comm (256 ^ w) 256, Nat.mod_mul]
    simp

theorem value_lt (bs : List UInt8) : value bs < 256 ^ bs.length := by
  induction bs with
  | nil => simp [value]
  | cons b bs ih =>
    have hb := b.toNat_lt
    simp only [value, List.length_cons, Nat.pow_succ]
    omega

theorem decode_encode (o : ByteOrder) (w n : Nat) : o.decode (o.encode w n) = n % 256 ^ w := by
  simp [decode, encode, value_digits]

theorem decode_lt (o : ByteOrder) (bs : List UInt8) : o.decode bs < 256 ^ bs.length := by
  have h := value_lt (o.arrange bs)
  rwa [length_arrange] at h

end ByteOrder

/-! ## Positions -/

/-- The byte at a position; past the end all bytes are zero. -/
def byteAt (b : ByteArray) (i : Nat) : Nat :=
  (b.data.toList.getD i 0).toNat

/-- The unsigned word of `w` bytes from a position on. -/
def wordAt (b : ByteArray) (o : ByteOrder) : Nat → Nat → Nat
  | 0, _ => 0
  | w + 1, i =>
    match o with
    | .little => byteAt b i + 256 * wordAt b o w (i + 1)
    | .big => byteAt b i * 256 ^ w + wordAt b o w (i + 1)

/-- A word of four bytes as a signed number in two's complement. -/
def signed32 (n : Nat) : Int :=
  if n < 2 ^ 31 then n else n - 2 ^ 32

/-- The `n` bytes from a position on, fewer where the array ends. -/
def window (b : ByteArray) (i n : Nat) : List UInt8 :=
  (b.data.toList.drop i).take n

/-! ## Lemmas -/

theorem byteAt_lt (b : ByteArray) (i : Nat) : byteAt b i < 256 :=
  UInt8.toNat_lt _

theorem wordAt_one (b : ByteArray) (o : ByteOrder) (i : Nat) : wordAt b o 1 i = byteAt b i := by
  cases o <;> simp [wordAt]

theorem length_window {b : ByteArray} {i n : Nat} (h : i + n ≤ b.size) :
    (window b i n).length = n := by
  have : b.data.toList.length = b.size := rfl
  simp [window]
  omega

theorem slice?_eq_some_iff {b : ByteArray} {i n : Nat} {bs : List UInt8} :
    slice? b i n = some bs ↔ i + n ≤ b.size ∧ bs = window b i n := by
  rw [slice?_eq]
  split
  · simp [*, window, eq_comm]
  · simp [*]

/-- A part of a window is a window. -/
theorem window_window {b : ByteArray} {i n j w : Nat} (h : j + w ≤ n) :
    ((window b i n).drop j).take w = window b (i + j) w := by
  rw [window, List.drop_take, List.take_take, List.drop_drop, Nat.min_eq_left (by omega), window]

theorem window_cons {b : ByteArray} {i w : Nat} (h : i + (w + 1) ≤ b.size) :
    ∃ x : UInt8, x.toNat = byteAt b i ∧ window b i (w + 1) = x :: window b (i + 1) w := by
  have hlen : b.data.toList.length = b.size := rfl
  have hi : i < b.data.toList.length := by omega
  refine ⟨b.data.toList[i], ?_, ?_⟩
  · rw [byteAt, List.getD_eq_getElem?_getD, List.getElem?_eq_getElem hi, Option.getD_some]
  · rw [window, List.drop_eq_getElem_cons hi, List.take_succ_cons, window]

theorem value_append (xs : List UInt8) (b : UInt8) :
    ByteOrder.value (xs ++ [b]) = ByteOrder.value xs + 256 ^ xs.length * b.toNat := by
  induction xs with
  | nil => simp [ByteOrder.value]
  | cons x xs ih =>
    simp only [List.cons_append, ByteOrder.value, ih, List.length_cons, Nat.pow_succ]
    rw [Nat.mul_add, Nat.mul_comm (256 ^ xs.length) 256, Nat.mul_assoc, Nat.add_assoc]

/-- The number that the bytes of a window stand for is the word at its position. -/
theorem decode_window (b : ByteArray) (o : ByteOrder) {w i : Nat} (h : i + w ≤ b.size) :
    o.decode (window b i w) = wordAt b o w i := by
  induction w generalizing i with
  | zero => cases o <;> simp [window, wordAt, ByteOrder.decode, ByteOrder.arrange, ByteOrder.value]
  | succ w ih =>
    obtain ⟨x, hx, hw⟩ := window_cons h
    have ih := ih (i := i + 1) (by omega)
    have hl := length_window (b := b) (i := i + 1) (n := w) (by omega)
    rw [hw]
    cases o with
    | little =>
      rw [wordAt, ← hx, ← ih]
      rfl
    | big =>
      rw [wordAt, ← hx, ← ih]
      simp only [ByteOrder.decode, ByteOrder.arrange, List.reverse_cons, value_append,
        List.length_reverse, hl]
      rw [Nat.mul_comm, Nat.add_comm]

/-- A field of a record that was cut out of the array. -/
theorem decode_field {b : ByteArray} (o : ByteOrder) {i n j w : Nat} (hn : i + n ≤ b.size)
    (hj : j + w ≤ n) :
    o.decode (((window b i n).drop j).take w) = wordAt b o w (i + j) := by
  rw [window_window hj, decode_window b o (by omega)]

theorem toInt_toInt32_ofNat {n : Nat} (h : n < 2 ^ 32) :
    (UInt32.ofNat n).toInt32.toInt = signed32 n := by
  have e : ((UInt32.ofNat n).toInt32.toInt) = (BitVec.ofNat 32 n).toInt := rfl
  rw [e, BitVec.toInt_eq_toNat_cond, BitVec.toNat_ofNat, Nat.mod_eq_of_lt h]
  unfold signed32
  split <;> split <;> omega

/-! ## What stands at a position -/

theorem standsAt_iff {b : ByteArray} {x : List UInt8} {i : Nat} :
    standsAt b x i = true ↔ i + x.length ≤ b.size ∧ window b i x.length = x := by
  rw [standsAt, beq_iff_eq, slice?_eq_some_iff, eq_comm (a := x)]

theorem window_add (b : ByteArray) (i m n : Nat) :
    window b i (m + n) = window b i m ++ window b (i + m) n := by
  rw [window, List.take_add, List.drop_drop, window, window]

theorem standsAt_append {b : ByteArray} {x y : List UInt8} {i : Nat} :
    standsAt b (x ++ y) i = true ↔ standsAt b x i = true ∧ standsAt b y (i + x.length) = true := by
  rw [standsAt_iff, standsAt_iff, standsAt_iff, List.length_append, window_add]
  constructor
  · rintro ⟨hfit, heq⟩
    have hx := length_window (b := b) (i := i) (n := x.length) (by omega)
    obtain ⟨heqx, heqy⟩ := List.append_inj heq hx
    exact ⟨⟨by omega, heqx⟩, by omega, heqy⟩
  · rintro ⟨⟨-, heqx⟩, hfit, heqy⟩
    rw [heqx, heqy]
    exact ⟨by omega, rfl⟩

/-- The first byte of what stands at a position is the one there. -/
theorem byte_of_standsAt_cons {b : ByteArray} {c : UInt8} {x : List UInt8} {i : Nat}
    (h : standsAt b (c :: x) i = true) :
    (∃ hi : i < b.size, b[i] = c) ∧ standsAt b x (i + 1) = true := by
  obtain ⟨hfirst, hrest⟩ := standsAt_append (x := [c]).1 h
  obtain ⟨hfit, hwindow⟩ := standsAt_iff.1 hfirst
  have hi : i < b.size := hfit
  refine ⟨⟨hi, ?_⟩, hrest⟩
  have hlen : i < b.data.toList.length := hi
  have hcons : window b i 1 = [b.data.toList[i]] := by
    rw [window, List.drop_eq_getElem_cons hlen]
    rfl
  exact (List.cons.inj (hcons.symm.trans hwindow)).1

theorem eq_of_standsAt_cons {b : ByteArray} {c d : UInt8} {x y : List UInt8} {i : Nat}
    (hx : standsAt b (c :: x) i = true) (hy : standsAt b (d :: y) i = true) : c = d := by
  obtain ⟨⟨hi, hc⟩, -⟩ := byte_of_standsAt_cons hx
  obtain ⟨⟨_, hd⟩, -⟩ := byte_of_standsAt_cons hy
  exact hc.symm.trans hd

/-- Bytes that are added at the end change nothing before it. -/
theorem standsAt_array_append {p q : ByteArray} {x : List UInt8} {i : Nat}
    (h : i + x.length ≤ p.size) : standsAt (p ++ q) x i = standsAt p x i := by
  have hlen : p.data.toList.length = p.size := rfl
  have hwindow : window (p ++ q) i x.length = window p i x.length := by
    rw [window, ByteArray.data_append, Array.toList_append,
      List.drop_append_of_le_length (by omega),
      List.take_append_of_le_length (by rw [List.length_drop]; omega), window]
  have hsize : i + x.length ≤ (p ++ q).size := by
    rw [ByteArray.size_append]
    omega
  rw [Bool.eq_iff_iff, standsAt_iff, standsAt_iff, hwindow]
  exact ⟨fun hq => ⟨h, hq.2⟩, fun hp => ⟨hsize, hp.2⟩⟩

end ItabRecovery

import ItabRecovery.MachO.Record
import ItabRecovery.Proofs.Words

/-!
# Records are read as they were written

A layout keeps a record when it writes as many bytes as it reads, and finds the record again at the
start of any bytes that begin with them.  Fields keep all their values; a record put together from
layouts that keep its parts is kept (`Keeps.seq`, `Keeps.iso`).  So what stands in a byte array as
it is written is read back:

    l.Keeps o v → standsAt b (l.encode o v) i → record? b l o i = some v      (record?_of_standsAt)
-/

namespace ItabRecovery

/-- A word is found again at the start of any bytes that begin with it. -/
theorem ByteOrder.decode_take_encode (o : ByteOrder) {w n : Nat} (h : n < 256 ^ w)
    (rest : List UInt8) : o.decode ((o.encode w n ++ rest).take w) = n := by
  rw [List.take_left' (o.length_encode w n), decode_encode, Nat.mod_eq_of_lt h]

namespace Layout

variable {α β : Type} {o : ByteOrder}

/-- A record takes the bytes it should and is found again in them, whatever comes after. -/
structure Keeps (l : Layout α) (o : ByteOrder) (v : α) : Prop where
  length : (l.encode o v).length = l.size
  decode : ∀ rest, l.decode o (l.encode o v ++ rest) = v

namespace Keeps

/-! ## Single fields -/

theorem u8 {v : UInt8} : Layout.u8.Keeps o v where
  length := o.length_encode 1 v.toNat
  decode rest := by
    show UInt8.ofNat (o.decode ((o.encode 1 v.toNat ++ rest).take 1)) = v
    rw [o.decode_take_encode v.toNat_lt, UInt8.ofNat_toNat]

theorem u16 {v : UInt16} : Layout.u16.Keeps o v where
  length := o.length_encode 2 v.toNat
  decode rest := by
    show UInt16.ofNat (o.decode ((o.encode 2 v.toNat ++ rest).take 2)) = v
    rw [o.decode_take_encode v.toNat_lt, UInt16.ofNat_toNat]

theorem u32 {v : UInt32} : Layout.u32.Keeps o v where
  length := o.length_encode 4 v.toNat
  decode rest := by
    show UInt32.ofNat (o.decode ((o.encode 4 v.toNat ++ rest).take 4)) = v
    rw [o.decode_take_encode v.toNat_lt, UInt32.ofNat_toNat]

theorem u64 {v : UInt64} : Layout.u64.Keeps o v where
  length := o.length_encode 8 v.toNat
  decode rest := by
    show UInt64.ofNat (o.decode ((o.encode 8 v.toNat ++ rest).take 8)) = v
    rw [o.decode_take_encode v.toNat_lt, UInt64.ofNat_toNat]

theorem i32 {v : Int32} : Layout.i32.Keeps o v where
  length := o.length_encode 4 v.toUInt32.toNat
  decode rest := by
    show (UInt32.ofNat (o.decode ((o.encode 4 v.toUInt32.toNat ++ rest).take 4))).toInt32 = v
    rw [o.decode_take_encode v.toUInt32.toNat_lt, UInt32.ofNat_toNat]
    rfl

/-- Bytes that fill their field. -/
theorem bytes {n : Nat} {v : List UInt8} (h : v.length = n) : (Layout.bytes n).Keeps o v := by
  have hv : (v ++ List.replicate n 0).take n = v := List.take_left' h
  refine ⟨?_, fun rest => ?_⟩
  · show ((v ++ List.replicate n 0).take n).length = (List.replicate n 1).foldr (· + ·) 0
    rw [hv, h, ← List.sum_eq_foldr, List.sum_replicate_nat, Nat.mul_one]
  · show ((v ++ List.replicate n 0).take n ++ rest).take n = v
    rw [hv, List.take_left' h]

theorem gap {n : Nat} : (Layout.gap n).Keeps o () where
  length := List.length_replicate
  decode _ := rfl

/-! ## Composition -/

theorem seq {a : Layout α} {b : Layout β} {v : α × β} (ha : a.Keeps o v.1) (hb : b.Keeps o v.2) :
    (a.seq b).Keeps o v := by
  refine ⟨?_, fun rest => ?_⟩
  · rw [size_seq, ← ha.length, ← hb.length]
    exact List.length_append
  · show (a.decode o (a.encode o v.1 ++ b.encode o v.2 ++ rest),
      b.decode o ((a.encode o v.1 ++ b.encode o v.2 ++ rest).drop a.size)) = v
    rw [List.append_assoc, ha.decode, List.drop_left' ha.length, hb.decode]

theorem iso {l : Layout α} {make : α → β} {split : β → α} {v : β} (h : l.Keeps o (split v))
    (hv : make (split v) = v) : (l.iso make split).Keeps o v := by
  refine ⟨h.length, fun rest => ?_⟩
  show make (l.decode o (l.encode o (split v) ++ rest)) = v
  rw [h.decode, hv]

end Keeps

end Layout

/-! ## Reading what stands in an array -/

theorem record?_of_standsAt {α : Type} {b : ByteArray} {l : Layout α} {o : ByteOrder} {v : α}
    {i : Nat} (hv : l.Keeps o v) (h : standsAt b (l.encode o v) i = true) :
    record? b l o i = some v := by
  have hslice : slice? b i l.size = some (l.encode o v) := by
    rw [← hv.length]
    exact beq_iff_eq.1 h
  have hdecode := hv.decode []
  rw [List.append_nil] at hdecode
  rw [record?, hslice, Option.map_some, hdecode]

/-! ## Records in a row -/

/-- Records of one size take as many bytes as there are of them. -/
theorem length_flatMap_encode {α : Type} {l : Layout α} {o : ByteOrder} {vs : List α}
    (h : ∀ v ∈ vs, l.Keeps o v) : (vs.flatMap (l.encode o)).length = l.size * vs.length := by
  induction vs with
  | nil => rfl
  | cons v vs ih =>
    obtain ⟨hv, hvs⟩ := List.forall_mem_cons.1 h
    rw [List.flatMap_cons, List.length_append, hv.length, ih hvs, List.length_cons, Nat.mul_succ,
      Nat.add_comm]

theorem standsAt_flatMap {α : Type} {b : ByteArray} {l : Layout α} {o : ByteOrder} {vs : List α}
    {i : Nat} (hvs : ∀ v ∈ vs, l.Keeps o v) (h : standsAt b (vs.flatMap (l.encode o)) i = true)
    {k : Nat} (hk : k < vs.length) : standsAt b (l.encode o vs[k]) (i + k * l.size) = true := by
  induction vs generalizing i k with
  | nil => cases hk
  | cons v vs ih =>
    obtain ⟨hv, hvs⟩ := List.forall_mem_cons.1 hvs
    obtain ⟨hfirst, hrest⟩ := standsAt_append.1 h
    rw [hv.length] at hrest
    cases k with
    | zero => rwa [Nat.zero_mul]
    | succ k =>
      have hnext := ih hvs hrest (Nat.lt_of_succ_lt_succ hk)
      have hplace : i + l.size + k * l.size = i + (k + 1) * l.size := by
        rw [Nat.succ_mul]
        omega
      rwa [hplace] at hnext

/-! ## The records of Mach-O files -/

namespace MachO

open Layout

variable {o : ByteOrder}

theorem Header.keeps (h : Header) : Header.layout.Keeps o h :=
  .iso (.seq .u32 <| .seq .u32 <| .seq .u32 <| .seq .u32 <| .seq .u32 <| .seq .u32 .u32) rfl

theorem CommandHeader.keeps (h : CommandHeader) : CommandHeader.layout.Keeps o h :=
  .iso (.seq .u32 .u32) rfl

theorem SegmentCommand.keeps {c : SegmentCommand} (h : c.name.length = 16) :
    (SegmentCommand.layout true).Keeps o c :=
  .iso (.seq (CommandHeader.keeps _) <| .seq (.bytes h) <| .seq .u64 <| .seq .u64 <| .seq .u64 <|
    .seq .u64 <| .seq .u32 <| .seq .u32 <| .seq .u32 .u32) rfl

theorem SymbolTableCommand.keeps (c : SymbolTableCommand) : SymbolTableCommand.layout.Keeps o c :=
  .iso (.seq (CommandHeader.keeps _) <| .seq .u32 <| .seq .u32 <| .seq .u32 .u32) rfl

theorem SectionHeader.keeps {s : SectionHeader} (hname : s.name.length = 16)
    (hsegment : s.segment.length = 16) : (SectionHeader.layout true).Keeps o s :=
  .iso (.seq (.bytes hname) <| .seq (.bytes hsegment) <| .seq .u64 <| .seq .u64 <| .seq .u32 <|
    .seq .u32 <| .seq .u32 <| .seq .u32 <| .seq .u32 .gap) rfl

theorem SymbolEntry.keeps (s : SymbolEntry) : (SymbolEntry.layout true).Keeps o s :=
  .iso (.seq .u32 <| .seq .u8 <| .seq .u8 <| .seq .u16 .u64) rfl

end MachO

end ItabRecovery

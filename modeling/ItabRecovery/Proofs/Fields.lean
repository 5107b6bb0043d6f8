import ItabRecovery.Proofs.Layouts

/-!
# Where the fields of the records stand

Each runtime record gets a table of its fields: how far each stands from the start of the record,
how wide it is and which number it holds.  A layout put together from layouts with tables has the
table put together from theirs (`Layout.Stores`).  So in a record that was cut out of an array every
field is the word at its place:

    f ∈ fields (l.decode o (window b i n)) →
      f.value = wordAt b o f.width (i + f.start)                          (value_window)

and what recovery looks at is read off the tables, one line each.
-/

namespace ItabRecovery

/-! ## Fields -/

/-- A number of 32 bits with a sign as the word that holds it, in two's complement. -/
def unsigned32 (n : Int) : Nat :=
  (n % 2 ^ 32).toNat

/-- A field of a stored record. -/
structure Field where
  /-- The distance from the start of the record. -/
  start : Nat
  width : Nat
  value : Nat

namespace Field

/-- The bytes at the place of a field are its number in the given order. -/
def StandsIn (f : Field) (o : ByteOrder) (bs : List UInt8) : Prop :=
  (bs.drop f.start).take f.width = o.encode f.width f.value

instance (f : Field) (o : ByteOrder) (bs : List UInt8) : Decidable (f.StandsIn o bs) :=
  inferInstanceAs (Decidable (_ = _))

/-- The same field with `n` more bytes before it. -/
def shift (n : Nat) (f : Field) : Field :=
  { f with start := n + f.start }

/-- Where a field begins, and how wide it is. -/
def span (f : Field) : Nat × Nat :=
  (f.start, f.width)

end Field

/-!
## Tables of fields

All distances are from the start of the whole record, also those of the fields of a record within
it.
-/

def TypeRecord.fields (t : TypeRecord) : List Field :=
  [⟨0, 8, t.size.toNat⟩, ⟨8, 8, t.pointerBytes.toNat⟩, ⟨16, 4, t.hash.toNat⟩,
    ⟨20, 1, t.flags.toNat⟩, ⟨21, 1, t.align.toNat⟩, ⟨22, 1, t.fieldAlign.toNat⟩,
    ⟨23, 1, t.rawKind.toNat⟩, ⟨24, 8, t.equal.toNat⟩, ⟨32, 8, t.gcData.toNat⟩,
    ⟨40, 4, unsigned32 t.text.toInt⟩, ⟨44, 4, unsigned32 t.pointerToThis.toInt⟩]

def FuncRecord.fields (f : FuncRecord) : List Field :=
  f.type.fields ++ [⟨48, 2, f.inCount.toNat⟩, ⟨50, 2, f.outCount.toNat⟩]

/-- A dispatch record; the bytes 20 to 23 belong to no field. -/
def DispatchRecord.fields (r : DispatchRecord) : List Field :=
  [⟨0, 8, r.interface.toNat⟩, ⟨8, 8, r.concrete.toNat⟩, ⟨16, 4, r.hash.toNat⟩,
    ⟨24, 8, r.firstFunction.toNat⟩]

def SliceRecord.fields (h : SliceRecord) : List Field :=
  [⟨0, 8, h.data.toNat⟩, ⟨8, 8, h.len.toNat⟩, ⟨16, 8, h.cap.toNat⟩]

def InterfaceRecord.fields (i : InterfaceRecord) : List Field :=
  i.type.fields ++ [⟨48, 8, i.pkgPath.toNat⟩, ⟨56, 8, i.methods.data.toNat⟩,
    ⟨64, 8, i.methods.len.toNat⟩, ⟨72, 8, i.methods.cap.toNat⟩]

def MethodEntry.fields (h : MethodEntry) : List Field :=
  [⟨0, 4, unsigned32 h.name.toInt⟩, ⟨4, 4, unsigned32 h.type.toInt⟩]

/-! ## Words and numbers -/

/-- Enough bytes begin with a word exactly when their start is that word. -/
theorem ByteOrder.decode_take_eq_iff (o : ByteOrder) {w n : Nat} {bs : List UInt8}
    (hlen : w ≤ bs.length) (hn : n < 256 ^ w) :
    o.decode (bs.take w) = n ↔ bs.take w = o.encode w n := by
  have htake : (bs.take w).length = w := List.length_take_of_le hlen
  constructor
  · intro h
    have hencode := o.encode_decode (bs.take w)
    rw [htake, h] at hencode
    exact hencode.symm
  · intro h
    rw [h, decode_encode, Nat.mod_eq_of_lt hn]

theorem toNat_toUInt32 (v : Int32) : v.toUInt32.toNat = unsigned32 v.toInt := by
  have hlt : v.toUInt32.toNat < 2 ^ 32 := v.toUInt32.toNat_lt
  have hv := toInt_toInt32_ofNat hlt
  rw [UInt32.ofNat_toNat] at hv
  have hsame : v.toUInt32.toInt32 = v := rfl
  rw [hsame] at hv
  rw [hv, unsigned32, signed32]
  split <;> omega

/-- The number that a word holds in two's complement. -/
theorem toInt_eq_signed32 (v : Int32) : v.toInt = signed32 (unsigned32 v.toInt) := by
  have hlow := Int32.le_toInt v
  have hhigh := Int32.toInt_lt v
  rw [signed32, unsigned32]
  split <;> omega

theorem Field.standsIn_shift {n : Nat} {f : Field} {o : ByteOrder} {bs : List UInt8} :
    (f.shift n).StandsIn o bs ↔ f.StandsIn o (bs.drop n) := by
  rw [StandsIn, StandsIn, List.drop_drop]
  rfl

/-! ## Layouts with a table -/

namespace Layout

variable {α β : Type}

/-- Where fields of the given widths stand when they follow each other. -/
def spans : List Nat → List (Nat × Nat)
  | [] => []
  | w :: ws => (0, w) :: (spans ws).map fun s => (w + s.1, s.2)

theorem sum_widths (l : Layout α) : l.widths.sum = l.size :=
  List.sum_eq_foldr

theorem spans_append (ws us : List Nat) :
    spans (ws ++ us) = spans ws ++ (spans us).map fun s => (ws.sum + s.1, s.2) := by
  induction ws with
  | nil => simp [spans]
  | cons w ws ih => simp [spans, ih, Function.comp_def, Nat.add_assoc]

theorem span_le_sum {ws : List Nat} {s : Nat × Nat} (h : s ∈ spans ws) : s.1 + s.2 ≤ ws.sum := by
  induction ws generalizing s with
  | nil => cases h
  | cons w ws ih =>
    rw [List.sum_cons]
    rcases List.mem_cons.1 h with rfl | h
    · omega
    · obtain ⟨r, hr, rfl⟩ := List.mem_map.1 h
      have := ih hr
      omega

/-- A layout stores the records of a type field by field: it keeps them all, and a record is what
some bytes hold exactly when each of its fields stands in them. -/
structure Stores (l : Layout α) (fields : α → List Field) : Prop where
  keeps : ∀ o v, l.Keeps o v
  decode_eq_iff : ∀ {o v} {bs : List UInt8}, l.size ≤ bs.length →
    (l.decode o bs = v ↔ ∀ f ∈ fields v, f.StandsIn o bs)
  span_mem : ∀ {v}, ∀ f ∈ fields v, f.span ∈ spans l.widths
  value_lt : ∀ {v}, ∀ f ∈ fields v, f.value < 256 ^ f.width

/-! ## Tables are put together as layouts are -/

namespace Stores

/-- A layout that reads a word of `w` bytes and makes a value of it. -/
theorem word {l : Layout α} {w : Nat} (make : Nat → α) {num : α → Nat}
    (keeps : ∀ o v, l.Keeps o v) (hwidths : l.widths = [w])
    (hdecode : ∀ o bs, l.decode o bs = make (o.decode (bs.take w)))
    (hnum : ∀ {n}, n < 256 ^ w → ∀ {v}, make n = v ↔ n = num v) (hlt : ∀ v, num v < 256 ^ w) :
    l.Stores fun v => [⟨0, w, num v⟩] where
  keeps := keeps
  decode_eq_iff {o v bs} h := by
    have hlen : w ≤ bs.length := by
      rw [← sum_widths, hwidths] at h
      exact h
    have hword : o.decode (bs.take w) < 256 ^ w := by
      have := o.decode_lt (bs.take w)
      rwa [List.length_take_of_le hlen] at this
    rw [hdecode, hnum hword, o.decode_take_eq_iff hlen (hlt v)]
    simp [Field.StandsIn]
  span_mem f hf := by
    obtain rfl := List.mem_singleton.1 hf
    rw [hwidths]
    exact List.mem_cons_self
  value_lt f hf := by
    obtain rfl := List.mem_singleton.1 hf
    exact hlt _

theorem u8 : Layout.u8.Stores fun v => [⟨0, 1, v.toNat⟩] :=
  word UInt8.ofNat (fun _ _ => .u8) rfl (fun _ _ => rfl) (fun h _ => by
    rw [← UInt8.toNat_inj, UInt8.toNat_ofNat_of_lt' h]) UInt8.toNat_lt

theorem u16 : Layout.u16.Stores fun v => [⟨0, 2, v.toNat⟩] :=
  word UInt16.ofNat (fun _ _ => .u16) rfl (fun _ _ => rfl) (fun h _ => by
    rw [← UInt16.toNat_inj, UInt16.toNat_ofNat_of_lt' h]) UInt16.toNat_lt

theorem u32 : Layout.u32.Stores fun v => [⟨0, 4, v.toNat⟩] :=
  word UInt32.ofNat (fun _ _ => .u32) rfl (fun _ _ => rfl) (fun h _ => by
    rw [← UInt32.toNat_inj, UInt32.toNat_ofNat_of_lt' h]) UInt32.toNat_lt

theorem u64 : Layout.u64.Stores fun v => [⟨0, 8, v.toNat⟩] :=
  word UInt64.ofNat (fun _ _ => .u64) rfl (fun _ _ => rfl) (fun h _ => by
    rw [← UInt64.toNat_inj, UInt64.toNat_ofNat_of_lt' h]) UInt64.toNat_lt

theorem i32 : Layout.i32.Stores fun v => [⟨0, 4, unsigned32 v.toInt⟩] := by
  simp only [← toNat_toUInt32]
  refine word (fun n => (UInt32.ofNat n).toInt32) (fun _ _ => .i32) rfl (fun _ _ => rfl)
    (fun {n} h {v} => ?_) fun v => v.toUInt32.toNat_lt
  constructor
  · rintro rfl
    exact (UInt32.toNat_ofNat_of_lt' h).symm
  · rintro rfl
    rw [UInt32.ofNat_toNat]
    rfl

/-- A gap has no field. -/
theorem gap {n : Nat} : (Layout.gap n).Stores fun _ => [] where
  keeps _ _ := .gap
  decode_eq_iff _ := by simp [Layout.gap]
  span_mem f hf := by cases hf
  value_lt f hf := by cases hf

theorem seq {a : Layout α} {b : Layout β} {fa : α → List Field} {fb : β → List Field}
    (ha : a.Stores fa) (hb : b.Stores fb) :
    (a.seq b).Stores fun v => fa v.1 ++ (fb v.2).map (Field.shift a.size) where
  keeps o v := (ha.keeps o v.1).seq (hb.keeps o v.2)
  decode_eq_iff {o v bs} h := by
    rw [size_seq] at h
    have hsecond : b.size ≤ (bs.drop a.size).length := by
      rw [List.length_drop]
      omega
    show (a.decode o bs, b.decode o (bs.drop a.size)) = v ↔ _
    rw [Prod.ext_iff, ha.decode_eq_iff (by omega), hb.decode_eq_iff hsecond]
    simp [or_imp, forall_and, Field.standsIn_shift]
  span_mem {v} f hf := by
    show f.span ∈ spans (a.widths ++ b.widths)
    rw [spans_append, sum_widths]
    rcases List.mem_append.1 hf with hf | hf
    · exact List.mem_append_left _ (ha.span_mem f hf)
    · obtain ⟨g, hg, rfl⟩ := List.mem_map.1 hf
      exact List.mem_append_right _ (List.mem_map.2 ⟨g.span, hb.span_mem g hg, rfl⟩)
  value_lt {v} f hf := by
    rcases List.mem_append.1 hf with hf | hf
    · exact ha.value_lt f hf
    · obtain ⟨g, hg, rfl⟩ := List.mem_map.1 hf
      exact hb.value_lt g hg

theorem iso {l : Layout α} {fields : α → List Field} {make : α → β} {split : β → α}
    (h : l.Stores fields) (hmake : ∀ v, make (split v) = v) (hsplit : ∀ u, split (make u) = u) :
    (l.iso make split).Stores fun v => fields (split v) where
  keeps o v := (h.keeps o (split v)).iso (hmake v)
  decode_eq_iff {o v bs} hlen := by
    rw [← h.decode_eq_iff hlen]
    show make (l.decode o bs) = v ↔ _
    constructor
    · rintro rfl
      exact (hsplit _).symm
    · intro heq
      rw [heq, hmake]
  span_mem f hf := h.span_mem f hf
  value_lt f hf := h.value_lt f hf

/-! ## Tables and arrays -/

variable {l : Layout α} {fields : α → List Field} {o : ByteOrder}

theorem end_le_size (h : l.Stores fields) {v : α} {f : Field} (hf : f ∈ fields v) :
    f.start + f.width ≤ l.size := by
  rw [← sum_widths]
  exact span_le_sum (h.span_mem f hf)

/-- In a record that was cut out of an array every field is the word at its place. -/
theorem value_window (h : l.Stores fields) {b : ByteArray} {i n : Nat} (hn : i + n ≤ b.size)
    (hsize : l.size ≤ n) {f : Field} (hf : f ∈ fields (l.decode o (window b i n))) :
    f.value = wordAt b o f.width (i + f.start) := by
  have hlen : l.size ≤ (window b i n).length := by rwa [length_window hn]
  have hstands : ((window b i n).drop f.start).take f.width = o.encode f.width f.value :=
    (h.decode_eq_iff hlen).1 rfl f hf
  have hend := h.end_le_size hf
  rw [← decode_field o hn (by omega), hstands, o.decode_encode, Nat.mod_eq_of_lt (h.value_lt f hf)]

/-- A field with a sign. -/
theorem toInt_window (h : l.Stores fields) {b : ByteArray} {i n start : Nat} (hn : i + n ≤ b.size)
    (hsize : l.size ≤ n) {v : Int32}
    (hf : ⟨start, 4, unsigned32 v.toInt⟩ ∈ fields (l.decode o (window b i n))) :
    v.toInt = signed32 (wordAt b o 4 (i + start)) := by
  have hword : unsigned32 v.toInt = wordAt b o 4 (i + start) := h.value_window hn hsize hf
  rw [← hword, ← toInt_eq_signed32]

end Stores

end Layout

/-! ## The runtime records -/

theorem TypeRecord.stores : TypeRecord.layout.Stores TypeRecord.fields :=
  .iso (.seq .u64 <| .seq .u64 <| .seq .u32 <| .seq .u8 <| .seq .u8 <| .seq .u8 <| .seq .u8 <|
    .seq .u64 <| .seq .u64 <| .seq .i32 .i32) (fun _ => rfl) fun _ => rfl

theorem FuncRecord.stores : FuncRecord.layout.Stores FuncRecord.fields :=
  .iso (.seq TypeRecord.stores <| .seq .u16 .u16) (fun _ => rfl) fun _ => rfl

theorem DispatchRecord.stores : DispatchRecord.layout.Stores DispatchRecord.fields :=
  .iso (.seq .u64 <| .seq .u64 <| .seq .u32 <| .seq .gap .u64) (fun _ => rfl) fun _ => rfl

theorem SliceRecord.stores : SliceRecord.layout.Stores SliceRecord.fields :=
  .iso (.seq .u64 <| .seq .u64 .u64) (fun _ => rfl) fun _ => rfl

theorem InterfaceRecord.stores : InterfaceRecord.layout.Stores InterfaceRecord.fields :=
  .iso (.seq TypeRecord.stores <| .seq .u64 SliceRecord.stores) (fun _ => rfl) fun _ => rfl

theorem MethodEntry.stores : MethodEntry.layout.Stores MethodEntry.fields :=
  .iso (.seq .i32 .i32) (fun _ => rfl) fun _ => rfl

/-! ## Records read from a window

What recovery looks at, as words at their positions. -/

theorem TypeRecord.isPointer_eq (t : TypeRecord) :
    t.isPointer = decide (t.rawKind.toNat % 32 = 22) := by
  rw [isPointer, kind, Bool.eq_iff_iff, beq_iff_eq, decide_eq_true_iff, ← UInt8.toNat_inj,
    UInt8.toNat_and]
  rw [show (0x1f : UInt8).toNat = 2 ^ 5 - 1 from rfl, Nat.and_two_pow_sub_one_eq_mod]
  rfl

theorem TypeRecord.hasExtra_eq (t : TypeRecord) : t.hasExtra = decide (t.flags.toNat % 2 = 1) := by
  rw [hasExtra, Bool.eq_iff_iff, bne_iff_ne, decide_eq_true_iff, ne_eq, ← UInt8.toNat_inj,
    UInt8.toNat_and]
  rw [show (1 : UInt8).toNat = 2 ^ 1 - 1 from rfl, Nat.and_two_pow_sub_one_eq_mod]
  rw [show (0 : UInt8).toNat = 0 from rfl]
  omega

section
variable {b : ByteArray} {i n : Nat} (hn : i + n ≤ b.size) (o : ByteOrder)
include hn

theorem Layout.u64_window (h : 8 ≤ n) :
    (Layout.u64.decode o (window b i n)).toNat = wordAt b o 8 i :=
  Stores.u64.value_window hn h (f := ⟨0, 8, _⟩) List.mem_cons_self

theorem TypeRecord.text_window (h : 48 ≤ n) :
    (layout.decode o (window b i n)).text.toInt = signed32 (wordAt b o 4 (i + 40)) :=
  stores.toInt_window hn h (by simp [fields])

theorem TypeRecord.isPointer_window (h : 48 ≤ n) :
    (layout.decode o (window b i n)).isPointer = decide (byteAt b (i + 23) % 32 = 22) := by
  have hkind : (layout.decode o (window b i n)).rawKind.toNat = wordAt b o 1 (i + 23) :=
    stores.value_window hn h (f := ⟨23, 1, _⟩) (by simp [fields])
  rw [isPointer_eq, hkind, wordAt_one]

theorem FuncRecord.text_window (h : 52 ≤ n) :
    (layout.decode o (window b i n)).type.text.toInt = signed32 (wordAt b o 4 (i + 40)) :=
  stores.toInt_window hn h (by simp [fields, TypeRecord.fields])

theorem FuncRecord.slotsStart_window (h : 52 ≤ n) :
    (layout.decode o (window b i n)).slotsStart =
      if byteAt b (i + 20) % 2 = 1 then 72 else 56 := by
  have hflags : (layout.decode o (window b i n)).type.flags.toNat = wordAt b o 1 (i + 20) :=
    stores.value_window hn h (f := ⟨20, 1, _⟩) (by simp [fields, TypeRecord.fields])
  rw [slotsStart, TypeRecord.hasExtra_eq, hflags, wordAt_one]
  simp [extent, extraExtent]

theorem FuncRecord.parameterCount_window (h : 52 ≤ n) :
    (layout.decode o (window b i n)).parameterCount = wordAt b o 2 (i + 48) :=
  stores.value_window hn h (f := ⟨48, 2, _⟩) (by simp [fields])

theorem FuncRecord.resultCount_window (h : 52 ≤ n) :
    (layout.decode o (window b i n)).resultCount = wordAt b o 2 (i + 50) % 2 ^ 15 := by
  have hcount : (layout.decode o (window b i n)).outCount.toNat = wordAt b o 2 (i + 50) :=
    stores.value_window hn h (f := ⟨50, 2, _⟩) (by simp [fields])
  rw [resultCount, UInt16.toNat_and, hcount]
  rw [show (0x7fff : UInt16).toNat = 2 ^ 15 - 1 from rfl, Nat.and_two_pow_sub_one_eq_mod]

theorem InterfaceRecord.data_window (h : 80 ≤ n) :
    (layout.decode o (window b i n)).methods.data.toNat = wordAt b o 8 (i + 56) :=
  stores.value_window hn h (f := ⟨56, 8, _⟩) (by simp [fields])

theorem InterfaceRecord.len_window (h : 80 ≤ n) :
    (layout.decode o (window b i n)).methods.len.toNat = wordAt b o 8 (i + 64) :=
  stores.value_window hn h (f := ⟨64, 8, _⟩) (by simp [fields])

theorem DispatchRecord.interface_window (h : 32 ≤ n) :
    (layout.decode o (window b i n)).interface.toNat = wordAt b o 8 i :=
  stores.value_window hn h (f := ⟨0, 8, _⟩) (by simp [fields])

theorem DispatchRecord.concrete_window (h : 32 ≤ n) :
    (layout.decode o (window b i n)).concrete.toNat = wordAt b o 8 (i + 8) :=
  stores.value_window hn h (f := ⟨8, 8, _⟩) (by simp [fields])

theorem MethodEntry.name_window (h : 8 ≤ n) :
    (layout.decode o (window b i n)).name.toInt = signed32 (wordAt b o 4 i) := by
  have hfield : (⟨0, 4, unsigned32 (layout.decode o (window b i n)).name.toInt⟩ : Field) ∈
      fields (layout.decode o (window b i n)) := by simp [fields]
  exact stores.toInt_window hn h hfield

theorem MethodEntry.type_window (h : 8 ≤ n) :
    (layout.decode o (window b i n)).type.toInt = signed32 (wordAt b o 4 (i + 4)) :=
  stores.toInt_window hn h (by simp [fields])

end

end ItabRecovery

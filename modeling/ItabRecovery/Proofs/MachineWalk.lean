import ItabRecovery.Proofs.Extraction
import ItabRecovery.Proofs.Machine

/-!
# Recovery in machine words

The walk from a label to its texts as a machine with words of 64 bits does it.  Only what can
be seen in a file is checked: where an offset is added to a distance or a count is multiplied by
a size, nothing looks at the carry, and a panic would end the run.  In sections of fewer than 2^63
bytes every operation of the machine follows its plain counterpart, so there is no panic:

    Follows Eq (Machine.implementations image) image.implementations
                                                      (implementations_follows)
-/

namespace ItabRecovery.Machine

/-! ## Bytes and records -/

section
variable (s : Section)

/-- The number of bytes of a section. -/
def len : UInt64 :=
  UInt64.ofNat s.size

/-- The offset of the byte loaded at an address. -/
def offsetOf (addr : UInt64) : Outcome UInt64 :=
  match (checkedSub addr s.base).filter (· < len s) with
  | some offset => .value offset
  | none => .error (.outOfBounds (addr - s.base).toNat 0 s.size)

/-- The `n` bytes from an offset on. -/
def span (offset n : UInt64) : Outcome (List UInt8) :=
  match (checkedAdd offset n).bind (get? s.data offset) with
  | some bytes => .value bytes
  | none => .error (.outOfBounds offset.toNat n.toNat s.size)

/-- The record in the `n` bytes from an offset on. -/
def record {α : Type} (l : Layout α) (o : ByteOrder) (offset n : UInt64) : Outcome α := do
  let bytes ← span s offset n
  match l.read? o bytes with
  | some (r, _) => return r
  | none => .panic .short

/-- The text of the name record at an offset. -/
def nameAt (offset : Int32) : Outcome String :=
  if offset.toInt < 0 then .error (.outOfBounds (NameRecord.unsigned offset) 4 s.size)
  else do
    let start := UInt64.ofNat offset.toInt.toNat
    match (checkedAdd start 4).bind (get? s.data start) with
    | none => .error (.outOfBounds start.toNat 4 s.size)
    | some head =>
      let high ← index head 1
      let low ← index head 2
      let n := ByteOrder.big.decode [high, low]
      let textStart ← add start 3
      let textStop ← add textStart (UInt64.ofNat n)
      match get? s.data textStart textStop with
      | some text => return Utf8.lossy text
      | none => .error (.sectionFault rodataName (.nameTooLong start.toNat n s.size))

end

/-! ## The graph of type records -/

section
variable (d : TypeData)

def dispatchRecordAt (offset : UInt64) : Outcome DispatchRecord :=
  record d.toSection DispatchRecord.layout d.order offset 32

def typeAt (addr : UInt64) : Outcome TypeRecord := do
  let offset ← offsetOf d.toSection addr
  record d.toSection TypeRecord.layout d.order offset 48

def funcAt (offset : UInt64) : Outcome FuncRecord :=
  record d.toSection FuncRecord.layout d.order offset 56

/-- The entries of a method table, read one by one once the whole table is known to be there. -/
def methodTable (table : SliceRecord) : Outcome (List MethodEntry) :=
  if table.len = 0 then return []
  else do
    let start ← offsetOf d.toSection table.data
    let extent := (checkedMul table.len 8).getD (UInt64.ofNat (2 ^ 64 - 1))
    let _ ← span d.toSection start extent
    (List.range table.len.toNat).mapM fun i => do
      let distance ← mul (UInt64.ofNat i) 8
      let offset ← add start distance
      record d.toSection MethodEntry.layout d.order offset 8

def interfaceAt (addr : UInt64) : Outcome InterfaceNode := do
  let offset ← offsetOf d.toSection addr
  let raw ← record d.toSection InterfaceRecord.layout d.order offset 80
  let methods ← methodTable d raw.methods
  return ⟨raw.type, raw.pkgPath, methods⟩

/-- The types of `count` slots in a row. -/
def slotTypes (start : UInt64) (count : Nat) : Outcome (List TypeRecord) :=
  (List.range count).mapM fun i => do
    let distance ← mul (UInt64.ofNat i) 8
    let offset ← add start distance
    let slot ← span d.toSection offset 8
    match Layout.u64.read? d.order slot with
    | some (addr, _) => typeAt d addr
    | none => .panic .index

/-- The distance from the start of a function type to its first slot. -/
def slotsStart (func : FuncRecord) : UInt64 :=
  if func.type.hasExtra then 72 else 56

def methodOf (header : MethodEntry) : Outcome MethodNode := do
  let offset ← cast header.type
  let func ← funcAt d offset
  let inStart ← add offset (slotsStart func)
  let inExtent ← mul (UInt64.ofNat func.parameterCount) 8
  let outStart ← add inStart inExtent
  let inputs ← slotTypes d inStart func.parameterCount
  let outputs ← slotTypes d outStart func.resultCount
  return ⟨header, func, inputs, outputs⟩

/-- Whether an offset is positive and not past the end; it is only taken for unsigned if so. -/
def pointsInto (offset : Int32) : Outcome Bool :=
  if 0 < offset.toInt then do
    let place ← cast offset
    return place ≤ len d.toSection
  else return false

def isPadding (h : MethodEntry) : Outcome Bool :=
  if h.name == h.type then return true
  else do
    let named ← pointsInto d h.name
    if !named then return true
    else do
      let typed ← pointsInto d h.type
      return !typed

/-- The methods of the headers that are no padding. -/
def methodsOf : List MethodEntry → Outcome (List MethodNode)
  | [] => return []
  | h :: hs => do
    let padding ← isPadding d h
    if padding then methodsOf hs
    else do
      let m ← methodOf d h
      let ms ← methodsOf hs
      return m :: ms

def dispatchAt (addr : UInt64) : Outcome DispatchNode := do
  let offset ← offsetOf d.toSection addr
  let record ← dispatchRecordAt d offset
  let interface ← interfaceAt d record.interface
  let concrete ← typeAt d record.concrete
  let methods ← methodsOf d interface.methods
  return ⟨record, interface, concrete, methods⟩

end

/-! ## Texts and images -/

section
variable (s : Section)

def typeRef (t : TypeRecord) : Outcome TypeRef := do
  let text ← nameAt s t.text
  return .ofText text t.isPointer

def method (m : MethodNode) : Outcome Method := do
  let name ← nameAt s m.header.name
  let signature ← nameAt s m.func.type.text
  let inputs ← m.inputs.mapM (typeRef s)
  let outputs ← m.outputs.mapM (typeRef s)
  return ⟨name, stripPointer signature, inputs, outputs⟩

def implementation (label : ItabLabel) (node : DispatchNode) : Outcome Implementation := do
  let methods ← node.methods.mapM (method s)
  let concrete ← nameAt s node.concrete.text
  return ⟨.ofText label.interface, stripPointer concrete, methods⟩

end

def implementationAt (d : TypeData) (label : ItabLabel) : Outcome Implementation := do
  let node ← dispatchAt d label.address
  implementation d.toSection label node

def byteOrder (table : Option Section) : Outcome ByteOrder :=
  match table with
  | none => .error (.byteOrder (.notFound TypeLink.sectionName))
  | some s =>
    match get? s.data 0 16 with
    | none => .error (.byteOrder (.tooShort s.size 16))
    | some probe => do
      let flag ← index probe 15
      return if flag = 0 then .little else .big

/-- All implementations that an image records.  Labels are taken apart and sections are found
without a sum, an index or a range. -/
def implementations (image : Image) : Outcome (List Implementation) := do
  let labels ← .lift (ItabLabel.ofSymbols image.symbols)
  let order ← byteOrder (image.sectionNamed? TypeLink.sectionName)
  let rodata ← .lift (image.sectionNamed rodataName)
  labels.mapM (implementationAt (TypeData.mk rodata order))

/-! ## Bytes and records follow -/

section
variable {s : Section} (hs : s.size < 2 ^ 63)
include hs

theorem toNat_len : (len s).toNat = s.size := by
  rw [len, UInt64.toNat_ofNat', Nat.mod_eq_of_lt (by omega)]

theorem offsetOf_follows (addr : UInt64) : Follows Counts (offsetOf s addr) (s.locate addr) := by
  have hlen := toNat_len hs
  unfold offsetOf Section.locate checkedSub
  by_cases hle : s.base ≤ addr
  · have hsub : (addr - s.base).toNat = addr.toNat - s.base.toNat :=
      UInt64.toNat_sub_of_le _ _ hle
    by_cases hlt : addr - s.base < len s
    · have hnat : addr.toNat - s.base.toNat < s.size := by
        rw [UInt64.lt_iff_toNat_lt] at hlt
        omega
      rw [if_pos hle, if_pos ⟨hle, hnat⟩, Option.filter_some, decide_eq_true hlt]
      exact .value hsub
    · have hnat : ¬ addr.toNat - s.base.toNat < s.size := by
        rw [UInt64.lt_iff_toNat_lt] at hlt
        omega
      rw [if_pos hle, if_neg (fun h => hnat h.2), Option.filter_some, decide_eq_false hlt]
      exact .error _
  · rw [if_neg hle, if_neg (fun h => hle h.1)]
    exact .error _

theorem span_follows (offset n : UInt64) :
    Follows Eq (span s offset n) (s.bytesAt offset.toNat n.toNat) := by
  have hdata : s.data.size < 2 ^ 64 := Nat.lt_trans hs (by decide)
  rw [span, Section.bytesAt, checkedAdd_get? hdata]
  cases slice? s.data offset.toNat n.toNat with
  | some bytes => exact .value rfl
  | none => exact .error _

/-- The bytes that were cut out for a record are enough for its fields. -/
theorem record_follows {α : Type} {l : Layout α} {o : ByteOrder} {offset n : UInt64}
    (hl : l.size ≤ n.toNat) :
    Follows Eq (record s l o offset n) (s.recordAt l o offset.toNat n.toNat) := by
  apply (span_follows hs offset n).bind
  rintro bytes _ rfl hbytes
  obtain ⟨hfit, rfl⟩ := Section.bytesAt_eq_ok_iff.1 hbytes
  have hlength : l.size ≤ (window s.data offset.toNat n.toNat).length := by
    rw [length_window hfit]
    exact hl
  rw [Layout.read?, if_pos hlength]
  exact .value rfl

/-- The text of a name record starts below 2^31 + 3 and is shorter than 2^16 bytes. -/
theorem nameAt_follows (offset : Int32) : Follows Eq (nameAt s offset) (s.nameAt offset) := by
  have hdata : s.data.size < 2 ^ 64 := Nat.lt_trans hs (by decide)
  unfold nameAt Section.nameAt
  by_cases hneg : offset.toInt < 0
  · rw [if_pos hneg, if_pos hneg]
    exact .error _
  rw [if_neg hneg, if_neg hneg]
  have hlt := Int32.toInt_lt offset
  have hstart : (UInt64.ofNat offset.toInt.toNat).toNat = offset.toInt.toNat := by
    rw [UInt64.toNat_ofNat', Nat.mod_eq_of_lt (by omega)]
  -- From here on only the value of the word matters.
  generalize UInt64.ofNat offset.toInt.toNat = start at hstart ⊢
  simp only [checkedAdd_get? hdata, hstart, NameRecord.headSize, NameRecord.textOffset,
    Section.bytesAt]
  rw [show (4 : UInt64).toNat = 4 from rfl]
  cases hhead : slice? s.data offset.toInt.toNat 4 with
  | none => exact .error _
  | some head =>
    have hlength : head.length = 4 := length_of_slice? hhead
    have hbytes : (head.drop 1).take 2 = [head[1], head[2]] := by
      rw [List.drop_eq_getElem_cons (by omega), List.drop_eq_getElem_cons (by omega)]
      rfl
    have hn : ByteOrder.big.decode [head[1], head[2]] < 256 ^ 2 := ByteOrder.decode_lt _ _
    show Follows Eq _ (match slice? s.data _ (ByteOrder.big.decode ((head.drop 1).take 2)) with
      | some text => _
      | none => _)
    rw [hbytes]
    -- the two bytes of the length are read one by one, then two sums are formed
    apply follows_index (by omega)
    apply follows_index (by omega)
    generalize ByteOrder.big.decode [head[1], head[2]] = n at hn ⊢
    have hword : (UInt64.ofNat n).toNat = n := by
      rw [UInt64.toNat_ofNat', Nat.mod_eq_of_lt (by omega)]
    have hthree : (3 : UInt64).toNat = 3 := rfl
    apply follows_add (by omega)
    intro textStart htextStart
    apply follows_add (by omega)
    intro textStop htextStop
    have hget : get? s.data textStart textStop = slice? s.data (offset.toInt.toNat + 3) n := by
      rw [get?_eq (n := n) (by omega), htextStart, hstart, hthree]
    rw [hget]
    cases slice? s.data (offset.toInt.toNat + 3) n with
    | some text => exact .value rfl
    | none => exact .error _

end

/-! ## The graph follows -/

section
variable {d : TypeData} (hd : d.size < 2 ^ 63)
include hd

theorem dispatchRecordAt_follows (offset : UInt64) :
    Follows Eq (dispatchRecordAt d offset) (d.dispatchRecordAt offset.toNat) :=
  record_follows hd (Nat.le_refl _)

theorem typeAt_follows (addr : UInt64) : Follows Eq (typeAt d addr) (d.typeAt addr) := by
  apply (offsetOf_follows hd addr).bind
  rintro offset _ rfl _
  exact record_follows hd (Nat.le_refl _)

/-- Reading the fields of a function type leaves four of its bytes over. -/
theorem funcAt_follows (offset : UInt64) :
    Follows Eq (funcAt d offset) (d.funcAt offset.toNat) :=
  record_follows hd (by decide)

end

/-- The place of the `i`-th of some parts of eight bytes each. -/
theorem follows_place {α β : Type} {R : α → β → Prop} {x : Except Error β} {start : UInt64}
    {i : Nat} {g : UInt64 → Outcome α} (h : start.toNat + i * 8 < 2 ^ 64)
    (hg : ∀ offset : UInt64, offset.toNat = start.toNat + i * 8 → Follows R (g offset) x) :
    Follows R (do
      let distance ← mul (UInt64.ofNat i) 8
      let offset ← add start distance
      g offset) x := by
  have hword : (UInt64.ofNat i).toNat = i := by
    rw [UInt64.toNat_ofNat', Nat.mod_eq_of_lt (by omega)]
  have hproduct : (UInt64.ofNat i).toNat * (8 : UInt64).toNat = i * 8 := by rw [hword]; rfl
  apply follows_mul (by omega)
  intro distance hdistance
  apply follows_add (by omega)
  intro offset hoffset
  exact hg offset (by omega)

theorem offsets_injective : Function.Injective Reading.offsets := by
  rintro ⟨name, type⟩ ⟨name', type'⟩ h
  obtain ⟨hname, htype⟩ := Prod.mk.inj h
  rw [MethodEntry.mk.injEq]
  exact ⟨Int32.toInt_inj.1 hname, Int32.toInt_inj.1 htype⟩

/-- Entries decoded in a row are the records at their places. -/
theorem recordAt_range {s : Section} {o : ByteOrder} {start n : Nat}
    (h : start + n * 8 ≤ s.size) :
    (List.range n).mapM (fun i => s.recordAt MethodEntry.layout o (start + i * 8) 8) =
      .ok (MethodEntry.layout.decodeMany o n (window s.data start (n * 8))) := by
  have hentries : MethodEntry.layout.decodeMany o n (window s.data start (n * 8)) =
      (List.range n).map fun i =>
        MethodEntry.layout.decode o (window s.data (start + i * 8) 8) := by
    apply List.map_injective_iff.2 offsets_injective
    rw [Nat.mul_comm n 8, Reading.offsets_decodeMany (by omega), List.map_map]
    apply List.map_congr_left
    intro i hi
    have hi : i < n := List.mem_range.1 hi
    have hfit : start + i * 8 + 8 ≤ s.data.size := Nat.le_trans (by omega) h
    rw [Function.comp_apply, Reading.offsets_decode hfit (Nat.le_refl _), Nat.mul_comm]
  rw [hentries, mapM_eq_ok_iff, List.forall₂_map_right_iff, List.forall₂_same]
  intro i hi
  have hi : i < n := List.mem_range.1 hi
  exact Section.recordAt_eq_ok_iff.2 ⟨by omega, rfl⟩

section
variable {d : TypeData} (hd : d.size < 2 ^ 63)
include hd

/-- The entries of a table that is there are read without going past its end. -/
theorem entries_follow {start : UInt64} {n : Nat} (h : start.toNat + n * 8 ≤ d.size) :
    Follows Eq
      ((List.range n).mapM fun i => do
        let distance ← mul (UInt64.ofNat i) 8
        let offset ← add start distance
        record d.toSection MethodEntry.layout d.order offset 8)
      ((List.range n).mapM fun i =>
        d.recordAt MethodEntry.layout d.order (start.toNat + i * 8) 8) := by
  apply Follows.mapM_eq
  intro i hi
  have hi : i < n := List.mem_range.1 hi
  apply follows_place (by omega)
  intro offset hoffset
  rw [← hoffset]
  exact record_follows hd (Nat.le_refl _)

theorem methodTable_follows (t : SliceRecord) :
    Follows Eq (methodTable d t) (d.methodTable t) := by
  unfold methodTable TypeData.methodTable
  by_cases hempty : t.len = 0
  · rw [if_pos hempty, if_pos hempty]
    exact .value rfl
  rw [if_neg hempty, if_neg hempty]
  apply (offsetOf_follows hd t.data).bind
  rintro start _ rfl _
  -- A product that overflows is larger than any section, and so is the largest word.
  have hextent := toNat_checkedMul t.len 8
  rw [show (8 : UInt64).toNat = 8 from rfl] at hextent
  have hspan := span_follows hd start ((checkedMul t.len 8).getD (UInt64.ofNat (2 ^ 64 - 1)))
  rw [hextent, Section.bytesAt] at hspan
  simp only [MethodEntry.size_layout]
  by_cases hfit : start.toNat + t.len.toNat * 8 ≤ d.size
  · have hslice := slice?_eq_some_iff.2
      (show start.toNat + t.len.toNat * 8 ≤ d.data.size ∧ _ from ⟨hfit, rfl⟩)
    rw [Nat.min_eq_left (by omega), hslice] at hspan
    rw [hspan.eq_lift, hslice]
    have hentries := entries_follow hd hfit
    rw [recordAt_range hfit] at hentries
    exact hentries
  · have hslice (n : Nat) (hn : ¬ start.toNat + n ≤ d.size) : slice? d.data start.toNat n = none :=
      if_neg hn
    rw [hslice _ (by omega)] at hspan
    rw [hspan.eq_lift, hslice _ hfit]
    exact .error _

theorem interfaceAt_follows (addr : UInt64) :
    Follows Eq (interfaceAt d addr) (d.interfaceAt addr) := by
  apply (offsetOf_follows hd addr).bind
  rintro offset _ rfl _
  apply (record_follows hd (n := 80) (Nat.le_refl _)).bind
  rintro raw _ rfl _
  apply (methodTable_follows hd raw.methods).bind
  rintro methods _ rfl _
  exact .value rfl

theorem slotTypes_follows {start : UInt64} {count : Nat}
    (h : start.toNat + count * 8 < 2 ^ 64) :
    Follows Eq (slotTypes d start count) (d.slotTypes start.toNat count) := by
  apply Follows.mapM_eq
  intro i hi
  have hi : i < count := List.mem_range.1 hi
  apply follows_place (by omega)
  intro offset hoffset
  rw [TypeData.slotSize, ← hoffset]
  apply (span_follows hd offset 8).bind
  rintro slot _ rfl hslot
  obtain ⟨hfit, rfl⟩ := Section.bytesAt_eq_ok_iff.1 hslot
  have hfit : offset.toNat + 8 ≤ d.data.size := hfit
  -- A slot that has been cut out is not too short to be read.
  have hlength : Layout.u64.size ≤ (window d.data offset.toNat 8).length := by
    rw [length_window hfit]
    exact Nat.le_refl 8
  show Follows Eq (match Layout.u64.read? d.order (window d.data offset.toNat 8) with
    | some (addr, _) => typeAt d addr
    | none => .panic .index) _
  rw [Layout.read?, if_pos hlength]
  exact typeAt_follows hd _

/-- The offsets of a method that is no padding are below 2^31 and its counts below 2^16, so no
slot of it is near the end of the words. -/
theorem methodOf_follows {e : MethodEntry} (he : 0 < e.type.toInt) :
    Follows Eq (methodOf d e) (d.methodOf e) := by
  apply follows_cast he
  intro offset hoffset
  have hlt := Int32.toInt_lt e.type
  simp only [TypeData.methodOf, TypeData.slotSize, ← hoffset]
  apply (funcAt_follows hd offset).bind
  rintro func _ rfl _
  have hstart : (slotsStart func).toNat = func.slotsStart := by
    unfold slotsStart FuncRecord.slotsStart
    split <;> rfl
  have hstart' : func.slotsStart ≤ 72 := by
    unfold FuncRecord.slotsStart
    split <;> decide
  have hin : func.parameterCount < 2 ^ 16 := UInt16.toNat_lt func.inCount
  have hout : func.resultCount < 2 ^ 16 := UInt16.toNat_lt _
  -- Counts of 16 bits and an offset of 31 leave every sum far from overflow.
  apply follows_add (by omega)
  intro inStart hinStart
  apply follows_place (by omega)
  intro outStart houtStart
  rw [← hstart, ← hinStart, ← houtStart]
  apply (slotTypes_follows hd (by omega)).bind
  rintro inputs _ rfl _
  apply (slotTypes_follows hd (by omega)).bind
  rintro outputs _ rfl _
  exact .value rfl

theorem pointsInto_eq (offset : Int32) :
    pointsInto d offset = .value (MethodEntry.pointsInto d.size offset) := by
  have hlen := toNat_len hd
  have hlt := Int32.toInt_lt offset
  unfold pointsInto MethodEntry.pointsInto
  by_cases hpos : 0 < offset.toInt
  · rw [if_pos hpos, cast, if_pos hpos, decide_eq_true hpos, Bool.true_and]
    have hword : (UInt64.ofNat offset.toInt.toNat).toNat = offset.toInt.toNat := by
      rw [UInt64.toNat_ofNat', Nat.mod_eq_of_lt (by omega)]
    show Outcome.value (decide (UInt64.ofNat offset.toInt.toNat ≤ len d.toSection)) = _
    rw [Outcome.value.injEq, decide_eq_decide, UInt64.le_iff_toNat_le, hword, hlen]
    omega
  · rw [if_neg hpos, decide_eq_false hpos, Bool.false_and]
    rfl

theorem isPadding_eq (e : MethodEntry) : isPadding d e = .value (e.isPadding d.size) := by
  unfold isPadding MethodEntry.isPadding
  rw [pointsInto_eq hd, pointsInto_eq hd]
  cases e.name == e.type with
  | true => rfl
  | false =>
    cases MethodEntry.pointsInto d.size e.name with
    | true => rfl
    | false => rfl

theorem methodsOf_follows (es : List MethodEntry) :
    Follows Eq (methodsOf d es) ((es.filter fun h => !h.isPadding d.size).mapM d.methodOf) := by
  induction es with
  | nil => exact .value rfl
  | cons e es ih =>
    rw [methodsOf, isPadding_eq hd, List.filter_cons]
    cases hpad : e.isPadding d.size with
    | true => exact ih
    | false =>
      have hpos : 0 < e.type.toInt := (Reading.isPadding_eq_false_iff.1 hpad).2.2.1
      show Follows Eq _ ((e :: es.filter fun h => !h.isPadding d.size).mapM d.methodOf)
      rw [List.mapM_cons]
      apply (methodOf_follows hd hpos).bind
      rintro m _ rfl _
      apply ih.bind
      rintro ms _ rfl _
      exact .value rfl

theorem dispatchAt_follows (addr : UInt64) :
    Follows Eq (dispatchAt d addr) (d.dispatchAt addr) := by
  apply (offsetOf_follows hd addr).bind
  rintro offset _ rfl _
  apply (dispatchRecordAt_follows hd offset).bind
  rintro record _ rfl _
  apply (interfaceAt_follows hd record.interface).bind
  rintro interface _ rfl _
  apply (typeAt_follows hd record.concrete).bind
  rintro concrete _ rfl _
  apply (methodsOf_follows hd interface.methods).bind
  rintro methods _ rfl _
  exact .value rfl

end

/-! ## Texts and images follow -/

section
variable {s : Section} (hs : s.size < 2 ^ 63)
include hs

theorem typeRef_follows (t : TypeRecord) : Follows Eq (typeRef s t) (s.typeRef t) := by
  apply (nameAt_follows hs t.text).bind
  rintro text _ rfl _
  exact .value rfl

theorem method_follows (m : MethodNode) : Follows Eq (method s m) (s.method m) := by
  apply (nameAt_follows hs m.header.name).bind
  rintro name _ rfl _
  apply (nameAt_follows hs m.func.type.text).bind
  rintro signature _ rfl _
  apply (Follows.mapM_eq fun t _ => typeRef_follows hs t).bind
  rintro inputs _ rfl _
  apply (Follows.mapM_eq fun t _ => typeRef_follows hs t).bind
  rintro outputs _ rfl _
  exact .value rfl

theorem implementation_follows (label : ItabLabel) (node : DispatchNode) :
    Follows Eq (implementation s label node) (s.implementation label node) := by
  apply (Follows.mapM_eq fun m _ => method_follows hs m).bind
  rintro methods _ rfl _
  apply (nameAt_follows hs node.concrete.text).bind
  rintro concrete _ rfl _
  exact .value rfl

end

theorem byteOrder_follows (table : Option Section) :
    Follows Eq (byteOrder table) (TypeLink.byteOrder table) := by
  cases table with
  | none => exact .error _
  | some s =>
    have hget : get? s.data 0 16 = slice? s.data 0 16 := get?_eq rfl
    simp only [byteOrder, TypeLink.byteOrder, TypeLink.probeSize, hget]
    cases hprobe : slice? s.data 0 16 with
    | none => exact .error _
    | some probe =>
      have hlength : probe.length = 16 := length_of_slice? hprobe
      apply follows_index (by omega)
      show Follows Eq _ (.ok (if probe.getD 15 0 = 0 then ByteOrder.little else .big))
      rw [List.getD_eq_getElem?_getD, List.getElem?_eq_getElem (by omega), Option.getD_some]
      exact .value rfl

theorem implementationAt_follows {d : TypeData} (hd : d.size < 2 ^ 63) (label : ItabLabel) :
    Follows Eq (implementationAt d label) (d.implementationAt label) := by
  apply (dispatchAt_follows hd label.address).bind
  rintro node _ rfl _
  exact implementation_follows hd label node

theorem implementations_follows {image : Image} (h : ∀ s ∈ image.sections, s.size < 2 ^ 63) :
    Follows Eq (implementations image) image.implementations := by
  apply (follows_lift _).bind
  rintro labels _ rfl _
  apply (byteOrder_follows _).bind
  rintro o _ rfl _
  apply (follows_lift _).bind
  rintro rodata _ rfl hrodata
  have hsize : rodata.size < 2 ^ 63 := by
    unfold Image.sectionNamed at hrodata
    split at hrodata
    · next s hs =>
      obtain rfl := Except.ok.inj hrodata
      exact h s (List.mem_of_find?_eq_some hs)
    · cases hrodata
  exact Follows.mapM_eq fun label _ =>
    implementationAt_follows (d := TypeData.mk rodata o) hsize label

/-- Once a table has been found to be there, so are all its entries. -/
theorem entry_fits {d : TypeData} (hd : d.size < 2 ^ 63) {t : SliceRecord} {start : UInt64}
    {bytes : List UInt8}
    (h : span d.toSection start ((checkedMul t.len 8).getD (UInt64.ofNat (2 ^ 64 - 1))) =
      .value bytes) {i : Nat} (hi : i < t.len.toNat) :
    start.toNat + i * 8 + 8 ≤ d.size := by
  have hspan := span_follows hd start ((checkedMul t.len 8).getD (UInt64.ofNat (2 ^ 64 - 1)))
  rw [h, toNat_checkedMul, show (8 : UInt64).toNat = 8 from rfl] at hspan
  have hfit := (Section.bytesAt_eq_ok_iff.1 hspan.eq_ok).1
  omega

/-- No run of a machine panics, neither a whole recovery nor one of its operations on its own, as
long as sections have fewer than 2^63 bytes. -/
theorem implementations_never_panics :
    (∀ image : Image, (∀ s ∈ image.sections, s.size ≤ 2 ^ 63 - 1) →
      (∀ f, implementations image ≠ .panic f) ∧
        Follows Eq (implementations image) image.implementations) ∧
    ∀ d : TypeData, d.size ≤ 2 ^ 63 - 1 →
      (∀ addr, Follows Counts (offsetOf d.toSection addr) (d.locate addr)) ∧
      (∀ offset n : UInt64,
        Follows Eq (span d.toSection offset n) (d.bytesAt offset.toNat n.toNat)) ∧
      (∀ offset : UInt64,
        Follows Eq (dispatchRecordAt d offset) (d.dispatchRecordAt offset.toNat)) ∧
      (∀ addr, Follows Eq (interfaceAt d addr) (d.interfaceAt addr)) ∧
      (∀ t, Follows Eq (methodTable d t) (d.methodTable t)) ∧
      (∀ (t : SliceRecord) (start : UInt64) (bytes : List UInt8),
        span d.toSection start ((checkedMul t.len 8).getD (UInt64.ofNat (2 ^ 64 - 1))) =
          .value bytes →
        ∀ i, i < t.len.toNat → start.toNat + i * 8 + 8 ≤ d.size) ∧
      (∀ addr, Follows Eq (typeAt d addr) (d.typeAt addr)) ∧
      (∀ offset : UInt64, Follows Eq (funcAt d offset) (d.funcAt offset.toNat)) ∧
      (∀ e : MethodEntry, e.isPadding d.size = false →
        Follows Eq (methodOf d e) (d.methodOf e)) ∧
      (∀ addr, Follows Eq (dispatchAt d addr) (d.dispatchAt addr)) ∧
      ∀ offset, Follows Eq (nameAt d.toSection offset) (d.nameAt offset) := by
  refine ⟨fun image himage => ?_, fun d hd => ?_⟩
  · have hsizes : ∀ s ∈ image.sections, s.size < 2 ^ 63 := by
      intro s hs
      have := himage s hs
      omega
    have h := implementations_follows hsizes
    exact ⟨h.ne_panic, h⟩
  · have hd : d.size < 2 ^ 63 := by omega
    refine ⟨offsetOf_follows hd, span_follows hd, dispatchRecordAt_follows hd,
      interfaceAt_follows hd, methodTable_follows hd, ?_, typeAt_follows hd, funcAt_follows hd,
      ?_, dispatchAt_follows hd, nameAt_follows hd⟩
    · intro t start bytes h i hi
      exact entry_fits hd h hi
    · intro e he
      exact methodOf_follows hd (Reading.isPadding_eq_false_iff.1 he).2.2.1

/-! ## A table of no possible length -/

/-- Records at the end of the address space; the method table has 2^64 - 1 entries, it says. -/
def endlessRodata : Section where
  name := "__rodata"
  segment := ""
  base := 0xffffffffffffff80
  data := ⟨List.toArray <|
    DispatchRecord.layout.encode .little ⟨0xffffffffffffffa0, 0xffffffffffffff80, 0, 0⟩ ++
    InterfaceRecord.layout.encode .little
      ⟨.plain 20 0, 0, ⟨0xffffffffffffff90, 0xffffffffffffffff, 0⟩⟩⟩

def endlessImage : Image :=
  ⟨[errorTypelink, endlessRodata], [⟨"go.itab.main.T,error", 0xffffffffffffff80⟩]⟩

theorem endlessImage_fails :
    (∀ s ∈ endlessImage.sections, s.size ≤ 2 ^ 63 - 1) ∧
      endlessRodata.size ≤ 2 ^ 63 - 1 ∧
      (∀ f, implementations endlessImage ≠ .panic f) ∧
      implementations endlessImage = .error (.outOfBounds 16 (2 ^ 64 - 1) 112) ∧
      methodTable ⟨endlessRodata, .little⟩ ⟨0xffffffffffffff90, 0x2000000000000001, 0⟩ =
        .error (.outOfBounds 16 (2 ^ 64 - 1) 112) := by
  have hsizes : ∀ s ∈ endlessImage.sections, s.size ≤ 2 ^ 63 - 1 := by decide +kernel
  have hsize : endlessRodata.size ≤ 2 ^ 63 - 1 := by decide +kernel
  have himage := implementations_never_panics.1 endlessImage hsizes
  have htable := (implementations_never_panics.2 ⟨endlessRodata, .little⟩ hsize).2.2.2.2.1
    ⟨0xffffffffffffff90, 0x2000000000000001, 0⟩
  have hfails : endlessImage.implementations = .error (.outOfBounds 16 (2 ^ 64 - 1) 112) := by
    decide +kernel
  have htoolong : TypeData.methodTable ⟨endlessRodata, .little⟩
      ⟨0xffffffffffffff90, 0x2000000000000001, 0⟩ = .error (.outOfBounds 16 (2 ^ 64 - 1) 112) := by
    decide +kernel
  rw [hfails] at himage
  rw [htoolong] at htable
  exact ⟨hsizes, hsize, himage.1, himage.2.eq_lift, htable.eq_lift⟩

end ItabRecovery.Machine

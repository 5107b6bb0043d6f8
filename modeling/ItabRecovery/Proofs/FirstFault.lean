import ItabRecovery.Proofs.Extraction

/-!
# Which fault is reported

Much can be wrong with an image at once, and recovery reports one thing.  Here all that a run
asks for is listed in the order in which it asks: the labels, the byte order, the section of the
type records, and then record by record first the bytes of the whole graph (`spans`) and after
them its texts (`texts`).  The list says what is asked for where by positions and words alone; the
first thing on it that is not there is the one that is reported:

    image.implementations = .error e ↔ image.fault? = some e       (implementations_first_fault)
-/

namespace ItabRecovery

namespace Reading

/-! ## What is asked for -/

/-- Bytes that have to be there: those loaded from an address on, or those from an offset on. -/
inductive Span where
  | loaded (addr n : Nat)
  | stored (offset n : Nat)

variable (s : Section) (o : ByteOrder)

/-- Why bytes are not all there.  An address outside the section is reported by its distance from
the base, modulo 2^64, and a length that no word holds as the largest word. -/
def Span.fault? : Span → Option Error
  | loaded addr n =>
    if addr < s.base.toNat ∨ s.base.toNat + s.size ≤ addr then
      some (.outOfBounds ((addr + 2 ^ 64 - s.base.toNat) % 2 ^ 64) 0 s.size)
    else if s.size < addr - s.base.toNat + n then
      some (.outOfBounds (addr - s.base.toNat) (min n (2 ^ 64 - 1)) s.size)
    else none
  | stored offset n =>
    if s.size < offset + n then some (.outOfBounds offset n s.size) else none

/-- Why there is no text at an offset: it is negative, the first four bytes of the name record are
not all there, or not all of its text is. -/
def textFault? (offset : Int) : Option Error :=
  if offset < 0 then some (.outOfBounds (offset + 2 ^ 64).toNat 4 s.size)
  else if s.size < offset.toNat + 4 then some (.outOfBounds offset.toNat 4 s.size)
  else if s.size < offset.toNat + 3 + textLength s offset.toNat then
    some (.sectionFault "__rodata"
      (.nameTooLong offset.toNat (textLength s offset.toNat) s.size))
  else none

def offsetOf (addr : Nat) : Nat :=
  addr - s.base.toNat

/-! ## Slots and methods -/

/-- A row of slots: each slot, and at once the type whose address it holds. -/
def slotSpans (start count : Nat) : List Span :=
  (List.range count).flatMap fun k =>
    [.stored (start + 8 * k) 8, .loaded (wordAt s.data o 8 (start + 8 * k)) 48]

/-- The texts of the types that a row of slots leads to. -/
def slotTexts (start count : Nat) : List Int :=
  (List.range count).map fun k =>
    textOffset s o (offsetOf s (wordAt s.data o 8 (start + 8 * k)))

/-- A function type, the slots of its parameters and then those of its results. -/
def funcSpans (f : Nat) : List Span :=
  .stored f 56 :: slotSpans s o (slotsAt s f) (inputsAt s o f) ++
    slotSpans s o (slotsAt s f + 8 * inputsAt s o f) (outputsAt s o f)

/-- The texts of a method: its name, its signature, its parameters and its results. -/
def methodTexts (h : Int × Int) : List Int :=
  h.1 :: textOffset s o h.2.toNat :: slotTexts s o (slotsAt s h.2.toNat) (inputsAt s o h.2.toNat) ++
    slotTexts s o (slotsAt s h.2.toNat + 8 * inputsAt s o h.2.toNat) (outputsAt s o h.2.toNat)

/-! ## Interface types -/

def tableAddress (addr : Nat) : Nat :=
  wordAt s.data o 8 (offsetOf s addr + 56)

def tableLength (addr : Nat) : Nat :=
  wordAt s.data o 8 (offsetOf s addr + 64)

/-- The headers of that table that stand for methods. -/
def methodHeaders (addr : Nat) : List (Int × Int) :=
  ((List.range (tableLength s o addr)).map fun k =>
    headerAt s o (offsetOf s (tableAddress s o addr) + 8 * k)).filter
      fun h => decide (IsMethod s.size h)

/-- An interface type and its method table; the address of an empty table is not looked at. -/
def interfaceSpans (addr : Nat) : List Span :=
  .loaded addr 80 ::
    if tableLength s o addr = 0 then []
    else [.loaded (tableAddress s o addr) (8 * tableLength s o addr)]

/-! ## Dispatch records -/

def interfaceAddress (addr : Nat) : Nat :=
  wordAt s.data o 8 (offsetOf s addr)

def concreteAddress (addr : Nat) : Nat :=
  wordAt s.data o 8 (offsetOf s addr + 8)

/-- The bytes of the whole graph behind a dispatch record: the record, the interface type with its
method table, the concrete type, and then method by method. -/
def spans (addr : Nat) : List Span :=
  .loaded addr 32 :: (interfaceSpans s o (interfaceAddress s o addr) ++
    .loaded (concreteAddress s o addr) 48 ::
      (methodHeaders s o (interfaceAddress s o addr)).flatMap fun h => funcSpans s o h.2.toNat)

/-- All texts behind a dispatch record: those of the methods, and that of the concrete type. -/
def texts (addr : Nat) : List Int :=
  (methodHeaders s o (interfaceAddress s o addr)).flatMap (methodTexts s o) ++
    [textOffset s o (offsetOf s (concreteAddress s o addr))]

/-- The first thing that is not there behind a dispatch record; no text is asked for before all
bytes of the graph are known to be there. -/
def recordFault? (addr : Nat) : Option Error :=
  ((spans s o addr).findSome? (Span.fault? s)).or ((texts s o addr).findSome? (textFault? s))

end Reading

open Reading

/-! ## Images -/

/-- A label without a comma is refused by its whole name. -/
def Symbol.fault? (s : Symbol) : Option Error :=
  if ItabLabel.isLabel s = true ∧ ',' ∉ s.name.toList.drop ItabLabel.marker.length then
    some (.malformedLabel s.name)
  else none

def TypeLink.fault? : Option Section → Option Error
  | none => some (.byteOrder (.notFound "__typelink"))
  | some link => if link.size < 16 then some (.byteOrder (.tooShort link.size 16)) else none

def TypeLink.hint : Option Section → ByteOrder
  | none => .little
  | some link => if byteAt link.data 15 = 0 then .little else .big

/-- The first thing that is wrong with an image: a label, whatever else there is; what should tell
the byte order, even where there is no label; the missing section of the type records; and then what
is not there behind the labels, in their order. -/
def Image.fault? (image : Image) : Option Error :=
  let link := image.sections.find? (·.name == "__typelink")
  (image.symbols.findSome? Symbol.fault?).or <| (TypeLink.fault? link).or <|
    match image.sections.find? (·.name == "__rodata") with
    | none => some (.sectionFault "__rodata" .notFound)
    | some rodata => (image.symbols.filter ItabLabel.isLabel).findSome? fun label =>
        recordFault? rodata (TypeLink.hint link) label.value.toNat

/-! ## Spans -/

namespace Reading

section
variable {s : Section}

theorem offsetOf_eq {addr n i : Nat} (h : s.Covers addr n i) : offsetOf s addr = i := by
  rw [offsetOf, h.1, Nat.add_sub_cancel_left]

theorem errorOf?_bytesAt {i n : Nat} :
    errorOf? (s.bytesAt i n) = Span.fault? s (.stored i n) := by
  by_cases h : s.size < i + n
  · rw [Span.fault?, if_pos h, errorOf?_eq_some_iff, Section.bytesAt_eq_error h]
  · rw [Span.fault?, if_neg h, errorOf?_eq_none_iff]
    exact ⟨_, Section.bytesAt_eq_ok_iff.2 ⟨by omega, rfl⟩⟩

theorem errorOf?_recordAt {α : Type} {l : Layout α} {o : ByteOrder} {i n : Nat} :
    errorOf? (s.recordAt l o i n) = Span.fault? s (.stored i n) :=
  errorOf?_bind_pure.trans errorOf?_bytesAt

/-- An address is translated before the bytes there are asked for. -/
theorem errorOf?_locate_bind {α : Type} {addr : UInt64} {n : Nat} {f : Nat → Except Error α}
    (hf : ∀ i, errorOf? (f i) =
      if s.size < i + n then some (.outOfBounds i (min n (2 ^ 64 - 1)) s.size) else none) :
    errorOf? (s.locate addr >>= f) = Span.fault? s (.loaded addr.toNat n) := by
  have hbase : s.base.toNat < 2 ^ 64 := UInt64.toNat_lt _
  by_cases hin : addr.toNat < s.base.toNat ∨ s.base.toNat + s.size ≤ addr.toNat
  · have hdistance : (addr - s.base).toNat = (addr.toNat + 2 ^ 64 - s.base.toNat) % 2 ^ 64 := by
      rw [UInt64.toNat_sub]
      omega
    rw [Section.locate_eq_error hin, Span.fault?, if_pos hin, hdistance]
    rfl
  · have hlocate : s.locate addr = .ok (addr.toNat - s.base.toNat) :=
      Section.locate_eq_ok_iff.2 (by omega)
    rw [hlocate, Span.fault?, if_neg hin]
    exact hf _

theorem errorOf?_locate_recordAt {α : Type} {l : Layout α} {o : ByteOrder} {addr : UInt64}
    {n : Nat} (hn : n < 2 ^ 64) :
    errorOf? (s.locate addr >>= fun i => s.recordAt l o i n) =
      Span.fault? s (.loaded addr.toNat n) := by
  apply errorOf?_locate_bind
  intro i
  rw [errorOf?_recordAt, Span.fault?, Nat.min_eq_left (by omega)]

/-- Only one kind of fault comes of bytes that are not there. -/
theorem Span.fault?_eq_none_or (span : Span) :
    span.fault? s = none ∨ ∃ offset len, span.fault? s = some (.outOfBounds offset len s.size) := by
  cases h : span.fault? s with
  | none => exact Or.inl rfl
  | some e =>
    unfold Span.fault? at h
    split at h
    · split at h
      · exact Or.inr ⟨_, _, h.symm⟩
      · split at h
        · exact Or.inr ⟨_, _, h.symm⟩
        · cases h
    · split at h
      · exact Or.inr ⟨_, _, h.symm⟩
      · cases h

/-! ## Texts -/

theorem unsigned_of_neg {offset : Int32} (h : offset.toInt < 0) :
    NameRecord.unsigned offset = (offset.toInt + 2 ^ 64).toNat := by
  have hword : offset.toInt64.toInt = offset.toInt := Int32.toInt_toInt64 offset
  have hcond := BitVec.toInt_eq_toNat_cond offset.toInt64.toBitVec
  show offset.toInt64.toBitVec.toNat = _
  rw [show offset.toInt64.toBitVec.toInt = offset.toInt from hword] at hcond
  split at hcond
  · omega
  · omega

theorem errorOf?_nameAt {offset : Int32} :
    errorOf? (s.nameAt offset) = textFault? s offset.toInt := by
  unfold Section.nameAt textFault?
  by_cases hneg : offset.toInt < 0
  · rw [if_pos hneg, if_pos hneg, unsigned_of_neg hneg]
    rfl
  rw [if_neg hneg, if_neg hneg]
  generalize offset.toInt.toNat = i
  refine (errorOf?_bind
    (p := if s.size < i + 3 + textLength s i then
        some (.sectionFault "__rodata" (.nameTooLong i (textLength s i) s.size))
      else none) fun head hhead => ?_).trans ?_
  · obtain ⟨hfit, rfl⟩ := Section.bytesAt_eq_ok_iff.1 hhead
    rw [NameRecord.headSize, big_decode_length hfit]
    dsimp only
    by_cases h : s.size < i + 3 + textLength s i
    · have h' : ¬ i + NameRecord.textOffset + textLength s i ≤ s.data.size := Nat.not_le.2 h
      rw [slice?, if_neg h', if_pos h]
      rfl
    · have h' : i + NameRecord.textOffset + textLength s i ≤ s.data.size := Nat.not_lt.1 h
      rw [slice?, if_pos h', if_neg h]
      rfl
  · rw [errorOf?_bytesAt, Span.fault?, NameRecord.headSize]
    split
    · rfl
    · rfl

theorem errorOf?_typeRef {t : TypeRecord} :
    errorOf? (s.typeRef t) = textFault? s t.text.toInt :=
  errorOf?_bind_pure.trans errorOf?_nameAt

end

/-! ## Slots -/

section
variable {d : TypeData}

theorem errorOf?_typeAt {addr : UInt64} :
    errorOf? (d.typeAt addr) = Span.fault? d.toSection (.loaded addr.toNat 48) :=
  errorOf?_locate_recordAt (by decide)

theorem text_of_typeAt {addr : UInt64} {t : TypeRecord} (h : d.typeAt addr = .ok t) :
    t.text.toInt = textOffset d.toSection d.order (offsetOf d.toSection addr.toNat) := by
  obtain ⟨i, hi, rfl⟩ := typeAt_eq_ok_iff.1 h
  rw [TypeRecord.text_window hi.2 _ (Nat.le_refl _), offsetOf_eq hi, textOffset]

theorem slotType_eq_ok {i : Nat} {t : TypeRecord} (h : d.slotType i = .ok t) :
    ∃ addr : UInt64, addr.toNat = wordAt d.data d.order 8 i ∧ d.typeAt addr = .ok t := by
  obtain ⟨slot, hslot, ht⟩ := bind_eq_ok_iff.1 h
  obtain ⟨hfit, rfl⟩ := Section.bytesAt_eq_ok_iff.1 hslot
  exact ⟨_, Layout.u64_window hfit _ (Nat.le_refl 8), ht⟩

theorem errorOf?_slotType {i : Nat} :
    errorOf? (d.slotType i) =
      [.stored i 8, .loaded (wordAt d.data d.order 8 i) 48].findSome?
        (Span.fault? d.toSection) := by
  have htype : ∀ slot, d.bytesAt i TypeData.slotSize = .ok slot →
      errorOf? (d.typeAt (Layout.u64.decode d.order slot)) =
        Span.fault? d.toSection (.loaded (wordAt d.data d.order 8 i) 48) := by
    intro slot hslot
    rw [TypeData.slotSize] at hslot
    obtain ⟨hfit, rfl⟩ := Section.bytesAt_eq_ok_iff.1 hslot
    rw [errorOf?_typeAt, Layout.u64_window hfit _ (Nat.le_refl 8)]
  rw [TypeData.slotType, errorOf?_bind htype, errorOf?_bytesAt, TypeData.slotSize,
    findSome?_cons_or, findSome?_cons_or, List.findSome?_nil, Option.or_none]

theorem errorOf?_slotTypes {start count : Nat} :
    errorOf? (d.slotTypes start count) =
      (slotSpans d.toSection d.order start count).findSome? (Span.fault? d.toSection) := by
  rw [TypeData.slotTypes, errorOf?_mapM, slotSpans, findSome?_flatMap]
  congr 1
  funext k
  rw [errorOf?_slotType, TypeData.slotSize, Nat.mul_comm]

/-- Once a row of slots has been followed, only texts can be missing. -/
theorem errorOf?_typeRefs {start count : Nat} {ts : List TypeRecord}
    (h : d.slotTypes start count = .ok ts) :
    errorOf? (ts.mapM d.typeRef) =
      (slotTexts d.toSection d.order start count).findSome? (textFault? d.toSection) := by
  rw [errorOf?_mapM, slotTexts, List.findSome?_map]
  symm
  apply findSome?_eq_of_forall₂ (mapM_eq_ok_iff.1 h)
  intro k _ t ht
  obtain ⟨addr, haddr, ht⟩ := slotType_eq_ok ht
  rw [errorOf?_typeRef, text_of_typeAt ht, haddr, Function.comp_apply, TypeData.slotSize,
    Nat.mul_comm]

/-! ## Methods -/

theorem errorOf?_methodOf {e : MethodEntry} :
    errorOf? (d.methodOf e) =
      (funcSpans d.toSection d.order e.type.toInt.toNat).findSome? (Span.fault? d.toSection) := by
  generalize hf : e.type.toInt.toNat = f
  have hslots : ∀ func, d.funcAt f = .ok func →
      errorOf? (do
        let inputs ← d.slotTypes (f + func.slotsStart) func.parameterCount
        let outputs ← d.slotTypes (f + func.slotsStart + func.parameterCount * TypeData.slotSize)
          func.resultCount
        return (⟨e, func, inputs, outputs⟩ : MethodNode)) =
      ((slotSpans d.toSection d.order (slotsAt d.toSection f)
            (inputsAt d.toSection d.order f)).findSome? (Span.fault? d.toSection)).or
        ((slotSpans d.toSection d.order (slotsAt d.toSection f +
            8 * inputsAt d.toSection d.order f) (outputsAt d.toSection d.order f)).findSome?
              (Span.fault? d.toSection)) := by
    intro func hfunc
    obtain ⟨hfit, rfl⟩ := funcAt_eq_ok_iff.1 hfunc
    obtain ⟨-, hstart, hin, hout⟩ := func_window hfit
    rw [hstart, hin, hout, TypeData.slotSize, Nat.mul_comm _ 8, ← errorOf?_slotTypes,
      ← errorOf?_slotTypes]
    apply errorOf?_bind
    intro inputs _
    exact errorOf?_bind_pure
  -- The record comes first; what its fields say is needed only once it has been read.
  unfold TypeData.methodOf
  rw [hf]
  refine (errorOf?_bind hslots).trans ?_
  rw [TypeData.funcAt, errorOf?_recordAt, funcSpans, List.cons_append, findSome?_cons_or,
    List.findSome?_append]
  rfl

/-- Once all bytes of a method have been followed, only its texts can be missing. -/
theorem errorOf?_method {e : MethodEntry} {node : MethodNode} (h : d.methodOf e = .ok node) :
    errorOf? (d.method node) =
      (methodTexts d.toSection d.order (offsets e)).findSome? (textFault? d.toSection) := by
  obtain ⟨func, hfunc, h⟩ := bind_eq_ok_iff.1 h
  obtain ⟨inputs, hins, h⟩ := bind_eq_ok_iff.1 h
  obtain ⟨outputs, houts, h⟩ := bind_eq_ok_iff.1 h
  obtain rfl := pure_eq_ok_iff.1 h
  obtain ⟨hfit, rfl⟩ := funcAt_eq_ok_iff.1 hfunc
  obtain ⟨htext, hstart, hin, hout⟩ := func_window hfit
  rw [hstart, hin] at hins
  rw [hstart, hin, hout, TypeData.slotSize, Nat.mul_comm _ 8] at houts
  rw [offsets, methodTexts, List.cons_append, List.cons_append, findSome?_cons_or,
    findSome?_cons_or, List.findSome?_append, ← errorOf?_typeRefs hins, ← errorOf?_typeRefs houts,
    ← htext, ← errorOf?_nameAt, ← errorOf?_nameAt]
  apply errorOf?_bind
  intro name _
  apply errorOf?_bind
  intro signature _
  apply errorOf?_bind
  intro ins _
  exact errorOf?_bind_pure

/-! ## Interface types -/

theorem errorOf?_methodTable {t : SliceRecord} :
    errorOf? (d.methodTable t) =
      if t.len.toNat = 0 then none
      else Span.fault? d.toSection (.loaded t.data.toNat (8 * t.len.toNat)) := by
  unfold TypeData.methodTable
  by_cases hempty : t.len = 0
  · rw [if_pos hempty, if_pos (by rw [hempty]; rfl)]
    rfl
  have hempty' : t.len.toNat ≠ 0 := fun h => hempty (UInt64.toNat_inj.1 h)
  rw [if_neg hempty, if_neg hempty']
  apply errorOf?_locate_bind
  intro i
  simp only [MethodEntry.size_layout, Nat.mul_comm _ 8]
  by_cases h : d.size < i + 8 * t.len.toNat
  · have h' : ¬ i + 8 * t.len.toNat ≤ d.data.size := Nat.not_le.2 h
    rw [if_pos h, slice?, if_neg h']
    rfl
  · have h' : i + 8 * t.len.toNat ≤ d.data.size := Nat.not_lt.1 h
    rw [if_neg h, slice?, if_pos h']
    rfl

/-- What an interface type says of its method table. -/
theorem interface_window {addr i : Nat} (h : d.Covers addr 80 i) :
    let t := (InterfaceRecord.layout.decode d.order (window d.data i 80)).methods
    t.data.toNat = tableAddress d.toSection d.order addr ∧
      t.len.toNat = tableLength d.toSection d.order addr := by
  rw [tableAddress, tableLength, offsetOf_eq h]
  exact ⟨InterfaceRecord.data_window h.2 _ (Nat.le_refl _),
    InterfaceRecord.len_window h.2 _ (Nat.le_refl _)⟩

theorem errorOf?_interfaceAt {addr : UInt64} :
    errorOf? (d.interfaceAt addr) =
      (interfaceSpans d.toSection d.order addr.toNat).findSome? (Span.fault? d.toSection) := by
  have htable : ∀ raw, (do
        let i ← d.locate addr
        d.recordAt InterfaceRecord.layout d.order i 80) = .ok raw →
      errorOf? (do
        let methods ← d.methodTable raw.methods
        return (⟨raw.type, raw.pkgPath, methods⟩ : InterfaceNode)) =
      if tableLength d.toSection d.order addr.toNat = 0 then none
      else Span.fault? d.toSection (.loaded (tableAddress d.toSection d.order addr.toNat)
        (8 * tableLength d.toSection d.order addr.toNat)) := by
    intro raw hraw
    obtain ⟨j, hj, rfl⟩ :=
      (Section.locate_recordAt_eq_ok_iff (by decide)).1 (bind_eq_ok_iff.1 hraw)
    obtain ⟨hdata, hlen⟩ := interface_window hj
    rw [errorOf?_bind_pure, errorOf?_methodTable, hdata, hlen]
  have hspans : (interfaceSpans d.toSection d.order addr.toNat).findSome?
      (Span.fault? d.toSection) = (Span.fault? d.toSection (.loaded addr.toNat 80)).or
        (if tableLength d.toSection d.order addr.toNat = 0 then none
        else Span.fault? d.toSection (.loaded (tableAddress d.toSection d.order addr.toNat)
          (8 * tableLength d.toSection d.order addr.toNat))) := by
    rw [interfaceSpans, findSome?_cons_or]
    split
    · rfl
    · rw [findSome?_cons_or, List.findSome?_nil, Option.or_none]
  rw [hspans, ← errorOf?_locate_recordAt (by decide), ← errorOf?_bind htable, bind_assoc]
  rfl

/-- The headers that stand for methods, once an interface type has been read. -/
theorem methodHeaders_eq {addr : UInt64} {node : InterfaceNode}
    (h : d.interfaceAt addr = .ok node) :
    methodHeaders d.toSection d.order addr.toNat =
      (node.methods.filter fun e => !e.isPadding d.size).map offsets := by
  obtain ⟨i, hi, h⟩ := bind_eq_ok_iff.1 h
  obtain ⟨raw, hraw, h⟩ := bind_eq_ok_iff.1 h
  obtain ⟨es, hes, h⟩ := bind_eq_ok_iff.1 h
  obtain rfl := pure_eq_ok_iff.1 h
  obtain ⟨j, hj, rfl⟩ := (Section.locate_recordAt_eq_ok_iff (by decide)).1 ⟨i, hi, hraw⟩
  obtain ⟨hdata, hlen⟩ := interface_window hj
  rw [InterfaceRecord.size_layout] at hes
  have htable := methodTable_eq_ok_iff.1 ⟨es, hes, rfl⟩
  rw [hdata, hlen] at htable
  -- An empty table has no place, but no headers to look for there either.
  have hheaders : es.map offsets = (List.range (tableLength d.toSection d.order addr.toNat)).map
      fun k => headerAt d.toSection d.order
        (offsetOf d.toSection (tableAddress d.toSection d.order addr.toNat) + 8 * k) := by
    rcases htable with ⟨hlen, hes⟩ | ⟨-, t, ht, hes⟩
    · rw [hes, hlen]
      rfl
    · rw [hes, offsetOf_eq ht]
  rw [methodHeaders, ← hheaders, List.filter_map]
  congr 2
  funext e
  rw [Function.comp_apply, Bool.eq_iff_iff, Bool.not_eq_true', decide_eq_true_iff,
    isPadding_eq_false_iff]

/-! ## Dispatch records -/

/-- What a dispatch record says of its types. -/
theorem dispatch_window {addr i : Nat} (h : d.Covers addr 32 i) :
    let r := DispatchRecord.layout.decode d.order (window d.data i 32)
    r.interface.toNat = interfaceAddress d.toSection d.order addr ∧
      r.concrete.toNat = concreteAddress d.toSection d.order addr := by
  rw [interfaceAddress, concreteAddress, offsetOf_eq h]
  exact ⟨DispatchRecord.interface_window h.2 _ (Nat.le_refl _),
    DispatchRecord.concrete_window h.2 _ (Nat.le_refl _)⟩

theorem errorOf?_methodsOf {es : List MethodEntry} :
    errorOf? (es.mapM d.methodOf) =
      ((es.map offsets).flatMap fun h => funcSpans d.toSection d.order h.2.toNat).findSome?
        (Span.fault? d.toSection) := by
  rw [errorOf?_mapM, findSome?_flatMap, List.findSome?_map]
  congr 1
  funext e
  exact errorOf?_methodOf

/-- The graph behind a dispatch record is read span by span. -/
theorem errorOf?_dispatchAt {addr : UInt64} :
    errorOf? (d.dispatchAt addr) =
      (spans d.toSection d.order addr.toNat).findSome? (Span.fault? d.toSection) := by
  have hrest : ∀ record, (do
        let i ← d.locate addr
        d.recordAt DispatchRecord.layout d.order i 32) = .ok record →
      errorOf? (do
        let interface ← d.interfaceAt record.interface
        let concrete ← d.typeAt record.concrete
        let methods ← (interface.methods.filter fun h => !h.isPadding d.size).mapM d.methodOf
        return (⟨record, interface, concrete, methods⟩ : DispatchNode)) =
      ((spans d.toSection d.order addr.toNat).drop 1).findSome? (Span.fault? d.toSection) := by
    intro record hrecord
    obtain ⟨i, hi, rfl⟩ :=
      (Section.locate_recordAt_eq_ok_iff (by decide)).1 (bind_eq_ok_iff.1 hrecord)
    obtain ⟨hinterface, hconcrete⟩ := dispatch_window hi
    rw [spans, List.drop_succ_cons, List.drop_zero, List.findSome?_append, findSome?_cons_or,
      ← hinterface, ← errorOf?_interfaceAt, ← hconcrete, ← errorOf?_typeAt]
    apply errorOf?_bind
    intro interface hinterfaceAt
    apply errorOf?_bind
    intro concrete _
    rw [errorOf?_bind_pure, errorOf?_methodsOf, ← methodHeaders_eq hinterfaceAt]
  rw [spans, findSome?_cons_or, ← errorOf?_locate_recordAt (by decide)]
  refine Eq.trans ?_ (errorOf?_bind hrest)
  rw [bind_assoc]
  rfl

/-- Once the whole graph has been read, only texts can be missing. -/
theorem errorOf?_implementation {label : ItabLabel} {node : DispatchNode}
    (h : d.dispatchAt label.address = .ok node) :
    errorOf? (d.implementation label node) =
      (texts d.toSection d.order label.address.toNat).findSome? (textFault? d.toSection) := by
  obtain ⟨i, hi, hrecord, hinterface, hconcrete, hmethods⟩ := dispatchAt_eq_ok_iff.1 h
  obtain ⟨hinterfaceAddr, hconcreteAddr⟩ := dispatch_window hi
  rw [← hrecord] at hinterfaceAddr hconcreteAddr
  have hnodes : errorOf? (node.methods.mapM d.method) =
      ((methodHeaders d.toSection d.order
        (interfaceAddress d.toSection d.order label.address.toNat)).flatMap
          (methodTexts d.toSection d.order)).findSome? (textFault? d.toSection) := by
    rw [← hinterfaceAddr, methodHeaders_eq hinterface, findSome?_flatMap, List.findSome?_map,
      errorOf?_mapM]
    symm
    apply findSome?_eq_of_forall₂ (mapM_eq_ok_iff.1 hmethods)
    intro e _ m hm
    exact (errorOf?_method hm).symm
  rw [texts, List.findSome?_append, ← hnodes, findSome?_cons_or, List.findSome?_nil,
    Option.or_none, ← hconcreteAddr, ← text_of_typeAt hconcrete, ← errorOf?_nameAt]
  apply errorOf?_bind
  intro methods _
  exact errorOf?_bind_pure

theorem errorOf?_implementationAt {label : ItabLabel} :
    errorOf? (d.implementationAt label) =
      recordFault? d.toSection d.order label.address.toNat := by
  rw [TypeData.implementationAt, errorOf?_bind fun _ h => errorOf?_implementation h,
    errorOf?_dispatchAt, recordFault?]

end

end Reading

/-! ## Images -/

theorem errorOf?_ofSymbol {s : Symbol} (h : ItabLabel.isLabel s = true) :
    errorOf? (ItabLabel.ofSymbol s) = s.fault? := by
  by_cases hcomma : ',' ∈ s.name.toList.drop ItabLabel.marker.length
  · rw [Symbol.fault?, if_neg (fun hno => hno.2 hcomma), errorOf?_eq_none_iff]
    exact ItabLabel.exists_ofSymbol_eq_ok_iff.2 hcomma
  · rw [Symbol.fault?, if_pos ⟨h, hcomma⟩, ItabLabel.ofSymbol,
      ItabLabel.segments?_eq_none_iff.2 hcomma]
    rfl

theorem errorOf?_ofSymbols {symbols : List Symbol} :
    errorOf? (ItabLabel.ofSymbols symbols) = symbols.findSome? Symbol.fault? := by
  rw [ItabLabel.ofSymbols, errorOf?_mapM]
  induction symbols with
  | nil => rfl
  | cons s symbols ih =>
    rw [List.filter_cons, findSome?_cons_or, ← ih]
    by_cases h : ItabLabel.isLabel s = true
    · rw [if_pos h, findSome?_cons_or, errorOf?_ofSymbol h]
    · rw [if_neg h, Symbol.fault?, if_neg (fun hs => h hs.1), Option.none_or]

theorem errorOf?_byteOrder {link : Option Section} :
    errorOf? (TypeLink.byteOrder link) = TypeLink.fault? link := by
  cases link with
  | none => rfl
  | some link =>
    by_cases h : link.size < 16
    · have h' : ¬ 0 + TypeLink.probeSize ≤ link.data.size := by
        have : link.data.size = link.size := rfl
        rw [TypeLink.probeSize]
        omega
      rw [TypeLink.byteOrder, slice?, if_neg h', TypeLink.fault?, if_pos h]
      rfl
    · rw [TypeLink.fault?, if_neg h, errorOf?_eq_none_iff]
      exact ⟨_, TypeLink.byteOrder_eq_ok_iff.2 ⟨by omega, rfl⟩⟩

theorem TypeLink.hint_eq {link : Option Section} {o : ByteOrder} (h : byteOrder link = .ok o) :
    hint link = o := by
  cases link with
  | none => cases h
  | some link => exact (byteOrder_eq_ok_iff.1 h).2.symm

/-- Once the labels, the byte order and the section are there, the records decide. -/
theorem errorOf?_records {symbols : List Symbol} {labels : List ItabLabel}
    (h : ItabLabel.ofSymbols symbols = .ok labels) (d : TypeData) :
    errorOf? (labels.mapM d.implementationAt) =
      (symbols.filter ItabLabel.isLabel).findSome? fun label =>
        recordFault? d.toSection d.order label.value.toNat := by
  rw [errorOf?_mapM]
  symm
  apply findSome?_eq_of_forall₂ (mapM_eq_ok_iff.1 h)
  intro s hs label hlabel
  obtain ⟨-, haddress, -⟩ :=
    (ItabLabel.ofSymbol_eq_ok_iff (List.mem_filter.1 hs).2).1 hlabel
  rw [errorOf?_implementationAt, haddress]

theorem errorOf?_implementations (image : Image) :
    errorOf? image.implementations = image.fault? := by
  have hsection : ∀ labels, ItabLabel.ofSymbols image.symbols = .ok labels → ∀ o,
      TypeLink.byteOrder (image.sectionNamed? TypeLink.sectionName) = .ok o →
      errorOf? (do
        let rodata ← image.sectionNamed rodataName
        labels.mapM (TypeData.mk rodata o).implementationAt) =
      match image.sections.find? (·.name == "__rodata") with
      | none => some (.sectionFault "__rodata" .notFound)
      | some rodata => (image.symbols.filter ItabLabel.isLabel).findSome? fun label =>
          recordFault? rodata (TypeLink.hint (image.sections.find? (·.name == "__typelink")))
            label.value.toNat := by
    intro labels hlabels o horder
    have hhint : TypeLink.hint (image.sections.find? (·.name == "__typelink")) = o :=
      TypeLink.hint_eq horder
    rw [Image.sectionNamed, Image.sectionNamed?, rodataName, hhint]
    cases image.sections.find? (·.name == "__rodata") with
    | none => rfl
    | some rodata => exact errorOf?_records hlabels ⟨rodata, o⟩
  rw [Image.fault?, ← errorOf?_ofSymbols, ← errorOf?_byteOrder]
  apply errorOf?_bind
  intro labels hlabels
  apply errorOf?_bind
  intro o horder
  exact hsection labels hlabels o horder

/-- A run fails with the first fault of the image, and succeeds where there is none.  Bytes that are
missing in the graph behind a label are reported in one way only. -/
theorem implementations_first_fault (image : Image) :
    (∀ e, image.implementations = .error e ↔ image.fault? = some e) ∧
      ((∃ found, image.implementations = .ok found) ↔ image.fault? = none) ∧
      ∀ (s : Section) (span : Span), span.fault? s = none ∨
        ∃ offset len, span.fault? s = some (.outOfBounds offset len s.size) := by
  refine ⟨fun e => ?_, ?_, fun s span => span.fault?_eq_none_or⟩
  · rw [← errorOf?_implementations, errorOf?_eq_some_iff]
  · rw [← errorOf?_implementations, errorOf?_eq_none_iff]

/-! ## Several faults at once -/

/-- The first label leads nowhere, and no section tells the byte order; but the second has no
comma. -/
def faultyImage : Image :=
  ⟨[], [⟨"go.itab.main.T,error", 0⟩, ⟨"go.itab.main.U", 0⟩, ⟨"go.itab.main.V", 0⟩]⟩

example : faultyImage.implementations = .error (.malformedLabel "go.itab.main.U") := by
  decide +kernel

end ItabRecovery

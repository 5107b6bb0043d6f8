import ItabRecovery.Recovery
import ItabRecovery.Proofs.Fields
import ItabRecovery.Proofs.Texts

/-!
# What a section says about a label

The meaning of the type records, told by positions and words alone: which bytes an address
stands for (`Section.Covers`), what a name record, a type, a row of slots, a method and a method
table at a given place say, and put together what a dispatch record says (`Implements`).

    d.implementationAt l = .ok x ↔
      Describes d d.order l.address x ∧ x is named by l       (implementationAt_eq_ok_iff)
-/

namespace ItabRecovery

/-- The `n` bytes loaded from an address on are those of the section from `offset` on. -/
def Section.Covers (s : Section) (addr n offset : Nat) : Prop :=
  addr = s.base.toNat + offset ∧ offset + n ≤ s.size

namespace Reading

variable (s : Section) (o : ByteOrder)

/-! ## Meaning -/

/-- The length of a name record's text, most significant byte first. -/
def textLength (i : Nat) : Nat :=
  256 * byteAt s.data (i + 1) + byteAt s.data (i + 2)

/-- A name record: a flag byte, the length and the text, at least four bytes with what follows. -/
def HasText (offset : Int) (text : String) : Prop :=
  ∃ i : Nat, offset = i ∧ i + 4 ≤ s.size ∧ i + 3 + textLength s i ≤ s.size ∧
    text = Utf8.lossy (window s.data (i + 3) (textLength s i))

def textOffset (i : Nat) : Int :=
  signed32 (wordAt s.data o 4 (i + 40))

/-- A type's record; a type that is no pointer is shown without a star in front. -/
def HasType (addr : Nat) (t : TypeRef) : Prop :=
  ∃ i text shown, s.Covers addr 48 i ∧ HasText s (textOffset s o i) text ∧
    t.isPointer = decide (byteAt s.data (i + 23) % 32 = 22) ∧
    (if t.isPointer then shown = text else Unstarred text shown) ∧ t.name.Joins shown

/-- A row of slots, each with the address of a type. -/
def HasSlots (start count : Nat) (ts : List TypeRef) : Prop :=
  List.Forall₂ (fun k t => start + 8 * k + 8 ≤ s.size ∧
    HasType s o (wordAt s.data o 8 (start + 8 * k)) t) (List.range count) ts

/-- The first slot of the function type at `f`; a flag moves it. -/
def slotsAt (f : Nat) : Nat :=
  f + if byteAt s.data (f + 20) % 2 = 1 then 72 else 56

def inputsAt (f : Nat) : Nat :=
  wordAt s.data o 2 (f + 48)

/-- How many results the function type at `f` has; the highest bit does not count. -/
def outputsAt (f : Nat) : Nat :=
  wordAt s.data o 2 (f + 50) % 2 ^ 15

/-- A method: the offsets of its name record and of its function type are given. -/
def HasMethod (h : Int × Int) (m : Method) : Prop :=
  ∃ f : Nat, h.2 = f ∧ f + 56 ≤ s.size ∧ HasText s h.1 m.name ∧
    (∃ text, HasText s (textOffset s o f) text ∧ Unstarred text m.signature) ∧
    HasSlots s o (slotsAt s f) (inputsAt s o f) m.inputs ∧
    HasSlots s o (slotsAt s f + 8 * inputsAt s o f) (outputsAt s o f) m.outputs

/-- The method header at `i`: the offsets of a name record and of a function type. -/
def headerAt (i : Nat) : Int × Int :=
  (signed32 (wordAt s.data o 4 i), signed32 (wordAt s.data o 4 (i + 4)))

/-- A header stands for a method if its offsets differ, are positive and not past the end. -/
def IsMethod (size : Nat) (h : Int × Int) : Prop :=
  h.1 ≠ h.2 ∧ (0 < h.1 ∧ h.1 ≤ size) ∧ 0 < h.2 ∧ h.2 ≤ size

instance (size : Nat) (h : Int × Int) : Decidable (IsMethod size h) :=
  inferInstanceAs (Decidable (_ ∧ _))

/-- A table of method headers; where it is empty, its address says nothing. -/
def HasTable (addr count : Nat) (hs : List (Int × Int)) : Prop :=
  count = 0 ∧ hs = [] ∨ 0 < count ∧ ∃ i, s.Covers addr (8 * count) i ∧
    hs = (List.range count).map fun k => headerAt s o (i + 8 * k)

/-- The methods of the interface type at an address. -/
def HasMethods (addr : Nat) (ms : List Method) : Prop :=
  ∃ j hs, s.Covers addr 80 j ∧
    HasTable s o (wordAt s.data o 8 (j + 56)) (wordAt s.data o 8 (j + 64)) hs ∧
    List.Forall₂ (HasMethod s o) (hs.filter fun h => decide (IsMethod s.size h)) ms

/-- The name of the concrete type at an address, without a star in front. -/
def HasConcrete (addr : Nat) (name : String) : Prop :=
  ∃ k text, s.Covers addr 48 k ∧ HasText s (textOffset s o k) text ∧ Unstarred text name

/-- The dispatch record at an address: the methods of its interface and its concrete type. -/
def Describes (addr : Nat) (x : Implementation) : Prop :=
  ∃ i, s.Covers addr 32 i ∧ HasMethods s o (wordAt s.data o 8 i) x.methods ∧
    HasConcrete s o (wordAt s.data o 8 (i + 8)) x.concrete

/-- A label's name gives the interface, the dispatch record at its address all else. -/
def Implements (label : Symbol) (x : Implementation) : Prop :=
  (∃ concrete interface, ItabLabel.Spells label.name concrete interface ∧
    x.interface.Joins interface) ∧ Describes s o label.value.toNat x

end Reading

/-! ## Sections -/

theorem Section.locate_eq_ok_iff {s : Section} {addr : UInt64} {i : Nat} :
    s.locate addr = .ok i ↔ addr.toNat = s.base.toNat + i ∧ i < s.size := by
  unfold Section.locate
  simp only [UInt64.le_iff_toNat_le]
  split
  · next h =>
    simp only [Except.ok.injEq]
    omega
  · next h =>
    simp only [reduceCtorEq, false_iff]
    omega

theorem Section.bytesAt_eq_ok_iff {s : Section} {i n : Nat} {bs : List UInt8} :
    s.bytesAt i n = .ok bs ↔ i + n ≤ s.size ∧ bs = window s.data i n := by
  show _ ↔ i + n ≤ s.data.size ∧ bs = window s.data i n
  rw [← slice?_eq_some_iff, Section.bytesAt]
  split
  · next h => simp [h]
  · next h => simp [h]

theorem Section.recordAt_eq_ok_iff {α : Type} {s : Section} {l : Layout α} {o : ByteOrder}
    {i n : Nat} {r : α} :
    s.recordAt l o i n = .ok r ↔ i + n ≤ s.size ∧ r = l.decode o (window s.data i n) := by
  simp only [Section.recordAt, bind_eq_ok_iff, pure_eq_ok_iff, Section.bytesAt_eq_ok_iff]
  constructor
  · rintro ⟨bs, ⟨h, rfl⟩, rfl⟩
    exact ⟨h, rfl⟩
  · rintro ⟨h, rfl⟩
    exact ⟨_, ⟨h, rfl⟩, rfl⟩

theorem Section.locate_eq_error {s : Section} {addr : UInt64}
    (h : addr.toNat < s.base.toNat ∨ s.base.toNat + s.size ≤ addr.toNat) :
    s.locate addr = .error (.outOfBounds (addr - s.base).toNat 0 s.size) := by
  rw [Section.locate, if_neg]
  rw [UInt64.le_iff_toNat_le]
  omega

theorem Section.bytesAt_eq_error {s : Section} {i n : Nat} (h : s.size < i + n) :
    s.bytesAt i n = .error (.outOfBounds i n s.size) := by
  have hno : ¬i + n ≤ s.data.size := Nat.not_le.2 h
  rw [Section.bytesAt, slice?, if_neg hno]

/-- A record that is read at an address. -/
theorem Section.locate_recordAt_eq_ok_iff {α : Type} {s : Section} {l : Layout α} {o : ByteOrder}
    {addr : UInt64} {n : Nat} (hn : 0 < n) {r : α} :
    (∃ i, s.locate addr = .ok i ∧ s.recordAt l o i n = .ok r) ↔
      ∃ i, s.Covers addr.toNat n i ∧ r = l.decode o (window s.data i n) := by
  simp only [Section.locate_eq_ok_iff, Section.recordAt_eq_ok_iff, Section.Covers]
  constructor
  · rintro ⟨i, ⟨ha, -⟩, hi, rfl⟩
    exact ⟨i, ⟨ha, hi⟩, rfl⟩
  · rintro ⟨i, ⟨ha, hi⟩, rfl⟩
    exact ⟨i, ⟨ha, by omega⟩, hi, rfl⟩

theorem Section.Covers.offset_eq {s : Section} {addr n i j : Nat} (h : s.Covers addr n i)
    (hj : addr = s.base.toNat + j) : i = j := by
  have := h.1
  omega

namespace Reading

variable {d : TypeData}

/-! ## Texts -/

theorem textLength_eq_wordAt (s : Section) (i : Nat) :
    textLength s i = wordAt s.data .big 2 (i + 1) := by
  simp only [textLength, wordAt, Nat.add_assoc, Nat.reduceAdd]
  omega

theorem big_decode_length {s : Section} {i : Nat} (h : i + 4 ≤ s.size) :
    ByteOrder.big.decode (((window s.data i 4).drop 1).take 2) = textLength s i := by
  rw [decode_field _ h (by omega), textLength_eq_wordAt]

theorem nameAt_eq_ok_iff {s : Section} {offset : Int32} {text : String} :
    s.nameAt offset = .ok text ↔ HasText s offset.toInt text := by
  unfold Section.nameAt HasText
  split
  · next h =>
    simp only [reduceCtorEq, false_iff]
    rintro ⟨i, hi, -⟩
    omega
  · next h =>
    simp only [bind_eq_ok_iff, Section.bytesAt_eq_ok_iff, NameRecord.headSize,
      NameRecord.textOffset]
    constructor
    · rintro ⟨head, ⟨hi, rfl⟩, hm⟩
      rw [big_decode_length hi] at hm
      split at hm
      · next bs hs =>
        obtain ⟨hn, rfl⟩ := slice?_eq_some_iff.1 hs
        exact ⟨offset.toInt.toNat, by omega, hi, hn, (pure_eq_ok_iff.1 hm).symm⟩
      · cases hm
    · rintro ⟨i, hi, hhead, hn, rfl⟩
      have e : offset.toInt.toNat = i := by omega
      rw [e]
      refine ⟨_, ⟨hhead, rfl⟩, ?_⟩
      rw [big_decode_length hhead, slice?_eq_some_iff.2 ⟨hn, rfl⟩]
      rfl

/-! ## Types -/

theorem typeAt_eq_ok_iff {addr : UInt64} {t : TypeRecord} :
    d.typeAt addr = .ok t ↔ ∃ i, d.Covers addr.toNat 48 i ∧
      t = TypeRecord.layout.decode d.order (window d.data i 48) := by
  simp only [TypeData.typeAt, bind_eq_ok_iff]
  exact Section.locate_recordAt_eq_ok_iff (by simp)

theorem shown_iff {text : String} {isPointer : Bool} {t : TypeRef} :
    TypeRef.ofText text isPointer = t ↔ t.isPointer = isPointer ∧
      ∃ shown, (if t.isPointer then shown = text else Unstarred text shown) ∧
        t.name.Joins shown := by
  obtain ⟨name, p⟩ := t
  simp only [TypeRef.ofText, TypeRef.mk.injEq]
  constructor
  · rintro ⟨rfl, rfl⟩
    refine ⟨rfl, _, ?_, QualifiedName.ofText_eq_iff.1 rfl⟩
    cases isPointer with
    | true => rfl
    | false => exact stripPointer_eq_iff.1 rfl
  · rintro ⟨rfl, shown, hs, hj⟩
    refine ⟨?_, rfl⟩
    rw [← QualifiedName.ofText_eq_iff] at hj
    rw [← hj]
    cases p with
    | true => exact congrArg _ hs.symm
    | false => exact congrArg _ (stripPointer_eq_iff.2 hs)

theorem typeRef_eq_ok_iff {addr : UInt64} {t : TypeRef} :
    (∃ r, d.typeAt addr = .ok r ∧ d.typeRef r = .ok t) ↔
      HasType d.toSection d.order addr.toNat t := by
  simp only [typeAt_eq_ok_iff, Section.typeRef, bind_eq_ok_iff, pure_eq_ok_iff, nameAt_eq_ok_iff,
    shown_iff, HasType]
  constructor
  · rintro ⟨_, ⟨i, hi, rfl⟩, text, htext, hp, shown, hs, hj⟩
    rw [TypeRecord.text_window hi.2 _ (Nat.le_refl _)] at htext
    rw [TypeRecord.isPointer_window hi.2 _ (Nat.le_refl _)] at hp
    exact ⟨i, text, shown, hi, htext, hp, hs, hj⟩
  · rintro ⟨i, text, shown, hi, htext, hp, hs, hj⟩
    refine ⟨_, ⟨i, hi, rfl⟩, text, ?_, ?_, shown, hs, hj⟩
    · rw [TypeRecord.text_window hi.2 _ (Nat.le_refl _)]
      exact htext
    · rw [TypeRecord.isPointer_window hi.2 _ (Nat.le_refl _)]
      exact hp

theorem slotType_eq_ok_iff {i : Nat} {t : TypeRef} :
    (∃ r, d.slotType i = .ok r ∧ d.typeRef r = .ok t) ↔
      i + 8 ≤ d.size ∧ HasType d.toSection d.order (wordAt d.data d.order 8 i) t := by
  have hw (h : i + 8 ≤ d.size) := Layout.u64_window h d.order (Nat.le_refl 8)
  simp only [TypeData.slotType, TypeData.slotSize, bind_eq_ok_iff, Section.bytesAt_eq_ok_iff]
  constructor
  · rintro ⟨r, ⟨_, ⟨h, rfl⟩, hr⟩, ht⟩
    rw [← hw h, ← typeRef_eq_ok_iff]
    exact ⟨h, r, hr, ht⟩
  · rintro ⟨h, ht⟩
    rw [← hw h, ← typeRef_eq_ok_iff] at ht
    obtain ⟨r, hr, ht⟩ := ht
    exact ⟨r, ⟨_, ⟨h, rfl⟩, hr⟩, ht⟩

theorem slotTypes_eq_ok_iff {start count : Nat} {ts : List TypeRef} :
    (∃ rs, d.slotTypes start count = .ok rs ∧ rs.mapM d.typeRef = .ok ts) ↔
      HasSlots d.toSection d.order start count ts := by
  unfold TypeData.slotTypes HasSlots
  rw [mapM_mapM_eq_ok_iff]
  apply forall₂_congr
  intro k _ t
  rw [slotType_eq_ok_iff, TypeData.slotSize, Nat.mul_comm]

/-! ## Methods -/

theorem funcAt_eq_ok_iff {f : Nat} {func : FuncRecord} :
    d.funcAt f = .ok func ↔ f + 56 ≤ d.size ∧
      func = FuncRecord.layout.decode d.order (window d.data f 56) :=
  Section.recordAt_eq_ok_iff

/-- What a function type says, once its 56 bytes are there. -/
theorem func_window {f : Nat} (h : f + 56 ≤ d.size) :
    let func := FuncRecord.layout.decode d.order (window d.data f 56)
    func.type.text.toInt = textOffset d.toSection d.order f ∧
      f + func.slotsStart = slotsAt d.toSection f ∧
      func.parameterCount = inputsAt d.toSection d.order f ∧
      func.resultCount = outputsAt d.toSection d.order f := by
  refine ⟨?_, ?_, ?_, ?_⟩
  · rw [FuncRecord.text_window h _ (by omega), textOffset]
  · rw [FuncRecord.slotsStart_window h _ (by omega), slotsAt]
  · rw [FuncRecord.parameterCount_window h _ (by omega), inputsAt]
  · rw [FuncRecord.resultCount_window h _ (by omega), outputsAt]

theorem methodOf_eq_ok_iff {e : MethodEntry} (he : 0 < e.type.toInt) {m : Method} :
    (∃ node, d.methodOf e = .ok node ∧ d.method node = .ok m) ↔
      HasMethod d.toSection d.order (e.name.toInt, e.type.toInt) m := by
  obtain ⟨f, hf⟩ : ∃ f : Nat, e.type.toInt = f := ⟨e.type.toInt.toNat, by omega⟩
  simp only [TypeData.methodOf, Section.method, bind_eq_ok_iff, pure_eq_ok_iff, funcAt_eq_ok_iff,
    nameAt_eq_ok_iff, hf, Int.toNat_natCast, TypeData.slotSize, Nat.mul_comm _ 8]
  constructor
  · rintro ⟨_, ⟨_, ⟨h, rfl⟩, ins, hins, outs, houts, rfl⟩, name, hname, text, htext, xs, hxs,
      ys, hys, rfl⟩
    obtain ⟨h1, h2, h3, h4⟩ := func_window h
    rw [h2, h3] at hins houts
    rw [h4] at houts
    rw [h1] at htext
    exact ⟨f, rfl, h, hname, ⟨text, htext, stripPointer_eq_iff.1 rfl⟩,
      slotTypes_eq_ok_iff.1 ⟨ins, hins, hxs⟩, slotTypes_eq_ok_iff.1 ⟨outs, houts, hys⟩⟩
  · rintro ⟨f', hf', h, hname, ⟨text, htext, hsig⟩, hxs, hys⟩
    obtain rfl : f = f' := Int.ofNat.inj hf'
    obtain ⟨h1, h2, h3, h4⟩ := func_window h
    obtain ⟨ins, hins, hxs⟩ := slotTypes_eq_ok_iff.2 hxs
    obtain ⟨outs, houts, hys⟩ := slotTypes_eq_ok_iff.2 hys
    refine ⟨_, ⟨_, ⟨h, rfl⟩, ins, ?_, outs, ?_, rfl⟩, m.name, hname, text, ?_, m.inputs, hxs,
      m.outputs, hys, ?_⟩
    · rw [h2, h3]
      exact hins
    · rw [h2, h3, h4]
      exact houts
    · rw [h1]
      exact htext
    · rw [stripPointer_eq_iff.2 hsig]

/-! ## Method tables -/

/-- An entry of a method table as a pair of numbers. -/
def offsets (e : MethodEntry) : Int × Int :=
  (e.name.toInt, e.type.toInt)

theorem offsets_decode {s : Section} {o : ByteOrder} {i n : Nat} (hn : i + n ≤ s.size)
    (h : 8 ≤ n) :
    offsets (MethodEntry.layout.decode o (window s.data i n)) = headerAt s o i := by
  rw [offsets, MethodEntry.name_window hn o h, MethodEntry.type_window hn o h, headerAt]

theorem offsets_decodeMany {s : Section} {o : ByteOrder} {i n : Nat} (h : i + 8 * n ≤ s.size) :
    (MethodEntry.layout.decodeMany o n (window s.data i (8 * n))).map offsets =
      (List.range n).map fun k => headerAt s o (i + 8 * k) := by
  induction n generalizing i with
  | zero => rfl
  | succ n ih =>
    have hrest : (window s.data i (8 * (n + 1))).drop 8 = window s.data (i + 8) (8 * n) := by
      rw [window, List.drop_take, List.drop_drop, window, Nat.mul_succ, Nat.add_sub_cancel]
    rw [Layout.decodeMany, MethodEntry.size_layout, hrest, List.map_cons, ih (by omega),
      offsets_decode h (by omega), List.range_succ_eq_map, List.map_cons, List.map_map]
    congr 1
    apply List.map_congr_left
    intro k _
    simp only [Function.comp]
    congr 1
    omega

theorem methodTable_eq_ok_iff {t : SliceRecord} {hs : List (Int × Int)} :
    (∃ es, d.methodTable t = .ok es ∧ es.map offsets = hs) ↔
      HasTable d.toSection d.order t.data.toNat t.len.toNat hs := by
  unfold TypeData.methodTable HasTable
  split
  · next h =>
    have h : t.len.toNat = 0 := by rw [h]; rfl
    simp [h, eq_comm]
  · next h =>
    have h : t.len.toNat ≠ 0 := fun h0 => h (UInt64.toNat_inj.1 h0)
    simp only [bind_eq_ok_iff, Section.locate_eq_ok_iff, MethodEntry.size_layout,
      Nat.mul_comm _ 8, Section.Covers]
    constructor
    · rintro ⟨es, ⟨i, ⟨ha, -⟩, hm⟩, rfl⟩
      split at hm
      · next bs hbs =>
        obtain ⟨hi, rfl⟩ := slice?_eq_some_iff.1 hbs
        rw [← pure_eq_ok_iff.1 hm, offsets_decodeMany hi]
        exact Or.inr ⟨by omega, i, ⟨ha, hi⟩, rfl⟩
      · cases hm
    · rintro (⟨h0, -⟩ | ⟨-, i, ⟨ha, hi⟩, rfl⟩)
      · exact absurd h0 h
      · rw [← offsets_decodeMany hi]
        refine ⟨_, ⟨i, ⟨ha, by omega⟩, ?_⟩, rfl⟩
        rw [slice?_eq_some_iff.2 ⟨hi, rfl⟩]
        rfl

theorem isPadding_eq_false_iff {e : MethodEntry} {size : Nat} :
    e.isPadding size = false ↔ IsMethod size (offsets e) := by
  unfold MethodEntry.isPadding MethodEntry.pointsInto IsMethod offsets
  simp [Int32.toInt_inj, and_assoc]

theorem methods_eq_ok_iff {es : List MethodEntry} {ms : List Method} :
    (∃ ns, (es.filter fun h => !h.isPadding d.size).mapM d.methodOf = .ok ns ∧
        ns.mapM d.method = .ok ms) ↔
      List.Forall₂ (HasMethod d.toSection d.order)
        ((es.map offsets).filter fun h => decide (IsMethod d.size h)) ms := by
  have hfilter : (es.filter fun h => !h.isPadding d.size) =
      es.filter ((fun h => decide (IsMethod d.size h)) ∘ offsets) := by
    congr 1
    funext e
    rw [Function.comp_apply, Bool.eq_iff_iff, Bool.not_eq_true', decide_eq_true_iff,
      isPadding_eq_false_iff]
  rw [mapM_mapM_eq_ok_iff, List.filter_map, List.forall₂_map_left_iff, ← hfilter]
  apply forall₂_congr
  intro e he m
  have hpad : e.isPadding d.size = false := by simpa using (List.mem_filter.1 he).2
  have hpos : 0 < e.type.toInt := (isPadding_eq_false_iff.1 hpad).2.2.1
  exact methodOf_eq_ok_iff hpos

theorem interfaceAt_eq_ok_iff {addr : UInt64} {ms : List Method} :
    (∃ node, d.interfaceAt addr = .ok node ∧ ∃ ns,
        (node.methods.filter fun h => !h.isPadding d.size).mapM d.methodOf = .ok ns ∧
          ns.mapM d.method = .ok ms) ↔
      HasMethods d.toSection d.order addr.toNat ms := by
  simp only [methods_eq_ok_iff, TypeData.interfaceAt, bind_eq_ok_iff, pure_eq_ok_iff,
    HasMethods, InterfaceRecord.size_layout]
  constructor
  · rintro ⟨_, ⟨i, hi, raw, hraw, es, hes, rfl⟩, hms⟩
    obtain ⟨j, hj, rfl⟩ := (Section.locate_recordAt_eq_ok_iff (by omega)).1 ⟨i, hi, hraw⟩
    have htable := methodTable_eq_ok_iff.1 ⟨es, hes, rfl⟩
    rw [InterfaceRecord.data_window hj.2 _ (Nat.le_refl _),
      InterfaceRecord.len_window hj.2 _ (Nat.le_refl _)] at htable
    exact ⟨j, es.map offsets, hj, htable, hms⟩
  · rintro ⟨j, hs, hj, htable, hms⟩
    obtain ⟨i, hi, hraw⟩ := (Section.locate_recordAt_eq_ok_iff (l := InterfaceRecord.layout)
      (o := d.order) (by omega)).2 ⟨j, hj, rfl⟩
    rw [← InterfaceRecord.data_window hj.2 _ (Nat.le_refl _),
      ← InterfaceRecord.len_window hj.2 _ (Nat.le_refl _)] at htable
    obtain ⟨es, hes, rfl⟩ := methodTable_eq_ok_iff.2 htable
    exact ⟨_, ⟨i, hi, _, hraw, es, hes, rfl⟩, hms⟩

/-! ## Dispatch records -/

theorem concrete_eq_ok_iff {addr : UInt64} {name : String} :
    (∃ r, d.typeAt addr = .ok r ∧ ∃ text, d.nameAt r.text = .ok text ∧ stripPointer text = name) ↔
      HasConcrete d.toSection d.order addr.toNat name := by
  simp only [typeAt_eq_ok_iff, nameAt_eq_ok_iff, stripPointer_eq_iff, HasConcrete]
  constructor
  · rintro ⟨_, ⟨k, hk, rfl⟩, text, htext, hname⟩
    rw [TypeRecord.text_window hk.2 _ (Nat.le_refl _)] at htext
    exact ⟨k, text, hk, htext, hname⟩
  · rintro ⟨k, text, hk, htext, hname⟩
    refine ⟨_, ⟨k, hk, rfl⟩, text, ?_, hname⟩
    rw [TypeRecord.text_window hk.2 _ (Nat.le_refl _)]
    exact htext

theorem dispatchAt_eq_ok_iff {addr : UInt64} {node : DispatchNode} :
    d.dispatchAt addr = .ok node ↔ ∃ i, d.Covers addr.toNat 32 i ∧
      node.record = DispatchRecord.layout.decode d.order (window d.data i 32) ∧
      d.interfaceAt node.record.interface = .ok node.interface ∧
      d.typeAt node.record.concrete = .ok node.concrete ∧
      (node.interface.methods.filter fun h => !h.isPadding d.size).mapM d.methodOf =
        .ok node.methods := by
  obtain ⟨record, interface, concrete, methods⟩ := node
  simp only [TypeData.dispatchAt, TypeData.dispatchRecordAt, bind_eq_ok_iff, pure_eq_ok_iff,
    DispatchRecord.size_layout, DispatchNode.mk.injEq]
  constructor
  · rintro ⟨i, hi, _, hrec, _, hiface, _, hconc, _, hms, rfl, rfl, rfl, rfl⟩
    obtain ⟨j, hj, rfl⟩ := (Section.locate_recordAt_eq_ok_iff (by omega)).1 ⟨i, hi, hrec⟩
    exact ⟨j, hj, rfl, hiface, hconc, hms⟩
  · rintro ⟨j, hj, rfl, hiface, hconc, hms⟩
    obtain ⟨i, hi, hrec⟩ := (Section.locate_recordAt_eq_ok_iff (l := DispatchRecord.layout)
      (o := d.order) (by omega)).2 ⟨j, hj, rfl⟩
    exact ⟨i, hi, _, hrec, _, hiface, _, hconc, _, hms, rfl, rfl, rfl, rfl⟩

theorem implementationAt_eq_ok_iff {l : ItabLabel} {x : Implementation} :
    d.implementationAt l = .ok x ↔
      x.interface.Joins l.interface ∧ Describes d.toSection d.order l.address.toNat x := by
  obtain ⟨interface, concrete, methods⟩ := x
  simp only [TypeData.implementationAt, Section.implementation, bind_eq_ok_iff, pure_eq_ok_iff,
    Implementation.mk.injEq, QualifiedName.ofText_eq_iff, Describes]
  constructor
  · rintro ⟨node, hnode, ms, hms, text, htext, hjoins, hname, rfl⟩
    obtain ⟨i, hi, hrec, hiface, hconc, hns⟩ := dispatchAt_eq_ok_iff.1 hnode
    have hmethods := interfaceAt_eq_ok_iff.1 ⟨_, hiface, _, hns, hms⟩
    have hconcrete := concrete_eq_ok_iff.1 ⟨_, hconc, text, htext, hname⟩
    rw [hrec, DispatchRecord.interface_window hi.2 _ (Nat.le_refl _)] at hmethods
    rw [hrec, DispatchRecord.concrete_window hi.2 _ (Nat.le_refl _)] at hconcrete
    exact ⟨hjoins, i, hi, hmethods, hconcrete⟩
  · rintro ⟨hjoins, i, hi, hmethods, hconcrete⟩
    rw [← DispatchRecord.interface_window hi.2 _ (Nat.le_refl _)] at hmethods
    rw [← DispatchRecord.concrete_window hi.2 _ (Nat.le_refl _)] at hconcrete
    obtain ⟨iface, hiface, ns, hns, hms⟩ := interfaceAt_eq_ok_iff.2 hmethods
    obtain ⟨r, hconc, text, htext, hname⟩ := concrete_eq_ok_iff.2 hconcrete
    have hnode : d.dispatchAt l.address = .ok ⟨_, iface, r, ns⟩ :=
      dispatchAt_eq_ok_iff.2 ⟨i, hi, rfl, hiface, hconc, hns⟩
    exact ⟨_, hnode, methods, hms, text, htext, hjoins, hname, rfl⟩

end Reading

end ItabRecovery

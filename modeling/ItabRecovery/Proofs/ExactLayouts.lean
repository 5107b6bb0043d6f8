import ItabRecovery.Proofs.Fields

/-!
# The runtime records are stored field by field, and nothing else

Reading a record from some bytes means that they are enough and that every field of its table stands
in them (`Layout.Exact.read_iff`):

    l.read? o bs = some (v, rest) ↔
      size ≤ bs.length ∧ rest = bs.drop size ∧ ∀ f ∈ fields v, f.StandsIn o bs

For a record whose table leaves out nothing but its padding, writing and reading are inverse to each
other, and the two byte orders differ by the order of the bytes in each field (`layouts_exact`).
-/

namespace ItabRecovery

/-! ## The other order -/

namespace ByteOrder

/-- The order that begins at the other end. -/
def other : ByteOrder → ByteOrder
  | little => big
  | big => little

theorem other_encode (o : ByteOrder) (w n : Nat) : o.other.encode w n = (o.encode w n).reverse := by
  cases o with
  | little => rfl
  | big => exact (List.reverse_reverse _).symm

end ByteOrder

/-! ## Single fields -/

namespace Field

/-- Where one field stands in two lists, the lists have the same bytes. -/
theorem StandsIn.getElem?_eq {f : Field} {o : ByteOrder} {bs cs : List UInt8} {k : Nat}
    (hb : f.StandsIn o bs) (hc : f.StandsIn o cs) (hfrom : f.start ≤ k)
    (hto : k < f.start + f.width) : bs[k]? = cs[k]? := by
  have hplace : f.start + (k - f.start) = k := by omega
  have hget (ds : List UInt8) : ((ds.drop f.start).take f.width)[k - f.start]? = ds[k]? := by
    rw [List.getElem?_take_of_lt (by omega), List.getElem?_drop, hplace]
  rw [← hget bs, ← hget cs, hb, hc]

/-- A field that stands in some bytes stands in all that have the same bytes in its place. -/
theorem StandsIn.of_getElem?_eq {f : Field} {o : ByteOrder} {bs cs : List UInt8}
    (hb : f.StandsIn o bs) (h : ∀ k, f.start ≤ k → k < f.start + f.width → bs[k]? = cs[k]?) :
    f.StandsIn o cs := by
  have hsame : (cs.drop f.start).take f.width = (bs.drop f.start).take f.width := by
    apply List.ext_getElem?
    intro j
    by_cases hj : j < f.width
    · rw [List.getElem?_take_of_lt hj, List.getElem?_take_of_lt hj, List.getElem?_drop,
        List.getElem?_drop, h (f.start + j) (by omega) (by omega)]
    · rw [List.getElem?_take_eq_none (by omega), List.getElem?_take_eq_none (by omega)]
  exact hsame.trans hb

end Field

/-! ## Fields in a row -/

namespace Layout

variable {α : Type}

/-- The bytes of each field turned around in place; what follows the fields is kept. -/
def reverseFields : List Nat → List UInt8 → List UInt8
  | [], bs => bs
  | w :: ws, bs => (bs.take w).reverse ++ reverseFields ws (bs.drop w)

/-- Fields of the given widths taken from the front one at a time, up to the first that is cut
short; the bytes after the last one. -/
def skipFields? : List Nat → List UInt8 → Option (List UInt8)
  | [], bs => some bs
  | w :: ws, bs => if w ≤ bs.length then skipFields? ws (bs.drop w) else none

theorem length_reverseFields (ws : List Nat) (bs : List UInt8) :
    (reverseFields ws bs).length = bs.length := by
  induction ws generalizing bs with
  | nil => rfl
  | cons w ws ih =>
    rw [reverseFields, List.length_append, List.length_reverse, ih, ← List.length_append,
      List.take_append_drop]

theorem drop_reverseFields_cons {w : Nat} {ws : List Nat} {bs : List UInt8} (h : w ≤ bs.length)
    (i : Nat) : (reverseFields (w :: ws) bs).drop (w + i) =
      (reverseFields ws (bs.drop w)).drop i := by
  have hfirst : (bs.take w).reverse.length = w := by
    rw [List.length_reverse, List.length_take_of_le h]
  rw [reverseFields, ← List.drop_drop, List.drop_left' hfirst]

theorem drop_reverseFields {ws : List Nat} {bs : List UInt8} (h : ws.sum ≤ bs.length) :
    (reverseFields ws bs).drop ws.sum = bs.drop ws.sum := by
  induction ws generalizing bs with
  | nil => rfl
  | cons w ws ih =>
    rw [List.sum_cons] at h ⊢
    have hrest : ws.sum ≤ (bs.drop w).length := by
      rw [List.length_drop]
      omega
    rw [drop_reverseFields_cons (by omega), ih hrest, List.drop_drop]

/-- In the place of a field stand its bytes, last one first. -/
theorem window_reverseFields {ws : List Nat} {bs : List UInt8} {s : Nat × Nat}
    (hs : s ∈ spans ws) (h : ws.sum ≤ bs.length) :
    ((reverseFields ws bs).drop s.1).take s.2 = ((bs.drop s.1).take s.2).reverse := by
  induction ws generalizing bs s with
  | nil => cases hs
  | cons w ws ih =>
    rw [List.sum_cons] at h
    rcases List.mem_cons.1 hs with rfl | hs
    · have hfirst : (bs.take w).reverse.length = w := by
        rw [List.length_reverse, List.length_take_of_le (by omega)]
      exact List.take_left' hfirst
    · obtain ⟨r, hr, rfl⟩ := List.mem_map.1 hs
      have hrest : ws.sum ≤ (bs.drop w).length := by
        rw [List.length_drop]
        omega
      rw [drop_reverseFields_cons (by omega), ih hr hrest, List.drop_drop]

/-- Taken one at a time, the fields fit exactly when their sum does. -/
theorem skipFields?_eq (ws : List Nat) (bs : List UInt8) :
    skipFields? ws bs = if ws.sum ≤ bs.length then some (bs.drop ws.sum) else none := by
  induction ws generalizing bs with
  | nil => rfl
  | cons w ws ih =>
    rw [skipFields?, ih, List.drop_drop, List.length_drop, List.sum_cons]
    by_cases hw : w ≤ bs.length
    · rw [if_pos hw]
      by_cases hws : ws.sum ≤ bs.length - w
      · rw [if_pos hws, if_pos (by omega)]
      · rw [if_neg hws, if_neg (by omega)]
    · rw [if_neg hw, if_neg (by omega)]

/-! ## What an exact layout does -/

/-- A layout of `size` bytes is exact in a byte order: its fields have the given widths and stand
where the table says, and reading loses nothing but the bytes at the positions in `padding`. -/
structure Exact (l : Layout α) (o : ByteOrder) (size : Nat) (widths padding : List Nat)
    (fields : α → List Field) : Prop where
  /-- Reading fails when the bytes are too few, and only then. -/
  short_iff : ∀ bs, l.read? o bs = none ↔ bs.length < size
  /-- It fails, or leaves the same bytes, as when the fields are taken one at a time. -/
  stepwise : ∀ bs, (l.read? o bs).map Prod.snd = skipFields? widths bs
  /-- The record is the one whose fields stand in the bytes. -/
  read_iff : ∀ bs v rest, l.read? o bs = some (v, rest) ↔
    size ≤ bs.length ∧ rest = bs.drop size ∧ ∀ f ∈ fields v, f.StandsIn o bs
  length_encode : ∀ v, (l.encode o v).length = size
  /-- Every record is read back from what is written for it, whatever follows. -/
  read_encode : ∀ v rest, l.read? o (l.encode o v ++ rest) = some (v, rest)
  /-- Writing a record again gives the bytes it was read from, padding apart. -/
  encode_read : ∀ bs v rest, l.read? o bs = some (v, rest) →
    ∀ k < size, k ∉ padding → (l.encode o v)[k]? = bs[k]?
  /-- The same record stands in two lists exactly when they agree outside the padding. -/
  same_iff : ∀ bs cs, size ≤ bs.length → size ≤ cs.length →
    ((l.read? o bs).map Prod.fst = (l.read? o cs).map Prod.fst ↔
      ∀ k < size, k ∉ padding → bs[k]? = cs[k]?)
  /-- The other order reads the same record once the bytes of each field are turned around. -/
  mirrored : ∀ bs, l.read? o bs = l.read? o.other (reverseFields widths bs)

/-- The fields at these places fill the positions below `size` up to those in `padding`. -/
def Fills (places : List (Nat × Nat)) (size : Nat) (padding : List Nat) : Prop :=
  ∀ k < size, k ∉ padding ↔ ∃ s ∈ places, s.1 ≤ k ∧ k < s.1 + s.2

instance (places : List (Nat × Nat)) (size : Nat) (padding : List Nat) :
    Decidable (Fills places size padding) :=
  inferInstanceAs (Decidable (∀ k < size, _))

theorem read?_eq_some_iff (l : Layout α) {o : ByteOrder} {bs rest : List UInt8} {v : α} :
    l.read? o bs = some (v, rest) ↔
      l.size ≤ bs.length ∧ rest = bs.drop l.size ∧ l.decode o bs = v := by
  rw [read?]
  split
  · rename_i h
    simp [h, and_comm, eq_comm]
  · rename_i h
    simp [h]

namespace Stores

variable {l : Layout α} {fields : α → List Field} {o : ByteOrder}

theorem read?_encode (h : l.Stores fields) (v : α) (rest : List UInt8) :
    l.read? o (l.encode o v ++ rest) = some (v, rest) := by
  have hkeeps := h.keeps o v
  refine (read?_eq_some_iff l).2 ⟨?_, (List.drop_left' hkeeps.length).symm, hkeeps.decode rest⟩
  rw [List.length_append, hkeeps.length]
  omega

theorem read?_eq_some_iff (h : l.Stores fields) {bs rest : List UInt8} {v : α} :
    l.read? o bs = some (v, rest) ↔
      l.size ≤ bs.length ∧ rest = bs.drop l.size ∧ ∀ f ∈ fields v, f.StandsIn o bs := by
  rw [Layout.read?_eq_some_iff]
  exact and_congr_right fun hlen => and_congr_right fun _ => h.decode_eq_iff hlen

/-- The fields of a record stand in what is written for it. -/
theorem standsIn_encode (h : l.Stores fields) {v : α} {f : Field} (hf : f ∈ fields v) :
    f.StandsIn o (l.encode o v) := by
  have hread := h.read?_encode (o := o) v []
  rw [List.append_nil] at hread
  exact (h.read?_eq_some_iff.1 hread).2.2 f hf

/-- Every position outside the padding belongs to a field, and no other position does. -/
theorem decode_eq_iff_getElem? (h : l.Stores fields) {padding : List Nat}
    (hfill : ∀ v, Fills ((fields v).map Field.span) l.size padding) {bs cs : List UInt8}
    (hbs : l.size ≤ bs.length) (hcs : l.size ≤ cs.length) :
    l.decode o bs = l.decode o cs ↔ ∀ k < l.size, k ∉ padding → bs[k]? = cs[k]? := by
  rw [h.decode_eq_iff hbs]
  have hstand := (h.decode_eq_iff (o := o) hcs).1 rfl
  generalize l.decode o cs = v at hstand
  have hplace (k : Nat) (hk : k < l.size) :
      k ∉ padding ↔ ∃ f ∈ fields v, f.start ≤ k ∧ k < f.start + f.width := by
    rw [hfill v k hk]
    simp [Field.span]
  constructor
  · intro hbs k hk hpad
    obtain ⟨f, hf, hfrom, hto⟩ := (hplace k hk).1 hpad
    exact (hbs f hf).getElem?_eq (hstand f hf) hfrom hto
  · intro hsame f hf
    refine (hstand f hf).of_getElem?_eq fun k hfrom hto => (hsame k ?_ ?_).symm
    · have := h.end_le_size hf
      omega
    · exact (hplace k (by have := h.end_le_size hf; omega)).2 ⟨f, hf, hfrom, hto⟩

/-- Each field stands in the bytes turned around as it did before, in the other order. -/
theorem read?_mirrored (h : l.Stores fields) (bs : List UInt8) :
    l.read? o bs = l.read? o.other (reverseFields l.widths bs) := by
  rw [read?, read?, length_reverseFields]
  split
  · rename_i hlen
    have hsum : l.widths.sum ≤ bs.length := by rwa [sum_widths]
    have hstand := (h.decode_eq_iff (o := o) hlen).1 rfl
    have hdecode : l.decode o.other (reverseFields l.widths bs) = l.decode o bs := by
      refine (h.decode_eq_iff (by rwa [length_reverseFields])).2 fun f hf => ?_
      have hspan := window_reverseFields (h.span_mem f hf) hsum
      rw [Field.StandsIn, o.other_encode, ← hstand f hf]
      exact hspan
    have hrest := drop_reverseFields hsum
    rw [sum_widths] at hrest
    rw [hdecode, hrest]
  · rfl

/-- A layout with a table that fills its size up to the padding is exact. -/
theorem exact (h : l.Stores fields) {size : Nat} {widths padding : List Nat}
    (hsize : l.size = size) (hwidths : l.widths = widths)
    (hfill : ∀ v, Fills ((fields v).map Field.span) size padding) :
    l.Exact o size widths padding fields := by
  subst hsize hwidths
  refine {
    short_iff := l.read?_eq_none_iff o
    stepwise := fun bs => ?_
    read_iff := fun _ _ _ => h.read?_eq_some_iff
    length_encode := fun v => (h.keeps o v).length
    read_encode := h.read?_encode
    encode_read := fun bs v rest hread => ?_
    same_iff := fun bs cs hbs hcs => ?_
    mirrored := h.read?_mirrored }
  · rw [skipFields?_eq, sum_widths, read?]
    split <;> rfl
  · obtain ⟨hlen, -, hstand⟩ := h.read?_eq_some_iff.1 hread
    have hencode : l.size ≤ (l.encode o v).length := Nat.le_of_eq (h.keeps o v).length.symm
    refine (h.decode_eq_iff_getElem? (o := o) hfill hencode hlen).1 ?_
    rw [(h.decode_eq_iff hlen).2 hstand]
    exact (h.decode_eq_iff hencode).2 fun f hf => h.standsIn_encode hf
  · rw [← h.decode_eq_iff_getElem? (o := o) hfill hbs hcs, read?, read?, if_pos hbs, if_pos hcs]
    simp

end Stores

end Layout

/-! ## The runtime records -/

/-- **The layouts of the runtime records are exact in both byte orders.** -/
theorem layouts_exact (o : ByteOrder) :
    TypeRecord.layout.Exact o 48 [8, 8, 4, 1, 1, 1, 1, 8, 8, 4, 4] [] TypeRecord.fields ∧
    FuncRecord.layout.Exact o 52 [8, 8, 4, 1, 1, 1, 1, 8, 8, 4, 4, 2, 2] [] FuncRecord.fields ∧
    DispatchRecord.layout.Exact o 32 [8, 8, 4, 4, 8] [20, 21, 22, 23] DispatchRecord.fields ∧
    SliceRecord.layout.Exact o 24 [8, 8, 8] [] SliceRecord.fields ∧
    InterfaceRecord.layout.Exact o 80 [8, 8, 4, 1, 1, 1, 1, 8, 8, 4, 4, 8, 8, 8, 8] []
      InterfaceRecord.fields ∧
    MethodEntry.layout.Exact o 8 [4, 4] [] MethodEntry.fields := by
  have htype : Layout.Fills (Layout.spans TypeRecord.layout.widths) 48 [] := by decide
  have hfunc : Layout.Fills (Layout.spans FuncRecord.layout.widths) 52 [] := by decide
  have hdispatch : Layout.Fills [(0, 8), (8, 8), (16, 4), (24, 8)] 32 [20, 21, 22, 23] := by decide
  have hslice : Layout.Fills (Layout.spans SliceRecord.layout.widths) 24 [] := by decide
  have hinterface : Layout.Fills (Layout.spans InterfaceRecord.layout.widths) 80 [] := by decide
  have hentry : Layout.Fills (Layout.spans MethodEntry.layout.widths) 8 [] := by decide
  exact ⟨TypeRecord.stores.exact rfl rfl fun _ => htype,
    FuncRecord.stores.exact rfl rfl fun _ => hfunc,
    DispatchRecord.stores.exact rfl rfl fun _ => hdispatch,
    SliceRecord.stores.exact rfl rfl fun _ => hslice,
    InterfaceRecord.stores.exact rfl rfl fun _ => hinterface,
    MethodEntry.stores.exact rfl rfl fun _ => hentry⟩

/-- A dispatch record with something in its padding, most significant bytes first, and the entry of
a method table with a negative offset, least significant bytes first; one more byte follows each. -/
theorem layouts_read_words :
    DispatchRecord.layout.read? .big
        [0, 0, 0, 0, 0, 0x40, 0x10, 0x20, 0, 0, 0, 0, 0, 0x40, 0x10, 0x70,
          0xde, 0xad, 0xbe, 0xef, 1, 2, 3, 4, 0, 0, 0, 0, 0, 0x40, 0, 0, 0xff] =
      some (⟨0x401020, 0x401070, 0xdeadbeef, 0x400000⟩, [0xff]) ∧
    MethodEntry.layout.read? .little [0xfe, 0xff, 0xff, 0xff, 0x80, 0, 0, 0, 0xff] =
      some (⟨-2, 0x80⟩, [0xff]) := by
  obtain ⟨-, -, hdispatch, -⟩ := layouts_exact .big
  obtain ⟨-, -, -, -, -, hentry⟩ := layouts_exact .little
  exact ⟨(hdispatch.read_iff _ _ _).2 ⟨by decide, rfl, by decide⟩,
    (hentry.read_iff _ _ _).2 ⟨by decide, rfl, by decide⟩⟩

end ItabRecovery

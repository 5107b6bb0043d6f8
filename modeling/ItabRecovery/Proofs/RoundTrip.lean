import ItabRecovery.Proofs.Extraction
import ItabRecovery.Proofs.Utf8
import ItabRecovery.Proofs.Writing

/-!
# What was written is read back

A section that holds the bytes of a plan says of every piece what was written there: its text,
its type, its slots, its methods.  So recovery gives back the descriptions, in either byte order
and wherever the pieces were put:

    plan.Writes ds → image.implementations = .ok (ds.map Description.said)
                                                      (implementations_written)
-/

namespace ItabRecovery.Writing

open Reading

/-- A section with the bytes of a plan, loaded where the plan says. -/
structure Carries (s : Section) (plan : Plan) : Prop where
  base : s.base = plan.base
  data : s.data = ⟨plan.bytes.toArray⟩
  short : plan.size < 2 ^ 31
  addresses : plan.base.toNat + plan.size ≤ 2 ^ 64

/-! ## Words of a piece -/

theorem signed32_mod {n : Nat} (h : n < 2 ^ 31) : signed32 (n % 256 ^ 4) = n := by
  rw [Nat.mod_eq_of_lt (by omega), signed32, if_pos h]

theorem signed32_toUInt32 (n : Int32) : signed32 (n.toUInt32.toNat % 256 ^ 4) = n.toInt := by
  have hlt : n.toUInt32.toNat < 2 ^ 32 := UInt32.toNat_lt _
  have h := toInt_toInt32_ofNat hlt
  rw [UInt32.ofNat_toNat] at h
  rw [Nat.mod_eq_of_lt (show n.toUInt32.toNat < 256 ^ 4 from hlt), ← h]
  rfl

section
variable {s : Section} {plan : Plan} (hs : Carries s plan)
include hs

theorem Carries.size_eq : s.size = plan.size := by
  show s.data.size = plan.bytes.length
  rw [hs.data]
  simp [ByteArray.size]

variable {p : Piece} (hp : p ∈ plan.pieces.map Prod.snd)
include hp

theorem Carries.fits : plan.place p + p.size ≤ s.size := by
  rw [hs.size_eq]
  exact Plan.place_add_size_le hp

theorem Carries.window_place : window s.data (plan.place p) p.size = plan.write p := by
  rw [← Plan.cut_bytes hp, hs.data, window]

theorem Carries.place_lt : plan.place p < 2 ^ 31 := by
  have := Plan.place_add_size_le hp
  have := hs.short
  omega

theorem Carries.address_lt (h0 : 0 < p.size) : plan.address p < 2 ^ 64 := by
  have := Plan.place_add_size_le hp
  have := hs.addresses
  unfold Plan.address
  omega

/-- An address fits in the eight bytes it is written to. -/
theorem Carries.address_mod (h0 : 0 < p.size) : plan.address p % 256 ^ 8 = plan.address p :=
  Nat.mod_eq_of_lt (hs.address_lt hp h0)

theorem Carries.covers : s.Covers (plan.address p) p.size (plan.place p) := by
  refine ⟨?_, hs.fits hp⟩
  rw [Plan.address, hs.base]

/-- A field is where it was written. -/
theorem Carries.window_field {k j : Nat} {x : List UInt8} (hk : (plan.fields p)[k]? = some x)
    (hj : ((plan.fields p).take k).flatten.length = j) :
    j + x.length ≤ p.size ∧ window s.data (plan.place p + j) x.length = x := by
  obtain ⟨hlt, rfl⟩ := List.getElem?_eq_some_iff.1 hk
  have hcut : plan.write p = ((plan.fields p).take k).flatten ++
      ((plan.fields p)[k] ++ ((plan.fields p).drop (k + 1)).flatten) := by
    rw [Plan.write, ← List.flatten_cons, ← List.drop_eq_getElem_cons hlt, ← List.flatten_append,
      List.take_append_drop]
  have hlen : j + (plan.fields p)[k].length ≤ p.size := by
    rw [← plan.length_write, hcut, List.length_append, List.length_append, hj]
    omega
  refine ⟨hlen, ?_⟩
  rw [← window_window hlen, hs.window_place hp, hcut, List.drop_left' hj, List.take_left]

/-- A word is where it was written. -/
theorem Carries.wordAt_field {o : ByteOrder} {k j w v : Nat}
    (hk : (plan.fields p)[k]? = some (o.encode w v))
    (hj : ((plan.fields p).take k).flatten.length = j) :
    wordAt s.data o w (plan.place p + j) = v % 256 ^ w := by
  have hfits := hs.fits hp
  obtain ⟨hlen, hwindow⟩ := hs.window_field hp hk hj
  rw [ByteOrder.length_encode] at hlen hwindow
  have hw : plan.place p + j + w ≤ s.data.size := Nat.le_trans (by omega) hfits
  rw [← decode_window s.data o hw, hwindow, ByteOrder.decode_encode]

/-- A byte is where it was written. -/
theorem Carries.byteAt_field {k j : Nat} {x : UInt8} (hk : (plan.fields p)[k]? = some [x])
    (hj : ((plan.fields p).take k).flatten.length = j) :
    byteAt s.data (plan.place p + j) = x.toNat := by
  have hfits := hs.fits hp
  obtain ⟨hlen, hwindow⟩ := hs.window_field hp hk hj
  rw [List.length_singleton] at hlen hwindow
  have hw : plan.place p + j + 1 ≤ s.data.size := Nat.le_trans (by omega) hfits
  rw [← wordAt_one s.data .little, ← decode_window s.data .little hw, hwindow]
  simp [ByteOrder.decode, ByteOrder.arrange, ByteOrder.value]

end

/-! ## Names and types -/

section
variable {s : Section} {plan : Plan} (hs : Carries s plan)
include hs

theorem hasText_name {n : NameInfo} (hn : plan.Holds (.name n)) :
    HasText s (plan.place (.name n)) n.text := by
  have hfits := hs.fits hn.mem
  have hfollowed : plan.place (.name n) + (Piece.name n).size < plan.size := hn.followed
  have hstorable : (Utf8.encode n.text).length ≤ 65535 := hn.storable
  have hsize : (Piece.name n).size = 3 + (Utf8.encode n.text).length := rfl
  have hword : wordAt s.data .big 2 (plan.place (.name n) + 1) =
      (Utf8.encode n.text).length % 256 ^ 2 :=
    hs.wordAt_field hn.mem (k := 1) rfl (by simp [Plan.fields])
  have hlength : textLength s (plan.place (.name n)) = (Utf8.encode n.text).length := by
    rw [textLength_eq_wordAt, hword]
    omega
  have htext : window s.data (plan.place (.name n) + 3) (Utf8.encode n.text).length =
      Utf8.encode n.text :=
    (hs.window_field hn.mem (k := 2) rfl (by simp [Plan.fields])).2
  refine ⟨plan.place (.name n), rfl, ?_, ?_, ?_⟩
  · rw [hs.size_eq]
    omega
  · omega
  · rw [hlength, htext, Utf8.lossy_encode]

/-- The records of types and function types have the place of their text at the same distance. -/
theorem textOffset_place {p : Piece} (hp : p ∈ plan.pieces.map Prod.snd) {n : NameInfo}
    (hn : plan.Holds (.name n))
    (hk : (plan.fields p)[3]? = some (plan.order.encode 4 (plan.place (.name n))))
    (hj : ((plan.fields p).take 3).flatten.length = 40) :
    textOffset s plan.order (plan.place p) = plan.place (.name n) := by
  rw [textOffset, hs.wordAt_field hp hk hj, signed32_mod (hs.place_lt hn.mem)]

theorem hasType_type {t : TypeInfo} (ht : ∀ p ∈ t.pieces, plan.Holds p) :
    HasType s plan.order (plan.address (.type t)) t.said := by
  have htype : plan.Holds (.type t) := ht _ (by simp [TypeInfo.pieces])
  have hname : plan.Holds (.name t.name) := ht _ (by simp [TypeInfo.pieces])
  have hoffset : textOffset s plan.order (plan.place (.type t)) = plan.place (.name t.name) :=
    textOffset_place hs htype.mem hname rfl (by simp [Plan.fields])
  have hkind : byteAt s.data (plan.place (.type t) + 23) = t.kind.toNat :=
    hs.byteAt_field htype.mem (k := 1) rfl (by simp [Plan.fields])
  obtain ⟨hpointer, shown, hshown, hjoins⟩ := shown_iff.1 (rfl : _ = t.said)
  refine ⟨plan.place (.type t), t.name.text, shown, hs.covers htype.mem, ?_, ?_, hshown, hjoins⟩
  · rw [hoffset]
    exact hasText_name hs hname
  · rw [hpointer, hkind]

/-! ## Methods -/

/-- What a function type tells of its slots. -/
theorem slots_func {f : FuncInfo} (hf : plan.Holds (.func f)) :
    slotsAt s (plan.place (.func f)) = plan.place (.func f) + (if f.extra then 72 else 56) ∧
      inputsAt s plan.order (plan.place (.func f)) = f.inputs.length ∧
      outputsAt s plan.order (plan.place (.func f)) = f.outputs.length := by
  obtain ⟨hinputs, houtputs⟩ : f.inputs.length ≤ 65535 ∧ f.outputs.length ≤ 32767 := hf.storable
  have hflags : byteAt s.data (plan.place (.func f) + 20) =
      (UInt8.ofNat (2 * (plan.unread (.func f) 20).toNat + f.extra.toNat)).toNat :=
    hs.byteAt_field hf.mem (k := 1) rfl (by simp [Plan.fields])
  have hin : wordAt s.data plan.order 2 (plan.place (.func f) + 48) =
      f.inputs.length % 256 ^ 2 :=
    hs.wordAt_field hf.mem (k := 5) rfl (by simp [Plan.fields])
  have hout : wordAt s.data plan.order 2 (plan.place (.func f) + 50) =
      (f.outputs.length + 2 ^ 15 * f.variadic.toNat) % 256 ^ 2 :=
    hs.wordAt_field hf.mem (k := 6) rfl (by simp [Plan.fields])
  refine ⟨?_, ?_, ?_⟩
  · have hbit : (2 * (plan.unread (.func f) 20).toNat + f.extra.toNat) % 2 ^ 8 % 2 =
        f.extra.toNat := by
      have := f.extra.toNat_le
      omega
    rw [slotsAt, hflags, UInt8.toNat_ofNat', hbit]
    cases f.extra with
    | true => rfl
    | false => rfl
  · rw [inputsAt, hin]
    omega
  · have hvariadic := f.variadic.toNat_le
    rw [outputsAt, hout]
    omega

/-- The slot of a parameter or result, counted from the first parameter on. -/
theorem hasType_slot {f : FuncInfo} (hf : plan.Holds (.func f))
    (hts : ∀ t ∈ f.inputs ++ f.outputs, ∀ p ∈ t.pieces, plan.Holds p) {k : Nat}
    (hk : k < (f.inputs ++ f.outputs).length) :
    slotsAt s (plan.place (.func f)) + 8 * k + 8 ≤ s.size ∧
      HasType s plan.order
        (wordAt s.data plan.order 8 (slotsAt s (plan.place (.func f)) + 8 * k))
        (f.inputs ++ f.outputs)[k].said := by
  obtain ⟨hstart, -, -⟩ := slots_func hs hf
  obtain ⟨hfield, hdistance⟩ := plan.fields_slot f hk
  have hpieces := hts _ (List.getElem_mem hk)
  have htype : plan.Holds (.type (f.inputs ++ f.outputs)[k]) :=
    hpieces _ (by simp [TypeInfo.pieces])
  have hfits := hs.fits hf.mem
  obtain ⟨hlen, -⟩ := hs.window_field hf.mem hfield hdistance
  rw [plan.length_slot] at hlen
  have hword := hs.wordAt_field hf.mem hfield hdistance
  rw [hs.address_mod htype.mem (show 0 < 48 by decide), ← Nat.add_assoc, ← hstart] at hword
  refine ⟨by omega, ?_⟩
  rw [hword]
  exact hasType_type hs hpieces

theorem hasMethod_method {m : MethodInfo} (hm : ∀ p ∈ m.pieces, plan.Holds p) :
    HasMethod s plan.order (plan.place (.name m.name), plan.place (.func m.func)) m.said := by
  have hname : plan.Holds (.name m.name) := hm _ (by simp [MethodInfo.pieces])
  have hfunc : plan.Holds (.func m.func) := hm _ (by simp [MethodInfo.pieces])
  have hsignature : plan.Holds (.name m.func.signature) := hm _ (by simp [MethodInfo.pieces])
  have hts : ∀ t ∈ m.func.inputs ++ m.func.outputs, ∀ p ∈ t.pieces, plan.Holds p := by
    intro t ht p hp
    apply hm
    simp only [MethodInfo.pieces, List.mem_cons, List.mem_flatMap]
    exact Or.inr (Or.inr (Or.inr ⟨t, ht, hp⟩))
  -- Inputs and results are one row of slots; what is said of it is cut in two below.
  have hslot {k : Nat} (hk : k < (m.func.inputs ++ m.func.outputs).length) :=
    hasType_slot hs hfunc hts hk
  obtain ⟨hstart, hinputs, houtputs⟩ := slots_func hs hfunc
  have hfits := hs.fits hfunc.mem
  have hsize : 56 ≤ (Piece.func m.func).size := by
    simp only [Piece.size]
    split
    · omega
    · omega
  have hoffset : textOffset s plan.order (plan.place (.func m.func)) =
      plan.place (.name m.func.signature) :=
    textOffset_place hs hfunc.mem hsignature rfl (by simp [Plan.fields])
  refine ⟨plan.place (.func m.func), rfl, by omega, hasText_name hs hname, ?_, ?_, ?_⟩
  · refine ⟨m.func.signature.text, ?_, stripPointer_eq_iff.1 rfl⟩
    rw [hoffset]
    exact hasText_name hs hsignature
  · rw [hinputs]
    apply forall₂_range (List.length_map ..)
    intro k hk
    rw [List.length_map] at hk
    have h := hslot (k := k) (by rw [List.length_append]; omega)
    rw [List.getElem_append_left hk] at h
    rw [List.getElem_map]
    exact h
  · rw [hinputs, houtputs]
    apply forall₂_range (List.length_map ..)
    intro k hk
    rw [List.length_map] at hk
    have h := hslot (k := m.func.inputs.length + k) (by rw [List.length_append]; omega)
    rw [List.getElem_append_right (Nat.le_add_right _ _)] at h
    simp only [Nat.add_sub_cancel_left, Nat.mul_add, ← Nat.add_assoc] at h
    rw [List.getElem_map]
    exact h

end

/-! ## Method tables -/

/-- What the header of a row says. -/
def Plan.offsets (plan : Plan) : Row → Int × Int
  | .padding e => Reading.offsets e
  | .method m => (plan.place (.name m.name), plan.place (.func m.func))

section
variable {s : Section} {plan : Plan} (hs : Carries s plan)
include hs

theorem headerAt_row {i : InterfaceInfo} (hi : plan.Holds (.table i))
    (hrows : ∀ m, .method m ∈ i.rows → plan.Holds (.name m.name) ∧ plan.Holds (.func m.func))
    {k : Nat} (hk : k < i.rows.length) :
    headerAt s plan.order (plan.place (.table i) + 8 * k) = plan.offsets i.rows[k] := by
  have hfield : (plan.fields (.table i))[k]? = some (plan.header i.rows[k]) := by
    rw [Plan.fields, List.getElem?_map, List.getElem?_eq_getElem hk]
    rfl
  have hdistance : ((plan.fields (.table i)).take k).flatten.length = 8 * k := by
    rw [Plan.fields, ← List.map_take, length_flatten_map plan.length_header, List.length_take,
      Nat.min_eq_left (Nat.le_of_lt hk)]
  obtain ⟨hlen, hwindow⟩ := hs.window_field hi.mem hfield hdistance
  rw [plan.length_header] at hlen hwindow
  have hfits := hs.fits hi.mem
  have hfit : plan.place (.table i) + 8 * k + 8 ≤ s.data.size := Nat.le_trans (by omega) hfits
  have hname : wordAt s.data plan.order 4 (plan.place (.table i) + 8 * k) =
      (plan.words i.rows[k]).1 % 256 ^ 4 := by
    have h := decode_field plan.order hfit (show 0 + 4 ≤ 8 by decide)
    rw [hwindow, List.drop_zero, Plan.header, List.take_left' (ByteOrder.length_encode ..),
      ByteOrder.decode_encode] at h
    exact h.symm
  have htype : wordAt s.data plan.order 4 (plan.place (.table i) + 8 * k + 4) =
      (plan.words i.rows[k]).2 % 256 ^ 4 := by
    have h := decode_field plan.order hfit (show 4 + 4 ≤ 8 by decide)
    rw [hwindow, Plan.header, List.drop_left' (ByteOrder.length_encode ..),
      List.take_of_length_le (by rw [ByteOrder.length_encode]), ByteOrder.decode_encode] at h
    exact h.symm
  rw [headerAt, hname, htype]
  have hmem : i.rows[k] ∈ i.rows := List.getElem_mem hk
  cases hr : i.rows[k] with
  | padding e =>
    rw [Plan.words, signed32_toUInt32, signed32_toUInt32]
    rfl
  | method m =>
    obtain ⟨hname, hfunc⟩ := hrows m (hr ▸ hmem)
    rw [Plan.words, signed32_mod (hs.place_lt hname.mem), signed32_mod (hs.place_lt hfunc.mem)]
    rfl

/-- The places of a method's name and function type are those of a method. -/
theorem isMethod_method {m : MethodInfo} (hname : plan.Holds (.name m.name))
    (hfunc : plan.Holds (.func m.func)) (hadmits : plan.Admits (.method m)) :
    IsMethod s.size (plan.offsets (.method m)) := by
  obtain ⟨hname0, hfunc0⟩ : plan.place (.name m.name) ≠ 0 ∧ plan.place (.func m.func) ≠ 0 :=
    hadmits
  have hname1 := hs.fits hname.mem
  have hfunc1 := hs.fits hfunc.mem
  have hnameSize : 0 < (Piece.name m.name).size := by
    simp only [Piece.size]
    omega
  have hfuncSize : 0 < (Piece.func m.func).size := by
    simp only [Piece.size]
    split
    · omega
    · omega
  have hne : plan.place (.name m.name) ≠ plan.place (.func m.func) :=
    placeIn_ne hname.mem hfunc.mem (by simp) hnameSize hfuncSize
  simp only [IsMethod, Plan.offsets]
  omega

/-- The rows that recovery takes for methods are those of the methods. -/
theorem forall₂_methods {rows : List Row} (hadmits : ∀ r ∈ rows, plan.Admits r)
    (hmethods : ∀ m, .method m ∈ rows → ∀ p ∈ m.pieces, plan.Holds p) :
    List.Forall₂ (HasMethod s plan.order)
      ((rows.map plan.offsets).filter fun h => decide (IsMethod s.size h))
      ((rows.filterMap Row.method?).map MethodInfo.said) := by
  induction rows with
  | nil => exact .nil
  | cons r rows ih =>
    have ih := ih (fun r hr => hadmits r (List.mem_cons_of_mem _ hr))
      fun m hm => hmethods m (List.mem_cons_of_mem _ hm)
    have hr := hadmits r List.mem_cons_self
    rw [List.map_cons, List.filter_cons]
    cases r with
    | padding e =>
      -- The section filters out what the plan wrote as padding.
      have hpadding : e.isPadding s.size = true := by
        rw [hs.size_eq]
        exact hr
      have hno : ¬ IsMethod s.size (plan.offsets (.padding e)) := by
        intro h
        rw [isPadding_eq_false_iff.2 h] at hpadding
        cases hpadding
      rw [decide_eq_false hno]
      exact ih
    | method m =>
      have hm := hmethods m List.mem_cons_self
      have hname : plan.Holds (.name m.name) := hm _ (by simp [MethodInfo.pieces])
      have hfunc : plan.Holds (.func m.func) := hm _ (by simp [MethodInfo.pieces])
      have hyes := isMethod_method hs hname hfunc hr
      rw [decide_eq_true hyes]
      exact .cons (hasMethod_method hs hm) ih

theorem hasTable_table {i : InterfaceInfo} (hi : plan.Holds (.table i))
    (hmethods : ∀ m, .method m ∈ i.rows → ∀ p ∈ m.pieces, plan.Holds p) :
    HasTable s plan.order (plan.address (.table i) % 256 ^ 8) i.rows.length
      (i.rows.map plan.offsets) := by
  by_cases hempty : i.rows = []
  · rw [hempty]
    exact Or.inl ⟨rfl, rfl⟩
  have hpos : 0 < i.rows.length := List.length_pos_iff.2 hempty
  have hsize : (Piece.table i).size = 8 * i.rows.length := rfl
  rw [hs.address_mod hi.mem (by omega)]
  refine Or.inr ⟨hpos, plan.place (.table i), hs.covers hi.mem, ?_⟩
  apply List.ext_getElem
  · rw [List.length_map, List.length_map, List.length_range]
  intro k hk _
  rw [List.length_map] at hk
  rw [List.getElem_map, List.getElem_map, List.getElem_range]
  refine (headerAt_row hs hi (fun m hm => ?_) hk).symm
  have hm := hmethods m hm
  exact ⟨hm _ (by simp [MethodInfo.pieces]), hm _ (by simp [MethodInfo.pieces])⟩

theorem describes_description {d : Description} (hd : ∀ p ∈ d.pieces, plan.Holds p)
    (hadmits : ∀ r ∈ d.methods.rows, plan.Admits r) :
    Describes s plan.order (plan.address (.dispatch d)) d.said := by
  have hdispatch : plan.Holds (.dispatch d) := hd _ (by simp [Description.pieces])
  have hinterface : plan.Holds (.interface d.methods) := hd _ (by simp [Description.pieces])
  have htable : plan.Holds (.table d.methods) := hd _ (by simp [Description.pieces])
  have hconcrete : plan.Holds (.type d.concrete) :=
    hd _ (by simp [Description.pieces, TypeInfo.pieces])
  have hname : plan.Holds (.name d.concrete.name) :=
    hd _ (by simp [Description.pieces, TypeInfo.pieces])
  have hmethods : ∀ m, .method m ∈ d.methods.rows → ∀ p ∈ m.pieces, plan.Holds p := by
    intro m hm p hp
    have hm : m ∈ d.methods.rows.filterMap Row.method? := List.mem_filterMap.2 ⟨_, hm, rfl⟩
    apply hd
    simp only [Description.pieces, List.mem_cons, List.cons_append, List.mem_append,
      List.mem_flatMap]
    exact Or.inr (Or.inr (Or.inr (Or.inr ⟨m, hm, hp⟩)))
  -- The four words that lead on: two of the dispatch record, two of the interface type.
  have hword0 := hs.wordAt_field hdispatch.mem (k := 0) (j := 0) (w := 8) rfl rfl
  have hword8 := hs.wordAt_field hdispatch.mem (k := 1) (j := 8) (w := 8) rfl
    (by simp [Plan.fields])
  rw [hs.address_mod hinterface.mem (show 0 < 80 by decide), Nat.add_zero] at hword0
  rw [hs.address_mod hconcrete.mem (show 0 < 48 by decide)] at hword8
  have hword56 := hs.wordAt_field hinterface.mem (k := 1) (j := 56) (w := 8) rfl
    (by simp [Plan.fields])
  have hword64 := hs.wordAt_field hinterface.mem (k := 2) (j := 64) (w := 8) rfl
    (by simp [Plan.fields])
  have hfits := Plan.place_add_size_le htable.mem
  have hshort := hs.short
  have hsize : (Piece.table d.methods).size = 8 * d.methods.rows.length := rfl
  rw [Nat.mod_eq_of_lt (by omega)] at hword64
  refine ⟨plan.place (.dispatch d), hs.covers hdispatch.mem, ?_, ?_⟩
  · rw [hword0]
    refine ⟨plan.place (.interface d.methods), d.methods.rows.map plan.offsets,
      hs.covers hinterface.mem, ?_, forall₂_methods hs hadmits hmethods⟩
    rw [hword56, hword64]
    exact hasTable_table hs htable hmethods
  · rw [hword8]
    refine ⟨plan.place (.type d.concrete), d.concrete.name.text, hs.covers hconcrete.mem, ?_,
      stripPointer_eq_iff.1 rfl⟩
    rw [textOffset_place hs hconcrete.mem hname rfl (by simp [Plan.fields])]
    exact hasText_name hs hname

end

/-! ## Labels -/

/-- What a label names: the concrete type up to its first comma, and the text after that. -/
theorem spells_label (plan : Plan) {d : Description} (hd : ',' ∉ d.interface.toList) :
    ∃ concrete, ItabLabel.Spells (plan.label d).name concrete d.labelled := by
  unfold Description.labelled Plan.label ItabLabel.symbolName ItabLabel.Spells
  rw [String.toList_ofList]
  by_cases hcomma : ',' ∈ d.concrete.name.text.toList
  · rw [if_pos hcomma, String.toList_ofList]
    generalize d.concrete.name.text.toList = text at hcomma
    cases hcut : text.dropWhile (· != ',') with
    | nil => exact absurd hcomma (dropWhile_eq_nil_iff_not_mem.1 hcut)
    | cons x r =>
      obtain rfl := eq_of_dropWhile_cons hcut
      have htext := cut_eq hcut
      refine ⟨String.ofList (text.takeWhile (· != ',')),
        r.dropWhile (· != ',') ++ ',' :: d.interface.toList, ?_, ?_, not_mem_takeWhile _ _, ?_⟩
      · rw [String.toList_ofList, List.drop_succ_cons, List.drop_zero, ← List.append_assoc,
          List.takeWhile_append_dropWhile]
        nth_rewrite 1 [htext]
        simp
      · rw [String.toList_ofList]
        exact not_mem_takeWhile _ _
      · right
        cases hr : r.dropWhile (· != ',') with
        | nil => rfl
        | cons y r' =>
          obtain rfl := eq_of_dropWhile_cons hr
          rfl
  · rw [if_neg hcomma]
    exact ⟨d.concrete.name.text, [], by rw [List.append_nil], hcomma, hd, Or.inl rfl⟩

/-- What descriptions were written down is read back: from any image whose section of type records
has the bytes of a plan that writes them, and whose labels are theirs. -/
theorem implementations_written (plan : Plan) (ds : List Description) (image : Image)
    (rodata : Section) (hwrites : plan.Writes ds)
    (hcommas : ∀ d ∈ ds, ',' ∉ d.interface.toList)
    (horder : TypeLink.byteOrder (image.sectionNamed? TypeLink.sectionName) = .ok plan.order)
    (hrodata : image.sectionNamed? rodataName = some rodata)
    (hbase : rodata.base = plan.base) (hdata : rodata.data = ⟨plan.bytes.toArray⟩)
    (hlabels : image.symbols.filter ItabLabel.isLabel = ds.map plan.label) :
    image.implementations = .ok (ds.map Description.said) := by
  have hs : Carries rodata plan := ⟨hbase, hdata, hwrites.short, hwrites.addresses⟩
  rw [implementations_eq_ok_iff_forall₂ horder hrodata, hlabels, List.forall₂_map_left_iff,
    List.forall₂_map_right_iff, List.forall₂_same]
  intro d hd
  have hpieces := hwrites.pieces d hd
  have hdispatch : plan.Holds (.dispatch d) := hpieces _ (by simp [Description.pieces])
  have haddress : (UInt64.ofNat (plan.address (.dispatch d))).toNat =
      plan.address (.dispatch d) := by
    rw [UInt64.toNat_ofNat', Nat.mod_eq_of_lt (hs.address_lt hdispatch.mem (show 0 < 32 by decide))]
  obtain ⟨concrete, hspells⟩ := spells_label plan (hcommas d hd)
  refine ⟨⟨concrete, d.labelled, hspells, QualifiedName.ofText_eq_iff.1 rfl⟩, ?_⟩
  show Describes rodata plan.order (UInt64.ofNat (plan.address (.dispatch d))).toNat d.said
  rw [haddress]
  exact describes_description hs hpieces (hwrites.rows d hd)

/-! ## Two plans -/

/-- `*runtime.errorString` implements `error`.  The method table starts with a padding entry. -/
def errorDescription : Description :=
  ⟨0, "error", ⟨0, ⟨0, "*runtime.errorString"⟩, 22⟩,
    ⟨0, [.padding ⟨8, 8⟩,
      .method ⟨⟨0, "Error"⟩,
        ⟨0, ⟨0, "*func() string"⟩, false, true, [], [⟨0, ⟨0, "string"⟩, 24⟩]⟩⟩]⟩⟩

/-- The last pieces first, near the end of the address space. -/
def errorPlan : Plan where
  base := 0xfffffffffffffe00
  order := .big
  pieces := errorDescription.pieces.reverse.map fun p => ([0xff], p)
  tail := [0]
  unread _ k := UInt8.ofNat (7 * k)

theorem errorPlan_written :
    errorPlan.Writes [errorDescription] ∧
      (errorPlan.image [errorDescription]).implementations = .ok errorFound := by
  have hwrites : errorPlan.Writes [errorDescription] :=
    ⟨by decide +kernel, by decide +kernel, by decide +kernel, by decide +kernel⟩
  have hcommas : ∀ d ∈ [errorDescription], ',' ∉ d.interface.toList := by decide +kernel
  have horder : TypeLink.byteOrder ((errorPlan.image [errorDescription]).sectionNamed?
      TypeLink.sectionName) = .ok errorPlan.order := by decide +kernel
  have hlabels : (errorPlan.image [errorDescription]).symbols.filter ItabLabel.isLabel =
      [errorDescription].map errorPlan.label := by decide +kernel
  have hsaid : [errorDescription].map Description.said = errorFound := by decide +kernel
  refine ⟨hwrites, ?_⟩
  rw [← hsaid]
  exact implementations_written errorPlan [errorDescription] (errorPlan.image [errorDescription]) _
    hwrites hcommas horder rfl rfl rfl hlabels

/-- A concrete type with a comma in its name implements `error`. -/
def pairDescription : Description :=
  ⟨0, "error", ⟨0, ⟨0, "main.P[int,string]"⟩, 25⟩, ⟨0, []⟩⟩

def pairPlan : Plan where
  base := 0x1000
  order := .little
  pieces := pairDescription.pieces.map fun p => ([], p)
  tail := [0]
  unread _ _ := 0

/-- The comma of the concrete type is taken for the one before the interface. -/
theorem pairPlan_misread :
    pairPlan.Writes [pairDescription] ∧
      (∀ d ∈ [pairDescription], ',' ∉ d.interface.toList) ∧
      TypeLink.byteOrder ((pairPlan.image [pairDescription]).sectionNamed?
        TypeLink.sectionName) = .ok pairPlan.order ∧
      (pairPlan.image [pairDescription]).implementations =
        .ok [⟨⟨"", "string]"⟩, "main.P[int,string]", []⟩] ∧
      (pairPlan.image [pairDescription]).implementations ≠
        .ok ([pairDescription].map fun d => { d.said with interface := .ofText d.interface }) := by
  have hwrites : pairPlan.Writes [pairDescription] :=
    ⟨by decide +kernel, by decide +kernel, by decide +kernel, by decide +kernel⟩
  have hfound : (pairPlan.image [pairDescription]).implementations =
      .ok [⟨⟨"", "string]"⟩, "main.P[int,string]", []⟩] := by decide +kernel
  refine ⟨hwrites, by decide +kernel, by decide +kernel, hfound, ?_⟩
  rw [hfound]
  decide +kernel

end ItabRecovery.Writing

import ItabRecovery.Proofs.ExactLayouts
import ItabRecovery.Proofs.FirstFault

/-!
# How far the hint at the byte order reaches

The byte order is guessed from the sixteenth byte of a table of offsets.  When the table was written
in order `o` and its fourth offset is `x`, the guess is `TypeLink.guess o x`, whatever else is in
the table or behind it (`byteOrder_eq`).  So both orders are told when the fourth offset has
something in its lowest byte and nothing in its highest:

    (∀ o, guess o x = o) ↔ 0 ≤ x ∧ x < 2 ^ 24 ∧ ¬ 256 ∣ x                 (guess_eq_iff)

With any other fourth offset one of the two tables makes recovery read all records in the wrong
order.
-/

namespace ItabRecovery

namespace TypeLink

/-- The section begins with a table of offsets; any bytes may follow. -/
def Begins (s : Section) (o : ByteOrder) (offsets : List Int32) : Prop :=
  ∃ after, s.data.data.toList = encode o (offsets.map Int32.toUInt32) ++ after

/-- A section that is nothing but a table. -/
def table (o : ByteOrder) (offsets : List Int32) : Section :=
  ⟨sectionName, "", 0, ⟨(encode o (offsets.map Int32.toUInt32)).toArray⟩⟩

theorem begins_table (o : ByteOrder) (offsets : List Int32) : Begins (table o offsets) o offsets :=
  ⟨[], (List.append_nil _).symm⟩

/-- The byte order that a table hints at which was written in order `o` with fourth offset `x`. -/
def guess (o : ByteOrder) (x : Int) : ByteOrder :=
  match o with
  | .little => if 0 ≤ x ∧ x < 2 ^ 24 then .little else .big
  | .big => if 256 ∣ x then .little else .big

/-! ## The fourth offset -/

/-- The last byte of a word with its least significant byte first is its highest. -/
theorem last_little_eq_zero_iff (b : ByteArray) (i : Nat) :
    byteAt b (i + 3) = 0 ↔ wordAt b .little 4 i < 2 ^ 24 := by
  have h0 := byteAt_lt b i
  have h1 := byteAt_lt b (i + 1)
  have h2 := byteAt_lt b (i + 2)
  simp only [wordAt, Nat.add_assoc, Nat.reduceAdd]
  omega

/-- The last byte of a word with its most significant byte first is its lowest. -/
theorem last_big_eq_zero_iff (b : ByteArray) (i : Nat) :
    byteAt b (i + 3) = 0 ↔ 256 ∣ wordAt b .big 4 i := by
  have h3 := byteAt_lt b (i + 3)
  simp only [wordAt, Nat.add_assoc, Nat.reduceAdd]
  omega

/-- The fourth offset is the word in bytes 12 to 15. -/
theorem Begins.wordAt_eq {s : Section} {o : ByteOrder} {offsets : List Int32} {fourth : Int32}
    (h : Begins s o offsets) (hfourth : offsets[3]? = some fourth) :
    16 ≤ s.size ∧ wordAt s.data o 4 12 = unsigned32 fourth.toInt := by
  obtain ⟨after, hbytes⟩ := h
  obtain ⟨hlen, rfl⟩ := List.getElem?_eq_some_iff.1 hfourth
  have hlen' : 3 < (offsets.map Int32.toUInt32).length := by rwa [List.length_map]
  have hall : standsAt s.data (encode o (offsets.map Int32.toUInt32)) 0 = true := by
    rw [standsAt_iff]
    constructor
    · have hsize : s.data.data.toList.length = s.data.size := rfl
      rw [← hsize, hbytes, List.length_append]
      omega
    · rw [window, hbytes, List.drop_zero, List.take_left]
  have hword : standsAt s.data (Layout.u32.encode o (offsets.map Int32.toUInt32)[3]) 12 = true :=
    standsAt_flatMap (fun _ _ => Layout.Keeps.u32) hall hlen'
  obtain ⟨hfit, hwindow⟩ := standsAt_iff.1 hword
  have hwidth : (Layout.u32.encode o (offsets.map Int32.toUInt32)[3]).length = 4 :=
    Layout.Keeps.u32.length
  rw [hwidth] at hfit hwindow
  refine ⟨hfit, ?_⟩
  rw [← decode_window s.data o hfit, hwindow, List.getElem_map, ← toNat_toUInt32]
  exact (o.decode_encode 4 _).trans (Nat.mod_eq_of_lt (UInt32.toNat_lt _))

/-- What a table hints at is decided by its fourth offset alone. -/
theorem byteOrder_eq {s : Section} {o : ByteOrder} {offsets : List Int32} {fourth : Int32}
    (h : Begins s o offsets) (hfourth : offsets[3]? = some fourth) :
    byteOrder (some s) = .ok (guess o fourth.toInt) := by
  obtain ⟨hsize, hword⟩ := h.wordAt_eq hfourth
  refine byteOrder_eq_ok_iff.2 ⟨hsize, ?_⟩
  have hlow := Int32.le_toInt fourth
  have hhigh := Int32.toInt_lt fourth
  rw [unsigned32] at hword
  cases o with
  | little =>
    have hzero : byteAt s.data 15 = 0 ↔ 0 ≤ fourth.toInt ∧ fourth.toInt < 2 ^ 24 := by
      rw [last_little_eq_zero_iff s.data 12, hword]
      omega
    simp only [guess, hzero]
  | big =>
    have hzero : byteAt s.data 15 = 0 ↔ 256 ∣ fourth.toInt := by
      rw [last_big_eq_zero_iff s.data 12, hword]
      omega
    simp only [guess, hzero]

/-! ## Right and wrong guesses -/

theorem guess_little_eq_iff {x : Int} : guess .little x = .little ↔ 0 ≤ x ∧ x < 2 ^ 24 := by
  simp [guess]

theorem guess_big_eq_iff {x : Int} : guess .big x = .big ↔ ¬ 256 ∣ x := by
  simp [guess]

theorem guess_eq_iff {x : Int} :
    (∀ o, guess o x = o) ↔ 0 ≤ x ∧ x < 2 ^ 24 ∧ ¬ 256 ∣ x := by
  rw [← and_assoc, ← guess_little_eq_iff, ← guess_big_eq_iff]
  constructor
  · intro h
    exact ⟨h .little, h .big⟩
  · rintro ⟨hlittle, hbig⟩ o
    cases o with
    | little => exact hlittle
    | big => exact hbig

/-- A wrong guess is the other order. -/
theorem guess_eq_other {o : ByteOrder} {x : Int} (h : guess o x ≠ o) : guess o x = o.other := by
  revert h
  generalize guess o x = p
  cases o <;> cases p <;> simp [ByteOrder.other]

end TypeLink

/-- The implementations that a section and a symbol table record, all records read in one order. -/
def Section.implementationsIn (rodata : Section) (o : ByteOrder) (symbols : List Symbol) :
    Except Error (List Implementation) := do
  let labels ← ItabLabel.ofSymbols symbols
  labels.mapM (TypeData.mk rodata o).implementationAt

/-- Recovery reads all records in the order that is hinted at. -/
theorem Image.implementations_eq {image : Image} {link rodata : Section} {o : ByteOrder}
    (hlink : image.sectionNamed? "__typelink" = some link)
    (horder : TypeLink.byteOrder (some link) = .ok o)
    (hrodata : image.sectionNamed? "__rodata" = some rodata) :
    image.implementations = rodata.implementationsIn o image.symbols := by
  have hsection : image.sectionNamed rodataName = .ok rodata := by
    rw [Image.sectionNamed, rodataName, hrodata]
  rw [implementations, TypeLink.sectionName, hlink, horder, hsection]
  rfl

/-- **The exact reach of the hint.**  A section that is too short for four offsets gives no order.
A table of at least four offsets is taken to be written least significant byte first exactly when
its fourth offset is not negative and below 2^24, if it was, and most significant byte first exactly
when its fourth offset is no multiple of 256, if it was; nothing else in the section matters.  So
both orders are told exactly for fourth offsets with both properties, and with any other there is an
order that recovery takes for the opposite one in every image. -/
theorem byteOrder_reach (offsets : List Int32) :
    (∀ s o, TypeLink.Begins s o offsets → offsets.length < 4 → s.size < 16 →
      TypeLink.byteOrder (some s) = .error (.byteOrder (.tooShort s.size 16))) ∧
    ∀ fourth : Int32, offsets[3]? = some fourth →
      (∀ s, TypeLink.Begins s .little offsets → (TypeLink.byteOrder (some s) = .ok .little ↔
        0 ≤ fourth.toInt ∧ fourth.toInt < 2 ^ 24)) ∧
      (∀ s, TypeLink.Begins s .big offsets → (TypeLink.byteOrder (some s) = .ok .big ↔
        ¬ 256 ∣ fourth.toInt)) ∧
      (∀ s s' o offsets', TypeLink.Begins s o offsets → TypeLink.Begins s' o offsets' →
        offsets'[3]? = some fourth → ∃ o', TypeLink.byteOrder (some s) = .ok o' ∧
          TypeLink.byteOrder (some s') = .ok o') ∧
      ((∀ s o, TypeLink.Begins s o offsets → TypeLink.byteOrder (some s) = .ok o) ↔
        0 ≤ fourth.toInt ∧ fourth.toInt < 2 ^ 24 ∧ ¬ 256 ∣ fourth.toInt) ∧
      (¬ (0 ≤ fourth.toInt ∧ fourth.toInt < 2 ^ 24 ∧ ¬ 256 ∣ fourth.toInt) →
        ∃ o : ByteOrder, ∀ (image : Image) (link rodata : Section),
          image.sectionNamed? "__typelink" = some link → TypeLink.Begins link o offsets →
          image.sectionNamed? "__rodata" = some rodata →
          image.implementations = rodata.implementationsIn o.other image.symbols) := by
  refine ⟨fun s o _ _ hsize => ?_, fun fourth hfourth => ⟨fun s hs => ?_, fun s hs => ?_,
    fun s s' o offsets' hs hs' hfourth' => ?_, ?_, fun hx => ?_⟩⟩
  · have hfault : errorOf? (TypeLink.byteOrder (some s)) =
        some (.byteOrder (.tooShort s.size 16)) := by
      rw [errorOf?_byteOrder, TypeLink.fault?, if_pos hsize]
    exact errorOf?_eq_some_iff.1 hfault
  · rw [TypeLink.byteOrder_eq hs hfourth, Except.ok.injEq, TypeLink.guess_little_eq_iff]
  · rw [TypeLink.byteOrder_eq hs hfourth, Except.ok.injEq, TypeLink.guess_big_eq_iff]
  · exact ⟨_, TypeLink.byteOrder_eq hs hfourth, TypeLink.byteOrder_eq hs' hfourth'⟩
  · rw [← TypeLink.guess_eq_iff]
    -- Every table of these offsets is read the same way, so one of each order is enough.
    constructor
    · intro h o
      have hs := TypeLink.begins_table o offsets
      have hguess := (TypeLink.byteOrder_eq hs hfourth).symm.trans (h _ o hs)
      exact Except.ok.inj hguess
    · intro h s o hs
      rw [TypeLink.byteOrder_eq hs hfourth, h o]
  · rw [← TypeLink.guess_eq_iff, not_forall] at hx
    -- One of the two orders is guessed wrong.
    obtain ⟨o, ho⟩ := hx
    refine ⟨o, fun image link rodata hlink hs hrodata => ?_⟩
    refine image.implementations_eq hlink ?_ hrodata
    rw [TypeLink.byteOrder_eq hs hfourth, TypeLink.guess_eq_other ho]

/-- Offsets of which the fourth is a multiple of 256. -/
def pageOffsets : List Int32 :=
  [0x20, 0x60, 0xa0, 0x100, 0x140]

/-- Recovery takes this table for one with the least significant bytes first, however it was
written; in one of the orders it reads all records the wrong way. -/
theorem pageOffsets_misread :
    TypeLink.byteOrder (some (TypeLink.table .little pageOffsets)) = .ok .little ∧
      TypeLink.byteOrder (some (TypeLink.table .big pageOffsets)) ≠ .ok .big ∧
      TypeLink.byteOrder (some (TypeLink.table .big (pageOffsets.take 3))) =
        .error (.byteOrder (.tooShort 12 16)) ∧
      (∃ o', TypeLink.byteOrder (some (TypeLink.table .big pageOffsets)) = .ok o' ∧
        TypeLink.byteOrder (some (TypeLink.table .big [-1, -2, -3, 0x100])) = .ok o') ∧
      ∃ o : ByteOrder, (Image.mk [TypeLink.table o pageOffsets, errorRodata]
        errorImage.symbols).implementations =
          errorRodata.implementationsIn o.other errorImage.symbols := by
  obtain ⟨hlittle, hbig, hsame, -, hwrong⟩ := (byteOrder_reach pageOffsets).2 0x100 rfl
  obtain ⟨hshort, -⟩ := byteOrder_reach (pageOffsets.take 3)
  refine ⟨(hlittle _ (TypeLink.begins_table _ _)).2 (by decide), fun hno => ?_,
    hshort _ _ (TypeLink.begins_table _ _) (by decide) (by decide),
    hsame _ _ _ _ (TypeLink.begins_table _ _) (TypeLink.begins_table _ _) rfl, ?_⟩
  · exact (hbig _ (TypeLink.begins_table _ _)).1 hno (by decide)
  · obtain ⟨o, ho⟩ := hwrong (by decide)
    exact ⟨o, ho _ _ _ rfl (TypeLink.begins_table _ _) rfl⟩

end ItabRecovery

import ItabRecovery.Proofs.FirstFault
import ItabRecovery.Proofs.Footprint
import ItabRecovery.Proofs.Utf8

/-!
# Which name records are read, and as what

A name record is read from its first four bytes, although its text begins with the fourth: so the
bytes that are asked for and those of the text overlap.  `nameAt_eq` says what is read in one
equation.  A record that was written somewhere among other bytes (`NameRecord.Placed`) gives its
text back, unless it is an empty one that ends the section:

    (r.within d).nameAt r.offset = .ok r.text        (nameAt_within, some text or a byte after it)
-/

namespace ItabRecovery

open Reading

/-! ## What is asked for -/

section
variable (s : Section) (offset : Int)

/-- The four bytes that are asked for first are all there. -/
def Section.HasHead : Prop :=
  0 ≤ offset ∧ offset + 4 ≤ s.size

/-- The bytes of the text are all there, as many as the second and the third byte say. -/
def Section.HasRoom : Prop :=
  offset + 3 + textLength s offset.toNat ≤ s.size

instance : Decidable (s.HasHead offset) :=
  inferInstanceAs (Decidable (_ ∧ _))

instance : Decidable (s.HasRoom offset) :=
  inferInstanceAs (Decidable (_ ≤ _))

end

/-- What reading the name record at an offset comes to. -/
structure Section.NameRead (s : Section) (offset : Int32) : Prop where
  ok_iff : (∃ text, s.nameAt offset = .ok text) ↔
    s.HasHead offset.toInt ∧ s.HasRoom offset.toInt
  outOfBounds_iff : (∃ i n bound, s.nameAt offset = .error (.outOfBounds i n bound)) ↔
    ¬ s.HasHead offset.toInt
  sectionFault_iff : (∃ name fault, s.nameAt offset = .error (.sectionFault name fault)) ↔
    s.HasHead offset.toInt ∧ ¬ s.HasRoom offset.toInt
  /-- The text is that of the bytes after the length, and of nothing else. -/
  text_eq : ∀ {text}, s.nameAt offset = .ok text → text =
    Utf8.lossy (window s.data (offset.toInt.toNat + 3) (textLength s offset.toInt.toNat))
  /-- Another section with room for the record gives the same text when it agrees on the length and
  the text: the flag byte and all bytes elsewhere may differ. -/
  independent : ∀ {text}, s.nameAt offset = .ok text → ∀ s' : Section,
    offset.toInt.toNat + max 4 (3 + textLength s offset.toInt.toNat) ≤ s'.size →
    (∀ k, 1 ≤ k → k < 3 + textLength s offset.toInt.toNat →
      byteAt s'.data (offset.toInt.toNat + k) = byteAt s.data (offset.toInt.toNat + k)) →
    s'.nameAt offset = .ok text

/-- Reading in one equation.  A negative offset is reported as a word, with its sign extended. -/
theorem Section.nameAt_eq (s : Section) (offset : Int32) :
    s.nameAt offset =
      if s.HasHead offset.toInt then
        if s.HasRoom offset.toInt then
          .ok (Utf8.lossy (window s.data (offset.toInt.toNat + 3)
            (textLength s offset.toInt.toNat)))
        else .error (.sectionFault "__rodata"
          (.nameTooLong offset.toInt.toNat (textLength s offset.toInt.toNat) s.size))
      else .error (.outOfBounds (offset.toInt % 2 ^ 64).toNat 4 s.size) := by
  have hfault : errorOf? (s.nameAt offset) = textFault? s offset.toInt := errorOf?_nameAt
  have hlow : -2 ^ 31 ≤ offset.toInt := Int32.le_toInt offset
  have hhigh : offset.toInt < 2 ^ 31 := Int32.toInt_lt offset
  by_cases hhead : s.HasHead offset.toInt
  · obtain ⟨hstart, hfour⟩ := hhead
    rw [if_pos ⟨hstart, hfour⟩]
    by_cases hroom : s.HasRoom offset.toInt
    · rw [if_pos hroom]
      have hplace : offset.toInt = offset.toInt.toNat := (Int.toNat_of_nonneg hstart).symm
      have hlast : offset.toInt + 3 + textLength s offset.toInt.toNat ≤ s.size := hroom
      exact nameAt_eq_ok_iff.2 ⟨offset.toInt.toNat, hplace, by omega, by omega, rfl⟩
    · rw [if_neg hroom]
      have hlast : ¬ offset.toInt + 3 + textLength s offset.toInt.toNat ≤ s.size := hroom
      rw [textFault?, if_neg (by omega), if_neg (by omega), if_pos (by omega)] at hfault
      exact errorOf?_eq_some_iff.1 hfault
  · rw [if_neg hhead]
    have hout : ¬ (0 ≤ offset.toInt ∧ offset.toInt + 4 ≤ s.size) := hhead
    by_cases hneg : offset.toInt < 0
    · have hword : (offset.toInt + 2 ^ 64).toNat = (offset.toInt % 2 ^ 64).toNat := by omega
      rw [textFault?, if_pos hneg, hword] at hfault
      exact errorOf?_eq_some_iff.1 hfault
    · have hword : offset.toInt.toNat = (offset.toInt % 2 ^ 64).toNat := by omega
      rw [textFault?, if_neg hneg, if_pos (by omega), hword] at hfault
      exact errorOf?_eq_some_iff.1 hfault

theorem Section.nameRead (s : Section) (offset : Int32) : s.NameRead offset := by
  refine {
    ok_iff := ?ok
    outOfBounds_iff := ?outOfBounds
    sectionFault_iff := ?sectionFault
    text_eq := fun {text} h => ?_
    independent := fun {text} h s' hfits hsame => ?_ }
  case ok | outOfBounds | sectionFault =>
    rw [s.nameAt_eq]
    split
    · split <;> simp [*]
    · simp [*]
  · obtain ⟨i, hi, -, -, rfl⟩ := nameAt_eq_ok_iff.1 h
    rw [hi, Int.toNat_natCast]
  · have htext := nameAt_eq_ok_iff.1 h
    have ⟨i, hi, _⟩ := htext
    rw [hi, Int.toNat_natCast] at hfits hsame
    rw [hi] at htext
    rw [nameAt_eq_ok_iff, hi]
    exact hasText_congr htext hfits hsame

/-! ## Records among other bytes -/

/-- A text has bytes unless it is empty. -/
theorem Utf8.encode_eq_nil_iff {text : String} : encode text = [] ↔ text = "" := by
  constructor
  · intro h
    have hback := lossy_encode text
    rw [h] at hback
    exact hback.symm
  · rintro rfl
    rfl

namespace NameRecord

/-- A name record with the bytes before and after it, its text short enough for the length and its
place low enough for an offset. -/
structure Placed where
  before : List UInt8
  flag : UInt8
  text : String
  after : List UInt8
  before_lt : before.length < 2 ^ 31
  text_le : (Utf8.encode text).length ≤ 65535

namespace Placed

variable (r : Placed)

/-- All the bytes, those of the record in the middle. -/
def bytes : List UInt8 :=
  r.before ++ encode r.flag r.text ++ r.after

def offset : Int32 :=
  Int32.ofNat r.before.length

/-- A section of the same name, address and byte order that consists of these bytes. -/
def within (d : TypeData) : TypeData :=
  { d with data := ⟨r.bytes.toArray⟩ }

theorem toInt_offset : r.offset.toInt = r.before.length :=
  Int32.toInt_ofNat_of_lt r.before_lt

theorem length_encode : (encode r.flag r.text).length = 3 + (Utf8.encode r.text).length := by
  rw [encode, List.length_append, List.length_cons, ByteOrder.length_encode]

variable (d : TypeData)

theorem size_within : (r.within d).size =
    r.before.length + 3 + (Utf8.encode r.text).length + r.after.length := by
  show r.bytes.length = _
  rw [bytes, List.length_append, List.length_append, length_encode]
  omega

/-- What stands `j` bytes after the start of the record. -/
theorem window_within (j n : Nat) : window (r.within d).data (r.before.length + j) n =
    ((encode r.flag r.text ++ r.after).drop j).take n := by
  show (r.bytes.drop (r.before.length + j)).take n = _
  rw [bytes, List.append_assoc, ← List.drop_drop, List.drop_left]

theorem textLength_within :
    textLength (r.within d).toSection r.before.length = (Utf8.encode r.text).length := by
  have hsize := r.size_within d
  have hfits : r.before.length + 1 + 2 ≤ (r.within d).data.size := by
    show _ ≤ (r.within d).size
    omega
  have hlen : (Utf8.encode r.text).length < 256 ^ 2 := Nat.lt_succ_of_le r.text_le
  have hbytes : window (r.within d).data (r.before.length + 1) 2 =
      ByteOrder.big.encode 2 (Utf8.encode r.text).length := by
    rw [window_within, encode, List.cons_append, List.cons_append, List.drop_succ_cons,
      List.drop_zero, List.append_assoc]
    exact List.take_left' (ByteOrder.length_encode _ _ _)
  rw [textLength_eq_wordAt, ← decode_window _ _ hfits, hbytes, ByteOrder.decode_encode,
    Nat.mod_eq_of_lt hlen]

theorem text_within : window (r.within d).data (r.before.length + 3) (Utf8.encode r.text).length =
    Utf8.encode r.text := by
  rw [window_within, encode, List.append_assoc]
  have hhead : (r.flag :: ByteOrder.big.encode 2 (Utf8.encode r.text).length).length = 3 := by
    rw [List.length_cons, ByteOrder.length_encode]
  rw [List.drop_left' hhead, List.take_left]

/-- An empty record at the very end is one byte short of what is asked for. -/
theorem hasHead_within : (r.within d).HasHead r.offset.toInt ↔ ¬ (r.text = "" ∧ r.after = []) := by
  have hsize := r.size_within d
  rw [← Utf8.encode_eq_nil_iff, ← List.length_eq_zero_iff, ← List.length_eq_zero_iff,
    Section.HasHead, toInt_offset]
  omega

theorem hasRoom_within : (r.within d).HasRoom r.offset.toInt := by
  have hsize := r.size_within d
  rw [Section.HasRoom, toInt_offset, Int.toNat_natCast, textLength_within]
  omega

/-- A record is read as its text, whatever its flag, the byte order and the bytes around it. -/
theorem nameAt_within : (r.within d).nameAt r.offset =
    if r.text = "" ∧ r.after = [] then
      .error (.outOfBounds r.before.length 4 (r.before.length + 3))
    else .ok r.text := by
  rw [Section.nameAt_eq, if_congr (r.hasHead_within d) rfl rfl, toInt_offset]
  by_cases hempty : r.text = "" ∧ r.after = []
  · have hsize : (r.within d).size = r.before.length + 3 := by
      rw [size_within, hempty.1, hempty.2]
      rfl
    have hword : ((r.before.length : Int) % 2 ^ 64).toNat = r.before.length := by
      have := r.before_lt
      omega
    rw [if_neg (not_not_intro hempty), if_pos hempty, hsize, hword]
  · have hroom := r.hasRoom_within d
    rw [toInt_offset] at hroom
    rw [if_pos hempty, if_pos hroom, if_neg hempty, Int.toNat_natCast, textLength_within,
      text_within, Utf8.lossy_encode]

/-- Records that are read alike hold the same text, wherever they stand. -/
theorem text_eq_of_nameAt_eq {r r' : Placed} {d d' : TypeData}
    (h : (r.within d).nameAt r.offset = (r'.within d').nameAt r'.offset) : r.text = r'.text := by
  rw [nameAt_within, nameAt_within] at h
  by_cases hr : r.text = "" ∧ r.after = []
  · by_cases hr' : r'.text = "" ∧ r'.after = []
    · rw [hr.1, hr'.1]
    · rw [if_pos hr, if_neg hr'] at h
      cases h
  · by_cases hr' : r'.text = "" ∧ r'.after = []
    · rw [if_neg hr, if_pos hr'] at h
      cases h
    · rw [if_neg hr, if_neg hr'] at h
      exact Except.ok.inj h

end Placed

end NameRecord

/-! ## All of it -/

/-- **Name records are read exactly.**  At every offset of every section the outcome is told by two
bounds and the bytes of the length and the text; every record that was written is read as its text,
an empty one at the very end apart; and records with different texts are never read alike. -/
theorem nameAt_exact (d : TypeData) :
    (∀ offset, d.NameRead offset) ∧
    (∀ r : NameRecord.Placed, (r.within d).nameAt r.offset =
      if r.text = "" ∧ r.after = [] then
        .error (.outOfBounds r.before.length 4 (r.before.length + 3))
      else .ok r.text) ∧
    ∀ (r r' : NameRecord.Placed) (d' : TypeData),
      (r.within d).nameAt r.offset = (r'.within d').nameAt r'.offset → r.text = r'.text :=
  ⟨d.nameRead, fun r => r.nameAt_within d,
    fun _ _ _ => NameRecord.Placed.text_eq_of_nameAt_eq⟩

/-- A name that ends its section. -/
def NameRecord.lastReader : Placed :=
  ⟨[0xff], 1, "io.Reader", [], by decide, by decide⟩

/-- The same place without a text. -/
def NameRecord.lastEmpty : Placed :=
  ⟨[0xff], 0, "", [], by decide, by decide⟩

/-- A name that ends its section is read, and so it is in a section with other bytes before its
length; an empty record in its place is refused. -/
theorem lastNames_read :
    (NameRecord.lastReader.within ⟨errorRodata, .little⟩).nameAt 1 = .ok "io.Reader" ∧
      (⟨"", "", 0, ⟨#[0, 0, 0, 9, 105, 111, 46, 82, 101, 97, 100, 101, 114]⟩⟩ : Section).nameAt 1 =
        .ok "io.Reader" ∧
      (NameRecord.lastEmpty.within ⟨errorRodata, .little⟩).nameAt 1 =
        .error (.outOfBounds 1 4 4) := by
  obtain ⟨-, hplaced, -⟩ := nameAt_exact ⟨errorRodata, .little⟩
  obtain ⟨hread, -, -⟩ := nameAt_exact (NameRecord.lastReader.within ⟨errorRodata, .little⟩)
  have hname := hplaced NameRecord.lastReader
  have hother := (hread 1).independent hname
    ⟨"", "", 0, ⟨#[0, 0, 0, 9, 105, 111, 46, 82, 101, 97, 100, 101, 114]⟩⟩
  exact ⟨hname, hother (by decide) (by decide +kernel), hplaced NameRecord.lastEmpty⟩

end ItabRecovery

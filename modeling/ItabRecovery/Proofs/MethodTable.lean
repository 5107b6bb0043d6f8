import ItabRecovery.Proofs.FirstFault
import ItabRecovery.Proofs.MachineWalk

/-!
# Method tables are read whole or not at all

The length of a method table is a word that a file states as it likes.  Recovery asks for the whole
table before it reads the first header.  A loop that checks header by header finds the same tables
(`plainTable_eq_ok_iff`), only that it reads all headers there are before it fails
(`headersFrom_eq`).

    d.methodTable t = .ok v ↔ t is empty, or all of t is in the section and v its headers
    d.methodTable t = .ok v → 8 * v.length ≤ d.size                    (methodTable_guarded)
-/

namespace ItabRecovery

open Reading

/-! ## Tables and loops -/

/-- All headers of a table that is not empty are in the section. -/
def Section.HoldsTable (s : Section) (t : SliceRecord) : Prop :=
  s.base.toNat ≤ t.data.toNat ∧ t.data.toNat < s.base.toNat + s.size ∧
    t.data.toNat - s.base.toNat + 8 * t.len.toNat ≤ s.size

instance (s : Section) (t : SliceRecord) : Decidable (s.HoldsTable t) :=
  inferInstanceAs (Decidable (_ ∧ _))

/-- The headers of a table by their places. -/
def Section.tableHeaders (s : Section) (o : ByteOrder) (t : SliceRecord) : List (Int × Int) :=
  (List.range t.len.toNat).map fun i => headerAt s o (t.data.toNat - s.base.toNat + 8 * i)

/-- What is reported of a table that is not in the section: its address if that is outside, else
its extent, or the largest word for an extent that no word holds. -/
def Section.tableFault (s : Section) (t : SliceRecord) : Error :=
  if s.base.toNat ≤ t.data.toNat ∧ t.data.toNat < s.base.toNat + s.size then
    .outOfBounds (t.data.toNat - s.base.toNat) (min (8 * t.len.toNat) (2 ^ 64 - 1)) s.size
  else .outOfBounds (t.data - s.base).toNat 0 s.size

/-- Where a table starts, once its bytes are there, or as many of them as a word can say. -/
def Section.tableSpan (s : Section) (t : SliceRecord) : Except Error Nat := do
  let start ← s.locate t.data
  let _ ← s.bytesAt start (min (8 * t.len.toNat) (2 ^ 64 - 1))
  return start

namespace TypeData

variable (d : TypeData)

/-- Reads `n` headers from an offset on, each after a check of its own eight bytes. -/
def headersFrom (start : Nat) : Nat → Except Error (List MethodEntry)
  | 0 => .ok []
  | n + 1 => do
    let header ← d.recordAt MethodEntry.layout d.order start 8
    let headers ← headersFrom (start + 8) n
    return header :: headers

/-- The method table read without asking for the whole of it first. -/
def plainTable (t : SliceRecord) : Except Error (List MethodEntry) :=
  if t.len = 0 then .ok []
  else do
    let start ← d.locate t.data
    d.headersFrom start t.len.toNat

end TypeData

namespace Machine

variable (d : TypeData)

/-- Where a method table starts, once the whole of it is known to be there. -/
def tableStart (table : SliceRecord) : Outcome UInt64 := do
  let start ← offsetOf d.toSection table.data
  let extent := (checkedMul table.len 8).getD (UInt64.ofNat (2 ^ 64 - 1))
  let _ ← span d.toSection start extent
  return start

/-- The method table in machine words, whatever it is that reads the header at an offset. -/
def tableBy (read : UInt64 → Outcome MethodEntry) (table : SliceRecord) :
    Outcome (List MethodEntry) :=
  if table.len = 0 then return []
  else do
    let start ← tableStart d table
    (List.range table.len.toNat).mapM fun i => do
      let distance ← mul (UInt64.ofNat i) 8
      let offset ← add start distance
      read offset

/-- The header at an offset, in machine words. -/
def headerAt (offset : UInt64) : Outcome MethodEntry :=
  record d.toSection MethodEntry.layout d.order offset 8

theorem tableBy_headerAt (t : SliceRecord) : tableBy d (headerAt d) t = methodTable d t := by
  unfold tableBy methodTable tableStart
  simp only [bind_assoc, pure_bind]
  rfl

end Machine

/-! ## The table by its length -/

section
variable {d : TypeData} {t : SliceRecord}

theorem toNat_len_ne_zero (h : t.len ≠ 0) : t.len.toNat ≠ 0 :=
  fun h0 => h (UInt64.toNat_inj.1 h0)

theorem hasTable_iff {hs : List (Int × Int)} :
    HasTable d.toSection d.order t.data.toNat t.len.toNat hs ↔
      t.len = 0 ∧ hs = [] ∨ t.len ≠ 0 ∧ d.HoldsTable t ∧ hs = d.tableHeaders d.order t := by
  unfold HasTable
  by_cases hempty : t.len = 0
  · simp [hempty]
  have hlen := toNat_len_ne_zero hempty
  simp only [hempty, hlen, false_and, false_or, ne_eq, not_false_eq_true, true_and]
  constructor
  · rintro ⟨-, i, ⟨haddr, hfit⟩, rfl⟩
    have hi : t.data.toNat - d.base.toNat = i := by omega
    refine ⟨⟨by omega, by omega, by omega⟩, ?_⟩
    rw [Section.tableHeaders, hi]
  · rintro ⟨⟨hbase, -, hfit⟩, rfl⟩
    exact ⟨by omega, t.data.toNat - d.base.toNat, ⟨by omega, hfit⟩, rfl⟩

theorem methodTable_eq_ok_iff_map {v : List MethodEntry} :
    d.methodTable t = .ok v ↔
      t.len = 0 ∧ v = [] ∨
        t.len ≠ 0 ∧ d.HoldsTable t ∧ v.map offsets = d.tableHeaders d.order t := by
  rw [← List.map_eq_nil_iff (f := offsets), ← hasTable_iff, ← methodTable_eq_ok_iff]
  constructor
  · exact fun h => ⟨v, h, rfl⟩
  · rintro ⟨es, hes, hmap⟩
    rwa [← List.map_injective_iff.2 Machine.offsets_injective hmap]

theorem exists_methodTable_eq_ok (hempty : t.len ≠ 0) (h : d.HoldsTable t) :
    ∃ v, d.methodTable t = .ok v := by
  obtain ⟨v, hv, -⟩ := methodTable_eq_ok_iff.2 (hasTable_iff.2 (Or.inr ⟨hempty, h, rfl⟩))
  exact ⟨v, hv⟩

theorem methodTable_eq_error (hempty : t.len ≠ 0) (hno : ¬d.HoldsTable t) :
    d.methodTable t = .error (d.tableFault t) := by
  have hlen := toNat_len_ne_zero hempty
  have hbase : d.base.toNat < 2 ^ 64 := UInt64.toNat_lt _
  have haddr : t.data.toNat < 2 ^ 64 := UInt64.toNat_lt _
  rw [← errorOf?_eq_some_iff, errorOf?_methodTable, if_neg hlen, Span.fault?, Section.tableFault]
  by_cases hin : d.base.toNat ≤ t.data.toNat ∧ t.data.toNat < d.base.toNat + d.size
  · have hlong : d.size < t.data.toNat - d.base.toNat + 8 * t.len.toNat := by
      by_contra hfit
      exact hno ⟨hin.1, hin.2, Nat.not_lt.1 hfit⟩
    rw [if_neg (by omega), if_pos hlong, if_pos hin]
  · have hdistance : (t.data - d.base).toNat =
        (t.data.toNat + 2 ^ 64 - d.base.toNat) % 2 ^ 64 := by
      rw [UInt64.toNat_sub]
      omega
    rw [if_pos (by omega), if_neg hin, hdistance]

end

/-! ## The loop without the check -/

section
variable {d : TypeData} {t : SliceRecord}

/-- A header is told by its first eight bytes. -/
theorem decode_window_eq {i n : Nat} (hn : i + n ≤ d.size) (h : 8 ≤ n) :
    MethodEntry.layout.decode d.order (window d.data i n) =
      MethodEntry.layout.decode d.order (window d.data i 8) := by
  have hfit : i + 8 ≤ d.data.size := Nat.le_trans (by omega) hn
  apply Machine.offsets_injective
  rw [offsets_decode hn h, offsets_decode hfit (Nat.le_refl 8)]

/-- The loop reads the whole table where it is there, and else all headers that are. -/
theorem headersFrom_eq {start n : Nat} (h : start ≤ d.size) :
    d.headersFrom start n =
      if start + 8 * n ≤ d.size then
        .ok (MethodEntry.layout.decodeMany d.order n (window d.data start (8 * n)))
      else .error (.outOfBounds (start + 8 * ((d.size - start) / 8)) 8 d.size) := by
  -- The start moves along with the count: the error names the first header that does not fit.
  induction n generalizing start with
  | zero =>
    rw [if_pos (by omega)]
    rfl
  | succ n ih =>
    rw [TypeData.headersFrom]
    by_cases hfirst : start + 8 ≤ d.size
    · have hrecord : d.recordAt MethodEntry.layout d.order start 8 =
          .ok (MethodEntry.layout.decode d.order (window d.data start 8)) :=
        Section.recordAt_eq_ok_iff.2 ⟨hfirst, rfl⟩
      have hplace : start + 8 + 8 * ((d.size - (start + 8)) / 8) =
          start + 8 * ((d.size - start) / 8) := by
        omega
      rw [hrecord, ih hfirst, hplace]
      by_cases hfit : start + 8 * (n + 1) ≤ d.size
      · have hrest : (window d.data start (8 * (n + 1))).drop 8 =
            window d.data (start + 8) (8 * n) := by
          rw [window, List.drop_take, List.drop_drop, window, Nat.mul_succ, Nat.add_sub_cancel]
        rw [if_pos (by omega), if_pos hfit, Layout.decodeMany, MethodEntry.size_layout, hrest,
          decode_window_eq hfit (by omega)]
        rfl
      · rw [if_neg (by omega), if_neg hfit]
        rfl
    · have hrecord : d.recordAt MethodEntry.layout d.order start 8 =
          .error (.outOfBounds start 8 d.size) := by
        rw [Section.recordAt, Section.bytesAt_eq_error (by omega)]
        rfl
      have hnone : (d.size - start) / 8 = 0 := by omega
      rw [hrecord, if_neg (by omega), hnone]
      rfl

theorem plainTable_eq_ok_iff {v : List MethodEntry} :
    d.plainTable t = .ok v ↔ d.methodTable t = .ok v := by
  unfold TypeData.plainTable TypeData.methodTable
  by_cases hempty : t.len = 0
  · rw [if_pos hempty, if_pos hempty]
  rw [if_neg hempty, if_neg hempty, bind_eq_ok_iff, bind_eq_ok_iff]
  apply exists_congr
  intro start
  apply and_congr_right
  intro hstart
  have hle : start ≤ d.size := Nat.le_of_lt (Section.locate_eq_ok_iff.1 hstart).2
  simp only [headersFrom_eq hle, MethodEntry.size_layout, Nat.mul_comm _ 8]
  by_cases hfit : start + 8 * t.len.toNat ≤ d.size
  · rw [if_pos hfit, slice?_eq_some_iff.2 ⟨hfit, rfl⟩]
    rfl
  · have hslice : slice? d.data start (8 * t.len.toNat) = none := if_neg hfit
    rw [if_neg hfit, hslice]
    simp [throw, throwThe, MonadExceptOf.throw]

end

/-! ## The check in machine words -/

namespace Machine

theorem mapM_congr {α β : Type} {f g : α → Outcome β} {l : List α} (h : ∀ a ∈ l, f a = g a) :
    l.mapM f = l.mapM g := by
  induction l with
  | nil => rfl
  | cons a l ih =>
    rw [List.mapM_cons, List.mapM_cons, h a List.mem_cons_self,
      ih fun b hb => h b (List.mem_cons_of_mem a hb)]

/-- The place of a header in a table that is there. -/
theorem place_eq {start : UInt64} {i : Nat} (h : start.toNat + i * 8 < 2 ^ 64)
    {read : UInt64 → Outcome MethodEntry} :
    (do
      let distance ← mul (UInt64.ofNat i) 8
      let offset ← add start distance
      read offset) = read (UInt64.ofNat (start.toNat + 8 * i)) := by
  have hword : (UInt64.ofNat i).toNat = i := by
    rw [UInt64.toNat_ofNat', Nat.mod_eq_of_lt (by omega)]
  have hproduct : (UInt64.ofNat i).toNat * (8 : UInt64).toNat = i * 8 := by rw [hword]; rfl
  have hdistance : (UInt64.ofNat i * 8).toNat = i * 8 := by
    rw [UInt64.toNat_mul, hproduct, Nat.mod_eq_of_lt (by omega)]
  have hsum : start + UInt64.ofNat i * 8 = UInt64.ofNat (start.toNat + 8 * i) := by
    apply UInt64.toNat_inj.1
    rw [UInt64.toNat_add, hdistance, UInt64.toNat_ofNat', Nat.mul_comm]
  rw [mul, if_pos (by omega)]
  show (add start (UInt64.ofNat i * 8) >>= read) = _
  rw [add, if_pos (by omega), hsum]
  rfl

section
variable {d : TypeData} {t : SliceRecord}

theorem tableSpan_eq_ok (h : d.HoldsTable t) :
    d.tableSpan t = .ok (t.data.toNat - d.base.toNat) := by
  obtain ⟨hbase, hin, hfit⟩ := h
  have hlocate : d.locate t.data = .ok (t.data.toNat - d.base.toNat) :=
    Section.locate_eq_ok_iff.2 (by omega)
  rw [Section.tableSpan, hlocate]
  show (d.bytesAt (t.data.toNat - d.base.toNat) _ >>= fun _ => _) = _
  rw [Section.bytesAt_eq_ok_iff.2 ⟨by omega, rfl⟩]
  rfl

/-- The check fails for every other table, also where the extent or the end of it is beyond all
words: no section is as long as the largest word. -/
theorem tableSpan_eq_error (hd : d.size < 2 ^ 63) (hempty : t.len ≠ 0) (h : ¬d.HoldsTable t) :
    d.tableSpan t = .error (d.tableFault t) := by
  have hlen := toNat_len_ne_zero hempty
  unfold Section.tableSpan Section.tableFault
  by_cases hin : d.base.toNat ≤ t.data.toNat ∧ t.data.toNat < d.base.toNat + d.size
  · have hlocate : d.locate t.data = .ok (t.data.toNat - d.base.toNat) :=
      Section.locate_eq_ok_iff.2 (by omega)
    have hlong : d.size < t.data.toNat - d.base.toNat + 8 * t.len.toNat := by
      by_contra hfit
      exact h ⟨hin.1, hin.2, by omega⟩
    rw [hlocate, if_pos hin]
    show (d.bytesAt (t.data.toNat - d.base.toNat) _ >>= fun _ => _) = _
    rw [Section.bytesAt_eq_error (by omega)]
    rfl
  · rw [Section.locate_eq_error (by omega), if_neg hin]
    rfl

variable (hd : d.size < 2 ^ 63)
include hd

theorem tableStart_follows (t : SliceRecord) :
    Follows Counts (tableStart d t) (d.tableSpan t) := by
  have hextent := toNat_checkedMul t.len 8
  rw [show (8 : UInt64).toNat = 8 from rfl, Nat.mul_comm] at hextent
  apply (offsetOf_follows hd t.data).bind
  rintro start _ rfl _
  have hspan := span_follows hd start ((checkedMul t.len 8).getD (UInt64.ofNat (2 ^ 64 - 1)))
  rw [hextent] at hspan
  apply hspan.bind
  intro _ _ _ _
  exact .value rfl

theorem tableStart_eq_value (h : d.HoldsTable t) :
    tableStart d t = .value (UInt64.ofNat (t.data.toNat - d.base.toNat)) := by
  have hfollows := tableStart_follows hd t
  rw [tableSpan_eq_ok h] at hfollows
  obtain ⟨start, hstart, hcount⟩ := hfollows.exists_value
  have hcount : start.toNat = t.data.toNat - d.base.toNat := hcount
  rw [hstart, ← hcount, UInt64.ofNat_toNat]

theorem tableStart_eq_error (hempty : t.len ≠ 0) (h : ¬d.HoldsTable t) :
    tableStart d t = .error (d.tableFault t) := by
  have hfollows := tableStart_follows hd t
  rw [tableSpan_eq_error hd hempty h] at hfollows
  exact hfollows.eq_error

/-- Whether a table is read is settled before its first header is asked for, and then each of its
headers is asked for once. -/
theorem tableBy_eq (read : UInt64 → Outcome MethodEntry) :
    tableBy d read t =
      match d.methodTable t with
      | .error e => .error e
      | .ok _ => (List.range t.len.toNat).mapM fun i =>
          read (UInt64.ofNat (t.data.toNat - d.base.toNat + 8 * i)) := by
  unfold tableBy
  by_cases hempty : t.len = 0
  · have hnil : d.methodTable t = .ok [] := if_pos hempty
    rw [if_pos hempty, hnil, hempty]
    rfl
  rw [if_neg hempty]
  by_cases hholds : d.HoldsTable t
  · obtain ⟨v, hv⟩ := exists_methodTable_eq_ok hempty hholds
    rw [tableStart_eq_value hd hholds, hv]
    show (List.range t.len.toNat).mapM _ = (List.range t.len.toNat).mapM _
    apply mapM_congr
    intro i hi
    have hi : i < t.len.toNat := List.mem_range.1 hi
    have hword : (UInt64.ofNat (t.data.toNat - d.base.toNat)).toNat =
        t.data.toNat - d.base.toNat := by
      have := hholds.2.2
      rw [UInt64.toNat_ofNat', Nat.mod_eq_of_lt (by omega)]
    have := hholds.2.2
    rw [place_eq (by omega), hword]
  · rw [tableStart_eq_error hd hempty hholds, methodTable_eq_error hempty hholds]
    rfl

end

end Machine

/-! ## Guarded tables -/

/-- A method table is read if it is empty or all in the section, and then it has as many headers as
it says, the ones at its places, which a loop without the check would find as well, and no others.
The section bounds their number.  In machine words the check comes before the first header: where it
fails, it does so whatever reading a header would do. -/
theorem methodTable_guarded (d : TypeData) (t : SliceRecord) :
    (∀ v, d.methodTable t = .ok v ↔
      t.len = 0 ∧ v = [] ∨
        t.len ≠ 0 ∧ d.HoldsTable t ∧ v.map offsets = d.tableHeaders d.order t) ∧
    (∀ v, d.plainTable t = .ok v ↔ d.methodTable t = .ok v) ∧
    (t.len ≠ 0 → ¬d.HoldsTable t → d.methodTable t = .error (d.tableFault t)) ∧
    (∀ v, d.methodTable t = .ok v → v.length = t.len.toNat ∧ 8 * v.length ≤ d.size) ∧
    (∀ cap, d.methodTable { t with cap := cap } = d.methodTable t) ∧
    Machine.tableBy d (Machine.headerAt d) t = Machine.methodTable d t ∧
    (d.size < 2 ^ 63 →
      Machine.methodTable d t = .lift (d.methodTable t) ∧
      (∀ e, d.methodTable t = .error e → ∀ read, Machine.tableBy d read t = .error e) ∧
      ∀ v, d.methodTable t = .ok v → ∀ read, Machine.tableBy d read t =
        (List.range v.length).mapM fun i =>
          read (UInt64.ofNat (t.data.toNat - d.base.toNat + 8 * i))) := by
  have hlength : ∀ v, d.methodTable t = .ok v →
      v.length = t.len.toNat ∧ 8 * v.length ≤ d.size := by
    intro v hv
    rcases methodTable_eq_ok_iff_map.1 hv with ⟨hempty, rfl⟩ | ⟨-, ⟨-, -, hfit⟩, hmap⟩
    · rw [hempty]
      exact ⟨rfl, Nat.zero_le _⟩
    · have hlen := congrArg List.length hmap
      rw [List.length_map, Section.tableHeaders, List.length_map, List.length_range] at hlen
      exact ⟨hlen, by omega⟩
  refine ⟨fun v => methodTable_eq_ok_iff_map, fun v => plainTable_eq_ok_iff, methodTable_eq_error,
    hlength, fun cap => rfl, Machine.tableBy_headerAt d t,
    fun hd => ⟨(Machine.methodTable_follows hd t).eq_lift, fun e he read => ?_,
      fun v hv read => ?_⟩⟩
  · rw [Machine.tableBy_eq hd, he]
  · rw [Machine.tableBy_eq hd, hv, (hlength v hv).1]

/-- A table of two headers, and one that says it has 2^61 + 1: eight times as much is 8 in a word,
so that a check with wrapped words would let it pass. -/
theorem errorTable_guarded :
    (⟨0x1070, 2, 2⟩ : SliceRecord).len ≠ 0 ∧ errorRodata.HoldsTable ⟨0x1070, 2, 2⟩ ∧
      errorRodata.size < 2 ^ 63 ∧
      TypeData.plainTable ⟨errorRodata, .little⟩ ⟨0x1070, 2, 7⟩ = .ok [⟨0, 128⟩, ⟨288, 128⟩] ∧
      (∀ read, Machine.tableBy ⟨errorRodata, .little⟩ read ⟨0x1070, 2, 2⟩ =
        [0, 1].mapM fun i => read (UInt64.ofNat (0x70 + 8 * i))) ∧
      (⟨0xffffffffffffff90, 0x2000000000000001, 0⟩ : SliceRecord).len ≠ 0 ∧
      ¬Machine.endlessRodata.HoldsTable ⟨0xffffffffffffff90, 0x2000000000000001, 0⟩ ∧
      Machine.endlessRodata.size < 2 ^ 63 ∧
      ∀ read, Machine.tableBy ⟨Machine.endlessRodata, .little⟩ read
          ⟨0xffffffffffffff90, 0x2000000000000001, 0⟩ =
        .error (.outOfBounds 16 (2 ^ 64 - 1) 112) := by
  have hread : TypeData.methodTable ⟨errorRodata, .little⟩ ⟨0x1070, 2, 2⟩ =
      .ok [⟨0, 128⟩, ⟨288, 128⟩] := by
    decide +kernel
  have hno : ¬Machine.endlessRodata.HoldsTable ⟨0xffffffffffffff90, 0x2000000000000001, 0⟩ := by
    decide +kernel
  have hsize : errorRodata.size < 2 ^ 63 := by decide +kernel
  have hsize' : Machine.endlessRodata.size < 2 ^ 63 := by decide +kernel
  obtain ⟨hiff, -, -, -, hcap, -, hwords⟩ :=
    methodTable_guarded ⟨errorRodata, .little⟩ ⟨0x1070, 2, 2⟩
  obtain ⟨-, hplain, -⟩ := methodTable_guarded ⟨errorRodata, .little⟩ ⟨0x1070, 2, 7⟩
  obtain ⟨-, -, hfault, -, -, -, hwords'⟩ := methodTable_guarded ⟨Machine.endlessRodata, .little⟩
    ⟨0xffffffffffffff90, 0x2000000000000001, 0⟩
  have hfails := hfault (by decide) hno
  have hreport : Machine.endlessRodata.tableFault ⟨0xffffffffffffff90, 0x2000000000000001, 0⟩ =
      .outOfBounds 16 (2 ^ 64 - 1) 112 := by
    decide +kernel
  rw [hreport] at hfails
  have hholds : errorRodata.HoldsTable ⟨0x1070, 2, 2⟩ := by
    rcases (hiff _).1 hread with ⟨hempty, -⟩ | ⟨-, hholds, -⟩
    · cases hempty
    · exact hholds
  exact ⟨by decide, hholds, hsize, (hplain _).2 ((hcap 7).trans hread), (hwords hsize).2.2 _ hread,
    by decide, hno, hsize', (hwords' hsize').2.1 _ hfails⟩

end ItabRecovery

import ItabRecovery.Proofs.FirstFault
import ItabRecovery.Proofs.MachineWalk

/-!
# Reports of missing bytes are true

An error names an offset, a length and the size of the section.  Whatever is asked of a section that
does not reach past the last address, the bytes it reports as missing are missing, in plain
arithmetic and not only modulo 2^64:

    d.dispatchAt addr = .error e → e.ReportsBytes d.toSection
    s.nameAt offset = .error e → e.ReportsText s                     (reports_truthful)
-/

namespace ItabRecovery

open Reading

/-! ## Reports -/

/-- An error that tells bytes of a section to be missing which are: a span that goes past the end
or, with length 0, an address whose offset is none of the section's. -/
def Error.ReportsBytes (s : Section) (e : Error) : Prop :=
  ∃ offset len, e = .outOfBounds offset len s.size ∧
    (0 < len → s.size < offset + len) ∧ (len = 0 → s.size ≤ offset)

/-- The same for the text of a name record, whose length is the word after its flag byte: its first
four bytes are there, its last ones are not. -/
def Error.ReportsText (s : Section) (e : Error) : Prop :=
  e.ReportsBytes s ∨
    ∃ offset len, e = .sectionFault rodataName (.nameTooLong offset len s.size) ∧
      offset + 4 ≤ s.size ∧ s.size < offset + 3 + len ∧
      len = wordAt s.data .big 2 (offset + 1)

/-- Whatever error a run ends with is of a kind. -/
def FailsOnly {α : Type} (P : Error → Prop) (x : Except Error α) : Prop :=
  ∀ e, x = .error e → P e

namespace FailsOnly

variable {α β : Type} {P : Error → Prop}

theorem ok (a : α) : FailsOnly P (.ok a) := by
  intro e he
  cases he

theorem bind {x : Except Error α} {f : α → Except Error β} (hx : FailsOnly P x)
    (hf : ∀ a, x = .ok a → FailsOnly P (f a)) : FailsOnly P (x >>= f) := by
  cases x with
  | error e =>
    intro e' he
    obtain rfl := Except.error.inj he
    exact hx e rfl
  | ok a => exact hf a rfl

theorem mapM {f : α → Except Error β} {l : List α} (hf : ∀ a ∈ l, FailsOnly P (f a)) :
    FailsOnly P (l.mapM f) := by
  induction l with
  | nil => exact ok []
  | cons a l ih =>
    rw [List.mapM_cons]
    apply (hf a List.mem_cons_self).bind
    intro b _
    apply (ih fun c hc => hf c (List.mem_cons_of_mem a hc)).bind
    intro bs _
    exact ok _

end FailsOnly

/-! ## Addresses and spans -/

section
variable {s : Section}

theorem reportsBytes_of_span {offset len : Nat} (hlen : 0 < len) (h : s.size < offset + len) :
    (Error.outOfBounds offset len s.size).ReportsBytes s :=
  ⟨offset, len, rfl, fun _ => h, fun h0 => absurd h0 (by omega)⟩

/-- The distance from the base to an address below it wraps, but not into the section. -/
theorem locate_reports (hwrap : s.base.toNat + s.size ≤ 2 ^ 64) (addr : UInt64) :
    FailsOnly (·.ReportsBytes s) (s.locate addr) := by
  intro e he
  have hbase : s.base.toNat < 2 ^ 64 := UInt64.toNat_lt _
  have haddr : addr.toNat < 2 ^ 64 := UInt64.toNat_lt _
  by_cases hout : addr.toNat < s.base.toNat ∨ s.base.toNat + s.size ≤ addr.toNat
  · rw [Section.locate_eq_error hout] at he
    obtain rfl := Except.error.inj he
    have hpast : s.size ≤ (addr - s.base).toNat := by
      rw [UInt64.toNat_sub]
      omega
    exact ⟨_, 0, rfl, fun h => absurd h (Nat.lt_irrefl 0), fun _ => hpast⟩
  · have hlocate : s.locate addr = .ok (addr.toNat - s.base.toNat) :=
      Section.locate_eq_ok_iff.2 (by omega)
    rw [hlocate] at he
    cases he

theorem bytesAt_reports (offset len : Nat) :
    FailsOnly (·.ReportsBytes s) (s.bytesAt offset len) := by
  intro e he
  by_cases hout : s.size < offset + len
  · rw [Section.bytesAt_eq_error hout] at he
    obtain rfl := Except.error.inj he
    exact ⟨offset, len, rfl, fun _ => hout, fun h0 => by omega⟩
  · rw [Section.bytesAt_eq_ok_iff.2 ⟨Nat.not_lt.1 hout, rfl⟩] at he
    cases he

theorem recordAt_reports {α : Type} {l : Layout α} {o : ByteOrder} (offset len : Nat) :
    FailsOnly (·.ReportsBytes s) (s.recordAt l o offset len) := by
  apply (bytesAt_reports offset len).bind
  intro bytes _
  exact .ok _

end

/-! ## The graph -/

section
variable {d : TypeData} (hwrap : d.base.toNat + d.size ≤ 2 ^ 64)
include hwrap

theorem typeAt_reports (addr : UInt64) :
    FailsOnly (·.ReportsBytes d.toSection) (d.typeAt addr) := by
  apply (locate_reports hwrap addr).bind
  intro offset _
  exact recordAt_reports offset _

theorem slotTypes_reports (start count : Nat) :
    FailsOnly (·.ReportsBytes d.toSection) (d.slotTypes start count) := by
  apply FailsOnly.mapM
  intro i _
  apply (bytesAt_reports _ _).bind
  intro slot _
  exact typeAt_reports hwrap _

theorem methodOf_reports (header : MethodEntry) :
    FailsOnly (·.ReportsBytes d.toSection) (d.methodOf header) := by
  apply (recordAt_reports _ _).bind
  intro func _
  apply (slotTypes_reports hwrap _ _).bind
  intro inputs _
  apply (slotTypes_reports hwrap _ _).bind
  intro outputs _
  exact .ok _

variable (hsize : d.size < 2 ^ 63)
include hsize

/-- The extent of a table is reported as a word; the section is too short for the largest one. -/
theorem methodTable_reports (t : SliceRecord) :
    FailsOnly (·.ReportsBytes d.toSection) (d.methodTable t) := by
  unfold TypeData.methodTable
  by_cases hempty : t.len = 0
  · rw [if_pos hempty]
    exact .ok _
  have hlen : t.len.toNat ≠ 0 := fun h0 => hempty (UInt64.toNat_inj.1 h0)
  rw [if_neg hempty]
  apply (locate_reports hwrap t.data).bind
  intro start _
  simp only [MethodEntry.size_layout, TypeData.maxLength]
  by_cases hfit : start + t.len.toNat * 8 ≤ d.size
  · rw [slice?_eq_some_iff.2 ⟨hfit, rfl⟩]
    exact .ok _
  · have hslice : slice? d.data start (t.len.toNat * 8) = none := if_neg hfit
    rw [hslice]
    intro e he
    obtain rfl := Except.error.inj he
    exact reportsBytes_of_span (by omega) (by omega)

theorem interfaceAt_reports (addr : UInt64) :
    FailsOnly (·.ReportsBytes d.toSection) (d.interfaceAt addr) := by
  apply (locate_reports hwrap addr).bind
  intro offset _
  apply (recordAt_reports offset _).bind
  intro raw _
  apply (methodTable_reports hwrap hsize raw.methods).bind
  intro methods _
  exact .ok _

theorem dispatchAt_reports (addr : UInt64) :
    FailsOnly (·.ReportsBytes d.toSection) (d.dispatchAt addr) := by
  apply (locate_reports hwrap addr).bind
  intro offset _
  apply (recordAt_reports offset _).bind
  intro record _
  apply (interfaceAt_reports hwrap hsize record.interface).bind
  intro interface _
  apply (typeAt_reports hwrap record.concrete).bind
  intro concrete _
  apply (FailsOnly.mapM fun header _ => methodOf_reports hwrap header).bind
  intro methods _
  exact .ok _

end

/-! ## Texts -/

/-- A negative offset is reported as a word, which is far beyond the end. -/
theorem nameAt_reports {s : Section} (hsize : s.size < 2 ^ 63) (offset : Int32) :
    FailsOnly (·.ReportsText s) (s.nameAt offset) := by
  intro e he
  rw [← errorOf?_eq_some_iff, errorOf?_nameAt, textFault?] at he
  have hlow : -2 ^ 31 ≤ offset.toInt := Int32.le_toInt offset
  split at he
  · obtain rfl := Option.some.inj he
    exact Or.inl (reportsBytes_of_span (by decide) (by omega))
  split at he
  · next hhead =>
    obtain rfl := Option.some.inj he
    exact Or.inl (reportsBytes_of_span (by decide) hhead)
  split at he
  · next hhead htext =>
    obtain rfl := Option.some.inj he
    exact Or.inr ⟨_, _, rfl, by omega, htext, textLength_eq_wordAt _ _⟩
  · cases he

/-! ## All operations -/

/-- Every error of every operation is a true report.  The section does not reach past the last
address, and it has fewer than 2^63 bytes, as everything in memory has. -/
theorem reports_truthful (d : TypeData) (hwrap : d.base.toNat + d.size ≤ 2 ^ 64)
    (hsize : d.size < 2 ^ 63) :
    (∀ addr, FailsOnly (·.ReportsBytes d.toSection) (d.locate addr)) ∧
    (∀ offset len, FailsOnly (·.ReportsBytes d.toSection) (d.bytesAt offset len)) ∧
    (∀ offset, FailsOnly (·.ReportsBytes d.toSection) (d.dispatchRecordAt offset)) ∧
    (∀ addr, FailsOnly (·.ReportsBytes d.toSection) (d.interfaceAt addr)) ∧
    (∀ t, FailsOnly (·.ReportsBytes d.toSection) (d.methodTable t)) ∧
    (∀ addr, FailsOnly (·.ReportsBytes d.toSection) (d.typeAt addr)) ∧
    (∀ offset, FailsOnly (·.ReportsBytes d.toSection) (d.funcAt offset)) ∧
    (∀ addr, FailsOnly (·.ReportsBytes d.toSection) (d.dispatchAt addr)) ∧
    ∀ offset, FailsOnly (·.ReportsText d.toSection) (d.nameAt offset) :=
  ⟨locate_reports hwrap, bytesAt_reports, fun offset => recordAt_reports offset _,
    interfaceAt_reports hwrap hsize, methodTable_reports hwrap hsize, typeAt_reports hwrap,
    fun offset => recordAt_reports offset _, dispatchAt_reports hwrap hsize,
    nameAt_reports hsize⟩

/-- A section near the last address: an address before it, a table of no possible length, a negative
offset and a name record with a length of 65535. -/
theorem endlessRodata_reports :
    Machine.endlessRodata.base.toNat + Machine.endlessRodata.size ≤ 2 ^ 64 ∧
      Machine.endlessRodata.size < 2 ^ 63 ∧
      Machine.endlessRodata.locate 0 = .error (.outOfBounds 128 0 112) ∧
      (Error.outOfBounds 128 0 112).ReportsBytes Machine.endlessRodata ∧
      TypeData.dispatchAt ⟨Machine.endlessRodata, .little⟩ 0xffffffffffffff80 =
        .error (.outOfBounds 16 (2 ^ 64 - 1) 112) ∧
      (Error.outOfBounds 16 (2 ^ 64 - 1) 112).ReportsBytes Machine.endlessRodata ∧
      Machine.endlessRodata.nameAt (-1) = .error (.outOfBounds (2 ^ 64 - 1) 4 112) ∧
      (Error.outOfBounds (2 ^ 64 - 1) 4 112).ReportsText Machine.endlessRodata ∧
      Machine.endlessRodata.nameAt 0 =
        .error (.sectionFault "__rodata" (.nameTooLong 0 65535 112)) ∧
      (Error.sectionFault "__rodata" (.nameTooLong 0 65535 112)).ReportsText
        Machine.endlessRodata := by
  have hwrap : Machine.endlessRodata.base.toNat + Machine.endlessRodata.size ≤ 2 ^ 64 := by
    decide +kernel
  have hsize : Machine.endlessRodata.size < 2 ^ 63 := by decide +kernel
  have hlocate : Machine.endlessRodata.locate 0 = .error (.outOfBounds 128 0 112) := by
    decide +kernel
  have hdispatch : TypeData.dispatchAt ⟨Machine.endlessRodata, .little⟩ 0xffffffffffffff80 =
      .error (.outOfBounds 16 (2 ^ 64 - 1) 112) := by
    decide +kernel
  have hnegative : Machine.endlessRodata.nameAt (-1) =
      .error (.outOfBounds (2 ^ 64 - 1) 4 112) := by
    decide +kernel
  have hname : Machine.endlessRodata.nameAt 0 =
      .error (.sectionFault "__rodata" (.nameTooLong 0 65535 112)) := by
    decide +kernel
  obtain ⟨hlocates, -, -, -, -, -, -, hdispatches, hnames⟩ :=
    reports_truthful ⟨Machine.endlessRodata, .little⟩ hwrap hsize
  exact ⟨hwrap, hsize, hlocate, hlocates 0 _ hlocate, hdispatch, hdispatches _ _ hdispatch,
    hnegative, hnames _ _ hnegative, hname, hnames _ _ hname⟩

/-- The second byte of a section that goes on at address 0 is reported to be outside, with offset 1
of 2. -/
example : (⟨"__rodata", "", 0xffffffffffffffff, ⟨#[0, 0]⟩⟩ : Section).locate 0 =
    .error (.outOfBounds 1 0 2) := by
  decide

end ItabRecovery

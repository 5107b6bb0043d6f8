import ItabRecovery.Proofs.Extraction
import ItabRecovery.Proofs.FileWriting
import ItabRecovery.Proofs.Recognition
import ItabRecovery.Proofs.Utf8

/-!
# What files were written with is read back

A file that carries a plan is walked through: its header promises two load commands, the first leads
to the headers of the sections and those to their contents, the second to the symbols and those to
their names.  Every check on the way is passed, whatever the number and the sizes of the parts:

    ofFile plan.file = .ok (.machO ⟨⟨true, .little⟩, plan.image⟩)      (ofFile_written)
-/

namespace ItabRecovery.MachO

/-! ## Texts -/

theorem textEnd_of_standsAt {file : ByteArray} {x : List UInt8} {i : Nat} (hx : 0 ∉ x)
    (h : standsAt file (x ++ [0]) i = true) : textEnd file i = i + x.length := by
  induction x generalizing i with
  | nil =>
    obtain ⟨⟨hi, hzero⟩, -⟩ := byte_of_standsAt_cons h
    rw [textEnd, dif_pos hi, if_pos hzero]
    rfl
  | cons c x ih =>
    obtain ⟨⟨hi, hc⟩, hrest⟩ := byte_of_standsAt_cons h
    obtain ⟨hne, hx⟩ := not_or.1 (fun hmem => hx (List.mem_cons.2 hmem))
    rw [textEnd, dif_pos hi, if_neg (fun hzero => hne (hzero.symm.trans hc)), ih hx hrest,
      List.length_cons]
    omega

/-- A name is found where it stands with its NUL. -/
theorem textAt?_of_standsAt {file : ByteArray} {name : String} {i : Nat}
    (hname : 0 ∉ Utf8.encode name) (h : standsAt file (Writing.terminated name) i = true) :
    textAt? file i = some name := by
  have hslice : slice? file i (Utf8.encode name).length = some (Utf8.encode name) :=
    beq_iff_eq.1 (standsAt_append.1 h).1
  rw [textAt?, textEnd_of_standsAt hname h, Nat.add_sub_cancel_left, hslice, Option.bind_some,
    Utf8.strict?_encode]

theorem trimNul_nameField {name : String} (h : 0 ∉ Utf8.encode name) :
    trimNul (Writing.nameField name) = Utf8.encode name := by
  have hall : ∀ b ∈ Utf8.encode name, (b != 0) = true := by
    intro b hb
    rw [bne_iff_ne]
    rintro rfl
    exact h hb
  have hzeros : ∀ n, (List.replicate n (0 : UInt8)).takeWhile (· != 0) = [] := by
    intro n
    cases n with
    | zero => rfl
    | succ n => rfl
  rw [trimNul, Writing.nameField, List.takeWhile_append_of_pos hall, hzeros, List.append_nil]

/-! ## Tables -/

/-- Records in a row are read back. -/
theorem records?_of_standsAt {α : Type} {file : ByteArray} {l : Layout α} {o : ByteOrder}
    {vs : List α} {i : Nat} (hvs : ∀ v ∈ vs, l.Keeps o v)
    (h : standsAt file (vs.flatMap (l.encode o)) i = true) :
    records? file l o i vs.length = some vs := by
  have hfit := (standsAt_iff.1 h).1
  rw [length_flatMap_encode hvs, Nat.mul_comm] at hfit
  rw [records?, if_pos (Or.inr hfit), mapM_eq_some_iff]
  apply forall₂_range rfl
  intro k hk
  exact record?_of_standsAt (hvs _ (List.getElem_mem hk)) (standsAt_flatMap hvs h hk)

/-! ## Sections and symbols -/

/-- The contents of a section are found where its header says. -/
theorem sectionData_of_standsAt {file data : ByteArray} {s : SectionHeader}
    (hfilled : s.isZeroFill = false) (hsize : s.size.toNat = data.size)
    (h : standsAt file data.data.toList s.offset.toNat = true) : sectionData file s = data := by
  have hslice : slice? file s.offset.toNat data.size = some data.data.toList := beq_iff_eq.1 h
  unfold slice? at hslice
  split at hslice
  · next hfit =>
    have hbytes : (file.extract s.offset.toNat (s.offset.toNat + data.size)).data = data.data :=
      Array.toList_inj.1 (Option.some.inj hslice)
    rw [sectionData, if_neg (by rw [hfilled, hsize]; simp; omega), hsize]
    exact ByteArray.ext hbytes
  · cases hslice

namespace Writing

variable {file : ByteArray}

/-! Whatever is counted in a file below 2^32 bytes fits in the words of both widths. -/

theorem toNat_ofNat_u32 {n : Nat} (h : n < 2 ^ 32) : (UInt32.ofNat n).toNat = n :=
  UInt32.toNat_ofNat_of_lt' h

theorem toNat_ofNat_u64 {n : Nat} (h : n < 2 ^ 32) : (UInt64.ofNat n).toNat = n :=
  UInt64.toNat_ofNat_of_lt' (Nat.lt_trans h (by decide))

/-- The sections whose contents stand in a row. -/
theorem sections_of_standsAt {l : List (Section × SectionHeader)} {offset : Nat}
    (hnames : ∀ s ∈ l, FitsField s.1.name ∧ FitsField s.1.segment)
    (hfilled : ∀ s ∈ l, s.2.isZeroFill = false) (hshort : file.size < 2 ^ 32)
    (h : standsAt file (l.flatMap fun s => s.1.data.data.toList) offset = true) :
    List.Forall₂ (fun r s => (parsedSection file r).copy = .ok s) (sectionHeaders offset l)
      (l.map Prod.fst) := by
  -- The offset moves on by the size of each section.
  induction l generalizing offset with
  | nil => exact .nil
  | cons head l ih =>
    obtain ⟨s, r⟩ := head
    obtain ⟨⟨hname, hsegment⟩, hnames⟩ := List.forall_mem_cons.1 hnames
    obtain ⟨hr, hfilled⟩ := List.forall_mem_cons.1 hfilled
    obtain ⟨hdata, hrest⟩ := standsAt_append.1 h
    have hfit : offset + s.data.size ≤ file.size := (standsAt_iff.1 hdata).1
    refine .cons ?_ (ih hnames hfilled hrest)
    have hoffset := toNat_ofNat_u32 (n := offset) (by omega)
    have hsize := toNat_ofNat_u64 (n := s.data.size) (by omega)
    rw [← hoffset] at hdata
    have hsection :=
      sectionData_of_standsAt (s := (sectionHeaders offset [(s, r)])[0]) hr hsize hdata
    have hname := trimNul_nameField hname.plain
    have hsegment := trimNul_nameField hsegment.plain
    have hcopy : (parsedSection file (sectionHeaders offset [(s, r)])[0]).copy =
        .ok ⟨s.name, s.segment, s.base, s.data⟩ := by
      simp only [sectionHeaders, List.getElem_cons_zero] at hsection ⊢
      simp only [ParsedSection.copy, parsedSection, hname, hsegment, hsection, Utf8.strict?_encode]
      rfl
    exact hcopy

/-- The symbols whose names stand in a row from an offset of the string table on. -/
theorem symbols_of_standsAt {l : List (Symbol × SymbolEntry)} {strings offset : Nat}
    (hnames : ∀ s ∈ l, 0 ∉ Utf8.encode s.1.name) (hshort : file.size < 2 ^ 32)
    (h : standsAt file (l.flatMap fun s => terminated s.1.name) (strings + offset) = true) :
    List.Forall₂ (fun e s => (readable (textAt? file (strings + e.name.toNat))).map (·, e.value) =
        .ok (s.name, s.value))
      (symbolEntries offset l) (l.map Prod.fst) := by
  induction l generalizing offset with
  | nil => exact .nil
  | cons head l ih =>
    obtain ⟨s, e⟩ := head
    obtain ⟨hname, hnames⟩ := List.forall_mem_cons.1 hnames
    obtain ⟨htext, hrest⟩ := standsAt_append.1 h
    have hfit := (standsAt_iff.1 htext).1
    rw [Nat.add_assoc] at hrest
    refine .cons ?_ (ih hnames hrest)
    have hoffset := toNat_ofNat_u32 (n := offset) (by omega)
    simp only [hoffset, textAt?_of_standsAt hname htext]
    rfl

/-! ## Load commands -/

theorem commandAt_eq {o : ByteOrder} {start : Nat} {head : CommandHeader}
    (h : record? file CommandHeader.layout o start = some head)
    (hsize : start + head.size.toNat ≤ file.size)
    (hrecord : start + recordSize head.command ≤ file.size) :
    Survey.commandAt file o start = .ok head := by
  have hleft : ¬file.size - start < head.size.toNat := by omega
  have hroom : ¬file.size - start < recordSize head.command := by omega
  unfold Survey.commandAt
  rw [require_eq_ok_iff.2 h]
  simp only [bind, Except.bind, hleft, hroom, if_false]
  rfl

theorem addSegment_eq {o : ByteOrder} {start : Nat} {s : Survey} {c : SegmentCommand}
    (h : record? file (SegmentCommand.layout true) o start = some c)
    (hmapped : c.fileOffset.toNat + c.fileSize.toNat ≤ file.size) :
    s.addSegment file o true start = .ok { s with segments := (start, c) :: s.segments } := by
  have hroom : ¬(c.fileSize ≠ 0 ∧ file.size < c.fileOffset.toNat + c.fileSize.toNat) := by omega
  unfold Survey.addSegment
  rw [require_eq_ok_iff.2 h]
  simp only [bind, Except.bind, hroom, if_false]
  rfl

theorem addSymbolTable_eq {o : ByteOrder} {start : Nat} {s : Survey} {c : SymbolTableCommand}
    (h : record? file SymbolTableCommand.layout o start = some c)
    (hsymbols : c.symbolsOffset.toNat ≤ file.size)
    (hstrings : c.symbolsOffset.toNat ≤ c.stringsOffset.toNat) :
    s.addSymbolTable file o start = .ok { s with symbolTable := some c } := by
  have hafter : ¬c.stringsOffset < c.symbolsOffset := by
    rw [UInt32.lt_iff_toNat_lt]
    omega
  have hroom : ¬file.size < c.symbolsOffset.toNat := by omega
  unfold Survey.addSymbolTable
  rw [require_eq_ok_iff.2 h]
  simp only [bind, Except.bind, hafter, hroom, if_false]
  rfl

/-- One step of the walk. -/
theorem walk_succ {o : ByteOrder} {processor : UInt32} {n start : Nat} {s s' : Survey}
    {head : CommandHeader} (hhead : Survey.commandAt file o start = .ok head)
    (hadd : s.add file o processor head.command start = .ok s') :
    s.walk file o processor (n + 1) start =
      s'.walk file o processor n (start + head.size.toNat) := by
  rw [Survey.walk, hhead]
  show (s.add file o processor head.command start >>= _) = _
  rw [hadd]
  rfl

/-! ## The walk through a file -/

section
variable {plan : Plan} (h : Carries file plan)
include h

theorem Carries.bounds :
    plan.segmentSize = 72 + 80 * plan.sections.length ∧
      plan.symbolTableStart = 32 + plan.segmentSize ∧
      plan.symbolTableStart + 24 ≤ plan.contentsStart ∧
      plan.contentsStart + plan.contents.length = plan.symbolsStart ∧
      plan.symbolsStart + 16 * plan.symbols.length = plan.stringsStart ∧
      plan.stringsStart < file.size := by
  have hsize := h.size
  have hstrings : 0 < plan.strings.length := Nat.succ_pos _
  refine ⟨rfl, rfl, Nat.le_add_right _ _, rfl, rfl, by omega⟩

theorem Carries.flavorOf_eq : flavorOf file = .ok ⟨true, .little⟩ := by
  have hmagic : Layout.u32.encode .little 0xfeedfacf = Layout.u32.encode .big 0xcffaedfe := by
    decide
  have hstands : standsAt file (Layout.u32.encode .little 0xfeedfacf) 0 = true :=
    (standsAt_append.1 h.header).1
  rw [hmagic] at hstands
  exact flavorOf_eq_ok_iff.2 ⟨0xcffaedfe, record?_of_standsAt .u32 hstands, rfl⟩

theorem Carries.headerOf_eq : headerOf file ⟨true, .little⟩ = .ok plan.fileHeader := by
  obtain ⟨hsegment, htable, hcontents, hsymbols, hstrings, hend⟩ := h.bounds
  have hshort := h.short
  have hsize : plan.fileHeader.commandsSize.toNat = plan.segmentSize + 24 :=
    toNat_ofNat_u32 (by omega)
  have hlong : ¬file.size < Header.extent true := by
    show ¬file.size < 32
    omega
  have hroom : ¬(plan.fileHeader.commandsSize.toNat / CommandHeader.layout.size <
      plan.fileHeader.commandCount.toNat ∨ file.size < plan.fileHeader.commandsSize.toNat) := by
    rw [hsize, show CommandHeader.layout.size = 8 from rfl,
      show plan.fileHeader.commandCount.toNat = 2 from rfl]
    omega
  unfold headerOf
  rw [require_eq_ok_iff.2 (record?_of_standsAt (Header.keeps _) h.header)]
  simp only [bind, Except.bind, hlong, hroom, if_false]
  rfl

/-- The command that maps the segment. -/
theorem Carries.segment_eq (s : Survey) (processor : UInt32) :
    Survey.commandAt file .little 32 = .ok plan.segmentRecord.header ∧
      s.add file .little processor segment64Command 32 =
        .ok { s with segments := (32, plan.segmentRecord) :: s.segments } := by
  obtain ⟨hsegment, htable, hcontents, hsymbols, hstrings, hend⟩ := h.bounds
  have hshort := h.short
  have hsize : plan.segmentRecord.header.size.toNat = plan.segmentSize :=
    toNat_ofNat_u32 (by omega)
  have hoffset : plan.segmentRecord.fileOffset.toNat = plan.contentsStart :=
    toNat_ofNat_u64 (by omega)
  have hmapped : plan.segmentRecord.fileSize.toNat = plan.contents.length :=
    toNat_ofNat_u64 (by omega)
  have hrecord : recordSize plan.segmentRecord.header.command = 72 := rfl
  have hhead : standsAt file (CommandHeader.layout.encode .little plan.segmentRecord.header) 32 =
      true := (standsAt_append.1 h.segment).1
  exact ⟨commandAt_eq (record?_of_standsAt (CommandHeader.keeps _) hhead) (by omega) (by omega),
    addSegment_eq (record?_of_standsAt Plan.keeps_segmentRecord h.segment) (by omega)⟩

/-- The command that tells where the symbols are. -/
theorem Carries.symbolTable_eq (s : Survey) (processor : UInt32) :
    Survey.commandAt file .little plan.symbolTableStart = .ok plan.symbolTableRecord.header ∧
      s.add file .little processor symbolTableCommand plan.symbolTableStart =
        .ok { s with symbolTable := some plan.symbolTableRecord } := by
  obtain ⟨hsegment, htable, hcontents, hsymbols, hstrings, hend⟩ := h.bounds
  have hshort := h.short
  have hsymbolsStart : plan.symbolTableRecord.symbolsOffset.toNat = plan.symbolsStart :=
    toNat_ofNat_u32 (by omega)
  have hstringsStart : plan.symbolTableRecord.stringsOffset.toNat = plan.stringsStart :=
    toNat_ofNat_u32 (by omega)
  have hsize : plan.symbolTableRecord.header.size.toNat = 24 := rfl
  have hrecord : recordSize plan.symbolTableRecord.header.command = 24 := rfl
  have hhead : standsAt file (CommandHeader.layout.encode .little plan.symbolTableRecord.header)
      plan.symbolTableStart = true := (standsAt_append.1 h.symbolTable).1
  exact ⟨commandAt_eq (record?_of_standsAt (CommandHeader.keeps _) hhead) (by omega) (by omega),
    addSymbolTable_eq (record?_of_standsAt (SymbolTableCommand.keeps _) h.symbolTable) (by omega)
      (by omega)⟩

theorem Carries.walk_eq (processor : UInt32) :
    Survey.empty.walk file .little processor 2 32 =
      .ok ⟨[(32, plan.segmentRecord)], some plan.symbolTableRecord, none, false⟩ := by
  obtain ⟨hsegment, htable, hcontents, hsymbols, hstrings, hend⟩ := h.bounds
  have hshort := h.short
  have hnext : 32 + plan.segmentRecord.header.size.toNat = plan.symbolTableStart :=
    congrArg (32 + ·) (toNat_ofNat_u32 (show plan.segmentSize < 2 ^ 32 by omega))
  obtain ⟨hhead, hadd⟩ := h.segment_eq ⟨[], none, none, false⟩ processor
  obtain ⟨hhead', hadd'⟩ :=
    h.symbolTable_eq ⟨[(32, plan.segmentRecord)], none, none, false⟩ processor
  rw [Survey.empty, walk_succ hhead hadd, hnext, walk_succ hhead' hadd']
  rfl

/-- The sections that the segment leads to. -/
theorem Carries.sections_eq (hplan : plan.Writable) :
    (sectionsOf file ⟨true, .little⟩ (32, plan.segmentRecord) >>= fun parsed =>
      parsed.mapM ParsedSection.copy) = .ok (plan.sections.map Prod.fst) := by
  obtain ⟨hsegment, htable, hcontents, hsymbols, hstrings, hend⟩ := h.bounds
  have hshort := h.short
  have hcount : plan.segmentRecord.sectionCount.toNat = plan.headers.length := by
    rw [plan.length_headers]
    exact toNat_ofNat_u32 (by omega)
  have hheaders := records?_of_standsAt (Plan.keeps_headers hplan) h.headers
  rw [← hcount] at hheaders
  have hparsed : sectionsOf file ⟨true, .little⟩ (32, plan.segmentRecord) =
      .ok (plan.headers.map (parsedSection file)) := by
    show (readable (records? file (SectionHeader.layout true) .little 104 _) >>= _) = _
    rw [hheaders]
    rfl
  refine bind_eq_ok_iff.2 ⟨_, hparsed, ?_⟩
  rw [mapM_eq_ok_iff, List.forall₂_map_left_iff]
  exact sections_of_standsAt hplan.sections hplan.filled hshort h.contents

/-- The symbols that the symbol table leads to.  The first name of the string table belongs to none
of them. -/
theorem Carries.symbols_eq (hplan : plan.Writable) :
    ((symbolsOf file ⟨true, .little⟩ plan.symbolTableRecord).mapM fun symbol =>
      symbol.map copySymbol) = .ok (plan.symbols.map Prod.fst) := by
  obtain ⟨hsegment, htable, hcontents, hsymbols, hstrings, hend⟩ := h.bounds
  have hshort := h.short
  have hcount : plan.symbolTableRecord.symbolCount.toNat = plan.entries.length := by
    rw [plan.length_entries]
    exact toNat_ofNat_u32 (by omega)
  have hsymbolsStart : plan.symbolTableRecord.symbolsOffset.toNat = plan.symbolsStart :=
    toNat_ofNat_u32 (by omega)
  have hstringsStart : plan.symbolTableRecord.stringsOffset.toNat = plan.stringsStart :=
    toNat_ofNat_u32 (by omega)
  have hrecords := records?_of_standsAt (fun e _ => SymbolEntry.keeps e) h.entries
  rw [← hcount, ← hsymbolsStart] at hrecords
  have hnames := (standsAt_append (x := [0]).1 h.strings).2
  have hsymbols := symbols_of_standsAt hplan.symbols hshort hnames
  rw [symbolsOf, hrecords, hstringsStart, mapM_eq_ok_iff, List.forall₂_map_left_iff]
  refine hsymbols.imp fun e s hs => ?_
  rw [hs]
  rfl

/-- What the parser finds: one segment and a symbol table. -/
theorem Carries.parse_eq :
    parse file = .ok ⟨⟨true, .little⟩,
      [sectionsOf file ⟨true, .little⟩ (32, plan.segmentRecord)],
      symbolsOf file ⟨true, .little⟩ plan.symbolTableRecord⟩ := by
  have hwalk : Survey.empty.walk file .little plan.fileHeader.processor
      plan.fileHeader.commandCount.toNat (Header.extent true) = _ := h.walk_eq _
  unfold parse
  simp only [h.flavorOf_eq, h.headerOf_eq, bind, Except.bind, hwalk, checkEntry]
  rfl

/-- A file that carries a plan reads as its image. -/
theorem Carries.read_eq (hplan : plan.Writable) :
    File.read file = .ok ⟨⟨true, .little⟩, plan.image⟩ := by
  have hsections := h.sections_eq hplan
  have hsymbols := h.symbols_eq hplan
  refine bind_eq_ok_iff.2 ⟨_, h.parse_eq, bind_eq_ok_iff.2 ⟨plan.image, ?_, rfl⟩⟩
  refine bind_eq_ok_iff.2 ⟨[plan.sections.map Prod.fst], ?_,
    bind_eq_ok_iff.2 ⟨_, hsymbols, ?_⟩⟩
  · exact mapM_eq_ok_iff.2 (.cons hsections .nil)
  · rw [List.flatten_singleton]
    rfl

end

/-- What was written down is read back, and the file says of its dispatch records what its image
says. -/
theorem ofFile_written (plan : Plan) (hplan : plan.Writable) :
    Executable.ofFile plan.file = .ok (.machO ⟨⟨true, .little⟩, plan.image⟩) ∧
      (Executable.ofFile plan.file >>= Executable.implementations) =
        plan.image.implementations := by
  have hfile := Executable.ofFile_eq_machO_iff.2 ((Plan.carries hplan).read_eq hplan)
  refine ⟨hfile, ?_⟩
  rw [hfile]
  rfl

/-! ## A file -/

/-- Dispatch records written down in a Mach-O file, with one symbol twice. -/
def errorFilePlan : Plan where
  header := ⟨0, 0x01000007, 3, 2, 0, 0, 0⟩
  segment := ⟨⟨0, 0⟩, Utf8.encode "__TEXT", 0x1000, 0x2000, 0, 0, 5, 5, 0, 0⟩
  sections := errorImage.sections.map fun s => (s, ⟨[], [], 0, 0, 0, 3, 0, 0, 0⟩)
  symbols := (⟨"main.main", 7⟩ :: errorImage.symbols).map fun s => (s, ⟨0, 0x0f, 1, 0, 0⟩)
  filler := [0xff, 0xff]

theorem errorFilePlan_written :
    errorFilePlan.Writable ∧
      Executable.ofFile errorFilePlan.file =
        .ok (.machO ⟨⟨true, .little⟩, errorImage.sections,
          ⟨"main.main", 7⟩ :: errorImage.symbols⟩) ∧
      (Executable.ofFile errorFilePlan.file >>= Executable.implementations) = .ok errorFound := by
  have hwritable : errorFilePlan.Writable :=
    ⟨by decide +kernel, by decide +kernel, by decide +kernel, by decide +kernel⟩
  obtain ⟨hfile, hfound⟩ := ofFile_written errorFilePlan hwritable
  refine ⟨hwritable, hfile, ?_⟩
  rw [hfound]
  decide +kernel

end Writing

end ItabRecovery.MachO

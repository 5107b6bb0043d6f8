import ItabRecovery.Executable
import ItabRecovery.Proofs.Fields
import ItabRecovery.Proofs.Traversal

/-!
# Recognising a file and reading it

The format of a file is told by its first bytes, with tests of their own; what parses a Mach-O file
tests its first word once more.  The two agree: a file that can be read is recognised, so nothing is
lost by looking at the format first.

    MachO.File.readBy parser file = .ok f ↔
      ofFileBy parser file = .ok (.machO f)                       (ofFileBy_recognises)

Of the parser this needs no more than that it refuses what is shorter than a header or has no Mach-O
magic (`MachO.Strict`).
-/

namespace ItabRecovery

/-! ## The start of a file -/

namespace FileFormat

theorem ofStart?_append {p : ByteArray} (q : ByteArray) (h : 4 ≤ p.size) :
    ofStart? (p ++ q) = ofStart? p := by
  have helf : 0 + elfStart.length ≤ p.size := h
  have hpe : 0 + peStart.length ≤ p.size := Nat.le_trans (by decide) h
  have hbig : 0 + machOBigStart.length ≤ p.size := Nat.le_trans (by decide) h
  have hlittle : 1 + machOLittleStart.length ≤ p.size := h
  simp only [ofStart?, standsAt_array_append helf, standsAt_array_append hpe,
    standsAt_array_append hbig, standsAt_array_append hlittle]

/-- The first sixteen bytes tell what all bytes tell. -/
theorem ofStart?_probe {file : ByteArray} (h : probeSize ≤ file.size) :
    ofStart? (file.extract 0 probeSize) = ofStart? file := by
  have hsize : (file.extract 0 probeSize).size = probeSize := by
    rw [ByteArray.size_extract]
    omega
  have hfile : file.extract 0 probeSize ++ file.extract probeSize file.size = file := by
    rw [ByteArray.extract_append_extract, Nat.min_eq_left (Nat.zero_le _),
      Nat.max_eq_right h, ByteArray.extract_zero_size]
  have happ := ofStart?_append (file.extract probeSize file.size)
    (Nat.le_trans (show 4 ≤ probeSize by decide) (Nat.le_of_eq hsize.symm))
  rwa [hfile, eq_comm] at happ

/-! ### What stands first

The tests exclude one another, since each asks for another first byte. -/

theorem ofStart?_pe {b : ByteArray} (h : standsAt b peStart 0 = true) : ofStart? b = some pe := by
  have helf : ¬standsAt b elfStart 0 = true := fun helf =>
    absurd (eq_of_standsAt_cons helf h) (by decide)
  rw [ofStart?, if_neg helf, if_pos h]

theorem ofStart?_machO {b : ByteArray} {x : UInt8} {xs : List UInt8}
    (hx : standsAt b (x :: xs) 0 = true) (helf : x ≠ 0x7f) (hpe : x ≠ 0x4d)
    (h : standsAt b machOBigStart 0 = true ∨ standsAt b machOLittleStart 1 = true) :
    ofStart? b = some machO := by
  have hnelf : ¬standsAt b elfStart 0 = true := fun hstands =>
    helf (eq_of_standsAt_cons hx hstands)
  have hnpe : ¬standsAt b peStart 0 = true := fun hstands =>
    hpe (eq_of_standsAt_cons hx hstands)
  rw [ofStart?, if_neg hnelf, if_neg hnpe, if_pos (Bool.or_eq_true_iff.2 h)]

/-- A start that is recognised stays so, however short it is. -/
theorem ofStart?_append_of_some {p : ByteArray} (q : ByteArray) {format : FileFormat}
    (h : ofStart? p = some format) : ofStart? (p ++ q) = some format := by
  by_cases hsize : 4 ≤ p.size
  · rw [ofStart?_append q hsize, h]
  have hfit {x : List UInt8} {i : Nat} (hx : standsAt p x i = true) :
      standsAt (p ++ q) x i = true := by
    rw [standsAt_array_append (standsAt_iff.1 hx).1, hx]
  have hshort {x : List UInt8} {i : Nat} (hx : i + x.length = 4) : ¬standsAt p x i = true :=
    fun hstands => by
      have := (standsAt_iff.1 hstands).1
      omega
  -- Only starts of fewer than four bytes are left.
  unfold ofStart? at h
  rw [if_neg (hshort rfl)] at h
  split at h
  · next hpe =>
    obtain rfl := Option.some.inj h
    exact ofStart?_pe (hfit hpe)
  split at h
  · next hmachO =>
    obtain rfl := Option.some.inj h
    have hbig := (Bool.or_eq_true_iff.1 hmachO).resolve_right (hshort rfl)
    exact ofStart?_machO (hfit hbig) (by decide) (by decide) (Or.inl (hfit hbig))
  · cases h

end FileFormat

/-! ## Files that can be read -/

namespace MachO

theorem readable_eq_ok_iff {α : Type} {x : Option α} {r : α} : readable x = .ok r ↔ x = some r := by
  cases x <;> simp [readable]

theorem require_eq_ok_iff {α : Type} {file : ByteArray} {o : ByteOrder} {l : Layout α} {i : Nat}
    {r : α} : require file o l i = .ok r ↔ record? file l o i = some r :=
  readable_eq_ok_iff

/-- A word that is read stands where it was read. -/
theorem standsAt_of_u32 {file : ByteArray} {o : ByteOrder} {i : Nat} {v : UInt32}
    (h : record? file Layout.u32 o i = some v) :
    standsAt file (o.encode 4 v.toNat) i = true := by
  obtain ⟨bs, hbs, hv⟩ := Option.map_eq_some_iff.1 h
  obtain ⟨hfit, hwindow⟩ := slice?_eq_some_iff.1 hbs
  have hlen : bs.length = 4 := length_of_slice? hbs
  have hstands : (bs.drop 0).take 4 = o.encode 4 v.toNat :=
    (Layout.Stores.u32.decode_eq_iff (Nat.le_of_eq hlen.symm)).1 hv _ List.mem_cons_self
  rw [List.drop_zero, List.take_of_length_le (Nat.le_of_eq hlen)] at hstands
  rw [← hstands, standsAt_iff, hlen]
  exact ⟨hfit, hwindow.symm⟩

/-- The word that a file starts with, read as a big-endian one. -/
theorem flavorOf_eq_ok_iff {file : ByteArray} {f : Flavor} :
    flavorOf file = .ok f ↔
      ∃ magic, record? file Layout.u32 .big 0 = some magic ∧ Flavor.ofMagic? magic = some f := by
  unfold flavorOf
  rw [bind_eq_ok_iff]
  simp only [require_eq_ok_iff]
  apply exists_congr
  intro magic
  apply and_congr_right
  intro _
  cases Flavor.ofMagic? magic with
  | none => simp
  | some f' => simp [pure, Except.pure]

theorem ofStart?_of_magic {file : ByteArray} {magic : UInt32} {f : Flavor}
    (hmagic : record? file Layout.u32 .big 0 = some magic) (hf : Flavor.ofMagic? magic = some f) :
    FileFormat.ofStart? file = some .machO := by
  have hstands := standsAt_of_u32 hmagic
  have hbig {x : UInt8} (hx : standsAt file [0xfe, 0xed, 0xfa, x] 0 = true) :
      FileFormat.ofStart? file = some .machO :=
    FileFormat.ofStart?_machO hx (by decide) (by decide)
      (Or.inl (standsAt_append (x := FileFormat.machOBigStart).1 hx).1)
  have hlittle {x : UInt8} (hx : standsAt file [x, 0xfa, 0xed, 0xfe] 0 = true) (helf : x ≠ 0x7f)
      (hpe : x ≠ 0x4d) : FileFormat.ofStart? file = some .machO :=
    FileFormat.ofStart?_machO hx helf hpe (Or.inr (standsAt_append (x := [x]).1 hx).2)
  unfold Flavor.ofMagic? at hf
  split at hf
  · next heq => exact hbig (by rwa [heq] at hstands)
  split at hf
  · next heq => exact hlittle (by rwa [heq] at hstands) (by decide) (by decide)
  split at hf
  · next heq => exact hbig (by rwa [heq] at hstands)
  split at hf
  · next heq => exact hlittle (by rwa [heq] at hstands) (by decide) (by decide)
  · cases hf

theorem size_of_headerOf {file : ByteArray} {f : Flavor} {header : Header}
    (h : headerOf file f = .ok header) : 32 ≤ file.size := by
  by_contra hshort
  have hthrow : headerOf file f = .error .noHeader := by
    unfold headerOf
    rw [if_pos (show file.size < Header.extent true by simp [Header.extent]; omega)]
    rfl
  rw [hthrow] at h
  cases h

/-- A parser that refuses files with another first word than the Mach-O magics, and files shorter
than a header. -/
structure Strict (parser : ByteArray → Except Fault Parsed) : Prop where
  magic : ∀ {file p}, parser file = .ok p → ∃ magic f,
    record? file Layout.u32 .big 0 = some magic ∧ Flavor.ofMagic? magic = some f
  size : ∀ {file p}, parser file = .ok p → 32 ≤ file.size

theorem parse_strict : Strict parse where
  magic h := by
    obtain ⟨f, hflavor, -⟩ := bind_eq_ok_iff.1 h
    obtain ⟨magic, hmagic, hf⟩ := flavorOf_eq_ok_iff.1 hflavor
    exact ⟨magic, f, hmagic, hf⟩
  size h := by
    obtain ⟨f, -, h⟩ := bind_eq_ok_iff.1 h
    obtain ⟨header, hheader, -⟩ := bind_eq_ok_iff.1 h
    exact size_of_headerOf hheader

/-- A file that can be read is long enough to be recognised, and it is. -/
theorem Strict.recognised_of_readBy {parser : ByteArray → Except Fault Parsed} (hp : Strict parser)
    {file : ByteArray} {f : File} (h : File.readBy parser file = .ok f) :
    32 ≤ file.size ∧ FileFormat.ofStart? file = some .machO := by
  obtain ⟨parsed, hparsed, -⟩ := bind_eq_ok_iff.1 h
  obtain ⟨magic, flavor, hmagic, hflavor⟩ := hp.magic hparsed
  exact ⟨hp.size hparsed, ofStart?_of_magic hmagic hflavor⟩

end MachO

/-! ## Recognising and reading -/

namespace Executable

open FileFormat

section
variable {parser : ByteArray → Except MachO.Fault MachO.Parsed}

/-- What may become of a file, told by its length, its first bytes and what reading it gives. -/
inductive Outcome (parser : ByteArray → Except MachO.Fault MachO.Parsed) (file : ByteArray) :
    Except Error Executable → Prop
  | short : file.size < 16 → Outcome parser file (.error (.file (.tooShort file.size)))
  | unrecognized : 16 ≤ file.size → ofStart? file = none →
      Outcome parser file (.error .unrecognized)
  | elf : 16 ≤ file.size → ofStart? file = some .elf → Outcome parser file (.ok (.elf file))
  | pe : 16 ≤ file.size → ofStart? file = some .pe → Outcome parser file (.ok (.pe file))
  | machO {f : MachO.File} : 16 ≤ file.size → ofStart? file = some .machO →
      MachO.File.readBy parser file = .ok f → Outcome parser file (.ok (.machO f))
  | unreadable {e : MachO.Fault} : 16 ≤ file.size → ofStart? file = some .machO →
      MachO.File.readBy parser file = .error e → Outcome parser file (.error (.machO e))

theorem outcome_ofFileBy (file : ByteArray) : Outcome parser file (ofFileBy parser file) := by
  unfold ofFileBy
  split
  · next h => exact .short h
  · next h =>
    have hsize : 16 ≤ file.size := Nat.not_lt.1 h
    rw [ofStart?_probe hsize]
    cases hstart : ofStart? file with
    | none => exact .unrecognized hsize hstart
    | some format =>
      cases format with
      | elf => exact .elf hsize hstart
      | pe => exact .pe hsize hstart
      | machO =>
        simp only [ofFormatBy]
        cases hread : MachO.File.readBy parser file with
        | ok f => exact .machO hsize hstart hread
        | error e => exact .unreadable hsize hstart hread

theorem ofFileBy_eq_machO_iff (hp : MachO.Strict parser) {file : ByteArray} {f : MachO.File} :
    ofFileBy parser file = .ok (.machO f) ↔ MachO.File.readBy parser file = .ok f := by
  have houtcome : Outcome parser file (ofFileBy parser file) := outcome_ofFileBy file
  generalize ofFileBy parser file = r at houtcome
  constructor
  · rintro rfl
    cases houtcome with
    | machO _ _ hread => exact hread
  · intro h
    obtain ⟨hlong, hrecognised⟩ := hp.recognised_of_readBy h
    -- only one outcome is left to a file that is long enough and recognised
    cases houtcome with
    | short hsize => omega
    | machO _ _ hread => rw [Except.ok.inj (hread.symm.trans h)]
    | unreadable _ _ hread =>
      rw [hread] at h
      cases h
    | unrecognized _ hstart | elf _ hstart | pe _ hstart =>
      rw [hstart] at hrecognised
      cases hrecognised

/-- What is expected of recognising a file and reading it with a parser. -/
structure Recognises (parser : ByteArray → Except MachO.Fault MachO.Parsed) (file : ByteArray) :
    Prop where
  machO_iff : ∀ f, MachO.File.readBy parser file = .ok f ↔ ofFileBy parser file = .ok (.machO f)
  short_iff : ∀ e, ofFileBy parser file = .error (.file e) ↔
    file.size < 16 ∧ e = .tooShort file.size
  unrecognized_iff : ofFileBy parser file = .error .unrecognized ↔
    16 ≤ file.size ∧ ofStart? file = none
  unreadable_iff : ∀ e, ofFileBy parser file = .error (.machO e) ↔
    16 ≤ file.size ∧ ofStart? file = some .machO ∧ MachO.File.readBy parser file = .error e
  elf_iff : ∀ b, ofFileBy parser file = .ok (.elf b) ↔
    16 ≤ file.size ∧ ofStart? file = some .elf ∧ b = file
  pe_iff : ∀ b, ofFileBy parser file = .ok (.pe b) ↔
    16 ≤ file.size ∧ ofStart? file = some .pe ∧ b = file
  format_eq : ∀ x, ofFileBy parser file = .ok x → ofStart? file = some x.format ∧
    (x.format ≠ .machO → x.implementations = .error (.unsupported x.format))

theorem ofFileBy_recognises (hp : MachO.Strict parser) (file : ByteArray) :
    Recognises parser file := by
  refine ⟨fun f => (ofFileBy_eq_machO_iff hp).symm, ?_, ?_, ?_, ?_, ?_, ?_⟩
  all_goals
    have houtcome : Outcome parser file (ofFileBy parser file) := outcome_ofFileBy file
    generalize ofFileBy parser file = r at houtcome
    cases houtcome with
    | short hsize => simp [hsize, Nat.not_le.2 hsize, eq_comm]
    | unrecognized hsize hstart | elf hsize hstart | pe hsize hstart =>
      simp [hsize, hstart, format, implementations, eq_comm]
    | machO hsize hstart hread | unreadable hsize hstart hread =>
      simp [hsize, hstart, hread, format, eq_comm]

end

theorem ofFile_eq_machO_iff {file : ByteArray} {f : MachO.File} :
    ofFile file = .ok (.machO f) ↔ MachO.File.read file = .ok f :=
  ofFileBy_eq_machO_iff MachO.parse_strict

/-- Recognising first and reading then is reading; the other outcomes are told by the length and
the first bytes, and by these alone.  The first four bytes decide. -/
theorem ofFile_recognises (file : ByteArray) :
    (∀ f, MachO.File.read file = .ok f ↔ ofFile file = .ok (.machO f)) ∧
    (∀ e, ofFile file = .error (.file e) ↔ file.size < 16 ∧ e = .tooShort file.size) ∧
    (ofFile file = .error .unrecognized ↔ 16 ≤ file.size ∧ ofStart? file = none) ∧
    (∀ e, ofFile file = .error (.machO e) ↔
      16 ≤ file.size ∧ ofStart? file = some .machO ∧ MachO.File.read file = .error e) ∧
    (∀ b, ofFile file = .ok (.elf b) ↔ 16 ≤ file.size ∧ ofStart? file = some .elf ∧ b = file) ∧
    (∀ b, ofFile file = .ok (.pe b) ↔ 16 ≤ file.size ∧ ofStart? file = some .pe ∧ b = file) ∧
    (∀ x, ofFile file = .ok x → ofStart? file = some x.format ∧
      (x.format ≠ .machO → x.implementations = .error (.unsupported x.format))) ∧
    (∀ more, 4 ≤ file.size → ofStart? (file ++ more) = ofStart? file) ∧
    (∀ more format, ofStart? file = some format → ofStart? (file ++ more) = some format) := by
  obtain ⟨hmachO, hshort, hunrecognized, hunreadable, helf, hpe, hformat⟩ :=
    ofFileBy_recognises MachO.parse_strict file
  exact ⟨hmachO, hshort, hunrecognized, hunreadable, helf, hpe, hformat,
    fun more => ofStart?_append more, fun more format => ofStart?_append_of_some more⟩

/-! ### Two starts -/

/-- A wide little-endian header that promises no load commands. -/
def bareFile : ByteArray :=
  ⟨#[0xcf, 0xfa, 0xed, 0xfe, 0x07, 0, 0, 0x01, 0x03, 0, 0, 0, 0x02, 0, 0, 0,
    0, 0, 0, 0, 0, 0, 0, 0, 0, 0, 0, 0, 0, 0, 0, 0]⟩

/-- Two bytes that are recognised, but too few for a file. -/
def shortStart : ByteArray := ⟨#[0x4d, 0x5a]⟩

theorem bareFile_recognised :
    ofFile bareFile = .ok (.machO ⟨⟨true, .little⟩, ⟨[], []⟩⟩) ∧
      ofStart? (bareFile ++ shortStart) = some .machO ∧
      ofFile shortStart = .error (.file (.tooShort 2)) ∧
      ofStart? (shortStart ++ bareFile) = some .pe ∧
      ofFile (shortStart ++ bareFile) = .ok (.pe (shortStart ++ bareFile)) ∧
      (pe (shortStart ++ bareFile)).implementations = .error (.unsupported .pe) := by
  obtain ⟨hread, -, -, -, -, -, -, hstart, -⟩ := ofFile_recognises bareFile
  obtain ⟨-, hshort, -, -, -, -, -, -, hkept⟩ := ofFile_recognises shortStart
  obtain ⟨-, -, -, -, -, hpe, hformat, -, -⟩ := ofFile_recognises (shortStart ++ bareFile)
  have hmachO : ofFile bareFile = .ok (.machO ⟨⟨true, .little⟩, ⟨[], []⟩⟩) :=
    (hread _).1 (by decide +kernel)
  have hfound : ofStart? (shortStart ++ bareFile) = some .pe :=
    hkept bareFile .pe (by decide +kernel)
  have hfile := (hpe (shortStart ++ bareFile)).2 ⟨by decide +kernel, hfound, rfl⟩
  refine ⟨hmachO, ?_, (hshort _).2 ⟨by decide, rfl⟩, hfound, hfile, (hformat _ hfile).2 (by decide)⟩
  rw [hstart shortStart (by decide)]
  decide +kernel

end Executable

end ItabRecovery

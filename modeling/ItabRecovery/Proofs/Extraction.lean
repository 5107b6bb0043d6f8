import ItabRecovery.Proofs.Reading

/-!
# What extraction finds

Recovery from an image gives a list of implementations exactly when every label names an
interface and the list says, label by label, what the section of the type records says:

    image.implementations = .ok found ↔
      every label has a comma ∧ List.Forall₂ (Implements rodata order) labels found
                                                      (implementations_eq_ok_iff)
-/

namespace ItabRecovery

open Reading

theorem TypeLink.byteOrder_eq_ok_iff {link : Section} {o : ByteOrder} :
    byteOrder (some link) = .ok o ↔
      16 ≤ link.size ∧ o = if byteAt link.data 15 = 0 then .little else .big := by
  unfold byteOrder
  simp only
  split
  · next h =>
    have : ¬ 16 ≤ link.size := fun h16 => by
      have := slice?_eq_some_iff.2 ⟨show 0 + probeSize ≤ link.data.size from h16, rfl⟩
      rw [h] at this
      cases this
    simp [this]
  · next probe h =>
    obtain ⟨h16, rfl⟩ := slice?_eq_some_iff.1 h
    have hprobe : ((window link.data 0 probeSize).getD (probeSize - 1) 0).toNat =
        byteAt link.data 15 := by
      simp [window, byteAt, probeSize]
    have h16 : 16 ≤ link.size := h16
    simp only [Except.ok.injEq, h16, true_and, ← hprobe]
    rw [eq_comm]
    simp only [← UInt8.toNat_inj]
    rfl

/-- The labels of an image that gives results, and what is found for each. -/
theorem implementations_eq_ok_iff_forall₂ {image : Image} {rodata : Section} {o : ByteOrder}
    (horder : TypeLink.byteOrder (image.sectionNamed? TypeLink.sectionName) = .ok o)
    (hrodata : image.sectionNamed? rodataName = some rodata) {found : List Implementation} :
    image.implementations = .ok found ↔
      List.Forall₂ (Implements rodata o) (image.symbols.filter ItabLabel.isLabel) found := by
  have hsection : image.sectionNamed rodataName = .ok rodata := by
    rw [Image.sectionNamed, hrodata]
  have hsplit : image.implementations = .ok found ↔
      ∃ labels, (image.symbols.filter ItabLabel.isLabel).mapM ItabLabel.ofSymbol = .ok labels ∧
        labels.mapM (TypeData.mk rodata o).implementationAt = .ok found := by
    simp [Image.implementations, ItabLabel.ofSymbols, bind_eq_ok_iff, horder, hsection]
  rw [hsplit, mapM_mapM_eq_ok_iff]
  apply forall₂_congr
  intro s hs x
  have hs : ItabLabel.isLabel s = true := (List.mem_filter.1 hs).2
  simp only [ItabLabel.ofSymbol_eq_ok_iff hs, implementationAt_eq_ok_iff, Implements]
  constructor
  · rintro ⟨⟨symbol, address, concrete, interface⟩, ⟨rfl, rfl, hspells⟩, hjoins, hd⟩
    exact ⟨⟨concrete, interface, hspells, hjoins⟩, hd⟩
  · rintro ⟨⟨concrete, interface, hspells, hjoins⟩, hd⟩
    exact ⟨⟨s.name, s.value, concrete, interface⟩, ⟨rfl, rfl, hspells⟩, hjoins, hd⟩

theorem Reading.Implements.comma_mem {s : Section} {o : ByteOrder} {label : Symbol}
    {x : Implementation} (h : Implements s o label x) :
    ',' ∈ label.name.toList.drop ItabLabel.marker.length := by
  obtain ⟨⟨concrete, interface, ⟨rest, hname, -⟩, -⟩, -⟩ := h
  rw [hname, List.append_assoc, List.drop_left]
  simp

theorem implementations_eq_ok_iff (image : Image) (link rodata : Section)
    (hlink : image.sections.find? (·.name == "__typelink") = some link) (hsize : 16 ≤ link.size)
    (hrodata : image.sections.find? (·.name == "__rodata") = some rodata)
    (found : List Implementation) :
    image.implementations = .ok found ↔
      (∀ s ∈ image.symbols, ItabLabel.isLabel s = true →
        ',' ∈ s.name.toList.drop ItabLabel.marker.length) ∧
      List.Forall₂ (Implements rodata (if byteAt link.data 15 = 0 then .little else .big))
        (image.symbols.filter ItabLabel.isLabel) found := by
  have horder : TypeLink.byteOrder (image.sectionNamed? TypeLink.sectionName) =
      .ok (if byteAt link.data 15 = 0 then .little else .big) := by
    rw [show image.sectionNamed? TypeLink.sectionName = some link from hlink]
    exact TypeLink.byteOrder_eq_ok_iff.2 ⟨hsize, rfl⟩
  rw [implementations_eq_ok_iff_forall₂ horder hrodata, iff_and_self]
  intro h s hs hlabel
  have hmem : s ∈ image.symbols.filter ItabLabel.isLabel := List.mem_filter.2 ⟨hs, hlabel⟩
  obtain ⟨i, hi, rfl⟩ := List.mem_iff_getElem.1 hmem
  exact (h.get hi (by rw [← h.length_eq]; exact hi)).comma_mem

/-! ## An image -/

/-- A type of which only the kind and the text are told. -/
def TypeRecord.plain (kind : UInt8) (text : Int32) : TypeRecord :=
  ⟨0, 0, 0, 0, 0, 0, kind, 0, 0, text, 0⟩

/-- The records behind one label: `*runtime.errorString` implements `error`.  Its method table
starts with a padding entry. -/
def errorRodata : Section where
  name := "__rodata"
  segment := ""
  base := 0x1000
  data := ⟨List.toArray <|
    DispatchRecord.layout.encode .little ⟨0x1020, 0x10f0, 0, 0⟩ ++
    InterfaceRecord.layout.encode .little ⟨.plain 20 0, 0, ⟨0x1070, 2, 2⟩⟩ ++
    MethodEntry.layout.encode .little ⟨0, 128⟩ ++
    MethodEntry.layout.encode .little ⟨288, 128⟩ ++
    FuncRecord.layout.encode .little ⟨.plain 19 296, 0, 1⟩ ++ List.replicate 4 0 ++
    Layout.u64.encode .little 0x10c0 ++
    TypeRecord.layout.encode .little (.plain 24 313) ++
    TypeRecord.layout.encode .little (.plain 22 322) ++
    NameRecord.encode 1 "Error" ++
    NameRecord.encode 1 "*func() string" ++
    NameRecord.encode 1 "string" ++
    NameRecord.encode 1 "*runtime.errorString" ++ [0]⟩

def errorTypelink : Section :=
  ⟨"__typelink", "", 0, ⟨(List.replicate 16 0).toArray⟩⟩

def errorImage : Image :=
  ⟨[errorTypelink, errorRodata], [⟨"main.main", 0⟩, ⟨"go.itab.*runtime.errorString,error", 0x1000⟩]⟩

def errorFound : List Implementation :=
  [⟨⟨"", "error"⟩, "runtime.errorString",
    [⟨"Error", "func() string", [], [⟨⟨"", "string"⟩, false⟩]⟩]⟩]

theorem errorImage_reads :
    errorImage.sections.find? (·.name == "__typelink") = some errorTypelink ∧
      16 ≤ errorTypelink.size ∧
      errorImage.sections.find? (·.name == "__rodata") = some errorRodata ∧
      errorImage.implementations = .ok errorFound ∧
      List.Forall₂
        (Implements errorRodata (if byteAt errorTypelink.data 15 = 0 then .little else .big))
        (errorImage.symbols.filter ItabLabel.isLabel) errorFound := by
  have hlink : errorImage.sections.find? (·.name == "__typelink") = some errorTypelink := rfl
  have hsize : 16 ≤ errorTypelink.size := by decide
  have hrodata : errorImage.sections.find? (·.name == "__rodata") = some errorRodata := rfl
  have hfound : errorImage.implementations = .ok errorFound := by decide +kernel
  have hiff := implementations_eq_ok_iff errorImage errorTypelink errorRodata hlink hsize hrodata
    errorFound
  exact ⟨hlink, hsize, hrodata, hfound, (hiff.1 hfound).2⟩

end ItabRecovery

import ItabRecovery.Proofs.FirstFault

/-!
# Which labels are read, and as what

The names of labels have a grammar (`ItabLabel.Spells`), and the scan of a symbol table reads
exactly that: each label is taken apart in one way, the first label that names no interface is
refused, and a name can be put together again from its two texts when they hold no comma themselves.

    ofSymbols symbols = .ok v ↔
      List.Forall₂ TakenFrom (symbols.filter isLabel) v         (ofSymbols_eq_ok_iff)
-/

namespace ItabRecovery

/-! ## What the scan accepts -/

/-- A label without a comma after the marker. -/
def Symbol.Refused (s : Symbol) : Prop :=
  ∃ rest, s.name.toList = "go.itab.".toList ++ rest ∧ ',' ∉ rest

/-- A name of a label with exactly one comma after the marker. -/
def ItabLabel.OneComma (symbol : String) : Prop :=
  ∃ rest, symbol.toList = "go.itab.".toList ++ rest ∧ rest.count ',' = 1

/-- A label says what its symbol says: the whole name, the address, and the two texts that the name
spells. -/
structure ItabLabel.TakenFrom (s : Symbol) (l : ItabLabel) : Prop where
  symbol : l.symbol = s.name
  address : l.address = s.value
  spells : Spells s.name l.concrete l.interface

theorem ItabLabel.marker_eq : marker = "go.itab.".toList := by
  decide

theorem ItabLabel.isLabel_iff {s : Symbol} :
    isLabel s = true ↔ ∃ rest, s.name.toList = marker ++ rest := by
  rw [isLabel, List.isPrefixOf_iff_prefix]
  constructor
  · rintro ⟨rest, h⟩
    exact ⟨rest, h.symm⟩
  · rintro ⟨rest, h⟩
    exact ⟨rest, h.symm⟩

theorem Symbol.fault?_eq_some_iff {s : Symbol} {e : Error} :
    s.fault? = some e ↔ s.Refused ∧ e = .malformedLabel s.name := by
  have hrefused : s.Refused ↔
      ItabLabel.isLabel s = true ∧ ',' ∉ s.name.toList.drop ItabLabel.marker.length := by
    rw [Refused, ItabLabel.isLabel_iff, ← ItabLabel.marker_eq]
    constructor
    · rintro ⟨rest, hname, hrest⟩
      refine ⟨⟨rest, hname⟩, ?_⟩
      rwa [hname, List.drop_left]
    · rintro ⟨⟨rest, hname⟩, hrest⟩
      rw [hname, List.drop_left] at hrest
      exact ⟨rest, hname, hrest⟩
  rw [fault?, hrefused]
  split
  · next h => simp [h, eq_comm]
  · next h => simp [h]

theorem Symbol.fault?_eq_none_iff {s : Symbol} : s.fault? = none ↔ ¬ s.Refused := by
  rw [Option.eq_none_iff_forall_ne_some]
  constructor
  · intro h hs
    exact h _ (fault?_eq_some_iff.2 ⟨hs, rfl⟩)
  · intro h e he
    exact h (fault?_eq_some_iff.1 he).1

namespace ItabLabel

theorem ofSymbols_eq_ok_iff {symbols : List Symbol} {v : List ItabLabel} :
    ofSymbols symbols = .ok v ↔ List.Forall₂ TakenFrom (symbols.filter isLabel) v := by
  rw [ofSymbols, mapM_eq_ok_iff]
  apply forall₂_congr
  intro s hs l
  rw [ofSymbol_eq_ok_iff (List.mem_filter.1 hs).2]
  constructor
  · rintro ⟨hsymbol, haddress, hspells⟩
    exact ⟨hsymbol, haddress, hspells⟩
  · rintro ⟨hsymbol, haddress, hspells⟩
    exact ⟨hsymbol, haddress, hspells⟩

theorem exists_ofSymbols_eq_ok_iff {symbols : List Symbol} :
    (∃ v, ofSymbols symbols = .ok v) ↔ ∀ s ∈ symbols, ¬ s.Refused := by
  rw [← errorOf?_eq_none_iff, errorOf?_ofSymbols, List.findSome?_eq_none_iff]
  simp only [Symbol.fault?_eq_none_iff]

/-- The first label that names no interface is the one to blame. -/
theorem ofSymbols_eq_error_iff {symbols : List Symbol} {e : Error} :
    ofSymbols symbols = .error e ↔ ∃ before s after, symbols = before ++ s :: after ∧
      (∀ t ∈ before, ¬ t.Refused) ∧ s.Refused ∧ e = .malformedLabel s.name := by
  rw [← errorOf?_eq_some_iff, errorOf?_ofSymbols, List.findSome?_eq_some_iff]
  simp only [Symbol.fault?_eq_none_iff, Symbol.fault?_eq_some_iff]
  constructor
  · rintro ⟨before, s, after, hsplit, ⟨hs, he⟩, hbefore⟩
    exact ⟨before, s, after, hsplit, hbefore, hs, he⟩
  · rintro ⟨before, s, after, hsplit, hbefore, hs, he⟩
    exact ⟨before, s, after, hsplit, ⟨hs, he⟩, hbefore⟩

/-! ## Names that are put together again -/

theorem symbolName_eq (concrete interface : String) :
    symbolName concrete interface = "go.itab." ++ concrete ++ "," ++ interface := by
  rw [← String.toList_inj, symbolName, String.toList_ofList, marker_eq]
  simp

/-- The comma between the two texts is the only one exactly when nothing follows them. -/
theorem Spells.oneComma_iff {symbol concrete interface : String}
    (h : Spells symbol concrete interface) :
    OneComma symbol ↔ symbol = symbolName concrete interface := by
  obtain ⟨rest, hname, hconcrete, hinterface, hrest⟩ := h
  have hcount : (concrete.toList ++ ',' :: (interface.toList ++ rest)).count ',' =
      rest.count ',' + 1 := by
    rw [List.count_append, List.count_cons_self, List.count_append, List.count_eq_zero.2 hconcrete,
      List.count_eq_zero.2 hinterface]
    omega
  have hnil : rest.count ',' = 0 ↔ rest = [] := by
    rw [List.count_eq_zero]
    constructor
    · intro hcomma
      rcases hrest with hnil | hhead
      · exact hnil
      · exact absurd (List.mem_of_head? hhead) hcomma
    · rintro rfl
      exact List.not_mem_nil
  rw [List.append_assoc] at hname
  have hone : OneComma symbol ↔ rest = [] := by
    rw [OneComma, ← marker_eq, hname]
    constructor
    · rintro ⟨r, hr, hcomma⟩
      rw [← List.append_cancel_left hr, hcount] at hcomma
      exact hnil.1 (by omega)
    · rintro rfl
      exact ⟨_, rfl, hcount⟩
  rw [hone, ← String.toList_inj, symbolName, String.toList_ofList, hname, List.append_assoc]
  simp

/-- The label of two texts is always read, and as these two unless a comma is among them. -/
theorem exists_ofSymbols_symbolName (concrete interface : String) (address : UInt64) :
    ∃ l, ofSymbols [⟨symbolName concrete interface, address⟩] = .ok [l] ∧
      (l.concrete = concrete ∧ l.interface = interface ↔
        ',' ∉ concrete.toList ∧ ',' ∉ interface.toList) := by
  have hname : (symbolName concrete interface).toList =
      marker ++ (concrete.toList ++ ',' :: interface.toList) := by
    rw [symbolName, String.toList_ofList, List.append_assoc]
  have hlabel : isLabel ⟨symbolName concrete interface, address⟩ = true :=
    isLabel_iff.2 ⟨_, hname⟩
  have hfilter : [(⟨symbolName concrete interface, address⟩ : Symbol)].filter isLabel =
      [⟨symbolName concrete interface, address⟩] := by
    rw [List.filter_cons_of_pos hlabel, List.filter_nil]
  have hcomma : ',' ∈ (symbolName concrete interface).toList.drop marker.length := by
    rw [hname, List.drop_left]
    simp
  obtain ⟨l, hl⟩ :=
    (exists_ofSymbol_eq_ok_iff (s := ⟨symbolName concrete interface, address⟩)).2 hcomma
  refine ⟨l, ?_, ?_⟩
  · rw [ofSymbols, hfilter, List.mapM_cons, hl]
    rfl
  · obtain ⟨-, -, hspells⟩ := (ofSymbol_eq_ok_iff hlabel).1 hl
    constructor
    · rintro ⟨rfl, rfl⟩
      obtain ⟨-, -, hconcrete, hinterface, -⟩ := hspells
      exact ⟨hconcrete, hinterface⟩
    · rintro ⟨hconcrete, hinterface⟩
      -- Without further commas the whole name spells the two, and no name spells two pairs.
      have hwhole : Spells (symbolName concrete interface) concrete interface := by
        refine ⟨[], ?_, hconcrete, hinterface, Or.inl rfl⟩
        rw [hname, List.append_nil, List.append_assoc]
      have hsame := hl.symm.trans ((ofSymbol_eq_ok_iff
        (l := ⟨symbolName concrete interface, address, concrete, interface⟩) hlabel).2
          ⟨rfl, rfl, hwhole⟩)
      rw [Except.ok.inj hsame]
      exact ⟨rfl, rfl⟩

/-! ## All of it -/

/-- **Labels are read exactly, and can be undone.**  The scan fails with the first label that has no
comma, and else reads every label in its order as the grammar has it; a label that was put together
from two texts gives them back exactly when neither holds a comma; and among names with one comma no
two give the same texts. -/
theorem labels_exact (symbols : List Symbol) :
    ((∃ v, ofSymbols symbols = .ok v) ↔ ∀ s ∈ symbols, ¬ s.Refused) ∧
    (∀ v, ofSymbols symbols = .ok v ↔ List.Forall₂ TakenFrom (symbols.filter isLabel) v) ∧
    (∀ e, ofSymbols symbols = .error e ↔ ∃ before s after, symbols = before ++ s :: after ∧
      (∀ t ∈ before, ¬ t.Refused) ∧ s.Refused ∧ e = .malformedLabel s.name) ∧
    (∀ concrete interface address, ∃ l,
      ofSymbols [⟨"go.itab." ++ concrete ++ "," ++ interface, address⟩] = .ok [l] ∧
        (l.concrete = concrete ∧ l.interface = interface ↔
          ',' ∉ concrete.toList ∧ ',' ∉ interface.toList)) ∧
    ∀ v, ofSymbols symbols = .ok v → ∀ l ∈ v, ∀ l' ∈ v, OneComma l.symbol → OneComma l'.symbol →
      l.concrete = l'.concrete → l.interface = l'.interface → l.symbol = l'.symbol := by
  refine ⟨exists_ofSymbols_eq_ok_iff, fun v => ofSymbols_eq_ok_iff,
    fun e => ofSymbols_eq_error_iff, fun concrete interface address => ?_,
    fun v hv l hl l' hl' hone hone' hconcrete hinterface => ?_⟩
  · rw [← symbolName_eq]
    exact exists_ofSymbols_symbolName concrete interface address
  · have hname : ∀ k ∈ v, OneComma k.symbol → k.symbol = symbolName k.concrete k.interface := by
      intro k hk hcomma
      obtain ⟨s, htaken⟩ := exists_of_forall₂ (ofSymbols_eq_ok_iff.1 hv).flip hk
      have hspells := htaken.spells
      rw [← htaken.symbol] at hspells
      exact hspells.oneComma_iff.1 hcomma
    rw [hname l hl hone, hname l' hl' hone', hconcrete, hinterface]

/-- A symbol table in which one label stands twice and another is of a type with a comma. -/
def readerTable : List Symbol :=
  [⟨"go.itab.*os.File,io.Reader", 0x1000⟩, ⟨"main.main", 0⟩,
    ⟨"go.itab.main.P[int,string],error", 0x2000⟩, ⟨"go.itab.*os.File,io.Reader", 0x3000⟩]

def readerLabels : List ItabLabel :=
  [⟨"go.itab.*os.File,io.Reader", 0x1000, "*os.File", "io.Reader"⟩,
    ⟨"go.itab.main.P[int,string],error", 0x2000, "main.P[int", "string]"⟩,
    ⟨"go.itab.*os.File,io.Reader", 0x3000, "*os.File", "io.Reader"⟩]

theorem readerTable_labels :
    ofSymbols readerTable = .ok readerLabels ∧
      List.Forall₂ TakenFrom (readerTable.filter isLabel) readerLabels ∧
      (OneComma readerLabels[0].symbol ∧ readerLabels[0].symbol = readerLabels[2].symbol) ∧
      ofSymbols (readerTable ++ [⟨"go.itab.broken", 0⟩, ⟨"go.itab.", 0⟩]) =
        .error (.malformedLabel "go.itab.broken") := by
  have hok : ofSymbols readerTable = .ok readerLabels := by decide +kernel
  have hone : OneComma "go.itab.*os.File,io.Reader" :=
    ⟨"*os.File,io.Reader".toList, by decide, by decide⟩
  have hbroken : (⟨"go.itab.broken", 0⟩ : Symbol).Refused :=
    ⟨"broken".toList, by decide, by decide⟩
  obtain ⟨hnone, hread, -, -, hsame⟩ := labels_exact readerTable
  obtain ⟨-, -, hfails, -, -⟩ :=
    labels_exact (readerTable ++ [⟨"go.itab.broken", 0⟩, ⟨"go.itab.", 0⟩])
  refine ⟨hok, (hread _).1 hok, ⟨hone, ?_⟩, ?_⟩
  · exact hsame _ hok _ (List.getElem_mem _) _ (List.getElem_mem _) hone hone rfl rfl
  · exact (hfails _).2 ⟨readerTable, _, _, rfl, hnone.1 ⟨_, hok⟩, hbroken, rfl⟩

end ItabLabel

end ItabRecovery

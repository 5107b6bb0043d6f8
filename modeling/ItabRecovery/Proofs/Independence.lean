import ItabRecovery.Proofs.Extraction

/-!
# Every label on its own

What recovery finds for a label depends on that label and two sections, on nothing else in the
image.  So symbol tables may be put together, reordered and thinned out, and the results follow:

    implementations of S ++ T = .ok r ↔
      implementations of S = .ok r₁ ∧ implementations of T = .ok r₂ ∧ r = r₁ ++ r₂
                                                            (implementations_labelwise)
-/

namespace ItabRecovery

open Reading

/-- The implementations of an image with the given sections and symbols. -/
def implementationsOf (sections : List Section) (symbols : List Symbol) :
    Except Error (List Implementation) :=
  (Image.mk sections symbols).implementations

/-! ## One label -/

namespace Reading

/-- A dispatch record says one thing. -/
theorem Describes.unique {s : Section} {o : ByteOrder} {addr : UInt64} {x y : Implementation}
    (hx : Describes s o addr.toNat x) (hy : Describes s o addr.toNat y) :
    x.concrete = y.concrete ∧ x.methods = y.methods := by
  have hfound {z : Implementation} (hz : Describes s o addr.toNat z) :
      (TypeData.mk s o).implementationAt ⟨"", addr, "", ""⟩ =
        .ok { z with interface := .ofText "" } :=
    implementationAt_eq_ok_iff.2 ⟨QualifiedName.ofText_eq_iff.1 rfl, hz⟩
  have heq := (hfound hx).symm.trans (hfound hy)
  obtain ⟨-, hconcrete, hmethods⟩ := Implementation.mk.inj (Except.ok.inj heq)
  exact ⟨hconcrete, hmethods⟩

/-- A label names one interface. -/
theorem spells_unique {s : Symbol} (h : ItabLabel.isLabel s = true) {c c' n n' : String}
    (hc : ItabLabel.Spells s.name c n) (hc' : ItabLabel.Spells s.name c' n') : n = n' := by
  have hlabel {c n : String} (hc : ItabLabel.Spells s.name c n) :
      ItabLabel.ofSymbol s = .ok ⟨s.name, s.value, c, n⟩ :=
    (ItabLabel.ofSymbol_eq_ok_iff h).2 ⟨rfl, rfl, hc⟩
  have heq := (hlabel hc).symm.trans (hlabel hc')
  exact (ItabLabel.mk.inj (Except.ok.inj heq)).2.2.2

theorem Implements.interface_eq {s : Section} {o : ByteOrder} {label : Symbol}
    {x : Implementation} (hx : Implements s o label x) (h : ItabLabel.isLabel label = true)
    {c n : String} (hc : ItabLabel.Spells label.name c n) : x.interface = .ofText n := by
  obtain ⟨⟨c', n', hc', hjoins⟩, -⟩ := hx
  rw [spells_unique h hc hc']
  exact (QualifiedName.ofText_eq_iff.2 hjoins).symm

end Reading

/-! ## Symbol tables -/

theorem implementationsOf_eq_ok_iff {sections : List Section} {symbols : List Symbol}
    {found : List Implementation} :
    implementationsOf sections symbols = .ok found ↔ ∃ o rodata,
      TypeLink.byteOrder (sections.find? (·.name == TypeLink.sectionName)) = .ok o ∧
        sections.find? (·.name == rodataName) = some rodata ∧
        List.Forall₂ (Implements rodata o) (symbols.filter ItabLabel.isLabel) found := by
  constructor
  · intro h
    obtain ⟨labels, -, hrest⟩ := bind_eq_ok_iff.1 h
    obtain ⟨o, ho, hrest⟩ := bind_eq_ok_iff.1 hrest
    obtain ⟨rodata, hrodata, -⟩ := bind_eq_ok_iff.1 hrest
    have hfind : sections.find? (·.name == rodataName) = some rodata := by
      unfold Image.sectionNamed at hrodata
      split at hrodata
      · next s hs =>
        obtain rfl := Except.ok.inj hrodata
        exact hs
      · cases hrodata
    exact ⟨o, rodata, ho, hfind, (implementations_eq_ok_iff_forall₂ ho hfind).1 h⟩
  · rintro ⟨o, rodata, ho, hfind, h⟩
    exact (@implementations_eq_ok_iff_forall₂ ⟨sections, symbols⟩ rodata o ho hfind found).2 h

theorem implementationsOf_congr {sections sections' : List Section}
    {symbols symbols' : List Symbol}
    (hlink : sections'.find? (·.name == "__typelink") = sections.find? (·.name == "__typelink"))
    (hrodata : sections'.find? (·.name == "__rodata") = sections.find? (·.name == "__rodata"))
    (hlabels : symbols'.filter ItabLabel.isLabel = symbols.filter ItabLabel.isLabel) :
    implementationsOf sections' symbols' = implementationsOf sections symbols := by
  simp only [implementationsOf, Image.implementations, Image.sectionNamed, Image.sectionNamed?,
    ItabLabel.ofSymbols, TypeLink.sectionName, rodataName, hlink, hrodata, hlabels]

theorem implementationsOf_append_eq_ok_iff {sections : List Section} {S T : List Symbol}
    {r : List Implementation} :
    implementationsOf sections (S ++ T) = .ok r ↔ ∃ r₁ r₂,
      implementationsOf sections S = .ok r₁ ∧ implementationsOf sections T = .ok r₂ ∧
        r = r₁ ++ r₂ := by
  simp only [implementationsOf_eq_ok_iff, List.filter_append, forall₂_append_left_iff]
  constructor
  · rintro ⟨o, rodata, ho, hfind, r₁, r₂, h₁, h₂, rfl⟩
    exact ⟨r₁, r₂, ⟨o, rodata, ho, hfind, h₁⟩, ⟨o, rodata, ho, hfind, h₂⟩, rfl⟩
  · rintro ⟨r₁, r₂, ⟨o, rodata, ho, hfind, h₁⟩, ⟨o', rodata', ho', hfind', h₂⟩, rfl⟩
    obtain rfl := Except.ok.inj (ho'.symm.trans ho)
    obtain rfl := Option.some.inj (hfind'.symm.trans hfind)
    exact ⟨o', rodata', ho', hfind', r₁, r₂, h₁, h₂, rfl⟩

/-- Labels that are picked in any order, and as often as one likes, keep their results. -/
theorem implementationsOf_pick {sections : List Section} {S S' : List Symbol}
    {r : List Implementation} (h : implementationsOf sections S = .ok r)
    {p : List (Symbol × Implementation)}
    (hp : ∀ x ∈ p, x ∈ (S.filter ItabLabel.isLabel).zip r)
    (hS' : S'.filter ItabLabel.isLabel = p.map Prod.fst) :
    implementationsOf sections S' = .ok (p.map Prod.snd) := by
  obtain ⟨o, rodata, ho, hfind, hall⟩ := implementationsOf_eq_ok_iff.1 h
  refine implementationsOf_eq_ok_iff.2 ⟨o, rodata, ho, hfind, ?_⟩
  rw [hS']
  exact forall₂_of_mem_zip hall hp

/-- Recovery takes labels one by one: it commutes with putting symbol tables together, other symbols
change nothing, labels that are reordered or left out take their results along, entries share what
their labels share, and of the sections only the first of each of two names matter. -/
theorem implementations_labelwise (sections : List Section) :
    (∀ S T r, implementationsOf sections (S ++ T) = .ok r ↔ ∃ r₁ r₂,
      implementationsOf sections S = .ok r₁ ∧ implementationsOf sections T = .ok r₂ ∧
        r = r₁ ++ r₂) ∧
    (∀ S S', S'.filter ItabLabel.isLabel = S.filter ItabLabel.isLabel →
      implementationsOf sections S' = implementationsOf sections S) ∧
    (∀ S r, implementationsOf sections S = .ok r →
      (∀ S', (S'.filter ItabLabel.isLabel).Perm (S.filter ItabLabel.isLabel) →
        ∃ p : List (Symbol × Implementation), p.Perm ((S.filter ItabLabel.isLabel).zip r) ∧
          p.map Prod.fst = S'.filter ItabLabel.isLabel ∧
          implementationsOf sections S' = .ok (p.map Prod.snd)) ∧
      (∀ S', S'.Sublist S →
        ∃ p : List (Symbol × Implementation), p.Sublist ((S.filter ItabLabel.isLabel).zip r) ∧
          p.map Prod.fst = S'.filter ItabLabel.isLabel ∧
          implementationsOf sections S' = .ok (p.map Prod.snd)) ∧
      (∀ s x s' x', (s, x) ∈ (S.filter ItabLabel.isLabel).zip r →
        (s', x') ∈ (S.filter ItabLabel.isLabel).zip r →
        (s.value = s'.value → x.concrete = x'.concrete ∧ x.methods = x'.methods) ∧
        ∀ c c' n, ItabLabel.Spells s.name c n → ItabLabel.Spells s'.name c' n →
          x.interface = x'.interface)) ∧
    (∀ sections' S,
      sections'.find? (·.name == "__typelink") = sections.find? (·.name == "__typelink") →
      sections'.find? (·.name == "__rodata") = sections.find? (·.name == "__rodata") →
      implementationsOf sections' S = implementationsOf sections S) := by
  refine ⟨fun S T r => implementationsOf_append_eq_ok_iff,
    fun S S' h => implementationsOf_congr rfl rfl h, fun S r h => ?_,
    fun sections' S hlink hrodata => implementationsOf_congr hlink hrodata rfl⟩
  obtain ⟨o, rodata, ho, hfind, hall⟩ := implementationsOf_eq_ok_iff.1 h
  have hlen : (S.filter ItabLabel.isLabel).length ≤ r.length := Nat.le_of_eq hall.length_eq
  refine ⟨fun S' hS' => ?_, fun S' hS' => ?_, fun s x s' x' hs hs' => ?_⟩
  · obtain ⟨p, hp, hmap⟩ := exists_perm_zip hlen hS'
    exact ⟨p, hp, hmap, implementationsOf_pick h (fun x hx => hp.mem_iff.1 hx) hmap.symm⟩
  · obtain ⟨p, hp, hmap⟩ := exists_sublist_zip hlen (hS'.filter _)
    exact ⟨p, hp, hmap, implementationsOf_pick h (fun x hx => hp.mem hx) hmap.symm⟩
  · have hx := (List.forall₂_iff_zip.1 hall).2 hs
    have hx' := (List.forall₂_iff_zip.1 hall).2 hs'
    have hlabel := (List.mem_filter.1 (List.of_mem_zip hs).1).2
    have hlabel' := (List.mem_filter.1 (List.of_mem_zip hs').1).2
    refine ⟨fun hvalue => ?_, fun c c' n hc hc' => ?_⟩
    · have hdescribes := hx'.2
      rw [← hvalue] at hdescribes
      exact hx.2.unique hdescribes
    · rw [hx.interface_eq hlabel hc, hx'.interface_eq hlabel' hc']

/-! ## Two labels of one dispatch record -/

def errorLabel : Symbol :=
  ⟨"go.itab.*runtime.errorString,error", 0x1000⟩

/-- What follows the second comma of this label says nothing. -/
def secondLabel : Symbol :=
  ⟨"go.itab.main.T,error,more", 0x1000⟩

theorem secondLabel_shares :
    implementationsOf errorImage.sections [errorLabel, secondLabel] =
        .ok (errorFound ++ errorFound) ∧
      implementationsOf errorImage.sections [secondLabel, ⟨"main.main", 0⟩, errorLabel] =
        .ok (errorFound ++ errorFound) ∧
      implementationsOf errorImage.sections [secondLabel] = .ok errorFound ∧
      (errorFound ++ errorFound).Pairwise (fun x y => x.concrete = y.concrete ∧
        x.methods = y.methods ∧ x.interface = y.interface) ∧
      implementationsOf (⟨"__text", "", 0, ⟨#[]⟩⟩ :: errorImage.sections ++ [errorTypelink])
        [secondLabel] = .ok errorFound := by
  have hboth : implementationsOf errorImage.sections [errorLabel, secondLabel] =
      .ok (errorFound ++ errorFound) := by decide +kernel
  obtain ⟨-, hskip, hpick, hsections⟩ := implementations_labelwise errorImage.sections
  obtain ⟨hperm, hsublist, hshared⟩ := hpick _ _ hboth
  obtain ⟨x, hx⟩ : ∃ x, errorFound = [x] := ⟨_, rfl⟩
  have hzip : ([errorLabel, secondLabel].filter ItabLabel.isLabel).zip (errorFound ++ errorFound) =
      [(errorLabel, x), (secondLabel, x)] := by
    rw [hx]
    rfl
  have hsame : ∀ p : List (Symbol × Implementation),
      (∀ y ∈ p, y ∈ [(errorLabel, x), (secondLabel, x)]) →
      p.map Prod.snd = List.replicate (p.map Prod.fst).length x := by
    intro p hp
    rw [List.length_map, List.map_eq_replicate_iff]
    intro y hy
    rcases List.mem_pair.1 (hp y hy) with rfl | rfl
    · rfl
    · rfl
  rw [hzip] at hperm hsublist hshared
  obtain ⟨hvalue, hinterface⟩ := hshared errorLabel x secondLabel x (by simp) (by simp)
  have herror : ItabLabel.Spells errorLabel.name "*runtime.errorString" "error" :=
    ⟨[], rfl, by decide, by decide, Or.inl rfl⟩
  have hsecond : ItabLabel.Spells secondLabel.name "main.T" "error" :=
    ⟨[',', 'm', 'o', 'r', 'e'], rfl, by decide, by decide, Or.inr rfl⟩
  have hswap : implementationsOf errorImage.sections [secondLabel, errorLabel] =
      .ok (errorFound ++ errorFound) := by
    obtain ⟨p, hp, hmap, hrun⟩ := hperm [secondLabel, errorLabel] (List.Perm.swap _ _ _)
    rw [hrun, hsame p (fun y hy => hp.mem_iff.1 hy), hmap, hx]
    rfl
  have hlast : implementationsOf errorImage.sections [secondLabel] = .ok errorFound := by
    obtain ⟨p, hp, hmap, hrun⟩ :=
      hsublist [secondLabel] (List.Sublist.cons _ (List.Sublist.refl _))
    rw [hrun, hsame p (fun y hy => hp.mem hy), hmap, hx]
    rfl
  refine ⟨hboth, ?_, hlast, ?_, ?_⟩
  · rw [hskip [secondLabel, errorLabel] _ (by decide), hswap]
  · rw [hx]
    obtain ⟨hconcrete, hmethods⟩ := hvalue rfl
    exact List.pairwise_pair.2 ⟨hconcrete, hmethods, hinterface _ _ _ herror hsecond⟩
  · exact (hsections _ [secondLabel] rfl rfl).trans hlast

end ItabRecovery

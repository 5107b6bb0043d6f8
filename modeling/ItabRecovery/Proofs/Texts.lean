import Mathlib.Data.List.TakeWhile
import ItabRecovery.ItabLabel
import ItabRecovery.QualifiedName
import ItabRecovery.Proofs.Traversal

/-!
# What names and labels say

The texts that recovery takes apart, told by how they are put together: `Unstarred` for the star
in front of a pointer, `QualifiedName.Joins` for the first dot, `ItabLabel.Spells` for the commas
of a label.

    ItabLabel.ofSymbol s = .ok l ↔ l labels s and s.name spells it        (ofSymbol_eq_ok_iff)
-/

namespace ItabRecovery

/-! ## Cutting at a character -/

theorem bne_of_not_mem {c : Char} {l : List Char} (h : c ∉ l) : ∀ x ∈ l, (x != c) = true := by
  intro x hx
  rw [bne_iff_ne]
  rintro rfl
  exact h hx

theorem takeWhile_cut {c : Char} {a r : List Char} (h : c ∉ a) :
    (a ++ c :: r).takeWhile (· != c) = a := by
  simp [List.takeWhile_append_of_pos (bne_of_not_mem h)]

theorem dropWhile_cut {c : Char} {a r : List Char} (h : c ∉ a) :
    (a ++ c :: r).dropWhile (· != c) = c :: r := by
  simp [List.dropWhile_append_of_pos (bne_of_not_mem h)]

theorem dropWhile_eq_nil_iff_not_mem {c : Char} {l : List Char} :
    l.dropWhile (· != c) = [] ↔ c ∉ l := by
  rw [List.dropWhile_eq_nil_iff]
  exact ⟨fun h hc => by simpa using h c hc, bne_of_not_mem⟩

theorem not_mem_takeWhile (c : Char) (l : List Char) : c ∉ l.takeWhile (· != c) := by
  intro h
  simpa using List.all_eq_true.1 List.all_takeWhile _ h

/-- What is left after the characters that differ from `c` starts with `c`. -/
theorem eq_of_dropWhile_cons {c x : Char} {l r : List Char}
    (h : l.dropWhile (· != c) = x :: r) : x = c := by
  have := List.head?_dropWhile_not (· != c) l
  simpa [h] using this

/-- The first occurrence of a character cuts a text in one way. -/
theorem cut_eq {c : Char} {l r : List Char} (h : l.dropWhile (· != c) = c :: r) :
    l = l.takeWhile (· != c) ++ c :: r := by
  rw [← h, List.takeWhile_append_dropWhile]

/-! ## Names of types -/

/-- `t` is `s` without the star in front, if there is one. -/
def Unstarred (s t : String) : Prop :=
  s.toList = '*' :: t.toList ∨ s.toList.head? ≠ some '*' ∧ t = s

theorem stripPointer_eq_iff {s t : String} : stripPointer s = t ↔ Unstarred s t := by
  unfold stripPointer Unstarred
  split
  · next rest h =>
    rw [h, ← String.toList_inj]
    simp [eq_comm]
  · next h =>
    constructor
    · rintro rfl
      refine Or.inr ⟨fun hs => ?_, rfl⟩
      obtain ⟨rest, hr⟩ := List.head?_eq_some_iff.1 hs
      exact h rest hr
    · rintro (hs | ⟨-, rfl⟩)
      · exact absurd hs (h _)
      · rfl

namespace QualifiedName

/-- A text is a name without a dot, or a package path without a dot, a dot and a name. -/
def Joins (s : String) (q : QualifiedName) : Prop :=
  '.' ∉ s.toList ∧ q = ⟨"", s⟩ ∨
    '.' ∉ q.pkgPath.toList ∧ s.toList = q.pkgPath.toList ++ '.' :: q.name.toList

theorem ofText_eq_iff {s : String} {q : QualifiedName} : ofText s = q ↔ Joins s q := by
  unfold ofText Joins
  split
  · next h =>
    have hs := dropWhile_eq_nil_iff_not_mem.1 h
    constructor
    · rintro rfl
      exact Or.inl ⟨hs, rfl⟩
    · rintro (⟨-, rfl⟩ | ⟨-, hq⟩)
      · rfl
      · exact absurd (by simp [hq]) hs
  · next x name h =>
    obtain rfl := eq_of_dropWhile_cons h
    have hs := cut_eq h
    constructor
    · rintro rfl
      refine Or.inr ⟨?_, ?_⟩
      · rw [String.toList_ofList]
        exact not_mem_takeWhile _ _
      · rw [String.toList_ofList, String.toList_ofList]
        exact hs
    · rintro (⟨hn, -⟩ | ⟨hp, hq⟩)
      · exact absurd (by rw [hs]; simp) hn
      · obtain ⟨p, n⟩ := q
        simp only at hp hq
        rw [hq, dropWhile_cut hp] at h
        rw [hq, takeWhile_cut hp, String.ofList_toList, ← (List.cons.inj h).2, String.ofList_toList]

end QualifiedName

/-! ## Labels -/

namespace ItabLabel

/-- A symbol's name is that of a label: the marker, the concrete type, a comma and the interface,
and after that nothing, or a comma and any text. -/
def Spells (symbol concrete interface : String) : Prop :=
  ∃ rest : List Char,
    symbol.toList = marker ++ concrete.toList ++ ',' :: (interface.toList ++ rest) ∧
      ',' ∉ concrete.toList ∧ ',' ∉ interface.toList ∧ (rest = [] ∨ rest.head? = some ',')

theorem segments?_eq_none_iff {l : List Char} : segments? l = none ↔ ',' ∉ l := by
  rw [← dropWhile_eq_nil_iff_not_mem]
  unfold segments?
  split
  · next h => simp [h]
  · next h => simp [h]

theorem segments?_eq_some_iff {l a b : List Char} :
    segments? l = some (a, b) ↔
      ∃ rest, l = a ++ ',' :: (b ++ rest) ∧ ',' ∉ a ∧ ',' ∉ b ∧
        (rest = [] ∨ rest.head? = some ',') := by
  unfold segments?
  constructor
  · intro h
    split at h
    · cases h
    · next x after hd =>
      obtain rfl := eq_of_dropWhile_cons hd
      obtain ⟨rfl, rfl⟩ := Prod.mk.inj (Option.some.inj h)
      refine ⟨after.dropWhile (· != ','), ?_, not_mem_takeWhile _ _, not_mem_takeWhile _ _, ?_⟩
      · rw [List.takeWhile_append_dropWhile]
        exact cut_eq hd
      · cases hr : after.dropWhile (· != ',') with
        | nil => exact Or.inl rfl
        | cons y rest =>
          obtain rfl := eq_of_dropWhile_cons hr
          exact Or.inr rfl
  · rintro ⟨rest, rfl, ha, hb, hrest⟩
    rw [dropWhile_cut ha, takeWhile_cut ha]
    have : (b ++ rest).takeWhile (· != ',') = b := by
      rcases hrest with rfl | hr
      · rw [List.append_nil, List.takeWhile_eq_self_iff]
        exact bne_of_not_mem hb
      · obtain ⟨r, rfl⟩ := List.head?_eq_some_iff.1 hr
        exact takeWhile_cut hb
    simp only [this]

theorem marker_isPrefix {s : Symbol} (h : isLabel s = true) :
    s.name.toList = marker ++ s.name.toList.drop marker.length := by
  rw [isLabel, List.isPrefixOf_iff_prefix] at h
  obtain ⟨rest, hr⟩ := h
  rw [← hr, List.drop_left]

theorem ofSymbol_eq_ok_iff {s : Symbol} {l : ItabLabel} (h : isLabel s = true) :
    ofSymbol s = .ok l ↔
      l.symbol = s.name ∧ l.address = s.value ∧ Spells s.name l.concrete l.interface := by
  have hm := marker_isPrefix h
  obtain ⟨symbol, address, concrete, interface⟩ := l
  unfold Spells
  constructor
  · intro hl
    unfold ofSymbol at hl
    split at hl
    · next a b hs =>
      obtain ⟨rfl, rfl, rfl, rfl⟩ := ItabLabel.mk.inj (Except.ok.inj hl)
      obtain ⟨rest, hr, ha, hb, he⟩ := segments?_eq_some_iff.1 hs
      refine ⟨rfl, rfl, rest, ?_, ?_, ?_, he⟩
      · rw [hm, hr, String.toList_ofList, String.toList_ofList, List.append_assoc]
      · rwa [String.toList_ofList]
      · rwa [String.toList_ofList]
    · cases hl
  · rintro ⟨rfl, rfl, rest, hr, ha, hb, he⟩
    have hd : s.name.toList.drop marker.length =
        concrete.toList ++ ',' :: (interface.toList ++ rest) := by
      rw [hr, List.append_assoc, List.drop_left]
    have hs := segments?_eq_some_iff.2 ⟨rest, hd, ha, hb, he⟩
    unfold ofSymbol
    rw [hs]
    simp only [String.ofList_toList]

/-- A label is refused exactly when no comma follows the marker. -/
theorem exists_ofSymbol_eq_ok_iff {s : Symbol} :
    (∃ l, ofSymbol s = .ok l) ↔ ',' ∈ s.name.toList.drop marker.length := by
  unfold ofSymbol
  split
  · next a b hs =>
    have : segments? (s.name.toList.drop marker.length) ≠ none := by rw [hs]; simp
    simpa [segments?_eq_none_iff] using this
  · next hs => simpa using segments?_eq_none_iff.1 hs

end ItabLabel

end ItabRecovery

import ItabRecovery.Report.Listing
import ItabRecovery.Proofs.Extraction

/-!
# Names put together again

A text is split at its first dot into a package path and a name, and reports put the two together
again.  Nothing is lost on the way but one dot in front:

    Undotted s (QualifiedName.ofText s).text                            (undotted_text_ofText)
    (QualifiedName.ofText s).text = s ↔ s does not start with a dot     (text_ofText_eq_iff)

A type is shown as its own text, too, unless a star had to be put in front (`TypeRef.Retells`).
-/

namespace ItabRecovery

/-- `t` is `s` without the dot in front, if there is one. -/
def Undotted (s t : String) : Prop :=
  s.toList = '.' :: t.toList ∨ s.toList.head? ≠ some '.' ∧ t = s

theorem Undotted.eq_iff {s t : String} (h : Undotted s t) : t = s ↔ s.toList.head? ≠ some '.' := by
  rcases h with hdot | ⟨hhead, rfl⟩
  · have hne : t ≠ s := by
      rintro rfl
      have hlen := congrArg List.length hdot
      rw [List.length_cons] at hlen
      omega
    simp [hne, hdot]
  · simp [hhead]

/-! ## Splitting and joining -/

/-- What a name keeps of its text: the package path is the part up to the first dot, so it has none,
and with the name it makes the text again, less a dot in front. -/
structure QualifiedName.Retells (q : QualifiedName) (t : String) : Prop where
  dot_not_mem : '.' ∉ q.pkgPath.toList
  undotted : Undotted t q.text

namespace QualifiedName

theorem undotted_text_ofText (s : String) : Undotted s (ofText s).text := by
  by_cases hdot : s.toList.head? = some '.'
  · left
    obtain ⟨rest, hrest⟩ := List.head?_eq_some_iff.1 hdot
    have hsplit : ofText s = ⟨"", String.ofList rest⟩ := by
      rw [ofText_eq_iff]
      exact Or.inr ⟨List.not_mem_nil, by simpa using hrest⟩
    rw [hsplit, text, if_pos rfl, String.toList_ofList, hrest]
  · exact Or.inr ⟨hdot, text_ofText hdot⟩

theorem retells_ofText (s : String) : (ofText s).Retells s where
  dot_not_mem := dot_not_mem_pkgPath s
  undotted := undotted_text_ofText s

theorem text_ofText_eq_iff {s : String} : (ofText s).text = s ↔ s.toList.head? ≠ some '.' :=
  (undotted_text_ofText s).eq_iff

/-- Texts without a dot in front are told apart by their package paths and names. -/
theorem eq_of_ofText_eq {s s' : String} (hs : s.toList.head? ≠ some '.')
    (hs' : s'.toList.head? ≠ some '.') (h : ofText s = ofText s') : s = s' := by
  rw [← text_ofText hs, h, text_ofText hs']

end QualifiedName

/-! ## Types as they are shown -/

namespace TypeRef

/-- Whether a type is shown as the text it was read from: a pointer that has its own star, or a type
that is no pointer and has no dot in front. -/
def Plain (r : TypeRef) (t : String) : Prop :=
  if r.isPointer then t.toList.head? = some '*' else t.toList.head? ≠ some '.'

instance (r : TypeRef) (t : String) : Decidable (r.Plain t) :=
  inferInstanceAs <| Decidable <|
    if r.isPointer then t.toList.head? = some '*' else t.toList.head? ≠ some '.'

/-- What a type keeps of its text, and how it is shown. -/
structure Retells (r : TypeRef) (t : String) : Prop where
  name : r.name.Retells t
  /-- A pointer without a star is given one. -/
  shown_eq : r.shown =
    if r.isPointer = true ∧ r.name.text.toList.head? ≠ some '*' then "*" ++ r.name.text
    else r.name.text
  shown_eq_self : r.Plain t → r.shown = t

theorem shown_eq (r : TypeRef) : r.shown =
    if r.isPointer = true ∧ r.name.text.toList.head? ≠ some '*' then "*" ++ r.name.text
    else r.name.text := by
  have hstar : r.name.text.toList.head?.any (· == '*') = true ↔
      r.name.text.toList.head? = some '*' := by
    cases r.name.text.toList.head? with
    | none => simp
    | some c => simp
  rw [shown]
  simp only [Bool.and_eq_true, Bool.not_eq_true', ← Bool.not_eq_true, hstar, ne_eq]

theorem retells {r : TypeRef} {t : String} (h : r.name.Retells t) : r.Retells t := by
  refine ⟨h, r.shown_eq, fun hplain => ?_⟩
  rw [shown_eq]
  rw [Plain] at hplain
  cases hp : r.isPointer with
  | true =>
    rw [if_pos hp] at hplain
    have htext : r.name.text = t := h.undotted.eq_iff.2 (by rw [hplain]; decide)
    rw [htext, if_neg fun hno => hno.2 hplain]
  | false =>
    rw [if_neg (by rw [hp]; decide)] at hplain
    rw [if_neg fun hno => Bool.false_ne_true hno.1]
    exact h.undotted.eq_iff.2 hplain

/-- A type of a given text keeps that text; if it is no pointer, without one star in front. -/
theorem exists_retells_ofText (text : String) (isPointer : Bool) :
    ∃ t, (if isPointer then t = text else Unstarred text t) ∧
      (ofText text isPointer).isPointer = isPointer ∧ (ofText text isPointer).Retells t := by
  refine ⟨if isPointer then text else stripPointer text, ?_, rfl,
    retells (QualifiedName.retells_ofText _)⟩
  cases isPointer with
  | true => rfl
  | false => exact stripPointer_eq_iff.1 rfl

end TypeRef

/-- The types of a row are shown as their texts where each of them is. -/
theorem Report.shownTypes_eq {types : List TypeRef} {texts : List String}
    (h : List.Forall₂ (fun r t => r.Retells t ∧ r.Plain t) types texts) :
    shownTypes types = ", ".intercalate texts := by
  have hshown : types.map TypeRef.shown = texts := by
    rw [← List.forall₂_eq_eq_eq, List.forall₂_map_left_iff]
    exact h.imp fun r t hr => hr.1.shown_eq_self hr.2
  rw [shownTypes, hshown]

/-! ## What is read from an image -/

theorem Section.typeRef_eq (s : Section) (record : TypeRecord) :
    s.typeRef record = (s.nameAt record.text).map (TypeRef.ofText · record.isPointer) := by
  rw [typeRef]
  cases s.nameAt record.text with
  | error e => rfl
  | ok text => rfl

/-- An interface is named by its label. -/
theorem TypeData.retells_of_implementationAt {d : TypeData} {label : ItabLabel}
    {x : Implementation} (h : d.implementationAt label = .ok x) :
    x.interface.Retells label.interface := by
  obtain ⟨hjoins, -⟩ := Reading.implementationAt_eq_ok_iff.1 h
  rw [← QualifiedName.ofText_eq_iff.2 hjoins]
  exact QualifiedName.retells_ofText _

/-- The first line about an implementation. -/
theorem Report.exists_entry_eq (x : Implementation) : ∃ rest,
    entry false x = x.concrete ++ " implements " ++ x.interface.text ++ "\n" ++ rest := by
  refine ⟨(if x.methods.isEmpty then "" else table heading (x.methods.map row) ++ "\n") ++ "\n", ?_⟩
  simp only [entry, paint, Bool.false_eq_true, if_false, String.append_assoc]
  rfl

/-- **Splitting, stripping and joining lose one dot in front and nothing else.**  A parameter keeps
its text, a pointer with its star and all others without one; texts without a dot in front come back
whole and are told apart; a row of types is shown as its texts where no star is put in front and no
dot was lost; and an interface keeps the text of its label. -/
theorem texts_rejoined :
    (∀ (s : Section) record,
      s.typeRef record = (s.nameAt record.text).map (TypeRef.ofText · record.isPointer)) ∧
    (∀ text isPointer, ∃ t, (if isPointer then t = text else Unstarred text t) ∧
      (TypeRef.ofText text isPointer).isPointer = isPointer ∧
        (TypeRef.ofText text isPointer).Retells t) ∧
    (∀ t, (QualifiedName.ofText t).text = t ↔ t.toList.head? ≠ some '.') ∧
    (∀ t t', t.toList.head? ≠ some '.' → t'.toList.head? ≠ some '.' →
      QualifiedName.ofText t = QualifiedName.ofText t' → t = t') ∧
    (∀ types, Report.shownTypes types = ", ".intercalate (types.map TypeRef.shown)) ∧
    (∀ types texts, List.Forall₂ (fun r t => TypeRef.Retells r t ∧ r.Plain t) types texts →
      Report.shownTypes types = ", ".intercalate texts) ∧
    ∀ (d : TypeData) label x, d.implementationAt label = .ok x →
      x.interface.Retells label.interface ∧ ∃ rest,
        Report.entry false x = x.concrete ++ " implements " ++ x.interface.text ++ "\n" ++ rest :=
  ⟨Section.typeRef_eq, TypeRef.exists_retells_ofText, fun _ => QualifiedName.text_ofText_eq_iff,
    fun _ _ => QualifiedName.eq_of_ofText_eq, fun _ => rfl, fun _ _ => Report.shownTypes_eq,
    fun _ _ x h => ⟨TypeData.retells_of_implementationAt h, Report.exists_entry_eq x⟩⟩

/-- A pointer with its own star and a type that loses one are shown as their texts, and an interface
with two dots in its label keeps both. -/
theorem starredTypes_rejoined :
    Report.shownTypes [.ofText "*main.T" true, .ofText "*error" false] = "*main.T, error" ∧
      (QualifiedName.ofText "a.b.c" = QualifiedName.ofText ("a.b" ++ ".c") ∧
        "a.b.c" = "a.b" ++ ".c") ∧
      ∃ x, (TypeData.mk errorRodata .little).implementationAt ⟨"", 0x1000, "", "a.b.c"⟩ = .ok x ∧
        x.interface.Retells "a.b.c" := by
  obtain ⟨-, hkept, -, hapart, -, hrow, hinterface⟩ := texts_rejoined
  refine ⟨?_, ⟨by decide, ?_⟩, ?_⟩
  · obtain ⟨t, rfl, -, hpointer⟩ := hkept "*main.T" true
    obtain ⟨t', hstar, -, herror⟩ := hkept "*error" false
    obtain rfl : "error" = t' := stripPointer_eq_iff.2 hstar
    exact hrow _ ["*main.T", "error"]
      (.cons ⟨hpointer, by decide⟩ (.cons ⟨herror, by decide⟩ .nil))
  · exact hapart _ _ (by decide) (by decide) (by decide)
  · have hfound : ((TypeData.mk errorRodata .little).implementationAt
        ⟨"", 0x1000, "", "a.b.c"⟩).toBool = true := by decide +kernel
    cases hx : (TypeData.mk errorRodata .little).implementationAt ⟨"", 0x1000, "", "a.b.c"⟩ with
    | error e =>
      rw [hx] at hfound
      cases hfound
    | ok x => exact ⟨x, rfl, (hinterface _ _ _ hx).1⟩

end ItabRecovery

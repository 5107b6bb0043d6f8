/-!
# Names of types

The text of a type is a package path and a name with a dot between, or a name alone; a star in
front marks a pointer.  A text is split at its first dot and put together again by `text`:

    (ofText s).text = s    unless s starts with a dot        (text_ofText)
-/

namespace ItabRecovery

/-- A name and the package it belongs to; the package path of a name without one is empty. -/
structure QualifiedName where
  pkgPath : String
  name : String
  deriving DecidableEq

namespace QualifiedName

def ofText (s : String) : QualifiedName :=
  match s.toList.dropWhile (· != '.') with
  | [] => ⟨"", s⟩
  | _ :: name => ⟨String.ofList (s.toList.takeWhile (· != '.')), String.ofList name⟩

/-- The package path, a dot and the name; the name alone where the path is empty. -/
def text (q : QualifiedName) : String :=
  if q.pkgPath = "" then q.name else q.pkgPath ++ "." ++ q.name

end QualifiedName

/-- A text without the star in front, if it has one; only one is taken. -/
def stripPointer (s : String) : String :=
  match s.toList with
  | '*' :: rest => String.ofList rest
  | _ => s

structure TypeRef where
  name : QualifiedName
  isPointer : Bool
  deriving DecidableEq

namespace TypeRef

/-- Only a type that is no pointer loses a star in front. -/
def ofText (s : String) (isPointer : Bool) : TypeRef :=
  ⟨.ofText (if isPointer then s else stripPointer s), isPointer⟩

/-- A type as shown to a reader: pointers have a star in front, their own or one put there. -/
def shown (t : TypeRef) : String :=
  if t.isPointer && !t.name.text.toList.head?.any (· == '*') then "*" ++ t.name.text
  else t.name.text

end TypeRef

/-! ## Lemmas -/

theorem QualifiedName.dot_not_mem_pkgPath (s : String) : '.' ∉ (ofText s).pkgPath.toList := by
  unfold ofText
  split
  · simp
  · intro h
    rw [String.toList_ofList] at h
    simpa using List.all_eq_true.1 List.all_takeWhile _ h

theorem QualifiedName.text_ofText {s : String} (h : s.toList.head? ≠ some '.') :
    (ofText s).text = s := by
  have parts := List.takeWhile_append_dropWhile (p := (· != '.')) (l := s.toList)
  unfold ofText text
  split
  · simp
  · rename_i c name hd
    have hc : c = '.' := by
      have := List.head?_dropWhile_not (· != '.') s.toList
      simpa [hd] using this
    subst hc
    rw [hd] at parts
    have hne : s.toList.takeWhile (· != '.') ≠ [] := by
      intro h0
      rw [h0] at parts
      exact h (by rw [← parts]; rfl)
    rw [if_neg (by simpa [String.ofList_eq_empty_iff] using hne)]
    apply String.toList_injective
    simpa using parts

end ItabRecovery

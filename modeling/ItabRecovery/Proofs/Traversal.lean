import Mathlib.Data.List.Forall2
import Mathlib.Data.List.Perm.Basic

/-!
# Traversals that may fail

A traversal of a list with a function that may fail gives a list exactly when the function
gives each of its members, and two traversals in a row are one.  Where it fails, it does so with
the error of the first member that fails:

    l.mapM f = .ok r ↔ List.Forall₂ (fun a b => f a = .ok b) l r        (mapM_eq_ok_iff)
    errorOf? (l.mapM f) = l.findSome? fun a => errorOf? (f a)           (errorOf?_mapM)
-/

namespace ItabRecovery

variable {ε α β γ : Type}

theorem bind_eq_ok_iff {x : Except ε α} {f : α → Except ε β} {b : β} :
    x >>= f = .ok b ↔ ∃ a, x = .ok a ∧ f a = .ok b := by
  cases x with
  | error e => simp [bind, Except.bind]
  | ok a => simp [bind, Except.bind]

theorem pure_eq_ok_iff {a b : α} : (pure a : Except ε α) = .ok b ↔ a = b := by
  simp [pure, Except.pure]

theorem mapM_eq_ok_iff {f : α → Except ε β} {l : List α} {r : List β} :
    l.mapM f = .ok r ↔ List.Forall₂ (fun a b => f a = .ok b) l r := by
  induction l generalizing r with
  | nil => rw [List.mapM_nil, pure_eq_ok_iff, List.forall₂_nil_left_iff, eq_comm]
  | cons a l ih =>
    simp only [List.mapM_cons, bind_eq_ok_iff, pure_eq_ok_iff, List.forall₂_cons_left_iff, ih]
    constructor
    · rintro ⟨b, hb, bs, hbs, rfl⟩
      exact ⟨b, bs, hb, hbs, rfl⟩
    · rintro ⟨b, bs, hb, hbs, rfl⟩
      exact ⟨b, hb, bs, hbs, rfl⟩

theorem mapM_eq_some_iff {f : α → Option β} {l : List α} {r : List β} :
    l.mapM f = some r ↔ List.Forall₂ (fun a b => f a = some b) l r := by
  induction l generalizing r with
  | nil => rw [List.mapM_nil, Option.pure_def, Option.some_inj, List.forall₂_nil_left_iff, eq_comm]
  | cons a l ih =>
    simp only [List.mapM_cons, Option.bind_eq_bind, Option.bind_eq_some_iff, Option.pure_def,
      Option.some_inj, List.forall₂_cons_left_iff, ih]
    constructor
    · rintro ⟨b, hb, bs, hbs, rfl⟩
      exact ⟨b, bs, hb, hbs, rfl⟩
    · rintro ⟨b, bs, hb, hbs, rfl⟩
      exact ⟨b, hb, bs, hbs, rfl⟩

/-- Two lists are related through a third one member by member. -/
theorem exists_forall₂_iff {R : α → β → Prop} {S : β → γ → Prop} {l : List α} {r : List γ} :
    (∃ m, List.Forall₂ R l m ∧ List.Forall₂ S m r) ↔
      List.Forall₂ (fun a c => ∃ b, R a b ∧ S b c) l r := by
  induction l generalizing r with
  | nil => simp
  | cons a l ih =>
    simp only [List.forall₂_cons_left_iff]
    constructor
    · rintro ⟨m, ⟨b, bs, hb, hbs, rfl⟩, h⟩
      obtain ⟨c, cs, hc, hcs, rfl⟩ := List.forall₂_cons_left_iff.1 h
      exact ⟨c, cs, ⟨b, hb, hc⟩, ih.1 ⟨bs, hbs, hcs⟩, rfl⟩
    · rintro ⟨c, cs, ⟨b, hb, hc⟩, h, rfl⟩
      obtain ⟨bs, hbs, hcs⟩ := ih.2 h
      exact ⟨b :: bs, ⟨b, bs, hb, hbs, rfl⟩, .cons hc hcs⟩

/-- A traversal of what a traversal gave. -/
theorem mapM_mapM_eq_ok_iff {f : α → Except ε β} {g : β → Except ε γ} {l : List α} {r : List γ} :
    (∃ m, l.mapM f = .ok m ∧ m.mapM g = .ok r) ↔
      List.Forall₂ (fun a c => ∃ b, f a = .ok b ∧ g b = .ok c) l r := by
  simp only [mapM_eq_ok_iff, exists_forall₂_iff]

theorem forall₂_imp {R S : α → β → Prop} {l : List α} {r : List β}
    (h : ∀ a ∈ l, ∀ b, R a b → S a b) (hr : List.Forall₂ R l r) : List.Forall₂ S l r := by
  induction hr with
  | nil => exact .nil
  | cons hab _ ih =>
    exact .cons (h _ List.mem_cons_self _ hab) (ih fun a ha => h a (List.mem_cons_of_mem _ ha))

theorem exists_of_forall₂ {R : α → β → Prop} {l : List α} {r : List β} (h : List.Forall₂ R l r)
    {a : α} (ha : a ∈ l) : ∃ b, R a b := by
  induction h with
  | nil => cases ha
  | cons hab _ ih =>
    rcases List.mem_cons.1 ha with rfl | ha
    · exact ⟨_, hab⟩
    · exact ih ha

/-- The members of a list are related to the numbers that count them. -/
theorem forall₂_range {R : Nat → β → Prop} {r : List β} {n : Nat} (hn : r.length = n)
    (h : ∀ k (hk : k < r.length), R k r[k]) : List.Forall₂ R (List.range n) r := by
  refine List.forall₂_iff_get.2 ⟨by rw [List.length_range, hn], fun k _ hk => ?_⟩
  rw [List.get_eq_getElem, List.getElem_range]
  exact h k hk

theorem forall₂_congr {R S : α → β → Prop} {l : List α} {r : List β}
    (h : ∀ a ∈ l, ∀ b, R a b ↔ S a b) : List.Forall₂ R l r ↔ List.Forall₂ S l r :=
  ⟨forall₂_imp fun a ha b => (h a ha b).1, forall₂_imp fun a ha b => (h a ha b).2⟩

/-! ## Parts of a list -/

theorem forall₂_append_left_iff {R : α → β → Prop} {l m : List α} {r : List β} :
    List.Forall₂ R (l ++ m) r ↔
      ∃ r₁ r₂, List.Forall₂ R l r₁ ∧ List.Forall₂ R m r₂ ∧ r = r₁ ++ r₂ := by
  constructor
  · intro h
    refine ⟨r.take l.length, r.drop l.length, ?_, ?_, (List.take_append_drop _ _).symm⟩
    · simpa using List.forall₂_take l.length h
    · simpa using List.forall₂_drop l.length h
  · rintro ⟨r₁, r₂, h₁, h₂, rfl⟩
    exact List.rel_append h₁ h₂

/-- Members of one list that are picked together with those they are related to. -/
theorem forall₂_of_mem_zip {R : α → β → Prop} {l : List α} {r : List β} (h : List.Forall₂ R l r)
    {p : List (α × β)} (hp : ∀ x ∈ p, x ∈ l.zip r) :
    List.Forall₂ R (p.map Prod.fst) (p.map Prod.snd) := by
  rw [List.forall₂_map_left_iff, List.forall₂_map_right_iff, List.forall₂_same]
  exact fun x hx => (List.forall₂_iff_zip.1 h).2 (hp x hx)

/-- A list put in another order takes what its members are paired with along. -/
theorem exists_perm_zip {l l' : List α} {r : List β} (hlen : l.length ≤ r.length)
    (h : l'.Perm l) : ∃ p : List (α × β), p.Perm (l.zip r) ∧ p.map Prod.fst = l' := by
  have hpairs : List.Forall₂ (fun a (x : α × β) => a = x.1) l (l.zip r) := by
    nth_rewrite 1 [← List.map_fst_zip hlen]
    rw [List.forall₂_map_left_iff, List.forall₂_same]
    exact fun x _ => rfl
  obtain ⟨p, hp, hperm⟩ := List.perm_comp_forall₂ h hpairs
  refine ⟨p, hperm, ?_⟩
  rw [← List.forall₂_map_right_iff (f := Prod.fst), List.forall₂_eq_eq_eq] at hp
  exact hp.symm

/-- Part of a list takes what its members are paired with along. -/
theorem exists_sublist_zip {l l' : List α} {r : List β} (hlen : l.length ≤ r.length)
    (h : l'.Sublist l) : ∃ p : List (α × β), p.Sublist (l.zip r) ∧ p.map Prod.fst = l' := by
  rw [← List.map_fst_zip hlen, List.sublist_map_iff] at h
  obtain ⟨p, hp, rfl⟩ := h
  exact ⟨p, hp, rfl⟩

/-! ## The first error -/

/-- The error of what fails. -/
def errorOf? : Except ε α → Option ε
  | .ok _ => none
  | .error e => some e

theorem errorOf?_eq_some_iff {x : Except ε α} {e : ε} : errorOf? x = some e ↔ x = .error e := by
  cases x with
  | ok a => simp [errorOf?]
  | error e' => simp [errorOf?]

theorem errorOf?_eq_none_iff {x : Except ε α} : errorOf? x = none ↔ ∃ a, x = .ok a := by
  cases x with
  | ok a => simp [errorOf?]
  | error e => simp [errorOf?]

/-- What comes next is to blame only where what came before succeeded. -/
theorem errorOf?_bind {x : Except ε α} {f : α → Except ε β} {p : Option ε}
    (h : ∀ a, x = .ok a → errorOf? (f a) = p) : errorOf? (x >>= f) = (errorOf? x).or p := by
  cases x with
  | error e => rfl
  | ok a => exact h a rfl

theorem errorOf?_bind_pure {x : Except ε α} {g : α → β} :
    errorOf? (x >>= fun a => pure (g a)) = errorOf? x := by
  cases x with
  | error e => rfl
  | ok a => rfl

theorem findSome?_cons_or {a : α} {l : List α} {f : α → Option β} :
    (a :: l).findSome? f = (f a).or (l.findSome? f) := by
  rw [List.findSome?_cons]
  cases f a with
  | none => rfl
  | some b => rfl

theorem findSome?_flatMap {l : List α} {f : α → List β} {g : β → Option γ} :
    (l.flatMap f).findSome? g = l.findSome? fun a => (f a).findSome? g := by
  induction l with
  | nil => rfl
  | cons a l ih => rw [List.flatMap_cons, List.findSome?_append, ih, findSome?_cons_or]

theorem errorOf?_mapM {f : α → Except ε β} {l : List α} :
    errorOf? (l.mapM f) = l.findSome? fun a => errorOf? (f a) := by
  induction l with
  | nil => rfl
  | cons a l ih =>
    rw [List.mapM_cons, findSome?_cons_or, ← ih]
    apply errorOf?_bind
    intro b _
    exact errorOf?_bind_pure

/-- Related members that give the same answer are interchangeable. -/
theorem findSome?_eq_of_forall₂ {R : α → β → Prop} {l : List α} {r : List β}
    (h : List.Forall₂ R l r) {f : α → Option γ} {g : β → Option γ}
    (hfg : ∀ a ∈ l, ∀ b, R a b → f a = g b) : l.findSome? f = r.findSome? g := by
  induction h with
  | nil => rfl
  | cons hab _ ih =>
    rw [findSome?_cons_or, findSome?_cons_or, hfg _ List.mem_cons_self _ hab,
      ih fun a ha => hfg a (List.mem_cons_of_mem _ ha)]

end ItabRecovery

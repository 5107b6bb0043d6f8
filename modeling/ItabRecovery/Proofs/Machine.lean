import Mathlib.Algebra.Ring.Nat
import Mathlib.Data.List.Forall2
import ItabRecovery.Error
import ItabRecovery.Slice

/-!
# Words of 64 bits and runs that may panic

Recovery computes with natural numbers, a machine with words.  A machine's sum or product that
is not checked may overflow, an index may be past the end, and then the run panics.  `Outcome` is
what such a run ends with, and `Follows` compares it with a run that cannot panic at all:

    Follows R m x  ↔  m ends with a value R-related to that of x, or with the error of x
-/

namespace ItabRecovery.Machine

/-! ## Outcomes -/

/-- What makes a run panic. -/
inductive Fault where
  /-- A sum or product that no word holds. -/
  | overflow
  /-- An index past the end, or a word read from too few bytes. -/
  | index
  /-- A signed number that is not positive, taken for an unsigned one. -/
  | cast
  /-- A record whose fields take more bytes than were cut out for it. -/
  | short
  deriving DecidableEq

/-- How a run ends. -/
inductive Outcome (α : Type) where
  | value (a : α)
  | error (e : Error)
  | panic (f : Fault)
  deriving DecidableEq

variable {α β γ δ : Type}

namespace Outcome

/-- What comes next, after a value. -/
def andThen (m : Outcome α) (g : α → Outcome β) : Outcome β :=
  match m with
  | value a => g a
  | error e => error e
  | panic f => panic f

instance : Monad Outcome where
  pure := value
  bind := andThen

instance : LawfulMonad Outcome :=
  LawfulMonad.mk' Outcome
    (fun m => by cases m <;> rfl)
    (fun _ _ => rfl)
    (fun m _ _ => by cases m <;> rfl)

/-- The outcome of a run that cannot panic. -/
def lift : Except Error α → Outcome α
  | .ok a => value a
  | .error e => error e

end Outcome

/-! ## Operations -/

/-- A sum that is not checked. -/
def add (a b : UInt64) : Outcome UInt64 :=
  if a.toNat + b.toNat < 2 ^ 64 then .value (a + b) else .panic .overflow

/-- A product that is not checked. -/
def mul (a b : UInt64) : Outcome UInt64 :=
  if a.toNat * b.toNat < 2 ^ 64 then .value (a * b) else .panic .overflow

/-- The byte at an index that is not checked. -/
def index (bs : List UInt8) (i : Nat) : Outcome UInt8 :=
  match bs[i]? with
  | some b => .value b
  | none => .panic .index

/-- A signed number as an unsigned one. -/
def cast (n : Int32) : Outcome UInt64 :=
  if 0 < n.toInt then .value (UInt64.ofNat n.toInt.toNat) else .panic .cast

def checkedAdd (a b : UInt64) : Option UInt64 :=
  if a.toNat + b.toNat < 2 ^ 64 then some (a + b) else none

def checkedMul (a b : UInt64) : Option UInt64 :=
  if a.toNat * b.toNat < 2 ^ 64 then some (a * b) else none

def checkedSub (a b : UInt64) : Option UInt64 :=
  if b ≤ a then some (a - b) else none

/-- The bytes from one position to another, where the two are in order and none is missing. -/
def get? (data : ByteArray) (start stop : UInt64) : Option (List UInt8) :=
  if start ≤ stop ∧ stop.toNat ≤ data.size then
    some (data.extract start.toNat stop.toNat).data.toList
  else none

/-! ## Runs that follow each other -/

/-- A run follows one that cannot panic: they end with related values or with the same error. -/
inductive Follows (R : α → β → Prop) : Outcome α → Except Error β → Prop
  | value {a : α} {b : β} : R a b → Follows R (.value a) (.ok b)
  | error (e : Error) : Follows R (.error e) (.error e)

/-- A word stands for a natural number. -/
def Counts (w : UInt64) (n : Nat) : Prop :=
  w.toNat = n

theorem Follows.ne_panic {R : α → β → Prop} {m : Outcome α} {x : Except Error β}
    (h : Follows R m x) (f : Fault) : m ≠ .panic f := by
  rintro rfl
  cases h

theorem Follows.eq_lift {m : Outcome α} {x : Except Error α} (h : Follows Eq m x) :
    m = .lift x := by
  cases h with
  | value h => rw [h, Outcome.lift]
  | error e => rfl

theorem Follows.eq_ok {a : α} {x : Except Error α} (h : Follows Eq (.value a) x) :
    x = .ok a := by
  cases h with
  | value h => rw [h]

theorem Follows.exists_value {R : α → β → Prop} {m : Outcome α} {b : β}
    (h : Follows R m (.ok b)) : ∃ a, m = .value a ∧ R a b := by
  cases h with
  | value h => exact ⟨_, rfl, h⟩

theorem Follows.eq_error {R : α → β → Prop} {m : Outcome α} {e : Error}
    (h : Follows R m (.error e)) : m = .error e := by
  cases h with
  | error e => rfl

theorem follows_lift (x : Except Error α) : Follows Eq (.lift x) x := by
  cases x with
  | error e => exact .error e
  | ok a => exact .value rfl

theorem Follows.bind {R : α → β → Prop} {S : γ → δ → Prop} {m : Outcome α} {x : Except Error β}
    {g : α → Outcome γ} {f : β → Except Error δ} (h : Follows R m x)
    (hg : ∀ a b, R a b → x = .ok b → Follows S (g a) (f b)) : Follows S (m >>= g) (x >>= f) := by
  cases h with
  | value hab => exact hg _ _ hab rfl
  | error e => exact .error e

theorem Follows.mapM {R : γ → δ → Prop} {l : List α} {g : α → Outcome γ} {f : α → Except Error δ}
    (h : ∀ a ∈ l, Follows R (g a) (f a)) : Follows (List.Forall₂ R) (l.mapM g) (l.mapM f) := by
  induction l with
  | nil => exact .value .nil
  | cons a l ih =>
    rw [List.mapM_cons, List.mapM_cons]
    apply (h a List.mem_cons_self).bind
    intro c d hcd _
    apply (ih fun b hb => h b (List.mem_cons_of_mem a hb)).bind
    intro cs ds hcds _
    exact .value (.cons hcd hcds)

theorem Follows.mapM_eq {l : List α} {g : α → Outcome γ} {f : α → Except Error γ}
    (h : ∀ a ∈ l, Follows Eq (g a) (f a)) : Follows Eq (l.mapM g) (l.mapM f) := by
  have := Follows.mapM h
  rwa [List.forall₂_eq_eq_eq] at this

section
variable {R : γ → δ → Prop} {x : Except Error δ}

theorem follows_add {a b : UInt64} {g : UInt64 → Outcome γ} (h : a.toNat + b.toNat < 2 ^ 64)
    (hg : ∀ c : UInt64, c.toNat = a.toNat + b.toNat → Follows R (g c) x) :
    Follows R (add a b >>= g) x := by
  rw [add, if_pos h]
  apply hg
  rw [UInt64.toNat_add, Nat.mod_eq_of_lt h]

theorem follows_mul {a b : UInt64} {g : UInt64 → Outcome γ} (h : a.toNat * b.toNat < 2 ^ 64)
    (hg : ∀ c : UInt64, c.toNat = a.toNat * b.toNat → Follows R (g c) x) :
    Follows R (mul a b >>= g) x := by
  rw [mul, if_pos h]
  apply hg
  rw [UInt64.toNat_mul, Nat.mod_eq_of_lt h]

theorem follows_index {bs : List UInt8} {i : Nat} {g : UInt8 → Outcome γ} (h : i < bs.length)
    (hg : Follows R (g bs[i]) x) : Follows R (index bs i >>= g) x := by
  rw [index, List.getElem?_eq_getElem h]
  exact hg

theorem follows_cast {n : Int32} {g : UInt64 → Outcome γ} (h : 0 < n.toInt)
    (hg : ∀ c : UInt64, c.toNat = n.toInt.toNat → Follows R (g c) x) :
    Follows R (cast n >>= g) x := by
  rw [cast, if_pos h]
  apply hg
  have := Int32.toInt_lt n
  rw [UInt64.toNat_ofNat', Nat.mod_eq_of_lt (by omega)]

end

/-! ## Checked operations -/

theorem toNat_checkedMul (a b : UInt64) :
    ((checkedMul a b).getD (UInt64.ofNat (2 ^ 64 - 1))).toNat =
      min (a.toNat * b.toNat) (2 ^ 64 - 1) := by
  unfold checkedMul
  split
  · next h =>
    rw [Option.getD_some, UInt64.toNat_mul, Nat.mod_eq_of_lt h]
    omega
  · next h =>
    rw [Option.getD_none, Nat.min_eq_right (by omega)]
    rfl

/-- Bytes between two positions are a slice. -/
theorem get?_eq {data : ByteArray} {start stop : UInt64} {n : Nat}
    (h : stop.toNat = start.toNat + n) : get? data start stop = slice? data start.toNat n := by
  have hle : start ≤ stop := by
    rw [UInt64.le_iff_toNat_le]
    omega
  unfold get? slice?
  rw [h]
  simp only [hle, true_and]

theorem checkedAdd_get? {data : ByteArray} (hdata : data.size < 2 ^ 64) (start n : UInt64) :
    (checkedAdd start n).bind (get? data start) = slice? data start.toNat n.toNat := by
  unfold checkedAdd
  split
  · next h =>
    rw [Option.bind_some, get?_eq]
    rw [UInt64.toNat_add, Nat.mod_eq_of_lt h]
  · next h =>
    rw [Option.bind_none, slice?, if_neg (by omega)]

end ItabRecovery.Machine

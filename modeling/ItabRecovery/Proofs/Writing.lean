import Mathlib.Algebra.Ring.Nat
import ItabRecovery.Recovery

/-!
# Writing descriptions down

What a toolchain does: implementations are described, every description consists of pieces, and
the pieces are put one after the other, in any order and with anything in between.  A piece holds
the places of other pieces, and bytes nobody reads may be anything.

    plan.bytes = what precedes p ++ plan.write p ++ what follows it
    and what precedes p has plan.place p bytes               (exists_bytes_eq)
-/

namespace ItabRecovery.Writing

/-! ## Descriptions -/

/-- A name record.  The same text may be stored more than once; `copy` tells the records apart. -/
structure NameInfo where
  copy : Nat
  text : String
  deriving DecidableEq

/-- A type's record, with its kind byte. -/
structure TypeInfo where
  copy : Nat
  name : NameInfo
  kind : UInt8
  deriving DecidableEq

/-- A function type.  `extra` says whether 16 bytes of further data precede its slots. -/
structure FuncInfo where
  copy : Nat
  signature : NameInfo
  variadic : Bool
  extra : Bool
  inputs : List TypeInfo
  outputs : List TypeInfo
  deriving DecidableEq

structure MethodInfo where
  name : NameInfo
  func : FuncInfo
  deriving DecidableEq

/-- A row of a method table. -/
inductive Row where
  | padding (entry : MethodEntry)
  | method (m : MethodInfo)
  deriving DecidableEq

structure InterfaceInfo where
  copy : Nat
  rows : List Row
  deriving DecidableEq

/-- A concrete type implements an interface. -/
structure Description where
  copy : Nat
  interface : String
  concrete : TypeInfo
  methods : InterfaceInfo
  deriving DecidableEq

/-! ## What a description says -/

/-- A type as a parameter or result; kind 22, in the low five bits, is that of pointers. -/
def TypeInfo.said (t : TypeInfo) : TypeRef :=
  .ofText t.name.text (decide (t.kind.toNat % 32 = 22))

def MethodInfo.said (m : MethodInfo) : Method :=
  ⟨m.name.text, stripPointer m.func.signature.text, m.func.inputs.map TypeInfo.said,
    m.func.outputs.map TypeInfo.said⟩

def Row.method? : Row → Option MethodInfo
  | padding _ => none
  | method m => some m

/-- The text that a label's second comma or its end closes.  It is the interface, unless the
concrete type has a comma of its own. -/
def Description.labelled (d : Description) : String :=
  if ',' ∈ d.concrete.name.text.toList then
    String.ofList
      (((d.concrete.name.text.toList.dropWhile (· != ',')).drop 1).takeWhile (· != ','))
  else d.interface

def Description.said (d : Description) : Implementation :=
  ⟨.ofText d.labelled, stripPointer d.concrete.name.text,
    (d.methods.rows.filterMap Row.method?).map MethodInfo.said⟩

/-! ## Pieces -/

/-- What is stored on its own. -/
inductive Piece where
  | name (n : NameInfo)
  | type (t : TypeInfo)
  | func (f : FuncInfo)
  | interface (i : InterfaceInfo)
  | table (i : InterfaceInfo)
  | dispatch (d : Description)
  deriving DecidableEq

def Piece.size : Piece → Nat
  | name n => 3 + (Utf8.encode n.text).length
  | type _ => 48
  | func f => (if f.extra then 72 else 56) + 8 * (f.inputs ++ f.outputs).length
  | interface _ => 80
  | table i => 8 * i.rows.length
  | dispatch _ => 32

def TypeInfo.pieces (t : TypeInfo) : List Piece :=
  [.type t, .name t.name]

def MethodInfo.pieces (m : MethodInfo) : List Piece :=
  .name m.name :: .func m.func :: .name m.func.signature ::
    (m.func.inputs ++ m.func.outputs).flatMap TypeInfo.pieces

def Description.pieces (d : Description) : List Piece :=
  .dispatch d :: .interface d.methods :: .table d.methods :: d.concrete.pieces ++
    (d.methods.rows.filterMap Row.method?).flatMap MethodInfo.pieces

/-! ## Plans -/

/-- Where the pieces go: each after some filler, in a section loaded at `base`. -/
structure Plan where
  base : UInt64
  order : ByteOrder
  pieces : List (List UInt8 × Piece)
  tail : List UInt8
  /-- The bytes of a piece that say nothing. -/
  unread : Piece → Nat → UInt8

/-- The bytes before the first time a piece occurs. -/
def placeIn : List (List UInt8 × Piece) → Piece → Nat
  | [], _ => 0
  | (filler, q) :: rest, p => filler.length + if q = p then 0 else q.size + placeIn rest p

namespace Plan

variable (plan : Plan)

def place (p : Piece) : Nat :=
  placeIn plan.pieces p

def address (p : Piece) : Nat :=
  plan.base.toNat + plan.place p

/-- The `n` bytes from `i` on of a piece, which say nothing. -/
def gap (p : Piece) (i n : Nat) : List UInt8 :=
  (List.range n).map fun k => plan.unread p (i + k)

/-- The two words in a row of a method table. -/
def words : Row → Nat × Nat
  | .padding e => (e.name.toUInt32.toNat, e.type.toUInt32.toNat)
  | .method m => (plan.place (.name m.name), plan.place (.func m.func))

def header (r : Row) : List UInt8 :=
  plan.order.encode 4 (plan.words r).1 ++ plan.order.encode 4 (plan.words r).2

def slot (t : TypeInfo) : List UInt8 :=
  plan.order.encode 8 (plan.address (.type t))

def fields (p : Piece) : List (List UInt8) :=
  match p with
  | .name n =>
    [plan.gap p 0 1, ByteOrder.big.encode 2 (Utf8.encode n.text).length, Utf8.encode n.text]
  | .type t =>
    [plan.gap p 0 23, [t.kind], plan.gap p 24 16,
      plan.order.encode 4 (plan.place (.name t.name)), plan.gap p 44 4]
  | .func f =>
    [plan.gap p 0 20, [UInt8.ofNat (2 * (plan.unread p 20).toNat + f.extra.toNat)],
      plan.gap p 21 19, plan.order.encode 4 (plan.place (.name f.signature)), plan.gap p 44 4,
      plan.order.encode 2 f.inputs.length,
      plan.order.encode 2 (f.outputs.length + 2 ^ 15 * f.variadic.toNat),
      plan.gap p 52 (if f.extra then 20 else 4)] ++ (f.inputs ++ f.outputs).map plan.slot
  | .interface i =>
    [plan.gap p 0 56, plan.order.encode 8 (plan.address (.table i)),
      plan.order.encode 8 i.rows.length, plan.gap p 72 8]
  | .table i => i.rows.map plan.header
  | .dispatch d =>
    [plan.order.encode 8 (plan.address (.interface d.methods)),
      plan.order.encode 8 (plan.address (.type d.concrete)), plan.gap p 16 16]

def write (p : Piece) : List UInt8 :=
  (plan.fields p).flatten

def bytes : List UInt8 :=
  plan.pieces.flatMap (fun (filler, p) => filler ++ plan.write p) ++ plan.tail

def size : Nat :=
  plan.bytes.length

def label (d : Description) : Symbol :=
  ⟨ItabLabel.symbolName d.concrete.name.text d.interface, UInt64.ofNat (plan.address (.dispatch d))⟩

end Plan

/-! ## What can be written -/

/-- The lengths and counts that the fields of a piece have room for. -/
def Piece.Storable : Piece → Prop
  | name n => (Utf8.encode n.text).length ≤ 65535
  | func f => f.inputs.length ≤ 65535 ∧ f.outputs.length ≤ 32767
  | _ => True

/-- A name record is followed by at least one byte. -/
def Plan.Followed (plan : Plan) : Piece → Prop
  | .name n => plan.place (.name n) + (Piece.name n).size < plan.size
  | _ => True

/-- Padding is what recovery takes for it, and no method's name or function type comes first. -/
def Plan.Admits (plan : Plan) : Row → Prop
  | .padding e => e.isPadding plan.size = true
  | .method m => plan.place (.name m.name) ≠ 0 ∧ plan.place (.func m.func) ≠ 0

/-- A piece that has a place, where it can be read back. -/
structure Plan.Holds (plan : Plan) (p : Piece) : Prop where
  mem : p ∈ plan.pieces.map Prod.snd
  storable : p.Storable
  followed : plan.Followed p

instance : (p : Piece) → Decidable p.Storable
  | .name _ => inferInstanceAs (Decidable (_ ≤ _))
  | .func _ => inferInstanceAs (Decidable (_ ∧ _))
  | .type _ | .interface _ | .table _ | .dispatch _ => inferInstanceAs (Decidable True)

instance (plan : Plan) : (p : Piece) → Decidable (plan.Followed p)
  | .name _ => inferInstanceAs (Decidable (_ < _))
  | .type _ | .func _ | .interface _ | .table _ | .dispatch _ => inferInstanceAs (Decidable True)

instance (plan : Plan) : (r : Row) → Decidable (plan.Admits r)
  | .padding _ => inferInstanceAs (Decidable (_ = true))
  | .method _ => inferInstanceAs (Decidable (_ ∧ _))

instance (plan : Plan) (p : Piece) : Decidable (plan.Holds p) :=
  decidable_of_iff (p ∈ plan.pieces.map Prod.snd ∧ p.Storable ∧ plan.Followed p)
    ⟨fun h => ⟨h.1, h.2.1, h.2.2⟩, fun h => ⟨h.mem, h.storable, h.followed⟩⟩

/-- A plan that descriptions can be read back from. -/
structure Plan.Writes (plan : Plan) (ds : List Description) : Prop where
  pieces : ∀ d ∈ ds, ∀ p ∈ d.pieces, plan.Holds p
  rows : ∀ d ∈ ds, ∀ r ∈ d.methods.rows, plan.Admits r
  short : plan.size < 2 ^ 31
  addresses : plan.base.toNat + plan.size ≤ 2 ^ 64

/-- A table of types that hints at a byte order. -/
def typelinkOf (o : ByteOrder) : Section :=
  let hint : UInt8 := if o = .little then 0 else 1
  ⟨"__typelink", "", 0, ⟨(List.replicate 15 0 ++ [hint]).toArray⟩⟩

/-- An image with the section of a plan, the labels of what it writes, and no more. -/
def Plan.image (plan : Plan) (ds : List Description) : Image :=
  ⟨[typelinkOf plan.order, ⟨"__rodata", "", plan.base, ⟨plan.bytes.toArray⟩⟩], ds.map plan.label⟩

/-! ## Lemmas -/

@[simp] theorem Plan.length_gap (plan : Plan) (p : Piece) (i n : Nat) :
    (plan.gap p i n).length = n := by
  simp [Plan.gap]

@[simp] theorem Plan.length_header (plan : Plan) (r : Row) : (plan.header r).length = 8 := by
  simp [Plan.header]

@[simp] theorem Plan.length_slot (plan : Plan) (t : TypeInfo) : (plan.slot t).length = 8 := by
  simp [Plan.slot]

/-- Parts of equal length are as long as there are many. -/
theorem length_flatten_map {α β : Type} {f : α → List β} {w : Nat} (hf : ∀ a, (f a).length = w)
    (l : List α) : (l.map f).flatten.length = w * l.length := by
  induction l with
  | nil => rfl
  | cons a l ih =>
    rw [List.map_cons, List.flatten_cons, List.length_append, hf, ih, List.length_cons,
      Nat.mul_succ, Nat.add_comm]

@[simp] theorem Plan.length_write (plan : Plan) (p : Piece) :
    (plan.write p).length = p.size := by
  cases p with
  | name n => simp [write, fields, Piece.size]; omega
  | type t => simp [write, fields, Piece.size]
  | func f =>
    have hslots := length_flatten_map plan.length_slot (f.inputs ++ f.outputs)
    simp only [write, fields, Piece.size, List.flatten_append, List.length_append, hslots]
    cases f.extra with
    | true => simp
    | false => simp
  | interface i => simp [write, fields, Piece.size]
  | table i => exact length_flatten_map plan.length_header i.rows
  | dispatch d => simp [write, fields, Piece.size]

/-- The slots are the fields after the first eight. -/
theorem Plan.fields_slot (plan : Plan) (f : FuncInfo) {k : Nat}
    (hk : k < (f.inputs ++ f.outputs).length) :
    (plan.fields (.func f))[8 + k]? = some (plan.slot (f.inputs ++ f.outputs)[k]) ∧
      ((plan.fields (.func f)).take (8 + k)).flatten.length =
        (if f.extra then 72 else 56) + 8 * k := by
  constructor
  · rw [Plan.fields, List.getElem?_append_right (by simp), List.getElem?_map]
    simp only [List.length_cons, List.length_nil, Nat.add_sub_cancel_left]
    rw [List.getElem?_eq_getElem hk]
    rfl
  · have htake := length_flatten_map plan.length_slot ((f.inputs ++ f.outputs).take k)
    rw [List.length_take, Nat.min_eq_left (Nat.le_of_lt hk)] at htake
    rw [Plan.fields, List.take_append, List.take_of_length_le (by simp)]
    simp only [List.length_cons, List.length_nil, Nat.add_sub_cancel_left, List.flatten_append,
      List.length_append, ← List.map_take, htake]
    cases f.extra with
    | true => simp
    | false => simp

/-- A piece is found at its place. -/
theorem exists_flatMap_placeIn {write : Piece → List UInt8}
    (hwrite : ∀ p, (write p).length = p.size) {l : List (List UInt8 × Piece)} {p : Piece}
    (hp : p ∈ l.map Prod.snd) :
    ∃ before after, (l.flatMap fun q => q.1 ++ write q.2) = before ++ (write p ++ after) ∧
      before.length = placeIn l p := by
  induction l with
  | nil => cases hp
  | cons head rest ih =>
    obtain ⟨filler, q⟩ := head
    rw [List.flatMap_cons]
    by_cases hq : q = p
    · subst hq
      refine ⟨filler, rest.flatMap fun q => q.1 ++ write q.2, ?_, ?_⟩
      · rw [List.append_assoc]
      · rw [placeIn, if_pos rfl, Nat.add_zero]
    · rcases List.mem_cons.1 hp with rfl | hp
      · exact absurd rfl hq
      obtain ⟨before, after, heq, hlen⟩ := ih hp
      refine ⟨filler ++ write q ++ before, after, ?_, ?_⟩
      · rw [heq, List.append_assoc (filler ++ write q)]
      · rw [placeIn, if_neg hq, List.length_append, List.length_append, hwrite, hlen,
          Nat.add_assoc]

/-- Two pieces that are not empty are not at one place. -/
theorem placeIn_ne {l : List (List UInt8 × Piece)} {p q : Piece} (hp : p ∈ l.map Prod.snd)
    (hq : q ∈ l.map Prod.snd) (hne : p ≠ q) (hp0 : 0 < p.size) (hq0 : 0 < q.size) :
    placeIn l p ≠ placeIn l q := by
  -- Whichever of the two comes first, the other starts behind its bytes.
  induction l with
  | nil => cases hp
  | cons head rest ih =>
    obtain ⟨filler, r⟩ := head
    rw [placeIn, placeIn]
    by_cases hrp : r = p
    · rw [if_pos hrp, if_neg (fun h => hne (hrp.symm.trans h)), hrp]
      omega
    by_cases hrq : r = q
    · rw [if_neg hrp, if_pos hrq, hrq]
      omega
    rw [if_neg hrp, if_neg hrq]
    rcases List.mem_cons.1 hp with rfl | hp
    · exact absurd rfl hrp
    rcases List.mem_cons.1 hq with rfl | hq
    · exact absurd rfl hrq
    have := ih hp hq
    omega

section
variable {plan : Plan} {p : Piece} (hp : p ∈ plan.pieces.map Prod.snd)
include hp

theorem Plan.exists_bytes_eq :
    ∃ before after, plan.bytes = before ++ (plan.write p ++ after) ∧
      before.length = plan.place p := by
  obtain ⟨before, after, heq, hlen⟩ := exists_flatMap_placeIn plan.length_write hp
  refine ⟨before, after ++ plan.tail, ?_, hlen⟩
  show (plan.pieces.flatMap fun q => q.1 ++ plan.write q.2) ++ plan.tail = _
  rw [heq, List.append_assoc, List.append_assoc]

theorem Plan.place_add_size_le : plan.place p + p.size ≤ plan.size := by
  obtain ⟨before, after, heq, hlen⟩ := Plan.exists_bytes_eq hp
  rw [Plan.size, heq, List.length_append, List.length_append, hlen, plan.length_write]
  omega

/-- The bytes at a place are those of the piece. -/
theorem Plan.cut_bytes : (plan.bytes.drop (plan.place p)).take p.size = plan.write p := by
  obtain ⟨before, after, heq, hlen⟩ := Plan.exists_bytes_eq hp
  rw [heq, ← hlen, List.drop_left, ← plan.length_write p, List.take_left]

end

end ItabRecovery.Writing

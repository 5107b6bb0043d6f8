import ItabRecovery.Proofs.Extraction

/-!
# The bytes that extraction depends on

Reading starts at the address of a label and finds out as it goes which bytes matter.  `Reached`
says which parts it comes to, `Part.extent` how many bytes of a part have to be there, and
`Part.bits` how much of each of its bytes is looked at.  Two sections that agree on that much
describe the same implementation:

    Agree s s' o addr → Describes s o addr x → Describes s' o addr x     (describes_of_agree)
-/

namespace ItabRecovery

namespace Reading

/-! ## Parts -/

/-- What reading comes to. -/
inductive Part where
  | dispatch
  | interface
  | table (count : Nat)
  | concrete
  | func
  | slot
  | parameter
  | name

/-- How many bytes from `i` on have to be there; a name record needs four and its text. -/
def Part.extent (s : Section) (i : Nat) : Part → Nat
  | dispatch => 32
  | interface => 80
  | table count => 8 * count
  | concrete => 48
  | func => 56
  | slot => 8
  | parameter => 48
  | name => max 4 (3 + textLength s i)

/-- How many of the low bits of the byte `k` places after `i` are looked at. -/
def Part.bits (s : Section) (o : ByteOrder) (i k : Nat) : Part → Nat
  | dispatch => if k < 16 then 8 else 0
  | interface => if 56 ≤ k ∧ k < 72 then 8 else 0
  | table count => if k < 8 * count then 8 else 0
  | concrete => if 40 ≤ k ∧ k < 44 then 8 else 0
  | func =>
    if k = 20 then 1
    else if k = (match o with | .little => 51 | .big => 50) then 7
    else if 40 ≤ k ∧ k < 44 ∨ 48 ≤ k ∧ k < 52 then 8
    else 0
  | slot => if k < 8 then 8 else 0
  | parameter => if k = 23 then 5 else if 40 ≤ k ∧ k < 44 then 8 else 0
  | name => if 1 ≤ k ∧ k < 3 + textLength s i then 8 else 0

/-- The offset of a function type's text and the count of its parameters are looked at whole. -/
theorem Part.bits_func {s : Section} {o : ByteOrder} {i : Nat} (k : Nat)
    (hk : 40 ≤ k ∧ k < 44 ∨ 48 ≤ k ∧ k < 50) : Part.bits s o i k .func = 8 := by
  cases o with
  | little =>
    simp only [bits]
    rw [if_neg (by omega), if_neg (by omega), if_pos (by omega)]
  | big =>
    simp only [bits]
    rw [if_neg (by omega), if_neg (by omega), if_pos (by omega)]

/-- The parts that reading from an address comes to, and where they stand. -/
inductive Reached (s : Section) (o : ByteOrder) (addr : Nat) : Part → Nat → Prop
  | dispatch {i : Nat} : addr = s.base.toNat + i → Reached s o addr .dispatch i
  | interface {i j : Nat} : Reached s o addr .dispatch i →
      wordAt s.data o 8 i = s.base.toNat + j → Reached s o addr .interface j
  | table {j t n : Nat} : Reached s o addr .interface j → wordAt s.data o 8 (j + 64) = n →
      0 < n → wordAt s.data o 8 (j + 56) = s.base.toNat + t → Reached s o addr (.table n) t
  | concrete {i k : Nat} : Reached s o addr .dispatch i →
      wordAt s.data o 8 (i + 8) = s.base.toNat + k → Reached s o addr .concrete k
  | methodName {n t k i : Nat} : Reached s o addr (.table n) t → k < n →
      IsMethod s.size (headerAt s o (t + 8 * k)) → (headerAt s o (t + 8 * k)).1 = i →
      Reached s o addr .name i
  | func {n t k f : Nat} : Reached s o addr (.table n) t → k < n →
      IsMethod s.size (headerAt s o (t + 8 * k)) → (headerAt s o (t + 8 * k)).2 = f →
      Reached s o addr .func f
  | slot {f k : Nat} : Reached s o addr .func f → k < inputsAt s o f + outputsAt s o f →
      Reached s o addr .slot (slotsAt s f + 8 * k)
  | parameter {p t : Nat} : Reached s o addr .slot p →
      wordAt s.data o 8 p = s.base.toNat + t → Reached s o addr .parameter t
  | concreteName {k i : Nat} : Reached s o addr .concrete k → textOffset s o k = i →
      Reached s o addr .name i
  | signature {f i : Nat} : Reached s o addr .func f → textOffset s o f = i →
      Reached s o addr .name i
  | parameterName {t i : Nat} : Reached s o addr .parameter t → textOffset s o t = i →
      Reached s o addr .name i

/-- The headers of the reached method tables stand for methods in one size as in the other. -/
def SameMethods (s s' : Section) (o : ByteOrder) (addr : Nat) : Prop :=
  ∀ n t k, Reached s o addr (.table n) t → k < n →
    (IsMethod s'.size (headerAt s o (t + 8 * k)) ↔ IsMethod s.size (headerAt s o (t + 8 * k)))

/-- A section has room for all that reading another one comes to, and agrees with it on what is
looked at. -/
structure Agree (s s' : Section) (o : ByteOrder) (addr : Nat) : Prop where
  base : s'.base = s.base
  fits : ∀ p i, Reached s o addr p i → i + p.extent s i ≤ s'.size
  methods : SameMethods s s' o addr
  bits : ∀ p i, Reached s o addr p i → ∀ k,
    byteAt s'.data (i + k) % 2 ^ p.bits s o i k = byteAt s.data (i + k) % 2 ^ p.bits s o i k

/-! ## Equal bytes, equal words -/

theorem wordAt_congr {b b' : ByteArray} {o : ByteOrder} {w i : Nat}
    (h : ∀ k, k < w → byteAt b' (i + k) = byteAt b (i + k)) :
    wordAt b' o w i = wordAt b o w i := by
  induction w generalizing i with
  | zero => rfl
  | succ w ih =>
    have h0 := h 0 (by omega)
    have hrest : wordAt b' o w (i + 1) = wordAt b o w (i + 1) := ih fun k hk => by
      have := h (k + 1) (by omega)
      rwa [Nat.add_comm k 1, ← Nat.add_assoc] at this
    rw [Nat.add_zero] at h0
    cases o with
    | little => rw [wordAt, wordAt, h0, hrest]
    | big => rw [wordAt, wordAt, h0, hrest]

theorem window_congr {b b' : ByteArray} {i n : Nat} (hb : i + n ≤ b.size) (hb' : i + n ≤ b'.size)
    (h : ∀ k, k < n → byteAt b' (i + k) = byteAt b (i + k)) : window b' i n = window b i n := by
  induction n generalizing i with
  | zero => rfl
  | succ n ih =>
    obtain ⟨x, hx, hw⟩ := window_cons hb
    obtain ⟨x', hx', hw'⟩ := window_cons hb'
    have h0 := h 0 (by omega)
    have hrest : window b' (i + 1) n = window b (i + 1) n :=
      ih (by omega) (by omega) fun k hk => by
        have := h (k + 1) (by omega)
        rwa [Nat.add_comm k 1, ← Nat.add_assoc] at this
    have hxx : x' = x := UInt8.toNat_inj.1 (by rw [hx, hx']; exact h0)
    rw [hw, hw', hxx, hrest]

/-- Neither the flag byte nor anything outside the length and the text of a record matters. -/
theorem hasText_congr {s s' : Section} {i : Nat} {text : String} (ht : HasText s i text)
    (hfits : i + max 4 (3 + textLength s i) ≤ s'.size)
    (h : ∀ k, 1 ≤ k → k < 3 + textLength s i →
      byteAt s'.data (i + k) = byteAt s.data (i + k)) : HasText s' i text := by
  obtain ⟨_, hi, -, hfit, rfl⟩ := ht
  obtain rfl := Int.ofNat_inj.1 hi
  have hlen : textLength s' i = textLength s i := by
    rw [textLength, h 1 (by omega) (by omega), h 2 (by omega) (by omega), textLength]
  refine ⟨i, rfl, by omega, by omega, ?_⟩
  rw [hlen, window_congr hfit (by omega : i + 3 + textLength s i ≤ s'.size)]
  intro k hk
  rw [Nat.add_assoc]
  exact h (3 + k) (by omega) (by omega)

section
variable {s s' : Section} {o : ByteOrder} {addr : Nat} (h : Agree s s' o addr)
  {p : Part} {i : Nat} (hr : Reached s o addr p i)
include h hr

theorem Agree.byteAt_eq {k : Nat} (hk : p.bits s o i k = 8) :
    byteAt s'.data (i + k) = byteAt s.data (i + k) := by
  have hbits := h.bits p i hr k
  have hs := byteAt_lt s.data (i + k)
  have hs' := byteAt_lt s'.data (i + k)
  rw [hk] at hbits
  omega

theorem Agree.wordAt_eq {j w : Nat} (hk : ∀ k, j ≤ k → k < j + w → p.bits s o i k = 8) :
    wordAt s'.data o w (i + j) = wordAt s.data o w (i + j) := by
  apply wordAt_congr
  intro k hkw
  rw [Nat.add_assoc]
  exact h.byteAt_eq hr (hk (j + k) (by omega) (by omega))

end

/-! ## What is read stays the same -/

section
variable {s s' : Section} {o : ByteOrder} {addr : Nat} (h : Agree s s' o addr)
include h

theorem Agree.covers {p : Part} {a n i : Nat} (hc : s.Covers a n i) (hr : Reached s o addr p i)
    (hn : p.extent s i = n) : s'.Covers a n i := by
  have hfit := h.fits p i hr
  exact ⟨by rw [h.base]; exact hc.1, by omega⟩

theorem Agree.hasText {offset : Int} {text : String} (ht : HasText s offset text)
    (hr : ∀ i : Nat, offset = i → Reached s o addr .name i) : HasText s' offset text := by
  have ⟨i, hi, _⟩ := ht
  subst hi
  have hr := hr i rfl
  exact hasText_congr ht (h.fits .name i hr) fun k hk hlt => h.byteAt_eq hr (if_pos ⟨hk, hlt⟩)

theorem Agree.textOffset_eq {p : Part} {i : Nat} (hr : Reached s o addr p i)
    (hp : ∀ k, 40 ≤ k → k < 44 → p.bits s o i k = 8) : textOffset s' o i = textOffset s o i := by
  rw [textOffset, h.wordAt_eq hr hp, textOffset]

theorem Agree.hasType {a : Nat} {t : TypeRef} (ht : HasType s o a t)
    (hr : ∀ i, a = s.base.toNat + i → Reached s o addr .parameter i) : HasType s' o a t := by
  obtain ⟨i, text, shown, hc, htext, hp, hshown⟩ := ht
  have hr := hr i hc.1
  have hoff : textOffset s' o i = textOffset s o i := h.textOffset_eq hr fun k h1 h2 => by
    simp only [Part.bits]
    rw [if_neg (by omega), if_pos ⟨h1, h2⟩]
  have hkind : byteAt s'.data (i + 23) % 32 = byteAt s.data (i + 23) % 32 :=
    h.bits .parameter i hr 23
  refine ⟨i, text, shown, h.covers hc hr rfl, ?_, by rw [hkind]; exact hp, hshown⟩
  rw [hoff]
  exact h.hasText htext fun j hj => .parameterName hr hj

theorem Agree.hasSlots {start count : Nat} {ts : List TypeRef}
    (hts : HasSlots s o start count ts)
    (hr : ∀ k, k < count → Reached s o addr .slot (start + 8 * k)) :
    HasSlots s' o start count ts := by
  apply forall₂_imp _ hts
  rintro k hk t ⟨-, ht⟩
  have hr := hr k (List.mem_range.1 hk)
  have hword : wordAt s'.data o 8 (start + 8 * k) = wordAt s.data o 8 (start + 8 * k) :=
    h.wordAt_eq hr (j := 0) fun j _ hj => if_pos (by omega)
  refine ⟨h.fits .slot _ hr, ?_⟩
  rw [hword]
  exact h.hasType ht fun i hi => .parameter hr hi

/-- What is looked at of a function type tells where its slots are and how many. -/
theorem Agree.slots_eq {f : Nat} (hr : Reached s o addr .func f) :
    textOffset s' o f = textOffset s o f ∧ slotsAt s' f = slotsAt s f ∧
      inputsAt s' o f = inputsAt s o f ∧ outputsAt s' o f = outputsAt s o f := by
  have hflag : byteAt s'.data (f + 20) % 2 = byteAt s.data (f + 20) % 2 := h.bits .func f hr 20
  refine ⟨?_, ?_, ?_, ?_⟩
  · apply h.textOffset_eq hr
    intro k h1 h2
    exact Part.bits_func k (by omega)
  · rw [slotsAt, hflag, slotsAt]
  · rw [inputsAt, h.wordAt_eq hr, inputsAt]
    intro k h1 h2
    exact Part.bits_func k (by omega)
  · have h50 := byteAt_lt s.data (f + 50)
    have h51 := byteAt_lt s.data (f + 51)
    have h50' := byteAt_lt s'.data (f + 50)
    have h51' := byteAt_lt s'.data (f + 51)
    rw [outputsAt, outputsAt]
    -- The bit of the variadic mark is in the last byte or the one before it, by the byte order.
    cases o with
    | little =>
      have hlow : byteAt s'.data (f + 50) % 256 = byteAt s.data (f + 50) % 256 :=
        h.bits .func f hr 50
      have hhigh : byteAt s'.data (f + 51) % 128 = byteAt s.data (f + 51) % 128 :=
        h.bits .func f hr 51
      simp only [wordAt, Nat.add_assoc, Nat.reduceAdd]
      omega
    | big =>
      have hhigh : byteAt s'.data (f + 50) % 128 = byteAt s.data (f + 50) % 128 :=
        h.bits .func f hr 50
      have hlow : byteAt s'.data (f + 51) % 256 = byteAt s.data (f + 51) % 256 :=
        h.bits .func f hr 51
      simp only [wordAt, Nat.add_assoc, Nat.reduceAdd]
      omega

theorem Agree.hasMethod {hd : Int × Int} {m : Method} (hm : HasMethod s o hd m)
    (hname : ∀ i : Nat, hd.1 = i → Reached s o addr .name i)
    (hfunc : ∀ f : Nat, hd.2 = f → Reached s o addr .func f) : HasMethod s' o hd m := by
  obtain ⟨f, hf, hfit, hn, ⟨text, htext, hsig⟩, hins, houts⟩ := hm
  have hr := hfunc f hf
  obtain ⟨h1, h2, h3, h4⟩ := h.slots_eq hr
  refine ⟨f, hf, h.fits .func f hr, h.hasText hn hname, ⟨text, ?_, hsig⟩, ?_, ?_⟩
  · rw [h1]
    exact h.hasText htext fun i hi => .signature hr hi
  · rw [h2, h3]
    exact h.hasSlots hins fun k hk => .slot hr (by omega)
  · rw [h2, h3, h4]
    apply h.hasSlots houts
    intro k hk
    rw [Nat.add_assoc, ← Nat.mul_add]
    exact .slot hr (by omega)

theorem Agree.headerAt_eq {n t k : Nat} (hr : Reached s o addr (.table n) t) (hk : k < n) :
    headerAt s' o (t + 8 * k) = headerAt s o (t + 8 * k) := by
  have hname := h.wordAt_eq hr (j := 8 * k) (w := 4) fun j h1 h2 => if_pos (by omega)
  have htype := h.wordAt_eq hr (j := 8 * k + 4) (w := 4) fun j h1 h2 => if_pos (by omega)
  rw [headerAt, hname, Nat.add_assoc t, htype, headerAt, Nat.add_assoc t]

/-- A reached table is the same in both sections, and so are the rows that stand for methods. -/
theorem Agree.hasTable {j : Nat} {hs : List (Int × Int)} (hr : Reached s o addr .interface j)
    (htable : HasTable s o (wordAt s.data o 8 (j + 56)) (wordAt s.data o 8 (j + 64)) hs) :
    HasTable s' o (wordAt s.data o 8 (j + 56)) (wordAt s.data o 8 (j + 64)) hs ∧
      ∀ hd ∈ hs, (IsMethod s'.size hd ↔ IsMethod s.size hd) ∧
        (IsMethod s.size hd → (∀ i : Nat, hd.1 = i → Reached s o addr .name i) ∧
          ∀ f : Nat, hd.2 = f → Reached s o addr .func f) := by
  obtain ⟨h0, rfl⟩ | ⟨hpos, t, ht, rfl⟩ := htable
  · refine ⟨Or.inl ⟨h0, rfl⟩, fun hd hmem => ?_⟩
    cases hmem
  have hrt := Reached.table hr rfl hpos ht.1
  refine ⟨Or.inr ⟨hpos, t, h.covers ht hrt rfl, ?_⟩, fun hd hmem => ?_⟩
  · apply List.map_congr_left
    intro k hk
    exact (h.headerAt_eq hrt (List.mem_range.1 hk)).symm
  · obtain ⟨k, hk, rfl⟩ := List.mem_map.1 hmem
    have hk := List.mem_range.1 hk
    refine ⟨h.methods _ t k hrt hk, fun hmethod => ⟨fun i hi => ?_, fun f hf => ?_⟩⟩
    · exact .methodName hrt hk hmethod hi
    · exact .func hrt hk hmethod hf

theorem Agree.hasMethods {i : Nat} {ms : List Method} (hr : Reached s o addr .dispatch i)
    (hms : HasMethods s o (wordAt s.data o 8 i) ms) :
    HasMethods s' o (wordAt s.data o 8 i) ms := by
  obtain ⟨j, hs, hj, htable, hall⟩ := hms
  have hrj : Reached s o addr .interface j := .interface hr hj.1
  have hdata : wordAt s'.data o 8 (j + 56) = wordAt s.data o 8 (j + 56) :=
    h.wordAt_eq hrj fun k h1 h2 => if_pos (by omega)
  have hlen : wordAt s'.data o 8 (j + 64) = wordAt s.data o 8 (j + 64) :=
    h.wordAt_eq hrj fun k h1 h2 => if_pos (by omega)
  obtain ⟨htable', hrows⟩ := h.hasTable hrj htable
  refine ⟨j, hs, h.covers hj hrj rfl, ?_, ?_⟩
  · rw [hdata, hlen]
    exact htable'
  · have hfilter : (hs.filter fun hd => decide (IsMethod s'.size hd)) =
        hs.filter fun hd => decide (IsMethod s.size hd) :=
      List.filter_congr fun hd hmem => decide_eq_decide.2 (hrows hd hmem).1
    -- The same headers are padding in both sections.
    rw [hfilter]
    apply forall₂_imp _ hall
    intro hd hmem m hm
    obtain ⟨hmem, hmethod⟩ := List.mem_filter.1 hmem
    obtain ⟨hname, hfunc⟩ := (hrows hd hmem).2 (of_decide_eq_true hmethod)
    exact h.hasMethod hm hname hfunc

theorem describes_of_agree {x : Implementation} (hx : Describes s o addr x) :
    Describes s' o addr x := by
  obtain ⟨i, hi, hms, k, text, hk, htext, hname⟩ := hx
  have hr : Reached s o addr .dispatch i := .dispatch hi.1
  have hiface : wordAt s'.data o 8 i = wordAt s.data o 8 i :=
    h.wordAt_eq hr (j := 0) fun j _ hj => if_pos (by omega)
  have hconc : wordAt s'.data o 8 (i + 8) = wordAt s.data o 8 (i + 8) :=
    h.wordAt_eq hr fun j _ hj => if_pos (by omega)
  have hrk : Reached s o addr .concrete k := .concrete hr hk.1
  refine ⟨i, h.covers hi hr rfl, ?_, k, text, ?_, ?_, hname⟩
  · rw [hiface]
    exact h.hasMethods hr hms
  · rw [hconc]
    exact h.covers hk hrk rfl
  · rw [h.textOffset_eq hrk fun j h1 h2 => if_pos ⟨h1, h2⟩]
    exact h.hasText htext fun j hj => .concreteName hrk hj

end

/-! ## What is reached is there -/

/-- What a part of a section that describes an implementation is known to hold. -/
def Holds (s : Section) (o : ByteOrder) (i : Nat) : Part → Prop
  | .dispatch => i + 32 ≤ s.size ∧ (∃ ms, HasMethods s o (wordAt s.data o 8 i) ms) ∧
      ∃ name, HasConcrete s o (wordAt s.data o 8 (i + 8)) name
  | .interface => i + 80 ≤ s.size ∧
      ∃ hs, HasTable s o (wordAt s.data o 8 (i + 56)) (wordAt s.data o 8 (i + 64)) hs ∧
        ∀ hd ∈ hs, IsMethod s.size hd → ∃ m, HasMethod s o hd m
  | .table n => i + 8 * n ≤ s.size ∧ ∀ k, k < n →
      IsMethod s.size (headerAt s o (i + 8 * k)) → ∃ m, HasMethod s o (headerAt s o (i + 8 * k)) m
  | .func => ∃ name m, HasMethod s o (name, i) m
  | .slot => i + 8 ≤ s.size ∧ ∃ t, HasType s o (wordAt s.data o 8 i) t
  | .concrete | .parameter => i + 48 ≤ s.size ∧ ∃ text, HasText s (textOffset s o i) text
  | .name => ∃ text, HasText s i text

section
variable {s : Section} {o : ByteOrder} {addr : Nat}

theorem HasSlots.exists_type {start count k : Nat} {ts : List TypeRef}
    (h : HasSlots s o start count ts) (hk : k < count) :
    start + 8 * k + 8 ≤ s.size ∧ ∃ t, HasType s o (wordAt s.data o 8 (start + 8 * k)) t := by
  obtain ⟨t, hfit, ht⟩ := exists_of_forall₂ h (List.mem_range.2 hk)
  exact ⟨hfit, t, ht⟩

theorem Reached.holds {x : Implementation} (hx : Describes s o addr x) {p : Part} {i : Nat}
    (hr : Reached s o addr p i) : Holds s o i p := by
  -- Each step goes from a part to one that the first has shown to be where it points.
  induction hr with
  | dispatch hi =>
    obtain ⟨j, hj, hms, hname⟩ := hx
    obtain rfl := hj.offset_eq hi
    exact ⟨hj.2, ⟨_, hms⟩, _, hname⟩
  | interface _ hj ih =>
    obtain ⟨-, ⟨ms, j, hs, hc, htable, hall⟩, -⟩ := ih
    obtain rfl := hc.offset_eq hj
    refine ⟨hc.2, hs, htable, fun hd hmem hm => ?_⟩
    exact exists_of_forall₂ hall (List.mem_filter.2 ⟨hmem, decide_eq_true hm⟩)
  | table _ hn hpos ht ih =>
    obtain ⟨-, hs, htable, hall⟩ := ih
    subst hn
    obtain ⟨h0, -⟩ | ⟨-, t, hc, rfl⟩ := htable
    · omega
    · obtain rfl := hc.offset_eq ht
      exact ⟨hc.2, fun k hk hm => hall _ (List.mem_map_of_mem (List.mem_range.2 hk)) hm⟩
  | concrete _ hk ih =>
    obtain ⟨-, -, name, k, text, hc, htext, -⟩ := ih
    obtain rfl := hc.offset_eq hk
    exact ⟨hc.2, text, htext⟩
  | methodName _ hk hm hi ih =>
    obtain ⟨m, f, -, -, hname, -⟩ := ih.2 _ hk hm
    rw [hi] at hname
    exact ⟨m.name, hname⟩
  | func _ hk hm hf ih =>
    obtain ⟨m, hmethod⟩ := ih.2 _ hk hm
    exact ⟨_, m, by rw [← hf]; exact hmethod⟩
  | @slot f k _ hk ih =>
    obtain ⟨name, m, f', hf, -, -, -, hins, houts⟩ := ih
    obtain rfl := Int.ofNat.inj hf
    -- results lie behind the inputs, at the same distance from slot to slot
    by_cases hin : k < inputsAt s o f
    · exact hins.exists_type hin
    · have hplace : slotsAt s f + 8 * inputsAt s o f + 8 * (k - inputsAt s o f) =
          slotsAt s f + 8 * k := by omega
      have := houts.exists_type (k := k - inputsAt s o f) (by omega)
      rwa [hplace] at this
  | parameter _ ht ih =>
    obtain ⟨-, t, i, text, shown, hc, htext, -⟩ := ih
    obtain rfl := hc.offset_eq ht
    exact ⟨hc.2, text, htext⟩
  | concreteName _ hi ih =>
    obtain ⟨-, text, htext⟩ := ih
    exact ⟨text, by rw [← hi]; exact htext⟩
  | signature _ hi ih =>
    obtain ⟨name, m, f, hf, -, -, ⟨text, htext, -⟩, -⟩ := ih
    obtain rfl := Int.ofNat.inj hf
    exact ⟨text, by rw [← hi]; exact htext⟩
  | parameterName _ hi ih =>
    obtain ⟨-, text, htext⟩ := ih
    exact ⟨text, by rw [← hi]; exact htext⟩

/-- All that reading comes to lies in the section, if the section describes anything. -/
theorem Reached.fits {x : Implementation} (hx : Describes s o addr x) {p : Part} {i : Nat}
    (hr : Reached s o addr p i) : i + p.extent s i ≤ s.size := by
  have h := hr.holds hx
  cases p with
  | dispatch => exact h.1
  | interface => exact h.1
  | table n => exact h.1
  | concrete => exact h.1
  | func =>
    obtain ⟨name, m, f, hf, hfit, -⟩ := h
    obtain rfl := Int.ofNat.inj hf
    exact hfit
  | slot => exact h.1
  | parameter => exact h.1
  | name =>
    obtain ⟨text, j, hj, hhead, hfit, -⟩ := h
    obtain rfl := Int.ofNat.inj hj
    simp only [Part.extent]
    omega

end

theorem Part.bits_eq_zero {s : Section} {o : ByteOrder} {i k : Nat} {p : Part}
    (h : p.extent s i ≤ k) : p.bits s o i k = 0 := by
  cases p <;> simp only [extent] at h <;> simp only [bits]
  case func =>
    cases o <;> dsimp only <;> rw [if_neg (by omega), if_neg (by omega), if_neg (by omega)]
  case parameter => rw [if_neg (by omega), if_neg (by omega)]
  all_goals exact if_neg (by omega)

/-- Sections with the same first `n` bytes agree, where reading does not go beyond those. -/
theorem agree_of_prefix {s s' : Section} {o : ByteOrder} {addr n : Nat} (hbase : s'.base = s.base)
    (hn : n ≤ s'.size) (hbytes : ∀ k, k < n → byteAt s'.data k = byteAt s.data k)
    (hfits : ∀ p i, Reached s o addr p i → i + p.extent s i ≤ n)
    (hmethods : SameMethods s s' o addr) : Agree s s' o addr where
  base := hbase
  fits p i hr := Nat.le_trans (hfits p i hr) hn
  methods := hmethods
  bits p i hr k := by
    by_cases hk : k < p.extent s i
    · have := hfits p i hr
      rw [hbytes (i + k) (by omega)]
    · rw [Part.bits_eq_zero (by omega)]
      omega

end Reading

open Reading

/-! ## Two images -/

theorem byteAt_append {a b : ByteArray} {k : Nat} (h : k < a.size) :
    byteAt (a ++ b) k = byteAt a k := by
  have h : k < a.data.toList.length := h
  have happ : (a ++ b).data.toList = a.data.toList ++ b.data.toList := by simp
  rw [byteAt, happ, List.getD_eq_getElem?_getD, List.getElem?_append_left h, byteAt,
    List.getD_eq_getElem?_getD]

theorem byteAt_extract {a : ByteArray} {n k : Nat} (h : k < n) :
    byteAt (a.extract 0 n) k = byteAt a k := by
  have hext : (a.extract 0 n).data.toList = a.data.toList.take n := by
    simp [List.extract_eq_take_drop]
  rw [byteAt, hext, List.getD_eq_getElem?_getD, List.getElem?_take_of_lt h, byteAt,
    List.getD_eq_getElem?_getD]

/-- An image that succeeds determines the result of every image that agrees with it on what its
run looks at; in particular bytes may be added to the section of the type records, or those after
the last one looked at be cut off. -/
theorem implementations_of_agree (image image' : Image) (rodata rodata' : Section) (o : ByteOrder)
    (found : List Implementation)
    (horder : TypeLink.byteOrder (image.sectionNamed? TypeLink.sectionName) = .ok o)
    (horder' : TypeLink.byteOrder (image'.sectionNamed? TypeLink.sectionName) = .ok o)
    (hrodata : image.sectionNamed? rodataName = some rodata)
    (hrodata' : image'.sectionNamed? rodataName = some rodata')
    (hlabels : image'.symbols.filter ItabLabel.isLabel = image.symbols.filter ItabLabel.isLabel)
    (hrun : image.implementations = .ok found) :
    ((∀ l ∈ image.symbols.filter ItabLabel.isLabel, Agree rodata rodata' o l.value.toNat) →
      image'.implementations = .ok found) ∧
    (rodata'.base = rodata.base →
      (∀ l ∈ image.symbols.filter ItabLabel.isLabel,
        SameMethods rodata rodata' o l.value.toNat) →
      (∃ tail, rodata'.data = rodata.data ++ tail) ∨
        (∃ n, n ≤ rodata.size ∧ rodata'.data = rodata.data.extract 0 n ∧
          ∀ l ∈ image.symbols.filter ItabLabel.isLabel, ∀ p i,
            Reached rodata o l.value.toNat p i → i + p.extent rodata i ≤ n) →
      image'.implementations = .ok found) := by
  have hall := (implementations_eq_ok_iff_forall₂ horder hrodata).1 hrun
  have hagree : (∀ l ∈ image.symbols.filter ItabLabel.isLabel,
      Agree rodata rodata' o l.value.toNat) → image'.implementations = .ok found := by
    intro h
    rw [implementations_eq_ok_iff_forall₂ horder' hrodata', hlabels]
    exact forall₂_imp (fun l hl x hx => ⟨hx.1, describes_of_agree (h l hl) hx.2⟩) hall
  refine ⟨hagree, fun hbase hmethods hcut => hagree fun l hl => ?_⟩
  obtain ⟨x, -, hx⟩ := exists_of_forall₂ hall hl
  -- Both ways to change the length leave the bytes below the shorter end as they are.
  rcases hcut with ⟨tail, hdata⟩ | ⟨n, hn, hdata, hfits⟩
  · have hsize : rodata'.size = rodata.size + tail.size := by
      rw [Section.size, hdata, ByteArray.size_append, Section.size]
    apply agree_of_prefix hbase (n := rodata.size) (by omega) _ (fun _ _ hr => hr.fits hx)
      (hmethods l hl)
    intro k hk
    rw [hdata, byteAt_append hk]
  · have hsize : rodata'.size = n := by
      have : rodata.data.size = rodata.size := rfl
      rw [Section.size, hdata, ByteArray.size_extract]
      omega
    apply agree_of_prefix hbase (n := n) (by omega) _ (hfits l hl) (hmethods l hl)
    intro k hk
    rw [hdata, byteAt_extract hk]

/-! ## A longer section -/

def longerRodata : Section :=
  { errorRodata with data := errorRodata.data ++ ⟨#[7, 7, 7]⟩ }

def longerImage : Image :=
  ⟨[errorTypelink, longerRodata], ⟨"main.init", 0⟩ :: errorImage.symbols⟩

theorem errorRodata_table {n t : Nat} (h : Reached errorRodata .little 0x1000 (.table n) t) :
    n = 2 ∧ t = 112 := by
  have hbase : errorRodata.base.toNat = 0x1000 := rfl
  have h0 : wordAt errorRodata.data .little 8 0 = 0x1020 := by decide +kernel
  have h1 : wordAt errorRodata.data .little 8 (32 + 56) = 0x1070 := by decide +kernel
  have h2 : wordAt errorRodata.data .little 8 (32 + 64) = 2 := by decide +kernel
  cases h with
  | @table j _ _ hj hn _ ht =>
    cases hj with
    | @interface i _ hi hj =>
      cases hi with
      | dispatch hi =>
        obtain rfl : i = 0 := by omega
        obtain rfl : j = 32 := by omega
        omega

theorem longerImage_found :
    TypeLink.byteOrder (errorImage.sectionNamed? TypeLink.sectionName) = .ok .little ∧
      TypeLink.byteOrder (longerImage.sectionNamed? TypeLink.sectionName) = .ok .little ∧
      errorImage.sectionNamed? rodataName = some errorRodata ∧
      longerImage.sectionNamed? rodataName = some longerRodata ∧
      longerImage.symbols.filter ItabLabel.isLabel =
        errorImage.symbols.filter ItabLabel.isLabel ∧
      errorImage.implementations = .ok errorFound ∧
      longerImage.implementations = .ok errorFound := by
  have horder : TypeLink.byteOrder (errorImage.sectionNamed? TypeLink.sectionName) =
    .ok .little := by decide +kernel
  have horder' : TypeLink.byteOrder (longerImage.sectionNamed? TypeLink.sectionName) =
    .ok .little := by decide +kernel
  have hrodata : errorImage.sectionNamed? rodataName = some errorRodata := rfl
  have hrodata' : longerImage.sectionNamed? rodataName = some longerRodata := rfl
  have hlabels : longerImage.symbols.filter ItabLabel.isLabel =
    errorImage.symbols.filter ItabLabel.isLabel := by decide +kernel
  have hrun : errorImage.implementations = .ok errorFound := by decide +kernel
  have h := implementations_of_agree errorImage longerImage errorRodata longerRodata .little
    errorFound horder horder' hrodata hrodata' hlabels hrun
  refine ⟨horder, horder', hrodata, hrodata', hlabels, hrun,
    h.2 rfl (fun l hl n t k hr hk => ?_) (Or.inl ⟨_, rfl⟩)⟩
  obtain rfl : l = ⟨"go.itab.*runtime.errorString,error", 0x1000⟩ := by
    have : l ∈ [(⟨"go.itab.*runtime.errorString,error", 0x1000⟩ : Symbol)] := hl
    simpa using this
  obtain ⟨rfl, rfl⟩ := errorRodata_table hr
  obtain rfl | rfl : k = 0 ∨ k = 1 := by omega
  · decide +kernel
  · decide +kernel

end ItabRecovery

import Mathlib.Tactic.SplitIfs
import ItabRecovery.Proofs.JsonGrammar

/-!
# Reading JSON documents

A reader in the usual three layers: the character that stands next inside a text, the next token,
and the value that the tokens make up.  It reads every document as what it says and nothing else
as a document:

    Json.read? text = some v ↔ Json.IsDocument text v    (read?_eq_some_iff)

Each layer comes with the same two statements, that what it takes from the front is written as it
should be, and that whatever is written so is taken, with any rest behind it.
-/

namespace ItabRecovery.Json

/-! ## Characters -/

/-- The character whose number follows, and what comes after it.  A number above 0xffff takes two
surrogates, and one alone stands for nothing. -/
def numbered? (cs : List Char) : Option (Char × List Char) := do
  let high ← unit? (cs.take 4)
  if high < 0xd800 ∨ 0xe000 ≤ high then return (Char.ofNat high, cs.drop 4)
  else if high < 0xdc00 then
    match cs.drop 4 with
    | '\\' :: 'u' :: rest => do
      let low ← unit? (rest.take 4)
      if 0xdc00 ≤ low ∧ low < 0xe000 then return (Char.ofNat (joined high low), rest.drop 4)
      else none
    | _ => none
  else none

/-- The character that the start of what stands inside a text stands for, and what comes after. -/
def char? : List Char → Option (Char × List Char)
  | '\\' :: 'u' :: rest => numbered? rest
  | '\\' :: e :: rest => (shortEscapes.lookup e).map (·, rest)
  | c :: rest => if c = '"' ∨ c = '\\' ∨ c.toNat < 0x20 then none else some (c, rest)
  | [] => none

theorem hexDigit?_lt {c : Char} {n : Nat} (h : hexDigit? c = some n) : n < 16 := by
  simp only [hexDigit?, Char.le_def, UInt32.le_iff_toNat_le, Char.toNat_val, Char.reduceToNat] at h
  split_ifs at h
  all_goals
    obtain rfl := Option.some.inj h
    omega

theorem unit?_eq_some {cs : List Char} {n : Nat} (h : unit? cs = some n) :
    cs.length = 4 ∧ n < 0x10000 := by
  unfold unit? at h
  split at h
  · next a b c d =>
    simp only [Option.bind_eq_bind, Option.bind_eq_some_iff, Option.pure_def, Option.some_inj] at h
    obtain ⟨x, hx, y, hy, z, hz, w, hw, rfl⟩ := h
    have := hexDigit?_lt hx
    have := hexDigit?_lt hy
    have := hexDigit?_lt hz
    have := hexDigit?_lt hw
    exact ⟨rfl, by omega⟩
  · cases h

theorem toNat_ofNat {n : Nat} (h : n.isValidChar) : (Char.ofNat n).toNat = n := by
  rw [Char.ofNat, dif_pos h]
  rfl

theorem joined_isValidChar {high low : Nat} (hhigh : 0xd800 ≤ high ∧ high < 0xdc00)
    (hlow : 0xdc00 ≤ low ∧ low < 0xe000) : (joined high low).isValidChar := by
  unfold Nat.isValidChar joined
  omega

theorem numbered?_sound {cs rest : List Char} {c : Char} (h : numbered? cs = some (c, rest)) :
    ∃ p, cs = p ++ rest ∧ Stands c ('\\' :: 'u' :: p) := by
  simp only [numbered?, Option.bind_eq_bind, Option.bind_eq_some_iff, Option.pure_def] at h
  obtain ⟨high, hhigh, h⟩ := h
  have hbound := (unit?_eq_some hhigh).2
  split at h
  · next halone =>
    obtain ⟨rfl, rfl⟩ := Prod.mk.inj (Option.some.inj h)
    refine ⟨cs.take 4, (List.take_append_drop 4 cs).symm, .unit ?_⟩
    have hvalid : high.isValidChar := by
      rcases halone with hlow | hup
      · exact Or.inl hlow
      · exact Or.inr ⟨by omega, by omega⟩
    rw [toNat_ofNat hvalid, hhigh]
  · next hsurrogate =>
    split at h
    · next hlead =>
      split at h
      · next after hafter =>
        obtain ⟨low, hlow, h⟩ := Option.bind_eq_some_iff.1 h
        split at h
        · next htrail =>
          obtain ⟨rfl, rfl⟩ := Prod.mk.inj (Option.some.inj h)
          have hlead : 0xd800 ≤ high ∧ high < 0xdc00 := by omega
          refine ⟨cs.take 4 ++ '\\' :: 'u' :: after.take 4, ?_,
            .pair hhigh hlow hlead htrail (toNat_ofNat (joined_isValidChar hlead htrail))⟩
          rw [List.append_assoc, List.cons_append, List.cons_append, List.take_append_drop,
            ← hafter, List.take_append_drop]
        · cases h
      · cases h
    · cases h

theorem char?_sound {cs rest : List Char} {c : Char} (h : char? cs = some (c, rest)) :
    ∃ p, cs = p ++ rest ∧ Stands c p := by
  unfold char? at h
  split at h
  · next after =>
    obtain ⟨p, rfl, hp⟩ := numbered?_sound h
    exact ⟨_, rfl, hp⟩
  · next e after he =>
    obtain ⟨d, hd, hpair⟩ := Option.map_eq_some_iff.1 h
    obtain ⟨rfl, rfl⟩ := Prod.mk.inj hpair
    exact ⟨_, rfl, .short hd⟩
  · next d after _ _ =>
    split at h
    · cases h
    · next hplain =>
      obtain ⟨rfl, rfl⟩ := Prod.mk.inj (Option.some.inj h)
      simp only [not_or, Nat.not_lt] at hplain
      exact ⟨[d], rfl, .plain hplain.1 hplain.2.1 hplain.2.2⟩
  · cases h

theorem char?_complete {c : Char} {p : List Char} (h : Stands c p) (rest : List Char) :
    char? (p ++ rest) = some (c, rest) := by
  cases h with
  | plain hquote hslash hcontrol =>
    have hno : ¬ (c = '"' ∨ c = '\\' ∨ c.toNat < 0x20) := by
      rintro (h | h | h)
      · exact hquote h
      · exact hslash h
      · omega
    rw [List.singleton_append, char?, if_neg hno]
    · exact fun _ h => absurd h hslash
    · exact fun _ _ h => absurd h hslash
  | @short e he =>
    have hu : e = 'u' → False := by
      rintro rfl
      cases he
    show char? ('\\' :: e :: rest) = _
    rw [char?, he]
    · rfl
    · exact hu
  | @unit digits hu =>
    have hlen := (unit?_eq_some hu).1
    show numbered? (digits ++ rest) = _
    rw [numbered?, List.take_left' hlen, hu, List.drop_left' hlen]
    have halone : c.toNat < 0xd800 ∨ 0xe000 ≤ c.toNat := by
      rcases c.valid with h | h
      · exact Or.inl h
      · right
        have := h.1
        show 0xe000 ≤ c.val.toNat
        omega
    simp [halone]
  | @pair highs lows high low hhighs hlows hhigh hlow hc =>
    have hlen := (unit?_eq_some hhighs).1
    have hlen' := (unit?_eq_some hlows).1
    have hafter : ('\\' :: 'u' :: highs ++ '\\' :: 'u' :: lows) ++ rest =
        '\\' :: 'u' :: (highs ++ '\\' :: 'u' :: (lows ++ rest)) := by simp
    rw [hafter]
    show numbered? (highs ++ _) = _
    have hno : ¬ (high < 0xd800 ∨ 0xe000 ≤ high) := by omega
    rw [numbered?, List.take_left' hlen, hhighs, List.drop_left' hlen]
    simp [hno, hhigh.2, List.take_left' hlen', List.drop_left' hlen', hlows, hlow, ← hc]

/-! ## Texts -/

theorem char?_length {cs rest : List Char} {c : Char} (h : char? cs = some (c, rest)) :
    rest.length < cs.length := by
  obtain ⟨p, rfl, hp⟩ := char?_sound h
  have hpos : 0 < p.length := by cases hp <;> simp
  rw [List.length_append]
  omega

/-- The characters of a text whose opening quote is read already, and what comes after the quote
that closes it. -/
def text? (cs : List Char) : Option (List Char × List Char) :=
  if cs.head? = some '"' then some ([], cs.tail)
  else
    match _ : char? cs with
    | some (c, rest) => (text? rest).map fun r => (c :: r.1, r.2)
    | none => none
termination_by cs.length
decreasing_by exact char?_length ‹_›

/-- What stands for a character does not begin with a quote. -/
theorem Stands.head?_ne {c : Char} {p : List Char} (h : Stands c p) (rest : List Char) :
    (p ++ rest).head? ≠ some '"' := by
  cases h with
  | plain hquote => simpa using hquote
  | short | unit | pair => simp

theorem text?_eq_some_iff {cs s rest : List Char} :
    text? cs = some (s, rest) ↔ ∃ p, StandsFor s p ∧ cs = p ++ '"' :: rest := by
  constructor
  · intro h
    fun_induction text? cs generalizing s with
    | case1 cs hquote =>
      obtain ⟨rfl, rfl⟩ := Prod.mk.inj (Option.some.inj h)
      obtain ⟨after, rfl⟩ := List.head?_eq_some_iff.1 hquote
      exact ⟨[], .nil, rfl⟩
    | case2 cs hquote c after hc ih =>
      obtain ⟨r, hr, hpair⟩ := Option.map_eq_some_iff.1 h
      obtain ⟨rfl, rfl⟩ := Prod.mk.inj hpair
      obtain ⟨q, hq, rfl⟩ := ih hr
      obtain ⟨p, rfl, hp⟩ := char?_sound hc
      exact ⟨p ++ q, .cons hp hq, (List.append_assoc ..).symm⟩
    | case3 cs hquote hc => cases h
  · rintro ⟨p, hp, rfl⟩
    induction hp with
    | nil =>
      rw [text?]
      rfl
    | @cons c s p q hc hs ih =>
      rw [List.append_assoc, text?, if_neg (hc.head?_ne _)]
      split
      · next d after hd =>
        obtain ⟨rfl, rfl⟩ := Prod.mk.inj (Option.some.inj (hd.symm.trans (char?_complete hc _)))
        rw [ih]
        rfl
      · next hnone =>
        rw [char?_complete hc] at hnone
        cases hnone

/-! ## Tokens -/

/-- The token with a fixed text that the characters begin with, and what comes after it. -/
def fixed? (cs : List Char) : Option (Token × List Char) :=
  (fixedTokens.find? fun f => f.1.isPrefixOf cs).map fun f => (f.2, cs.drop f.1.length)

/-- The token that the characters begin with, and what comes after it. -/
def token? (cs : List Char) : Option (Token × List Char) :=
  if cs.head? = some '"' then
    (text? cs.tail).map fun r => (.text (String.ofList r.1), r.2)
  else if cs.takeWhile isNumberChar = [] then fixed? cs
  else if isNumber (cs.takeWhile isNumberChar) then
    some (.number (String.ofList (cs.takeWhile isNumberChar)), cs.dropWhile isNumberChar)
  else none

theorem fixed?_sound {cs rest : List Char} {t : Token} (h : fixed? cs = some (t, rest)) :
    ∃ p, t.Written rest p ∧ cs = p ++ rest := by
  obtain ⟨f, hf, hpair⟩ := Option.map_eq_some_iff.1 h
  obtain ⟨rfl, rfl⟩ := Prod.mk.inj hpair
  have hstart : f.1.isPrefixOf cs = true := by simpa using List.find?_some hf
  obtain ⟨after, rfl⟩ := List.isPrefixOf_iff_prefix.1 hstart
  refine ⟨f.1, .fixed (List.mem_of_find?_eq_some hf), ?_⟩
  rw [List.drop_left]

theorem token?_sound {cs rest : List Char} {t : Token} (h : token? cs = some (t, rest)) :
    ∃ p, t.Written rest p ∧ cs = p ++ rest := by
  unfold token? at h
  split at h
  · next hquote =>
    obtain ⟨after, rfl⟩ := List.head?_eq_some_iff.1 hquote
    obtain ⟨r, hr, hpair⟩ := Option.map_eq_some_iff.1 h
    obtain ⟨rfl, rfl⟩ := Prod.mk.inj hpair
    obtain ⟨p, hp, rfl⟩ := text?_eq_some_iff.1 hr
    exact ⟨_, .text hp, by simp⟩
  · split at h
    · exact fixed?_sound h
    · split at h
      · next hnumber =>
        obtain ⟨rfl, rfl⟩ := Prod.mk.inj (Option.some.inj h)
        refine ⟨_, .number (List.all_eq_true.1 List.all_takeWhile) hnumber ?_,
          List.takeWhile_append_dropWhile.symm⟩
        intro c hc
        have hstop := List.head?_dropWhile_not isNumberChar cs
        rw [Option.mem_def.1 hc] at hstop
        exact hstop
      · cases h

theorem fixed?_complete {p : List Char} {t : Token} (h : (p, t) ∈ fixedTokens) (rest : List Char) :
    fixed? (p ++ rest) = some (t, rest) := by
  simp only [fixedTokens, List.mem_cons, Prod.mk.injEq, List.not_mem_nil, or_false] at h
  rcases h with ⟨rfl, rfl⟩ | ⟨rfl, rfl⟩ | ⟨rfl, rfl⟩ | ⟨rfl, rfl⟩ | ⟨rfl, rfl⟩ | ⟨rfl, rfl⟩ |
    ⟨rfl, rfl⟩ | ⟨rfl, rfl⟩ | ⟨rfl, rfl⟩ <;> rfl

/-- A fixed token begins with no quote, no character of a number and no blank. -/
theorem fixedTokens_head : ∀ f ∈ fixedTokens,
    ∃ c q, f.1 = c :: q ∧ c ≠ '"' ∧ isNumberChar c = false ∧ isBlank c = false := by
  simp [fixedTokens, isNumberChar, isBlank]

theorem token?_complete {p rest : List Char} {t : Token} (h : t.Written rest p) :
    token? (p ++ rest) = some (t, rest) := by
  cases h with
  | fixed hmem =>
    obtain ⟨c, q, rfl, hquote, hnumber, -⟩ := fixedTokens_head _ hmem
    have hother : ((c :: q) ++ rest).takeWhile isNumberChar = [] := by simp [hnumber]
    rw [token?, if_neg (by simpa using hquote), if_pos hother, fixed?_complete hmem]
  | number hchars hnumber hrest =>
    have hend : rest.takeWhile isNumberChar = [] ∧ rest.dropWhile isNumberChar = rest := by
      cases rest with
      | nil => exact ⟨rfl, rfl⟩
      | cons c rest => simp [hrest c (by simp)]
    have hne : p ≠ [] := by
      rintro rfl
      cases hnumber
    have hquote : (p ++ rest).head? ≠ some '"' := by
      obtain ⟨c, q, rfl⟩ := List.exists_cons_of_ne_nil hne
      intro hc
      obtain rfl : c = '"' := by simpa using hc
      cases hchars _ (List.mem_cons_self ..)
    rw [token?, if_neg hquote, List.takeWhile_append_of_pos hchars,
      List.dropWhile_append_of_pos hchars, hend.1, hend.2, List.append_nil, if_neg hne,
      if_pos hnumber]
  | @text s p hp =>
    have hread : text? (p ++ '"' :: rest) = some (s, rest) := text?_eq_some_iff.2 ⟨p, hp, rfl⟩
    simp [token?, hread]

/-- A token is written in one character or more, and begins with none of the blanks. -/
theorem Token.Written.head {p rest : List Char} {t : Token} (h : t.Written rest p) :
    ∃ c q, p = c :: q ∧ isBlank c = false := by
  cases h with
  | fixed hmem =>
    obtain ⟨c, q, hp, -, -, hblank⟩ := fixedTokens_head _ hmem
    exact ⟨c, q, hp, hblank⟩
  | number hchars hnumber _ =>
    cases p with
    | nil => cases hnumber
    | cons c q =>
      refine ⟨c, q, rfl, Bool.eq_false_iff.2 fun hblank => ?_⟩
      have hc := hchars c (List.mem_cons_self ..)
      have : ∀ b ∈ [' ', '\t', '\n', '\r'], isNumberChar b = false := by simp [isNumberChar]
      rw [this c (List.contains_iff_mem.1 hblank)] at hc
      cases hc
  | text hp => exact ⟨_, _, rfl, rfl⟩

theorem token?_length {cs rest : List Char} {t : Token} (h : token? cs = some (t, rest)) :
    rest.length < cs.length := by
  obtain ⟨p, hp, rfl⟩ := token?_sound h
  obtain ⟨c, q, rfl, -⟩ := hp.head
  rw [List.length_append, List.length_cons]
  omega

def tokens? (cs : List Char) : Option (List Token) :=
  match cs with
  | [] => some []
  | c :: cs =>
    if isBlank c then tokens? cs
    else
      match _ : token? (c :: cs) with
      | some (t, rest) => (tokens? rest).map (t :: ·)
      | none => none
termination_by cs.length
decreasing_by
  · exact Nat.lt_succ_self _
  · exact token?_length ‹_›

theorem tokens?_eq_some_iff {cs : List Char} {ts : List Token} :
    tokens? cs = some ts ↔ Lexed cs ts := by
  constructor
  · intro h
    fun_induction tokens? cs generalizing ts with
    | case1 =>
      obtain rfl := Option.some.inj h
      exact .nil
    | case2 c cs hblank ih => exact .blank hblank (ih h)
    | case3 c cs hblank t rest ht ih =>
      obtain ⟨others, hothers, rfl⟩ := Option.map_eq_some_iff.1 h
      obtain ⟨p, hp, hcs⟩ := token?_sound ht
      rw [hcs]
      exact .token hp (ih hothers)
    | case4 c cs hblank hnone => cases h
  · intro h
    induction h with
    | nil => rw [tokens?]
    | blank hc h ih => rw [tokens?, if_pos hc, ih]
    | @token t p cs ts ht h ih =>
      -- A token does not start with a blank, so the reader does not skip it.
      have hread := token?_complete ht
      obtain ⟨c, q, rfl, hblank⟩ := ht.head
      rw [List.cons_append] at hread ⊢
      rw [tokens?, if_neg (by simp [hblank])]
      split
      · next u rest hu =>
        obtain ⟨rfl, rfl⟩ := Prod.mk.inj (Option.some.inj (hu.symm.trans hread))
        rw [ih]
        rfl
      · next hnone =>
        rw [hread] at hnone
        cases hnone

/-! ## Values -/

mutual

/-- The value that the tokens begin with, and the tokens after it.  `fuel` is at least the number
of tokens that belong to the value. -/
def value? : Nat → List Token → Option (Value × List Token)
  | 0, _ => none
  | _ + 1, .null :: ts => some (.null, ts)
  | _ + 1, .bool b :: ts => some (.bool b, ts)
  | _ + 1, .number lexeme :: ts => some (.number lexeme, ts)
  | _ + 1, .text s :: ts => some (.text s, ts)
  | _ + 1, .openArray :: .closeArray :: ts => some (.array [], ts)
  | fuel + 1, .openArray :: ts => do
    let first ← value? fuel ts
    let others ← items? fuel first.2
    return (.array (first.1 :: others.1), others.2)
  | _ + 1, .openObject :: .closeObject :: ts => some (.object [], ts)
  | fuel + 1, .openObject :: .text k :: .colon :: ts => do
    let first ← value? fuel ts
    let others ← members? fuel first.2
    return (.object ((k, first.1) :: others.1), others.2)
  | _, _ => none

def items? : Nat → List Token → Option (List Value × List Token)
  | 0, _ => none
  | _ + 1, .closeArray :: ts => some ([], ts)
  | fuel + 1, .comma :: ts => do
    let item ← value? fuel ts
    let others ← items? fuel item.2
    return (item.1 :: others.1, others.2)
  | _, _ => none

def members? : Nat → List Token → Option (List (String × Value) × List Token)
  | 0, _ => none
  | _ + 1, .closeObject :: ts => some ([], ts)
  | fuel + 1, .comma :: .text k :: .colon :: ts => do
    let member ← value? fuel ts
    let others ← members? fuel member.2
    return ((k, member.1) :: others.1, others.2)
  | _, _ => none

end

theorem Value.tokens_length_pos (v : Value) : 0 < v.tokens.length := by
  cases v with
  | array items => cases items <;> simp [Value.tokens]
  | object members => cases members <;> simp [Value.tokens]
  | _ => simp [Value.tokens]

/-- A value does not begin with a closing bracket: what follows an opening one tells whether an
array is empty. -/
theorem Value.tokens_ne_closeArray (v : Value) (rest ts : List Token) :
    v.tokens ++ rest ≠ .closeArray :: ts := by
  cases v with
  | array items => cases items <;> simp [Value.tokens]
  | object members => cases members <;> simp [Value.tokens]
  | _ => simp [Value.tokens]

/-- With fuel for all of its tokens a value is read back, whatever comes after it. -/
theorem value?_complete (fuel : Nat) :
    (∀ v rest, v.tokens.length ≤ fuel → value? fuel (v.tokens ++ rest) = some (v, rest)) ∧
    (∀ vs rest, (itemTokens vs).length ≤ fuel →
      items? fuel (itemTokens vs ++ rest) = some (vs, rest)) ∧
    (∀ ms rest, (memberTokens ms).length ≤ fuel →
      members? fuel (memberTokens ms ++ rest) = some (ms, rest)) := by
  -- Values, items and members at once: each call of one costs the others a unit of fuel.
  induction fuel with
  | zero =>
    refine ⟨fun v rest h => ?_, fun vs rest h => ?_, fun ms rest h => ?_⟩
    · have := v.tokens_length_pos
      omega
    · cases vs <;> simp [itemTokens] at h
    · cases ms <;> simp [memberTokens] at h
  | succ fuel ih =>
    obtain ⟨hvalue, hitems, hmembers⟩ := ih
    refine ⟨fun v rest h => ?_, fun vs rest h => ?_, fun ms rest h => ?_⟩
    · cases v with
      | array items =>
        cases items with
        | nil => rfl
        | cons v vs =>
          simp only [Value.tokens, List.length_append, List.length_cons] at h
          simp only [Value.tokens, List.cons_append, List.append_assoc]
          rw [value?]
          · simp [hvalue v _ (by omega), hitems vs _ (by omega)]
          · exact fun ts => v.tokens_ne_closeArray _ ts
      | object members =>
        cases members with
        | nil => rfl
        | cons m ms =>
          obtain ⟨k, v⟩ := m
          simp only [Value.tokens, List.length_append, List.length_cons] at h
          simp [Value.tokens, value?, hvalue v _ (by omega), hmembers ms _ (by omega)]
      | _ => rfl
    · cases vs with
      | nil => rfl
      | cons v vs =>
        simp only [itemTokens, List.length_append, List.length_cons] at h
        simp [itemTokens, items?, hvalue v _ (by omega), hitems vs _ (by omega)]
    · cases ms with
      | nil => rfl
      | cons m ms =>
        obtain ⟨k, v⟩ := m
        simp only [memberTokens, List.length_append, List.length_cons] at h
        simp [memberTokens, members?, hvalue v _ (by omega), hmembers ms _ (by omega)]

/-- Two things that are read one after the other. -/
theorem eq_some_of_reads {α β γ : Type} {x : Option (α × List Token)}
    {f : List Token → Option (β × List Token)} (g : α → β → γ) {r : γ} {rest : List Token}
    (h : (do let a ← x; let b ← f a.2; return (g a.1 b.1, b.2)) = some (r, rest)) :
    ∃ a after b, x = some (a, after) ∧ f after = some (b, rest) ∧ r = g a b := by
  simp only [Option.bind_eq_bind, Option.bind_eq_some_iff, Option.pure_def] at h
  obtain ⟨⟨a, after⟩, hx, ⟨b, rest⟩, hf, h⟩ := h
  cases h
  exact ⟨a, after, b, hx, hf, rfl⟩

/-- What is read is the tokens of what it is read as. -/
theorem value?_sound (fuel : Nat) :
    (∀ ts v rest, value? fuel ts = some (v, rest) → ts = v.tokens ++ rest) ∧
    (∀ ts vs rest, items? fuel ts = some (vs, rest) → ts = itemTokens vs ++ rest) ∧
    (∀ ts ms rest, members? fuel ts = some (ms, rest) → ts = memberTokens ms ++ rest) := by
  induction fuel with
  | zero => exact ⟨nofun, nofun, nofun⟩
  | succ fuel ih =>
    obtain ⟨hvalue, hitems, hmembers⟩ := ih
    refine ⟨fun ts v rest h => ?_, fun ts vs rest h => ?_, fun ts ms rest h => ?_⟩
    · unfold value? at h
      split at h
      -- an array with items
      case h_7 n ts _ hn =>
        obtain rfl := Nat.succ.inj hn
        obtain ⟨v, after, vs, hfirst, hothers, rfl⟩ :=
          eq_some_of_reads (fun v vs => Value.array (v :: vs)) h
        rw [hvalue _ _ _ hfirst, hitems _ _ _ hothers]
        simp [Value.tokens]
      -- an object with members
      case h_9 n k ts hn =>
        obtain rfl := Nat.succ.inj hn
        obtain ⟨v, after, ms, hfirst, hothers, rfl⟩ :=
          eq_some_of_reads (fun v ms => Value.object ((k, v) :: ms)) h
        rw [hvalue _ _ _ hfirst, hmembers _ _ _ hothers]
        simp [Value.tokens]
      all_goals cases h <;> rfl
    · unfold items? at h
      split at h
      case h_3 n ts hn =>
        obtain rfl := Nat.succ.inj hn
        obtain ⟨v, after, vs, hfirst, hothers, rfl⟩ := eq_some_of_reads List.cons h
        rw [hvalue _ _ _ hfirst, hitems _ _ _ hothers]
        simp [itemTokens]
      all_goals cases h <;> rfl
    · unfold members? at h
      split at h
      case h_3 n k ts hn =>
        obtain rfl := Nat.succ.inj hn
        obtain ⟨v, after, ms, hfirst, hothers, rfl⟩ :=
          eq_some_of_reads (fun v ms => (k, v) :: ms) h
        rw [hvalue _ _ _ hfirst, hmembers _ _ _ hothers]
        simp [memberTokens]
      all_goals cases h <;> rfl

/-- The value that a text says, if it is a JSON document. -/
def read? (text : String) : Option Value := do
  let ts ← tokens? text.toList
  let read ← value? ts.length ts
  if read.2.isEmpty then return read.1 else none

theorem read?_eq_some_iff {text : String} {v : Value} :
    read? text = some v ↔ IsDocument text v := by
  simp only [read?, IsDocument, Option.bind_eq_bind, Option.bind_eq_some_iff, tokens?_eq_some_iff]
  constructor
  · rintro ⟨ts, hts, read, hread, h⟩
    split at h
    · next hend =>
      obtain rfl := Option.some.inj h
      have := (value?_sound _).1 _ _ _ hread
      rw [List.isEmpty_iff.1 hend, List.append_nil] at this
      rwa [← this]
    · cases h
  · intro h
    refine ⟨v.tokens, h, (v, []), ?_, rfl⟩
    simpa using (value?_complete v.tokens.length).1 v [] (Nat.le_refl _)

end ItabRecovery.Json

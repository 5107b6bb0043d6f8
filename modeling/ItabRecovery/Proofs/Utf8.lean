import ItabRecovery.Proofs.Traversal
import ItabRecovery.Text.Utf8

/-!
# Texts survive their bytes

The machine that takes bytes one at a time comes back to where no sequence has begun after the
bytes of each character, with that character added (`foldl_encodeChar`).  So a text is found again
in its bytes, whatever its characters are:

    lossy (encode s) = s                                     (lossy_encode)
    strict? (encode s) = some s                              (strict?_encode)
-/

namespace ItabRecovery.Utf8

/-! ## Single bytes -/

theorem lead_ascii {n : Nat} (h : n < 0x80) : lead n = .char (Char.ofNat n) :=
  if_pos h

theorem lead_two {n : Nat} (h2 : 2 ≤ n) (h : n < 32) :
    lead (n + 0xc0) = .more ⟨n, 1, 0x80, 0xbf⟩ := by
  unfold lead
  rw [if_neg (by omega), if_neg (by omega), if_pos (by omega), Nat.add_sub_cancel]

/-- The second of three bytes is bounded from below after the first value, and from above after
that of the surrogates. -/
theorem lead_three {n : Nat} (h : n < 16) :
    ∃ low high, lead (n + 0xe0) = .more ⟨n, 2, low, high⟩ ∧
      low = (if n = 0 then 0xa0 else 0x80) ∧ high = (if n = 13 then 0x9f else 0xbf) := by
  unfold lead
  rw [if_neg (by omega), if_neg (by omega), if_neg (by omega)]
  by_cases h0 : n = 0
  · subst h0
    exact ⟨0xa0, 0xbf, rfl, rfl, rfl⟩
  by_cases h13 : n = 13
  · subst h13
    exact ⟨0x80, 0x9f, rfl, rfl, rfl⟩
  rw [if_neg (by omega), if_neg (by omega), if_pos (by omega), Nat.add_sub_cancel]
  exact ⟨0x80, 0xbf, rfl, (if_neg h0).symm, (if_neg h13).symm⟩

/-- The second of four bytes is bounded from below after the first value, and from above after
the last. -/
theorem lead_four {n : Nat} (h : n ≤ 4) :
    ∃ low high, lead (n + 0xf0) = .more ⟨n, 3, low, high⟩ ∧
      low = (if n = 0 then 0x90 else 0x80) ∧ high = (if n = 4 then 0x8f else 0xbf) := by
  unfold lead
  rw [if_neg (by omega), if_neg (by omega), if_neg (by omega), if_neg (by omega),
    if_neg (by omega), if_neg (by omega)]
  by_cases h0 : n = 0
  · subst h0
    exact ⟨0x90, 0xbf, rfl, rfl, rfl⟩
  by_cases h4 : n = 4
  · subst h4
    exact ⟨0x80, 0x8f, rfl, rfl, rfl⟩
  rw [if_neg (by omega), if_neg (by omega), if_pos (by omega), Nat.add_sub_cancel]
  exact ⟨0x80, 0xbf, rfl, (if_neg h0).symm, (if_neg h4).symm⟩

theorem step_begin {done : List (Option Char)} {n : Nat} (h : n < 256) :
    step ⟨done, none⟩ (UInt8.ofNat n) = begin done n := by
  show begin done (UInt8.ofNat n).toNat = begin done n
  rw [UInt8.toNat_ofNat', Nat.mod_eq_of_lt h]

theorem step_more {done : List (Option Char)} {bits low high n : Nat} (want : Nat) (h : n < 64)
    (hlow : low ≤ n + 0x80) (hhigh : n + 0x80 ≤ high) :
    step ⟨done, some ⟨bits, want + 2, low, high⟩⟩ (UInt8.ofNat (n + 0x80)) =
      ⟨done, some ⟨bits * 64 + n, want + 1, 0x80, 0xbf⟩⟩ := by
  have hbyte : (UInt8.ofNat (n + 0x80)).toNat = n + 0x80 := by
    rw [UInt8.toNat_ofNat', Nat.mod_eq_of_lt (by omega)]
  simp only [step, hbyte]
  rw [if_pos ⟨hlow, hhigh⟩, if_neg (by omega), Nat.add_sub_cancel]
  rfl

theorem step_last {done : List (Option Char)} {bits low high n : Nat} (h : n < 64)
    (hlow : low ≤ n + 0x80) (hhigh : n + 0x80 ≤ high) :
    step ⟨done, some ⟨bits, 1, low, high⟩⟩ (UInt8.ofNat (n + 0x80)) =
      ⟨some (Char.ofNat (bits * 64 + n)) :: done, none⟩ := by
  have hbyte : (UInt8.ofNat (n + 0x80)).toNat = n + 0x80 := by
    rw [UInt8.toNat_ofNat', Nat.mod_eq_of_lt (by omega)]
  simp only [step, hbyte]
  rw [if_pos ⟨hlow, hhigh⟩, if_pos (by omega), Nat.add_sub_cancel]

/-! ## Characters and texts -/

/-- The bytes of a character add it and leave no sequence open. -/
theorem foldl_encodeChar (c : Char) (done : List (Option Char)) :
    (String.utf8EncodeChar c).foldl step ⟨done, none⟩ = ⟨some c :: done, none⟩ := by
  have hvalid : c.val.toNat < 0xd800 ∨ 0xdfff < c.val.toNat ∧ c.val.toNat < 0x110000 := c.valid
  have hc : Char.ofNat c.val.toNat = c := Char.ofNat_toNat c
  unfold String.utf8EncodeChar
  generalize c.val.toNat = v at hvalid hc
  simp only
  -- One case for each length of the encoding.
  by_cases h1 : v ≤ 0x7f
  · rw [if_pos h1, List.foldl_cons, step_begin (by omega), begin, lead_ascii (by omega), hc]
    rfl
  rw [if_neg h1]
  by_cases h2 : v ≤ 0x7ff
  · have hv : v / 64 % 32 * 64 + v % 64 = v := by omega
    rw [if_pos h2, List.foldl_cons, step_begin (by omega), begin,
      lead_two (by omega) (by omega), List.foldl_cons, step_last (by omega) (by omega) (by omega),
      hv, hc]
    rfl
  rw [if_neg h2]
  by_cases h3 : v ≤ 0xffff
  · have hv : (v / 4096 % 16 * 64 + v / 64 % 64) * 64 + v % 64 = v := by omega
    obtain ⟨low, high, hlead, hlow, hhigh⟩ := lead_three (n := v / 4096 % 16) (by omega)
    rw [if_pos h3, List.foldl_cons, step_begin (by omega), begin, hlead, List.foldl_cons,
      step_more 0 (by omega) (by split at hlow <;> omega) (by split at hhigh <;> omega),
      List.foldl_cons, step_last (by omega) (by omega) (by omega), hv, hc]
    rfl
  rw [if_neg h3]
  have hv : ((v / 262144 % 8 * 64 + v / 4096 % 64) * 64 + v / 64 % 64) * 64 + v % 64 = v := by
    omega
  obtain ⟨low, high, hlead, hlow, hhigh⟩ := lead_four (n := v / 262144 % 8) (by omega)
  rw [List.foldl_cons, step_begin (by omega), begin, hlead, List.foldl_cons,
    step_more 1 (by omega) (by split at hlow <;> omega) (by split at hhigh <;> omega),
    List.foldl_cons, step_more 0 (by omega) (by omega) (by omega),
    List.foldl_cons, step_last (by omega) (by omega) (by omega), hv, hc]
  rfl

theorem foldl_encode (cs : List Char) (done : List (Option Char)) :
    (cs.flatMap String.utf8EncodeChar).foldl step ⟨done, none⟩ =
      ⟨(cs.map some).reverse ++ done, none⟩ := by
  induction cs generalizing done with
  | nil => rfl
  | cons c cs ih =>
    rw [List.flatMap_cons, List.foldl_append, foldl_encodeChar, ih, List.map_cons,
      List.reverse_cons, List.append_assoc]
    rfl

theorem pieces_encode (s : String) : pieces (encode s) = s.toList.map some := by
  rw [pieces, encode, foldl_encode, List.append_nil]
  exact List.reverse_reverse _

/-- A text is found again in its bytes. -/
theorem lossy_encode (s : String) : lossy (encode s) = s := by
  rw [lossy, pieces_encode, List.map_map]
  have hid : (fun p : Option Char => p.getD '\uFFFD') ∘ some = id := by
    funext c
    rfl
  rw [hid, List.map_id, String.ofList_toList]

theorem strict?_encode (s : String) : strict? (encode s) = some s := by
  have hall : (s.toList.map some).mapM id = some s.toList := by
    rw [mapM_eq_some_iff, List.forall₂_map_left_iff, List.forall₂_same]
    exact fun c _ => rfl
  rw [strict?, pieces_encode, hall, Option.map_some, String.ofList_toList]

end ItabRecovery.Utf8

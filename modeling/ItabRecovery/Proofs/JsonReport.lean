import Mathlib.Tactic.SplitIfs
import ItabRecovery.CommandLine
import ItabRecovery.Proofs.JsonReader
import ItabRecovery.Proofs.FileRoundTrip

/-!
# The report as a document

Every printed value is a JSON document that says that value, whatever characters its texts are made
of, and from the value of a report the implementations can be told again:

    Json.IsDocument (j.render ++ "\n") j.value                              (isDocument_render)
    Report.ofValue? v = some found ↔ v = (Report.document found).value    (ofValue?_eq_some_iff)

So a reader of the report gets exactly what was found, and two different results are never printed
alike.
-/

namespace ItabRecovery

namespace Json

/-! ## Printed values -/

mutual

def value : Json → Value
  | .bool b => .bool b
  | .text s => .text s
  | .list js => .array (values js)
  | .record ms => .object (memberValues ms)

def values : List Json → List Value
  | [] => []
  | j :: js => j.value :: values js

def memberValues : List (String × Json) → List (String × Value)
  | [] => []
  | (k, j) :: ms => (k, j.value) :: memberValues ms

end

theorem values_eq (js : List Json) : values js = js.map value := by
  induction js with
  | nil => rfl
  | cons j js ih => rw [values, ih, List.map_cons]

theorem unit?_digits : ∀ n < 0x20,
    unit? ['0', '0', Nat.digitChar (n / 16), Nat.digitChar (n % 16)] = some n := by
  decide

/-- What is printed for a character stands for it. -/
theorem stands_escape (c : Char) : Stands c (escape c) := by
  unfold escape
  split_ifs with hquote hslash hback htab hline hform hreturn hcontrol
  · exact .short (by rw [hquote]; rfl)
  · exact .short (by rw [hslash]; rfl)
  · exact .short (hback ▸ rfl)
  · exact .short (htab ▸ rfl)
  · exact .short (hline ▸ rfl)
  · exact .short (hform ▸ rfl)
  · exact .short (hreturn ▸ rfl)
  · exact .unit (unit?_digits _ hcontrol)
  · exact .plain hquote hslash (Nat.not_lt.1 hcontrol)

theorem standsFor_escape (s : List Char) : StandsFor s (s.flatMap escape) := by
  induction s with
  | nil => exact .nil
  | cons c s ih => exact .cons (stands_escape c) ih

section

variable {cs : List Char} {ts : List Token}

theorem Lexed.fixed (p : List Char) {t : Token} (h : Lexed cs ts)
    (ht : (p, t) ∈ fixedTokens := by simp [fixedTokens]) : Lexed (p ++ cs) (t :: ts) :=
  .token (.fixed ht) h

theorem Lexed.quote (s : String) (h : Lexed cs ts) :
    Lexed (Json.quote s ++ cs) (.text s :: ts) := by
  have hs : (Token.text (String.ofList s.toList)).Written cs (Json.quote s) :=
    .text (standsFor_escape s.toList)
  rw [String.ofList_toList] at hs
  exact .token hs h

theorem Lexed.newLine (depth : Nat) (h : Lexed cs ts) : Lexed (Json.newLine depth ++ cs) ts := by
  have hspaces : ∀ n, Lexed (List.replicate n ' ' ++ cs) ts := by
    intro n
    induction n with
    | zero => exact h
    | succ n ih => exact .blank rfl ih
  exact .blank rfl (hspaces _)

/-- A key, with the colon and the space after it. -/
theorem Lexed.key (k : String) (h : Lexed cs ts) :
    Lexed (Json.quote k ++ [':', ' '] ++ cs) (.text k :: .colon :: ts) := by
  rw [List.append_assoc]
  exact .quote k (.fixed [':'] (.blank rfl h))

end

namespace Value

def asText? : Value → Option String
  | .text s => some s
  | _ => none

def asBool? : Value → Option Bool
  | .bool b => some b
  | _ => none

/-- What is read of the items of the array that a value is. -/
def asList? {α : Type} (item? : Value → Option α) : Value → Option (List α)
  | .array vs => vs.mapM item?
  | _ => none

/-- The values in the object that a value is, if its keys are these in this order. -/
def asRecord? (keys : List String) : Value → Option (List Value)
  | .object ms => if ms.map Prod.fst = keys then some (ms.map Prod.snd) else none
  | _ => none

theorem asText?_eq_some_iff {v : Value} {s : String} : v.asText? = some s ↔ v = .text s := by
  cases v <;> simp [asText?]

theorem asBool?_eq_some_iff {v : Value} {b : Bool} : v.asBool? = some b ↔ v = .bool b := by
  cases v <;> simp [asBool?]

/-- The items of an array are read if each is a value that says what is read of it. -/
theorem asList?_eq_some_iff {α : Type} {item? : Value → Option α} {say : α → Value}
    (h : ∀ v x, item? v = some x ↔ v = say x) {v : Value} {xs : List α} :
    v.asList? item? = some xs ↔ v = .array (xs.map say) := by
  cases v with
  | array vs =>
    simp only [asList?, mapM_eq_some_iff, h, array.injEq]
    rw [← List.forall₂_map_right_iff, List.forall₂_eq_eq_eq]
  | _ => simp [asList?]

theorem eq_of_asRecord? {v : Value} {keys : List String} {vs : List Value}
    (h : v.asRecord? keys = some vs) : v = .object (keys.zip vs) := by
  unfold asRecord? at h
  split at h
  · next ms =>
    split at h
    · next hkeys =>
      obtain rfl := Option.some.inj h
      rw [← hkeys, List.zip_map', List.map_id']
    · cases h
  · cases h

end Value

end Json

/-! ## Reports -/

def TypeRef.ofValue? (v : Json.Value) : Option TypeRef := do
  match ← v.asRecord? ["name", "pkg_path", "is_pointer"] with
  | [name, pkgPath, isPointer] =>
    return ⟨⟨← pkgPath.asText?, ← name.asText?⟩, ← isPointer.asBool?⟩
  | _ => none

def Method.ofValue? (v : Json.Value) : Option Method := do
  match ← v.asRecord? ["name", "signature", "inputs", "outputs"] with
  | [name, signature, inputs, outputs] =>
    return ⟨← name.asText?, ← signature.asText?, ← inputs.asList? TypeRef.ofValue?,
      ← outputs.asList? TypeRef.ofValue?⟩
  | _ => none

def Implementation.ofValue? (v : Json.Value) : Option Implementation := do
  match ← v.asRecord? ["name", "pkg_path", "implemented", "methods"] with
  | [name, pkgPath, implemented, methods] =>
    return ⟨⟨← pkgPath.asText?, ← name.asText?⟩, ← implemented.asText?,
      ← methods.asList? Method.ofValue?⟩
  | _ => none

def Report.ofValue? (v : Json.Value) : Option (List Implementation) :=
  v.asList? Implementation.ofValue?

theorem TypeRef.ofValue?_eq_some_iff (v : Json.Value) (t : TypeRef) :
    ofValue? v = some t ↔ v = t.toJson.value := by
  constructor
  · intro h
    obtain ⟨vs, hvs, h⟩ := Option.bind_eq_some_iff.1 h
    split at h
    · simp only [Option.bind_eq_bind, Option.bind_eq_some_iff, Option.pure_def, Option.some_inj,
        Json.Value.asText?_eq_some_iff, Json.Value.asBool?_eq_some_iff] at h
      obtain ⟨pkgPath, rfl, name, rfl, isPointer, rfl, rfl⟩ := h
      exact Json.Value.eq_of_asRecord? hvs
    · cases h
  · rintro rfl
    rfl

theorem Method.toJson_value (m : Method) :
    m.toJson.value = .object [("name", .text m.name), ("signature", .text m.signature),
      ("inputs", .array (m.inputs.map fun t => t.toJson.value)),
      ("outputs", .array (m.outputs.map fun t => t.toJson.value))] := by
  simp [toJson, Json.value, Json.memberValues, Json.values_eq, Function.comp_def]

theorem Method.ofValue?_eq_some_iff (v : Json.Value) (m : Method) :
    ofValue? v = some m ↔ v = m.toJson.value := by
  have htypes : ∀ (v : Json.Value) (ts : List TypeRef), v.asList? TypeRef.ofValue? = some ts ↔ _ :=
    fun _ _ => Json.Value.asList?_eq_some_iff TypeRef.ofValue?_eq_some_iff
  constructor
  · intro h
    obtain ⟨vs, hvs, h⟩ := Option.bind_eq_some_iff.1 h
    split at h
    · simp only [Option.bind_eq_bind, Option.bind_eq_some_iff, Option.pure_def, Option.some_inj,
        Json.Value.asText?_eq_some_iff, htypes] at h
      obtain ⟨name, rfl, signature, rfl, inputs, rfl, outputs, rfl, rfl⟩ := h
      rw [Json.Value.eq_of_asRecord? hvs, toJson_value]
      rfl
    · cases h
  · rintro rfl
    have hinputs := (htypes _ m.inputs).2 rfl
    have houtputs := (htypes _ m.outputs).2 rfl
    simp [ofValue?, toJson_value, Json.Value.asRecord?, Json.Value.asText?, hinputs, houtputs]

theorem Implementation.toJson_value (i : Implementation) :
    i.toJson.value = .object [("name", .text i.interface.name),
      ("pkg_path", .text i.interface.pkgPath), ("implemented", .text i.concrete),
      ("methods", .array (i.methods.map fun m => m.toJson.value))] := by
  simp [toJson, Json.value, Json.memberValues, Json.values_eq, Function.comp_def]

theorem Implementation.ofValue?_eq_some_iff (v : Json.Value) (i : Implementation) :
    ofValue? v = some i ↔ v = i.toJson.value := by
  have htable : ∀ (v : Json.Value) (ms : List Method), v.asList? Method.ofValue? = some ms ↔ _ :=
    fun _ _ => Json.Value.asList?_eq_some_iff Method.ofValue?_eq_some_iff
  constructor
  · intro h
    obtain ⟨vs, hvs, h⟩ := Option.bind_eq_some_iff.1 h
    split at h
    · simp only [Option.bind_eq_bind, Option.bind_eq_some_iff, Option.pure_def, Option.some_inj,
        Json.Value.asText?_eq_some_iff, htable] at h
      obtain ⟨pkgPath, rfl, name, rfl, implemented, rfl, methods, rfl, rfl⟩ := h
      rw [Json.Value.eq_of_asRecord? hvs, toJson_value]
      rfl
    · cases h
  · rintro rfl
    have hmethods := (htable _ i.methods).2 rfl
    simp [ofValue?, toJson_value, Json.Value.asRecord?, Json.Value.asText?, hmethods]

theorem Report.ofValue?_eq_some_iff (v : Json.Value) (found : List Implementation) :
    ofValue? v = some found ↔ v = (document found).value := by
  rw [ofValue?, Json.Value.asList?_eq_some_iff Implementation.ofValue?_eq_some_iff, document,
    Json.value, Json.values_eq, List.map_map]
  rfl

end ItabRecovery

import Mathlib.Data.String.Basic

/-!
# JSON documents

* `Value` is a value as an encoder sees it, with the fields of an object in the order in which
  they are written: a struct has them in the order of its declaration, a map by key. A number is
  the text that is written for it.
* `marshal` is the text of a value; it fails on a value that has none.
* `reread` is the value that comes back when the document has been stored in a database and read
  into maps. `Canonical` values come back as they are.
-/

namespace Lib.Json

/-- A value to encode. -/
inductive Value
  | null
  | bool (b : Bool)
  | number (text : String)
  | string (s : String)
  | array (vs : List Value)
  | object (fields : List (String × Value))
  /-- A value that has no JSON text, such as a function or a channel. -/
  | unsupported

/-! ## Text -/

/-- The four hexadecimal digits of a code point below `0x10000`. -/
def hex4 (n : ℕ) : String :=
  String.ofList ([n / 4096, n / 256 % 16, n / 16 % 16, n % 16].map Nat.digitChar)

/-- How a character is written in a string. The signs that matter in HTML are escaped. -/
def escape (c : Char) : String :=
  match c.toNat with
  | 0x22 => "\\\""
  | 0x5c => "\\\\"
  | 0x08 => "\\b"
  | 0x0c => "\\f"
  | 0x0a => "\\n"
  | 0x0d => "\\r"
  | 0x09 => "\\t"
  | n =>
    if n < 0x20 ∨ n = 0x26 ∨ n = 0x3c ∨ n = 0x3e ∨ n = 0x2028 ∨ n = 0x2029 then "\\u" ++ hex4 n
    else c.toString

/-- A string with its quotes. -/
def quote (s : String) : String := "\"" ++ String.join (s.toList.map escape) ++ "\""

mutual

/-- The text of a value. -/
def marshal : Value → Option String
  | .null => some "null"
  | .bool b => some (if b then "true" else "false")
  | .number text => some text
  | .string s => some (quote s)
  | .array vs => (marshalAll vs).map fun texts => "[" ++ ",".intercalate texts ++ "]"
  | .object fields =>
    (marshalFields fields).map fun texts => "\x7b" ++ ",".intercalate texts ++ "\x7d"
  | .unsupported => none

/-- The texts of some values. -/
def marshalAll : List Value → Option (List String)
  | [] => some []
  | v :: vs => do
    let text ← marshal v
    let texts ← marshalAll vs
    return text :: texts

/-- The texts of some fields. -/
def marshalFields : List (String × Value) → Option (List String)
  | [] => some []
  | (key, v) :: fields => do
    let text ← marshal v
    let texts ← marshalFields fields
    return (quote key ++ ":" ++ text) :: texts

end

/-! ## Reading back -/

/-- Store a field in a list of fields by key, in place of the one with the same key. -/
def insertField (key : String) (v : Value) : List (String × Value) → List (String × Value)
  | [] => [(key, v)]
  | (key', v') :: fields =>
    if key = key' then (key, v) :: fields
    else if key < key' then (key, v) :: (key', v') :: fields
    else (key', v') :: insertField key v fields

/-- The fields by key; of two with the same key the last one counts. -/
def sortFields (fields : List (String × Value)) : List (String × Value) :=
  fields.foldl (fun sorted field => insertField field.1 field.2 sorted) []

mutual

/-- The value that is read back. `renumber` is what becomes of the text of a number on its way
through the number types of the database and of the program. -/
def reread (renumber : String → String) : Value → Value
  | .number text => .number (renumber text)
  | .array vs => .array (rereadAll renumber vs)
  | .object fields => .object (sortFields (rereadFields renumber fields))
  | v => v

/-- The values that are read back. -/
def rereadAll (renumber : String → String) : List Value → List Value
  | [] => []
  | v :: vs => reread renumber v :: rereadAll renumber vs

/-- The fields that are read back. -/
def rereadFields (renumber : String → String) : List (String × Value) → List (String × Value)
  | [] => []
  | (key, v) :: fields => (key, reread renumber v) :: rereadFields renumber fields

end

/-! ## Canonical values -/

section Canonical

variable (renumber : String → String)

mutual

/-- Objects have their fields by key, and numbers are written as they are read back. -/
def Canonical : Value → Prop
  | .number text => renumber text = text
  | .array vs => CanonicalAll vs
  | .object fields => (fields.map Prod.fst).Pairwise (· < ·) ∧ CanonicalFields fields
  | _ => True

/-- All values are canonical. -/
def CanonicalAll : List Value → Prop
  | [] => True
  | v :: vs => Canonical v ∧ CanonicalAll vs

/-- The values of all fields are canonical. -/
def CanonicalFields : List (String × Value) → Prop
  | [] => True
  | (_, v) :: fields => Canonical v ∧ CanonicalFields fields

end

variable {renumber}

lemma insertField_of_lt {key : String} {v : Value} {sorted : List (String × Value)}
    (h : ∀ field ∈ sorted, field.1 < key) : insertField key v sorted = sorted ++ [(key, v)] := by
  induction sorted with
  | nil => rfl
  | cons field sorted ih =>
    obtain ⟨key', v'⟩ := field
    have hlt : key' < key := h (key', v') List.mem_cons_self
    rw [insertField, if_neg hlt.ne', if_neg hlt.not_gt,
      ih fun field hfield => h field (List.mem_cons_of_mem _ hfield)]
    rfl

lemma sortFields_of_sorted {fields : List (String × Value)}
    (h : (fields.map Prod.fst).Pairwise (· < ·)) : sortFields fields = fields := by
  have hfold : ∀ (rest sorted : List (String × Value)),
      ((sorted ++ rest).map Prod.fst).Pairwise (· < ·) →
      rest.foldl (fun sorted field => insertField field.1 field.2 sorted) sorted =
        sorted ++ rest := by
    intro rest
    induction rest with
    | nil => intro sorted _; simp
    | cons field rest ih =>
      intro sorted hsorted
      have hlt : ∀ field' ∈ sorted, field'.1 < field.1 := by
        intro field' hfield'
        rw [List.map_append, List.pairwise_append] at hsorted
        exact hsorted.2.2 _ (List.mem_map_of_mem hfield') _ (by simp)
      rw [List.foldl_cons, insertField_of_lt hlt, ih _ (by simpa using hsorted)]
      simp
  exact hfold fields [] h

mutual

/-- A canonical value is read back as it is. -/
theorem reread_of_canonical : ∀ {v : Value}, Canonical renumber v → reread renumber v = v
  | .null, _ => rfl
  | .bool _, _ => rfl
  | .number text, h => congrArg Value.number h
  | .string _, _ => rfl
  | .array vs, h => congrArg Value.array (rereadAll_of_canonical h)
  | .object fields, h => by
    rw [reread, rereadFields_of_canonical h.2, sortFields_of_sorted h.1]
  | .unsupported, _ => rfl

lemma rereadAll_of_canonical : ∀ {vs : List Value}, CanonicalAll renumber vs →
    rereadAll renumber vs = vs
  | [], _ => rfl
  | _ :: _, h => congrArg₂ List.cons (reread_of_canonical h.1) (rereadAll_of_canonical h.2)

lemma rereadFields_of_canonical : ∀ {fields : List (String × Value)},
    CanonicalFields renumber fields → rereadFields renumber fields = fields
  | [], _ => rfl
  | (key, _) :: _, h =>
    congrArg₂ List.cons (congrArg (Prod.mk key) (reread_of_canonical h.1))
      (rereadFields_of_canonical h.2)

end

end Canonical

end Lib.Json

import Paryty.Lib.Escape
import Paryty.Lib.FloatText
import Paryty.Lib.Table
import Mathlib.Data.List.Sort

/-!
# Lines of the line protocol

`formatILPLine` of `cluster/internal/storage/warm/ilp.go` writes a row as one line: the table, the
tags, the fields and the time, with marks before the bytes that would end a name too early. Names
and values are bytes, a tag map and a field map are tables by key.

`readLine` is a reader of such lines. It takes every line that can be taken apart: names may be
empty, and integers may have any size.
-/

namespace Paryty.Storage.ILPLine

open Lib (Bytes utf8 Binary binary64 binary32 escape readToken formatNat formatInt formatFloat)

/-! ## Rows -/

/-- The value of a field. A time comes with its text in UTC, with microseconds, unless it is the
zero time; a value of a type that is not listed comes with the text that `%v` prints. -/
inductive FieldValue
  | float64 (val : Binary binary64)
  | float32 (val : Binary binary32)
  | int64 (val : Int64)
  | int32 (val : Int32)
  | int (val : Int64)
  | uint64 (val : UInt64)
  | uint32 (val : UInt32)
  | string (val : Bytes)
  | bool (val : Bool)
  | time (val : Option Bytes)
  | other (text : Bytes)

/-- The tags of a row. -/
abbrev Tags := Lib.Table (Bytes × Bytes) Bytes Prod.fst

/-- The fields of a row. -/
abbrev Fields := Lib.Table (Bytes × FieldValue) Bytes Prod.fst

/-! ## Escaping -/

def backslash : UInt8 := 92
def space : UInt8 := 32
def comma : UInt8 := 44
def equals : UInt8 := 61
def quote : UInt8 := 34
def newline : UInt8 := 10

/-- What gets a backslash in a name or a tag. -/
def isTokenSpecial (c : UInt8) : Bool := c = space || c = comma || c = equals || c = backslash

/-- What gets a backslash in a quoted string. -/
def isStringSpecial (c : UInt8) : Bool := c = backslash || c = quote

def needsILPTokenEscape (s : Bytes) : Bool := s.any isTokenSpecial

def needsILPStringEscape (s : Bytes) : Bool := s.any isStringSpecial

/-- A name or a tag. -/
def escapeILPToken (s : Bytes) : Bytes :=
  if !needsILPTokenEscape s then s else escape backslash isTokenSpecial s

/-- A string between quotes. -/
def escapeILPString (s : Bytes) : Bytes :=
  if !needsILPStringEscape s then s else escape backslash isStringSpecial s

/-! ## Writing -/

/-- `sort.Strings`. -/
def sortStrings (keys : List Bytes) : List Bytes := keys.insertionSort (· ≤ ·)

/-- The tags with a value, by key. -/
def writeSortedTags (tags : Tags) : Bytes :=
  let keys := sortStrings ((tags.rows.filter (fun tag => tag.2 ≠ [])).map Prod.fst)
  keys.flatMap (fun k => comma :: escapeILPToken k ++
    equals :: escapeILPToken (((tags.find? k).map Prod.snd).getD []))

/-- The value of a field, with the suffix of its type. -/
def writeFieldValue : FieldValue → Bytes
  | .float64 val => formatFloat val
  | .float32 val => formatFloat val
  | .int64 val => formatInt val.toInt ++ utf8 "i"
  | .int32 val => formatInt val.toInt ++ utf8 "i"
  | .int val => formatInt val.toInt ++ utf8 "i"
  | .uint64 val => formatNat val.toNat ++ utf8 "i"
  | .uint32 val => formatNat val.toNat ++ utf8 "i"
  | .string val => quote :: escapeILPString val ++ [quote]
  | .bool val => if val then utf8 "t" else utf8 "f"
  | .time none => utf8 "null"
  | .time (some val) => utf8 "'" ++ val ++ utf8 "'"
  | .other text => quote :: escapeILPString text ++ [quote]

/-- The fields, by key. -/
def writeSortedFields (fields : Fields) : Bytes :=
  let keys := sortStrings (fields.rows.map Prod.fst)
  [comma].intercalate (keys.map (fun k => escapeILPToken k ++
    equals :: writeFieldValue (((fields.find? k).map Prod.snd).getD (.other (utf8 "<nil>")))))

/-- A row as a line; `ts` is the time in nanoseconds. -/
def formatILPLine (table : Bytes) (tags : Tags) (fields : Fields) (ts : Int64) : Bytes :=
  escapeILPToken table ++ (if tags.rows.length > 0 then writeSortedTags tags else []) ++
    space :: writeSortedFields fields ++ space :: formatInt ts.toInt ++ [newline]

/-! ## Reading -/

/-- The types of the protocol. -/
inductive ILPValue
  | float (text : Lib.FloatText)
  | integer (n : ℤ)
  | string (s : Bytes)
  | boolean (b : Bool)
deriving DecidableEq

/-- What a line says. -/
structure ILPRow where
  table : Bytes
  tags : List (Bytes × Bytes)
  fields : List (Bytes × ILPValue)
  timestamp : ℤ
deriving DecidableEq

/-- Where a name of the table, a key or a value ends. -/
def endsValue (c : UInt8) : Bool := c = comma || c = space

def endsKey (c : UInt8) : Bool := c = equals

/-- The text behind the given byte. -/
def expect (c : UInt8) : Bytes → Option Bytes
  | [] => none
  | d :: rest => if d = c then some rest else none

/-- A value without quotes. -/
def readScalar (text : Bytes) : Option ILPValue :=
  if text = utf8 "t" then some (.boolean true)
  else if text = utf8 "f" then some (.boolean false)
  else if text.getLast? = some 105 then (Lib.readInt text.dropLast).map .integer
  else (Lib.readFloat text).map .float

/-- A value, and the text behind it. -/
def readValue (text : Bytes) : Option (ILPValue × Bytes) :=
  match expect quote text with
  | some text => do
    let (s, rest) := readToken backslash (· = quote) text
    let rest ← expect quote rest
    return (.string s, rest)
  | none => do
    let value ← readScalar (text.takeWhile (fun c => !endsValue c))
    return (value, text.dropWhile (fun c => !endsValue c))

/-- The tags, and the text behind them; `fuel` bounds their number. -/
def readTags : (fuel : ℕ) → Bytes → Option (List (Bytes × Bytes) × Bytes)
  | 0, text => if expect comma text = none then some ([], text) else none
  | fuel + 1, text =>
    match expect comma text with
    | some text => do
      let (k, rest) := readToken backslash endsKey text
      let rest ← expect equals rest
      let (v, rest) := readToken backslash endsValue rest
      let (tags, rest) ← readTags fuel rest
      return ((k, v) :: tags, rest)
    | none => some ([], text)

/-- One field or more, and the text behind them. -/
def readFields : (fuel : ℕ) → Bytes → Option (List (Bytes × ILPValue) × Bytes)
  | 0, _ => none
  | fuel + 1, text => do
    let (k, rest) := readToken backslash endsKey text
    let rest ← expect equals rest
    let (v, rest) ← readValue rest
    match expect comma rest with
    | some rest => do
      let (fields, rest) ← readFields fuel rest
      return ((k, v) :: fields, rest)
    | none => return ([(k, v)], rest)

/-- The fields, and the text behind them; there are none if the next byte is a space. -/
def readFieldSet (fuel : ℕ) (text : Bytes) : Option (List (Bytes × ILPValue) × Bytes) :=
  if text.head? = some space then some ([], text) else readFields fuel text

/-- Read a line. -/
def readLine (line : Bytes) : Option ILPRow := do
  let (table, rest) := readToken backslash endsValue line
  let (tags, rest) ← readTags line.length rest
  let rest ← expect space rest
  let (fields, rest) ← readFieldSet line.length rest
  let rest ← expect space rest
  let timestamp ← Lib.readInt rest
  return { table, tags, fields, timestamp }

lemma expect_self (c : UInt8) (rest : Bytes) : expect c (c :: rest) = some rest := if_pos rfl

lemma expect_of_ne {c d : UInt8} (h : d ≠ c) (rest : Bytes) : expect c (d :: rest) = none :=
  if_neg h

/-! ## The round trip -/

/-- The value is a string or a number, or else true or false. -/
def FieldValue.Scalar : FieldValue → Bool
  | .time _ | .other _ => false
  | _ => true

/-- What is read is the value, of the type of the field. -/
def FieldValue.Recovered : FieldValue → ILPValue → Prop
  | .float64 val, .float text => text.ReadsAs val
  | .float32 val, .float text => text.ReadsAs val
  | .int64 val, .integer n => n = val.toInt
  | .int32 val, .integer n => n = val.toInt
  | .int val, .integer n => n = val.toInt
  | .uint64 val, .integer n => n = val.toNat
  | .uint32 val, .integer n => n = val.toNat
  | .string val, .string s => s = val
  | .bool val, .boolean b => b = val
  | _, _ => False

/-- The line that is written is one line, and a reader gets the row back from it. -/
def RoundTrip (table : Bytes) (tags : Tags) (fields : Fields) (ts : Int64) : Prop :=
  ∃ line, formatILPLine table tags fields ts = line ++ [newline] ∧ newline ∉ line ∧
    ∃ row, readLine line = some row ∧ row.table = table ∧
      row.tags.Perm (tags.rows.filter (fun tag => tag.2 ≠ [])) ∧
      (row.fields.map Prod.fst).Perm (fields.rows.map Prod.fst) ∧
      (∀ field ∈ fields, ∃ value, (field.1, value) ∈ row.fields ∧ field.2.Recovered value) ∧
      row.timestamp = ts.toInt

/-- No name, no tag and no string has a newline. -/
def NoNewline (table : Bytes) (tags : Tags) (fields : Fields) : Prop :=
  newline ∉ table ∧
    (∀ tag ∈ tags, tag.2 ≠ [] → newline ∉ tag.1 ∧ newline ∉ tag.2) ∧
    ∀ field ∈ fields, newline ∉ field.1 ∧ ∀ s, field.2 = .string s → newline ∉ s

end Paryty.Storage.ILPLine

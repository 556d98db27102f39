import Paryty.Storage.ILPLine

/-!
# What a reader gets back from a line

One lemma for each part of a line: a name (`readToken_escapeILPToken`), a value
(`readValue_writeFieldValue`), the tags (`readTags_tags`) and the fields (`readFields_fields`). From
them `readLine_formatILPLine`: every row whose values are strings and numbers is read back.

What is written has a newline before its end exactly if a name, a tag or a string has one
(`newline_mem_iff`), so the line can be read exactly if none has: `roundTrip_iff`.
-/

namespace Paryty.Storage.ILPLine

open Lib (Bytes utf8 Binary escape readToken formatNat formatInt formatFloat)

/-! ## Names and strings -/

lemma escapeILPToken_eq (s : Bytes) : escapeILPToken s = escape backslash isTokenSpecial s := by
  unfold escapeILPToken
  split
  case isTrue h => exact (Lib.escape_of_not_any (by simpa [needsILPTokenEscape] using h)).symm
  case isFalse => rfl

lemma escapeILPString_eq (s : Bytes) : escapeILPString s = escape backslash isStringSpecial s := by
  unfold escapeILPString
  split
  case isTrue h => exact (Lib.escape_of_not_any (by simpa [needsILPStringEscape] using h)).symm
  case isFalse => rfl

lemma readToken_escapeILPToken {stop : UInt8 → Bool}
    (hstop : ∀ c, stop c = true → isTokenSpecial c = true ∧ c ≠ backslash) (s : Bytes) {c : UInt8}
    (hc : stop c = true) (rest : Bytes) :
    readToken backslash stop (escapeILPToken s ++ c :: rest) = (s, c :: rest) := by
  rw [escapeILPToken_eq]
  exact Lib.readToken_escape rfl hstop s hc rest

lemma endsKey_special (c : UInt8) (h : endsKey c = true) :
    isTokenSpecial c = true ∧ c ≠ backslash := by
  obtain rfl : c = equals := by simpa [endsKey] using h
  decide

lemma endsValue_special (c : UInt8) (h : endsValue c = true) :
    isTokenSpecial c = true ∧ c ≠ backslash := by
  have hcases : c = comma ∨ c = space := by simpa [endsValue] using h
  rcases hcases with rfl | rfl <;> decide

lemma readToken_escapeILPString (s rest : Bytes) :
    readToken backslash (· = quote) (escapeILPString s ++ quote :: rest) = (s, quote :: rest) := by
  rw [escapeILPString_eq]
  refine Lib.readToken_escape rfl (fun c hc => ?_) s (by decide) rest
  obtain rfl : c = quote := by simpa using hc
  decide

/-! ## Values -/

lemma not_mem_formatFloat {f : Lib.BinaryFormat} {c : UInt8} (hc : c.toNat < 43 ∨ c = comma)
    (x : Binary f) : c ∉ formatFloat x := by
  rcases hc with hc | rfl
  · refine Lib.not_mem_formatFloat (.inl (by omega)) ?_ ?_ x
    · rintro rfl
      exact absurd hc (by decide)
    · have hletters : ∀ b ∈ utf8 "NaN+Inf-Inf", 43 ≤ b.toNat := by decide +kernel
      intro hmem
      have := hletters c hmem
      omega
  · exact Lib.not_mem_formatFloat (by decide) (by decide) (by decide) x

lemma not_mem_formatInt {c : UInt8} (hc : c.toNat < 43 ∨ c = comma) (n : ℤ) :
    c ∉ formatInt n := by
  rcases hc with hc | rfl
  · refine Lib.not_mem_formatInt (.inl (by omega)) ?_ n
    rintro rfl
    exact absurd hc (by decide)
  · exact Lib.not_mem_formatInt (by decide) (by decide) n

lemma number_bytes {text : Bytes} (hne : text ≠ [])
    (hplain : ∀ c : UInt8, c.toNat < 43 ∨ c = comma → c ∉ text) :
    text.head? ≠ some quote ∧ (∀ c ∈ text, endsValue c = false) ∧ text ≠ [] ∧ newline ∉ text := by
  have hquote : quote ∉ text := hplain quote (by decide)
  refine ⟨fun h => hquote (List.mem_of_mem_head? h), fun c hc => ?_, hne,
    hplain newline (by decide)⟩
  rw [Bool.eq_false_iff]
  intro hends
  have hcases : c = comma ∨ c = space := by simpa [endsValue] using hends
  rcases hcases with rfl | rfl
  · exact hplain comma (by decide) hc
  · exact hplain space (by decide) hc

lemma readValue_scalar {text : Bytes} (hquote : text.head? ≠ some quote)
    (hplain : ∀ c ∈ text, endsValue c = false) (hne : text ≠ []) {c : UInt8}
    (hc : endsValue c = true) (rest : Bytes) :
    readValue (text ++ c :: rest) = (readScalar text).map (fun value => (value, c :: rest)) := by
  have hexpect : expect quote (text ++ c :: rest) = none := by
    obtain ⟨d, more, rfl⟩ := List.exists_cons_of_ne_nil hne
    exact expect_of_ne (fun h => hquote (congrArg some h)) _
  have hall : ∀ d ∈ text, (!endsValue d) = true := fun d hd => by simp [hplain d hd]
  have htake : (text ++ c :: rest).takeWhile (fun c => !endsValue c) = text := by
    rw [List.takeWhile_append_of_pos hall]
    simp [hc]
  have hdrop : (text ++ c :: rest).dropWhile (fun c => !endsValue c) = c :: rest := by
    rw [List.dropWhile_append_of_pos hall]
    simp [hc]
  rw [readValue, hexpect]
  simp only [htake, hdrop]
  cases readScalar text <;> rfl

lemma readScalar_formatFloat {f : Lib.BinaryFormat} (x : Binary f) :
    ∃ t, readScalar (formatFloat x) = some (.float t) ∧ t.ReadsAs x := by
  obtain ⟨t, hread, hreads⟩ := Lib.readsAs_formatFloat x
  refine ⟨t, ?_, hreads⟩
  have hne {text : Bytes} (hnone : Lib.readFloat text = none) : formatFloat x ≠ text := by
    rintro rfl
    exact absurd hread (by simp [hnone])
  have hlast : (formatFloat x).getLast? ≠ some 105 := fun h =>
    Lib.not_mem_formatFloat (by decide) (by decide) (by decide) x (List.mem_of_mem_getLast? h)
  rw [readScalar, if_neg (hne (by decide)), if_neg (hne (by decide)), if_neg hlast, hread]
  rfl

lemma formatFloat_ne_nil {f : Lib.BinaryFormat} (x : Binary f) : formatFloat x ≠ [] := by
  intro h
  obtain ⟨t, hread, -⟩ := Lib.readsAs_formatFloat x
  have hnone : Lib.readFloat [] = none := rfl
  rw [h, hnone] at hread
  exact absurd hread (by simp)

lemma readScalar_formatInt (n : ℤ) : readScalar (formatInt n ++ utf8 "i") = some (.integer n) := by
  have hlast (text : Bytes) : (text ++ utf8 "i").getLast? = some 105 := by
    have hsuffix : utf8 "i" = [105] := rfl
    rw [hsuffix, List.getLast?_concat]
  have hne {text : Bytes} (h : text.getLast? ≠ some 105) : formatInt n ++ utf8 "i" ≠ text := by
    rintro rfl
    exact h (hlast _)
  have hdrop : (formatInt n ++ utf8 "i").dropLast = formatInt n := List.dropLast_concat
  rw [readScalar, if_neg (hne (by decide)), if_neg (hne (by decide)), if_pos (hlast _), hdrop,
    Lib.readInt_formatInt]
  rfl

lemma exists_readScalar {v : FieldValue} (hscalar : v.Scalar = true)
    (hstring : ∀ s, v ≠ .string s) : ∃ value, readScalar (writeFieldValue v) = some value ∧
      v.Recovered value ∧ writeFieldValue v ≠ [] ∧
        ∀ c : UInt8, c.toNat < 43 ∨ c = comma → c ∉ writeFieldValue v := by
  -- Both float types and all integer types are read alike.
  have hfloat {f : Lib.BinaryFormat} (x : Binary f) : ∃ t, readScalar (formatFloat x) =
      some (.float t) ∧ t.ReadsAs x ∧ formatFloat x ≠ [] ∧
        ∀ c : UInt8, c.toNat < 43 ∨ c = comma → c ∉ formatFloat x := by
    obtain ⟨t, hread, hreads⟩ := readScalar_formatFloat x
    exact ⟨t, hread, hreads, formatFloat_ne_nil x, fun c hc => not_mem_formatFloat hc x⟩
  have hint (n : ℤ) : readScalar (formatInt n ++ utf8 "i") = some (.integer n) ∧
      formatInt n ++ utf8 "i" ≠ [] ∧
        ∀ c : UInt8, c.toNat < 43 ∨ c = comma → c ∉ formatInt n ++ utf8 "i" := by
    refine ⟨readScalar_formatInt n, List.append_ne_nil_of_right_ne_nil _ (by decide),
      fun c hc hmem => ?_⟩
    rcases List.mem_append.mp hmem with hmem | hmem
    · exact not_mem_formatInt hc n hmem
    · obtain rfl : c = 105 := List.mem_singleton.mp hmem
      exact absurd hc (by decide)
  cases v with
  | float64 val =>
    obtain ⟨t, hread, hreads, htext⟩ := hfloat val
    exact ⟨.float t, hread, hreads, htext⟩
  | float32 val =>
    obtain ⟨t, hread, hreads, htext⟩ := hfloat val
    exact ⟨.float t, hread, hreads, htext⟩
  | int64 val => exact ⟨.integer val.toInt, (hint _).1, rfl, (hint _).2⟩
  | int32 val => exact ⟨.integer val.toInt, (hint _).1, rfl, (hint _).2⟩
  | int val => exact ⟨.integer val.toInt, (hint _).1, rfl, (hint _).2⟩
  | uint64 val =>
    have h := hint val.toNat
    rw [Lib.formatInt_natCast] at h
    exact ⟨.integer val.toNat, h.1, rfl, h.2⟩
  | uint32 val =>
    have h := hint val.toNat
    rw [Lib.formatInt_natCast] at h
    exact ⟨.integer val.toNat, h.1, rfl, h.2⟩
  | string val => exact absurd rfl (hstring val)
  | bool val =>
    refine ⟨.boolean val, ?_, rfl, ?_, fun c hc => ?_⟩
    · cases val <;> rfl
    · cases val <;> decide
    · have hletters : ∀ b ∈ utf8 "tf", ¬(b.toNat < 43 ∨ b = comma) := by decide +kernel
      intro hmem
      refine hletters c ?_ hc
      cases val with
      | true => exact List.mem_cons.mpr (.inl (List.mem_singleton.mp hmem))
      | false => exact List.mem_cons_of_mem _ hmem
  | time val => exact absurd hscalar Bool.false_ne_true
  | other text => exact absurd hscalar Bool.false_ne_true

lemma readValue_writeFieldValue {v : FieldValue} (hscalar : v.Scalar = true) :
    ∃ value, v.Recovered value ∧ ∀ c, endsValue c = true → ∀ rest,
      readValue (writeFieldValue v ++ c :: rest) = some (value, c :: rest) := by
  by_cases hstring : ∃ s, v = .string s
  · obtain ⟨s, rfl⟩ := hstring
    refine ⟨.string s, rfl, fun c _ rest => ?_⟩
    have htext : writeFieldValue (.string s) ++ c :: rest =
        quote :: (escapeILPString s ++ quote :: c :: rest) := by
      simp [writeFieldValue]
    rw [htext, readValue, expect_self]
    simp only [readToken_escapeILPString, expect_self]
    rfl
  · obtain ⟨value, hread, hrecovered, hne, hplain⟩ :=
      exists_readScalar hscalar (fun s hs => hstring ⟨s, hs⟩)
    obtain ⟨hquote, hends, hne, -⟩ := number_bytes hne hplain
    refine ⟨value, hrecovered, fun c hc rest => ?_⟩
    rw [readValue_scalar hquote hends hne hc, hread, Option.map_some]

/-! ## Tags and fields -/

lemma perm_lookup {V : Type} (t : Lib.Table (Bytes × V) Bytes Prod.fst) (default : V)
    {rows : List (Bytes × V)} (hrows : ∀ row ∈ rows, row ∈ t) :
    ((sortStrings (rows.map Prod.fst)).map
      (fun k => (k, ((t.find? k).map Prod.snd).getD default))).Perm rows := by
  have hlookup : (rows.map Prod.fst).map (fun k => (k, ((t.find? k).map Prod.snd).getD default)) =
      rows := by
    rw [List.map_map]
    refine (List.map_congr_left fun row hrow => ?_).trans (List.map_id rows)
    have hfind : t.find? row.1 = some row := Lib.Table.find?_eq_some.mpr ⟨hrows row hrow, rfl⟩
    rw [Function.comp_apply, hfind]
    rfl
  have hsort : (sortStrings (rows.map Prod.fst)).Perm (rows.map Prod.fst) :=
    List.perm_insertionSort _ _
  exact (hsort.map _).trans (List.Perm.of_eq hlookup)

/-- The tags that are written, in their order. -/
def sortedTags (tags : Tags) : List (Bytes × Bytes) :=
  (sortStrings ((tags.rows.filter (fun tag => tag.2 ≠ [])).map Prod.fst)).map
    (fun k => (k, ((tags.find? k).map Prod.snd).getD []))

/-- The fields, in the order in which they are written. -/
def sortedFields (fields : Fields) : List (Bytes × FieldValue) :=
  (sortStrings (fields.rows.map Prod.fst)).map
    (fun k => (k, ((fields.find? k).map Prod.snd).getD (.other (utf8 "<nil>"))))

lemma sortedTags_perm (tags : Tags) :
    (sortedTags tags).Perm (tags.rows.filter (fun tag => tag.2 ≠ [])) :=
  perm_lookup tags [] fun _ hrow => List.mem_of_mem_filter hrow

lemma sortedFields_perm (fields : Fields) : (sortedFields fields).Perm fields.rows :=
  perm_lookup fields _ fun _ hrow => hrow

def writeTag (tag : Bytes × Bytes) : Bytes :=
  comma :: escapeILPToken tag.1 ++ equals :: escapeILPToken tag.2

def writeField (field : Bytes × FieldValue) : Bytes :=
  escapeILPToken field.1 ++ equals :: writeFieldValue field.2

lemma writeSortedTags_eq (tags : Tags) :
    writeSortedTags tags = (sortedTags tags).flatMap writeTag := by
  rw [sortedTags, List.flatMap_map]
  rfl

lemma writeSortedFields_eq (fields : Fields) :
    writeSortedFields fields = [comma].intercalate ((sortedFields fields).map writeField) := by
  rw [sortedFields, List.map_map]
  rfl

lemma readTags_tags {tags : List (Bytes × Bytes)} {fuel : ℕ} (hfuel : tags.length ≤ fuel)
    (rest : Bytes) : readTags fuel (tags.flatMap writeTag ++ space :: rest) =
      some (tags, space :: rest) := by
  induction tags generalizing fuel with
  | nil =>
    have hspace : expect comma (space :: rest) = none := expect_of_ne (by decide) rest
    rw [List.flatMap_nil, List.nil_append]
    cases fuel with
    | zero => exact if_pos hspace
    | succ fuel => rw [readTags, hspace]
  | cons tag tags ih =>
    obtain ⟨fuel, rfl⟩ := Nat.exists_eq_succ_of_ne_zero (show fuel ≠ 0 by
      rintro rfl
      exact absurd hfuel (by simp))
    have htail : tags.length ≤ fuel := by simpa using hfuel
    -- Behind the value stands the comma of the next tag or the space.
    obtain ⟨c, more, hmore, hc⟩ : ∃ c more, tags.flatMap writeTag ++ space :: rest = c :: more ∧
        endsValue c = true := by
      cases tags with
      | nil => exact ⟨space, rest, rfl, by decide⟩
      | cons tag' tags => exact ⟨comma, _, rfl, by decide⟩
    have htext : (tag :: tags).flatMap writeTag ++ space :: rest =
        comma :: (escapeILPToken tag.1 ++ equals :: (escapeILPToken tag.2 ++ c :: more)) := by
      rw [List.flatMap_cons, List.append_assoc, hmore]
      simp [writeTag]
    have hkey := readToken_escapeILPToken endsKey_special tag.1 (c := equals) (by decide)
      (escapeILPToken tag.2 ++ c :: more)
    have hvalue := readToken_escapeILPToken endsValue_special tag.2 hc more
    have hrest := ih htail
    rw [hmore] at hrest
    rw [htext, readTags, expect_self]
    simp only [hkey, expect_self, Option.bind_eq_bind, Option.bind_some, hvalue, hrest]
    rfl

/-- What is read of a field. -/
def ReadField (field : Bytes × FieldValue) (read : Bytes × ILPValue) : Prop :=
  read.1 = field.1 ∧ field.2.Recovered read.2

lemma readFields_fields {fields : List (Bytes × FieldValue)} (hne : fields ≠ [])
    (hscalar : ∀ field ∈ fields, field.2.Scalar = true) {fuel : ℕ} (hfuel : fields.length ≤ fuel)
    (rest : Bytes) : ∃ read, List.Forall₂ ReadField fields read ∧
      readFields fuel ([comma].intercalate (fields.map writeField) ++ space :: rest) =
        some (read, space :: rest) := by
  induction fields generalizing fuel with
  | nil => exact absurd rfl hne
  | cons field fields ih =>
    obtain ⟨fuel, rfl⟩ := Nat.exists_eq_succ_of_ne_zero (show fuel ≠ 0 by
      rintro rfl
      exact absurd hfuel (by simp))
    have htail : fields.length ≤ fuel := by simpa using hfuel
    obtain ⟨value, hrecovered, hvalue⟩ :=
      readValue_writeFieldValue (hscalar field List.mem_cons_self)
    have hkey (text : Bytes) : readToken backslash endsKey
        (escapeILPToken field.1 ++ equals :: text) = (field.1, equals :: text) :=
      readToken_escapeILPToken endsKey_special field.1 (by decide) text
    cases fields with
    | nil =>
      refine ⟨[(field.1, value)], .cons ⟨rfl, hrecovered⟩ .nil, ?_⟩
      have htext : [comma].intercalate ([field].map writeField) ++ space :: rest =
          escapeILPToken field.1 ++ equals :: (writeFieldValue field.2 ++ space :: rest) := by
        simp [writeField, List.intercalate]
      have hspace : expect comma (space :: rest) = none := expect_of_ne (by decide) rest
      rw [htext, readFields, hkey]
      simp only [expect_self, Option.bind_eq_bind, Option.bind_some, hvalue space (by decide), hspace]
      rfl
    | cons field' fields =>
      obtain ⟨read, hread, hrest⟩ := ih (List.cons_ne_nil _ _)
        (fun f hf => hscalar f (List.mem_cons_of_mem _ hf)) htail
      refine ⟨(field.1, value) :: read, .cons ⟨rfl, hrecovered⟩ hread, ?_⟩
      have htext : [comma].intercalate ((field :: field' :: fields).map writeField) ++
          space :: rest = escapeILPToken field.1 ++ equals :: (writeFieldValue field.2 ++
            comma :: ([comma].intercalate ((field' :: fields).map writeField) ++
              space :: rest)) := by
        rw [List.map_cons, List.map_cons, List.intercalate_cons_cons]
        simp [writeField]
      rw [htext, readFields, hkey]
      simp only [expect_self, Option.bind_eq_bind, Option.bind_some, hvalue comma (by decide), hrest]
      rfl

/-! ## Lines -/

lemma length_le_length_flatMap {α : Type} (l : List α) {f : α → Bytes} (hf : ∀ a ∈ l, f a ≠ []) :
    l.length ≤ (l.flatMap f).length := by
  induction l with
  | nil => exact Nat.le_refl 0
  | cons a l ih =>
    have hpos := List.length_pos_iff.mpr (hf a List.mem_cons_self)
    have hle := ih fun b hb => hf b (List.mem_cons_of_mem _ hb)
    rw [List.flatMap_cons, List.length_append, List.length_cons]
    omega

lemma length_le_length_intercalate (sep : UInt8) (l : List Bytes) :
    l.length ≤ ([sep].intercalate l).length + 1 := by
  induction l with
  | nil => exact Nat.zero_le _
  | cons a l ih =>
    cases l with
    | nil => simp
    | cons b l =>
      rw [List.intercalate_cons_cons]
      simp only [List.length_cons, List.length_append, List.length_nil] at ih ⊢
      omega

/-- The line without its newline. -/
def lineBody (table : Bytes) (tags : Tags) (fields : Fields) (ts : Int64) : Bytes :=
  escapeILPToken table ++ ((sortedTags tags).flatMap writeTag ++
    space :: ([comma].intercalate ((sortedFields fields).map writeField) ++
      space :: formatInt ts.toInt))

lemma formatILPLine_eq (table : Bytes) (tags : Tags) (fields : Fields) (ts : Int64) :
    formatILPLine table tags fields ts = lineBody table tags fields ts ++ [newline] := by
  have htags : (if tags.rows.length > 0 then writeSortedTags tags else []) =
      (sortedTags tags).flatMap writeTag := by
    split
    case isTrue => exact writeSortedTags_eq tags
    case isFalse h =>
      have hnil : sortedTags tags = [] := by
        have hperm := sortedTags_perm tags
        rw [List.eq_nil_of_length_eq_zero (Nat.eq_zero_of_not_pos h)] at hperm
        exact List.perm_nil.mp hperm
      rw [hnil]
      rfl
  rw [formatILPLine, htags, writeSortedFields_eq, lineBody]
  simp

lemma head?_writeField (field : Bytes × FieldValue) (rest : Bytes) :
    (writeField field ++ rest).head? ≠ some space := by
  rw [writeField, escapeILPToken_eq]
  cases hname : field.1 with
  | nil =>
    show some equals ≠ some space
    decide
  | cons c name =>
    unfold escape
    split
    case isTrue =>
      show some backslash ≠ some space
      decide
    case isFalse hspecial =>
      intro h
      obtain rfl : c = space := Option.some.inj h
      exact hspecial (by decide)

/-- A row whose values are strings and numbers is read back. -/
theorem readLine_lineBody (table : Bytes) (tags : Tags) {fields : Fields}
    (hscalar : ∀ field ∈ fields, field.2.Scalar = true) (ts : Int64) :
    ∃ read, List.Forall₂ ReadField (sortedFields fields) read ∧
      readLine (lineBody table tags fields ts) =
        some { table, tags := sortedTags tags, fields := read, timestamp := ts.toInt } := by
  set line := lineBody table tags fields ts with hline
  set time := formatInt ts.toInt with htime
  set written := [comma].intercalate ((sortedFields fields).map writeField) with hwritten
  -- The fuel is enough: every tag and every field takes a byte of the line.
  have hlength : line.length = (escapeILPToken table).length +
      (((sortedTags tags).flatMap writeTag).length + (1 + (written.length + (1 + time.length)))) := by
    rw [hline, lineBody, ← hwritten, ← htime]
    simp only [List.length_append, List.length_cons]
    omega
  have htagsFuel : (sortedTags tags).length ≤ line.length := by
    have hle := length_le_length_flatMap (sortedTags tags) (f := writeTag) fun _ _ => by
      simp [writeTag]
    omega
  have hfieldsFuel : (sortedFields fields).length ≤ line.length := by
    have hle := length_le_length_intercalate comma ((sortedFields fields).map writeField)
    rw [List.length_map, ← hwritten] at hle
    omega
  have hread : ∃ read, List.Forall₂ ReadField (sortedFields fields) read ∧
      readFieldSet line.length (written ++ space :: time) = some (read, space :: time) := by
    by_cases hnil : sortedFields fields = []
    · have hempty : written = [] := by rw [hwritten, hnil]; rfl
      refine ⟨[], hnil ▸ .nil, ?_⟩
      rw [hempty, List.nil_append]
      exact if_pos rfl
    · have hhead : (written ++ space :: time).head? ≠ some space := by
        obtain ⟨field, more, hcons⟩ := List.exists_cons_of_ne_nil hnil
        rw [hwritten, hcons]
        cases more with
        | nil =>
          have h := head?_writeField field (space :: time)
          simpa [List.intercalate] using h
        | cons field' more =>
          rw [List.map_cons, List.map_cons, List.intercalate_cons_cons, List.append_assoc,
            List.append_assoc]
          exact head?_writeField field _
      have hsorted : ∀ field ∈ sortedFields fields, field.2.Scalar = true := fun field hfield =>
        hscalar field ((sortedFields_perm fields).mem_iff.mp hfield)
      obtain ⟨read, hall, hfields⟩ := readFields_fields hnil hsorted hfieldsFuel time
      exact ⟨read, hall, (if_neg hhead).trans hfields⟩
  obtain ⟨read, hall, hfields⟩ := hread
  refine ⟨read, hall, ?_⟩
  -- Behind the table stands the comma of the first tag or the space.
  obtain ⟨c, more, hmore, hc⟩ : ∃ c more, (sortedTags tags).flatMap writeTag ++
      space :: (written ++ space :: time) = c :: more ∧ endsValue c = true := by
    cases sortedTags tags with
    | nil => exact ⟨space, _, rfl, by decide⟩
    | cons tag tags => exact ⟨comma, _, rfl, by decide⟩
  have htable := readToken_escapeILPToken endsValue_special table hc more
  have htags := readTags_tags htagsFuel (written ++ space :: time)
  rw [hmore] at htags
  have htext : line = escapeILPToken table ++ c :: more := by rw [hline, lineBody, ← hmore]
  rw [← htext] at htable
  unfold readLine
  simp only [htable, htags, expect_self, Option.bind_eq_bind, Option.bind_some, hfields]
  rw [htime, Lib.readInt_formatInt]
  rfl

/-! ## Newlines -/

lemma newline_mem_escapeILPToken {s : Bytes} : newline ∈ escapeILPToken s ↔ newline ∈ s := by
  rw [escapeILPToken_eq]
  exact Lib.mem_escape (by decide)

lemma newline_mem_writeFieldValue {v : FieldValue} (hscalar : v.Scalar = true) :
    newline ∈ writeFieldValue v ↔ ∃ s, v = .string s ∧ newline ∈ s := by
  by_cases hstring : ∃ s, v = .string s
  · obtain ⟨s, rfl⟩ := hstring
    have hquote : newline ≠ quote := by decide
    have hescape : newline ∈ escape backslash isStringSpecial s ↔ newline ∈ s :=
      Lib.mem_escape (by decide)
    simp [writeFieldValue, escapeILPString_eq, hescape, hquote]
  · obtain ⟨value, -, -, hne, hplain⟩ :=
      exists_readScalar hscalar (fun s hs => hstring ⟨s, hs⟩)
    have hnumber := (number_bytes hne hplain).2.2.2
    refine iff_of_false hnumber ?_
    rintro ⟨s, hs, -⟩
    exact hstring ⟨s, hs⟩

lemma mem_intercalate {sep c : UInt8} (hc : c ≠ sep) {l : List Bytes} :
    c ∈ [sep].intercalate l ↔ ∃ word ∈ l, c ∈ word := by
  induction l with
  | nil => simp [List.intercalate]
  | cons word l ih =>
    cases l with
    | nil => simp [List.intercalate]
    | cons word' l =>
      rw [List.intercalate_cons_cons, List.mem_append, List.mem_append, ih]
      simp [hc]

lemma newline_mem_iff (table : Bytes) (tags : Tags) {fields : Fields}
    (hscalar : ∀ field ∈ fields, field.2.Scalar = true) (ts : Int64) :
    newline ∉ lineBody table tags fields ts ↔ NoNewline table tags fields := by
  have hequals : newline ≠ equals := by decide
  have hcomma : newline ≠ comma := by decide
  have hspace : newline ≠ space := by decide
  have htime : newline ∉ formatInt ts.toInt := not_mem_formatInt (by decide) _
  have htag (tag : Bytes × Bytes) :
      newline ∈ writeTag tag ↔ newline ∈ tag.1 ∨ newline ∈ tag.2 := by
    simp [writeTag, newline_mem_escapeILPToken, hequals, hcomma]
  have hfield {field : Bytes × FieldValue} (h : field ∈ fields) : newline ∈ writeField field ↔
      newline ∈ field.1 ∨ ∃ s, field.2 = .string s ∧ newline ∈ s := by
    simp [writeField, newline_mem_escapeILPToken, hequals,
      newline_mem_writeFieldValue (hscalar field h)]
  have htags : newline ∉ (sortedTags tags).flatMap writeTag ↔
      ∀ tag ∈ tags, tag.2 ≠ [] → newline ∉ tag.1 ∧ newline ∉ tag.2 := by
    simp only [List.mem_flatMap, (sortedTags_perm tags).mem_iff, htag, List.mem_filter,
      decide_eq_true_eq, not_exists, not_and, not_or, and_imp]
    rfl
  have hfields : newline ∉ [comma].intercalate ((sortedFields fields).map writeField) ↔
      ∀ field ∈ fields, newline ∉ field.1 ∧ ∀ s, field.2 = .string s → newline ∉ s := by
    rw [mem_intercalate hcomma]
    simp only [not_exists, not_and, List.forall_mem_map, (sortedFields_perm fields).mem_iff]
    refine forall₂_congr fun field hmem => ?_
    rw [hfield hmem]
    simp
  simp only [lineBody, List.mem_append, List.mem_cons, newline_mem_escapeILPToken, hspace, htime,
    false_or, or_false, not_or, htags, hfields, NoNewline]

/-! ## The round trip -/

lemma fields_read {fields : Fields} {read : List (Bytes × ILPValue)}
    (hall : List.Forall₂ ReadField (sortedFields fields) read) :
    (read.map Prod.fst).Perm (fields.rows.map Prod.fst) ∧
      ∀ field ∈ fields, ∃ value, (field.1, value) ∈ read ∧ field.2.Recovered value := by
  have hkeys : ∀ {l : List (Bytes × FieldValue)} {read : List (Bytes × ILPValue)},
      List.Forall₂ ReadField l read → read.map Prod.fst = l.map Prod.fst ∧
        ∀ field ∈ l, ∃ value, (field.1, value) ∈ read ∧ field.2.Recovered value := by
    intro l read hall
    induction hall with
    | nil => exact ⟨rfl, fun _ h => absurd h List.not_mem_nil⟩
    | @cons field pair l read hread _ ih =>
      obtain ⟨key, value⟩ := pair
      obtain ⟨rfl, hrecovered⟩ := hread
      refine ⟨by rw [List.map_cons, List.map_cons, ih.1], fun other hother => ?_⟩
      rcases List.mem_cons.mp hother with rfl | hother
      · exact ⟨value, List.mem_cons_self, hrecovered⟩
      · obtain ⟨value, hmem, hrecovered⟩ := ih.2 other hother
        exact ⟨value, List.mem_cons_of_mem _ hmem, hrecovered⟩
  obtain ⟨hfst, hvalues⟩ := hkeys hall
  refine ⟨?_, fun field hfield => hvalues field ((sortedFields_perm fields).mem_iff.mpr hfield)⟩
  rw [hfst]
  exact (sortedFields_perm fields).map _

lemma not_mem_of_roundTrip {table : Bytes} {tags : Tags} {fields : Fields} {ts : Int64}
    (h : RoundTrip table tags fields ts) : newline ∉ lineBody table tags fields ts := by
  obtain ⟨line, hline, hone, -⟩ := h
  rw [formatILPLine_eq] at hline
  rwa [List.append_cancel_right hline]

/-- For every row whose values are strings and numbers: the line is one line from which a reader
gets the row back exactly if no name, no tag and no string has a newline. -/
theorem roundTrip_iff (table : Bytes) (tags : Tags) (fields : Fields) (ts : Int64)
    (hscalar : ∀ field ∈ fields, field.2.Scalar = true) :
    RoundTrip table tags fields ts ↔ NoNewline table tags fields := by
  rw [← newline_mem_iff table tags hscalar ts]
  constructor
  · exact not_mem_of_roundTrip
  · intro hone
    obtain ⟨read, hall, hline⟩ := readLine_lineBody table tags hscalar ts
    obtain ⟨hkeys, hvalues⟩ := fields_read hall
    exact ⟨_, formatILPLine_eq table tags fields ts, hone, _, hline, rfl, sortedTags_perm tags,
      hkeys, hvalues, rfl⟩

/-- A row in which much has to be escaped. -/
theorem roundTrip_escaped : RoundTrip (utf8 "disk metrics")
    ⟨[(utf8 "mount,point", utf8 "C:\\"), (utf8 "device", [])], by decide⟩
    ⟨[(utf8 "free=", .int64 (-3)), (utf8 "note", .string (utf8 "a \"b\", c\\"))], by decide⟩
    1736937000000000000 := by
  refine (roundTrip_iff _ _ _ _ fun field hfield => ?_).mpr
    ⟨by decide, fun tag htag _ => ?_, fun field hfield => ?_⟩
  · rcases List.mem_pair.mp hfield with rfl | rfl <;> rfl
  · rcases List.mem_pair.mp htag with rfl | rfl <;> decide
  · rcases List.mem_pair.mp hfield with rfl | rfl
    · exact ⟨by decide, fun s hs => absurd hs (by simp)⟩
    · refine ⟨by decide, fun s hs => ?_⟩
      rw [← FieldValue.string.inj hs]
      decide

/-- A tag with a newline breaks its line in two. -/
theorem not_roundTrip_newline : ¬ ∀ (table : Bytes) (tags : Tags) (fields : Fields) (ts : Int64),
    (∀ field ∈ fields, field.2.Scalar = true) → RoundTrip table tags fields ts := by
  intro h
  let tags : Tags := ⟨[(utf8 "host", utf8 "web\ncpu_metrics")], by decide⟩
  let fields : Fields := ⟨[(utf8 "usage", .int64 1)], by decide⟩
  have hscalar : ∀ field ∈ fields, field.2.Scalar = true := by
    intro field hfield
    obtain rfl := List.mem_singleton.mp hfield
    rfl
  have hone := not_mem_of_roundTrip (h (utf8 "cpu_metrics") tags fields 0 hscalar)
  exact absurd (((newline_mem_iff _ _ hscalar 0).mp hone).2.1 _ List.mem_cons_self (by decide)).2
    (by decide)

end Paryty.Storage.ILPLine

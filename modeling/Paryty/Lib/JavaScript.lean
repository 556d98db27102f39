import Mathlib.Tactic.Lemma

/-!
# String literals of JavaScript

What a scanner makes of source text: every character outside a string literal is a token of its
own, every literal one token with its raw text and its value, a list of UTF-16 code units.
Comments and template literals are not told apart from other code, so the scanner speaks for
text up to the first of these.

* `decode`: the value of the text between the quotes, in strict mode.
* `IsBody`: no character of a text ends the literal it stands in.
* `scan_render_iff`: text that is put together from code and quoted slots is scanned as just that
  code and these literals if and only if every slot is a body.
-/

namespace Lib.JavaScript

/-! ## Values -/

/-- The code units of a code point. -/
def utf16 (point : Nat) : List Nat :=
  if point < 0x10000 then [point]
  else [0xD800 + (point - 0x10000) / 0x400, 0xDC00 + (point - 0x10000) % 0x400]

/-- The code units of a text. -/
def units (text : List Char) : List Nat := text.flatMap (fun c => utf16 c.toNat)

@[simp] lemma units_nil : units [] = [] := rfl

@[simp] lemma units_cons (c : Char) (text : List Char) :
    units (c :: text) = utf16 c.toNat ++ units text := rfl

@[simp] lemma units_append (text text' : List Char) :
    units (text ++ text') = units text ++ units text' := List.flatMap_append

/-- The value of a hexadecimal digit. -/
def hexDigit (c : Char) : Option Nat :=
  if '0' ≤ c ∧ c ≤ '9' then some (c.toNat - '0'.toNat)
  else if 'a' ≤ c ∧ c ≤ 'f' then some (c.toNat - 'a'.toNat + 10)
  else if 'A' ≤ c ∧ c ≤ 'F' then some (c.toNat - 'A'.toNat + 10)
  else none

/-- The digits of a code point up to the brace, and the text after it. -/
def braced (point : Nat) : List Char → Option (Nat × List Char)
  | [] => none
  | c :: rest =>
    if c = '\x7d' then some (point, rest)
    else
      match hexDigit c with
      | none => none
      | some digit => braced (16 * point + digit) rest

/-- The code units of an escape sequence, given the text after its `u`, and the text after it. -/
def unicode : List Char → Option (List Nat × List Char)
  | '\x7b' :: c :: rest =>
    match hexDigit c with
    | none => none
    | some digit =>
      match braced digit rest with
      | none => none
      | some (point, rest) => if point ≤ 0x10FFFF then some (utf16 point, rest) else none
  | a :: b :: c :: d :: rest =>
    match hexDigit a, hexDigit b, hexDigit c, hexDigit d with
    | some a, some b, some c, some d => some ([((a * 16 + b) * 16 + c) * 16 + d], rest)
    | _, _, _, _ => none
  | _ => none

/-- The code unit of an escape sequence of two hexadecimal digits, given the text after its `x`. -/
def hexadecimal : List Char → Option (List Nat × List Char)
  | a :: b :: rest =>
    match hexDigit a, hexDigit b with
    | some a, some b => some ([a * 16 + b], rest)
    | _, _ => none
  | _ => none

/-- The control characters that have a letter. -/
def controlEscape (c : Char) : Option Nat :=
  if c = 'b' then some 8
  else if c = 't' then some 9
  else if c = 'n' then some 10
  else if c = 'v' then some 11
  else if c = 'f' then some 12
  else if c = 'r' then some 13
  else none

/-- The code units of an escape sequence, given the text after its backslash, and the text after
it. A line terminator continues the line. -/
def escape : List Char → Option (List Nat × List Char)
  | [] => none
  | c :: rest =>
    match controlEscape c with
    | some unit => some ([unit], rest)
    | none =>
      if c = '\n' ∨ c = '\u2028' ∨ c = '\u2029' then some ([], rest)
      else if c = '\r' then some ([], if rest.head? = some '\n' then rest.tail else rest)
      else if c = '0' then if rest.head?.any Char.isDigit then none else some ([0], rest)
      else if c.isDigit then none
      else if c = 'x' then hexadecimal rest
      else if c = 'u' then unicode rest
      else some (utf16 c.toNat, rest)

/-! ## What an escape sequence reads -/

lemma length_utf16_pos (point : Nat) : 0 < (utf16 point).length := by
  unfold utf16
  split <;> simp

lemma length_utf16_le (point : Nat) : (utf16 point).length ≤ 2 := by
  unfold utf16
  split <;> simp

lemma length_le_units (text : List Char) : text.length ≤ (units text).length := by
  induction text with
  | nil => exact Nat.le_refl _
  | cons c text ih =>
    have hpos := length_utf16_pos c.toNat
    rw [units_cons, List.length_append, List.length_cons]
    omega

/-- The text is a piece without backslashes, and the rest. -/
def Reads (text piece rest : List Char) : Prop := text = piece ++ rest ∧ ∀ c ∈ piece, c ≠ '\\'

lemma reads_nil (rest : List Char) : Reads rest [] rest := ⟨rfl, by simp⟩

lemma Reads.cons {c : Char} {text piece rest : List Char} (hc : c ≠ '\\')
    (h : Reads text piece rest) : Reads (c :: text) (c :: piece) rest :=
  ⟨by rw [h.1, List.cons_append], List.forall_mem_cons.mpr ⟨hc, h.2⟩⟩

lemma ne_backslash_of_hexDigit {c : Char} {digit : Nat} (h : hexDigit c = some digit) :
    c ≠ '\\' := by
  rintro rfl
  exact absurd h (by simp [hexDigit])

lemma braced_reads {point point' : Nat} {text rest : List Char}
    (h : braced point text = some (point', rest)) : ∃ piece, Reads text piece rest := by
  induction text generalizing point with
  | nil => simp [braced] at h
  | cons c text ih =>
    simp only [braced] at h
    split at h
    case isTrue hbrace =>
      obtain ⟨-, rfl⟩ := Prod.mk.inj (Option.some.inj h)
      exact ⟨[c], (reads_nil _).cons (by rw [hbrace]; decide)⟩
    case isFalse =>
      split at h
      case h_1 => exact absurd h (by simp)
      case h_2 digit hdigit =>
        obtain ⟨piece, hpiece⟩ := ih h
        exact ⟨c :: piece, hpiece.cons (ne_backslash_of_hexDigit hdigit)⟩

lemma unicode_reads {text rest : List Char} {value : List Nat}
    (h : unicode text = some (value, rest)) :
    ∃ piece, Reads text piece rest ∧ value.length ≤ piece.length := by
  unfold unicode at h
  split at h
  case h_1 c text =>
    split at h
    case h_1 => exact absurd h (by simp)
    case h_2 digit hdigit =>
      split at h
      case h_1 => exact absurd h (by simp)
      case h_2 point rest' hbraced =>
        split at h
        case isFalse => exact absurd h (by simp)
        case isTrue =>
          obtain ⟨rfl, rfl⟩ := Prod.mk.inj (Option.some.inj h)
          obtain ⟨piece, hpiece⟩ := braced_reads hbraced
          have hc := ne_backslash_of_hexDigit hdigit
          refine ⟨'\x7b' :: c :: piece, (hpiece.cons hc).cons (by decide), ?_⟩
          have hle := length_utf16_le point
          simp only [List.length_cons]
          omega
  case h_2 a b c d text _ =>
    split at h
    case h_1 _ _ _ _ ha hb hc hd =>
      obtain ⟨rfl, rfl⟩ := Prod.mk.inj (Option.some.inj h)
      have hpiece := (((reads_nil text).cons (ne_backslash_of_hexDigit hd)).cons
        (ne_backslash_of_hexDigit hc)).cons (ne_backslash_of_hexDigit hb)
      exact ⟨[a, b, c, d], hpiece.cons (ne_backslash_of_hexDigit ha), by simp⟩
    case h_2 => exact absurd h (by simp)
  case h_3 => exact absurd h (by simp)

lemma hexadecimal_reads {text rest : List Char} {value : List Nat}
    (h : hexadecimal text = some (value, rest)) :
    ∃ piece, Reads text piece rest ∧ value.length ≤ piece.length := by
  unfold hexadecimal at h
  split at h
  case h_1 a b text =>
    split at h
    case h_1 _ _ ha hb =>
      obtain ⟨rfl, rfl⟩ := Prod.mk.inj (Option.some.inj h)
      have hpiece := (reads_nil text).cons (ne_backslash_of_hexDigit hb)
      exact ⟨[a, b], hpiece.cons (ne_backslash_of_hexDigit ha), by simp⟩
    case h_2 => exact absurd h (by simp)
  case h_2 => exact absurd h (by simp)

/-- An escape sequence is a character and a piece without backslashes, and no longer as a value. -/
lemma escape_reads {c : Char} {text rest : List Char} {value : List Nat}
    (h : escape (c :: text) = some (value, rest)) :
    ∃ piece, Reads text piece rest ∧ value.length ≤ (units (c :: piece)).length := by
  have hsingle {value : List Nat} (hle : value.length ≤ 1) :
      value.length ≤ (units [c]).length := Nat.le_trans hle (length_le_units [c])
  have hmore {piece : List Char} {value : List Nat} (hle : value.length ≤ piece.length) :
      value.length ≤ (units (c :: piece)).length := by
    have hunits := length_le_units (c :: piece)
    rw [List.length_cons] at hunits
    omega
  simp only [escape] at h
  split at h
  case h_1 unit _ =>
    -- One of the letters that stand for a control character.
    obtain ⟨rfl, rfl⟩ := Prod.mk.inj (Option.some.inj h)
    exact ⟨[], reads_nil _, hsingle (by simp)⟩
  case h_2 =>
  split at h
  case isTrue =>
    -- A line terminator, which has no value.
    obtain ⟨rfl, rfl⟩ := Prod.mk.inj (Option.some.inj h)
    exact ⟨[], reads_nil _, hsingle (by simp)⟩
  case isFalse =>
  split at h
  case isTrue =>
    -- A carriage return takes the line feed after it with it.
    obtain ⟨rfl, rfl⟩ := Prod.mk.inj (Option.some.inj h)
    cases text with
    | nil => exact ⟨[], reads_nil _, hsingle (by simp)⟩
    | cons c' text =>
      by_cases hc' : c' = '\n'
      · refine ⟨[c'], ?_, hmore (by simp)⟩
        simpa [hc'] using (reads_nil text).cons (c := '\n') (by decide)
      · refine ⟨[], ?_, hsingle (by simp)⟩
        simpa [hc'] using reads_nil (c' :: text)
  case isFalse =>
  split at h
  case isTrue =>
    split at h
    case isTrue => exact absurd h (by simp)
    case isFalse =>
      obtain ⟨rfl, rfl⟩ := Prod.mk.inj (Option.some.inj h)
      exact ⟨[], reads_nil _, hsingle (by simp)⟩
  case isFalse =>
  split at h
  case isTrue => exact absurd h (by simp)
  case isFalse =>
  split at h
  case isTrue =>
    -- The digits belong to the piece, and there are at least as many as units of the value.
    obtain ⟨piece, hpiece, hle⟩ := hexadecimal_reads h
    exact ⟨piece, hpiece, hmore hle⟩
  case isFalse =>
  split at h
  case isTrue =>
    obtain ⟨piece, hpiece, hle⟩ := unicode_reads h
    exact ⟨piece, hpiece, hmore hle⟩
  case isFalse =>
    obtain ⟨rfl, rfl⟩ := Prod.mk.inj (Option.some.inj h)
    -- Any other character stands for itself.
    exact ⟨[], reads_nil _, by simp⟩

lemma length_escape {text rest : List Char} {value : List Nat}
    (h : escape text = some (value, rest)) : rest.length < text.length := by
  cases text with
  | nil => exact absurd h (by simp [escape])
  | cons c text =>
    obtain ⟨piece, ⟨rfl, -⟩, -⟩ := escape_reads h
    simp only [List.length_cons, List.length_append]
    omega

/-! ## The value of a body -/

/-- The value of the text between the quotes. -/
def decode : List Char → Option (List Nat)
  | [] => some []
  | c :: text =>
    if c = '\\' then
      match _h : escape text with
      | none => none
      | some (value, rest) => (decode rest).map (value ++ ·)
    else (decode text).map (utf16 c.toNat ++ ·)
termination_by text => text.length
decreasing_by
  · have hlt := length_escape _h
    simp only [List.length_cons]
    omega
  · exact Nat.lt_succ_self _

@[simp] lemma decode_nil : decode [] = some [] := by simp [decode]

lemma decode_cons {c : Char} (hc : c ≠ '\\') (text : List Char) :
    decode (c :: text) = (decode text).map (utf16 c.toNat ++ ·) := by
  rw [decode, if_neg hc]

lemma decode_backslash {text : List Char} :
    decode ('\\' :: text) = (escape text).bind fun result =>
      (decode result.2).map (result.1 ++ ·) := by
  rw [decode, if_pos rfl]
  split
  case h_1 h => rw [h, Option.bind_none]
  case h_2 value rest h => rw [h, Option.bind_some]

lemma decode_of_forall {text : List Char} (h : ∀ c ∈ text, c ≠ '\\') :
    decode text = some (units text) := by
  induction text with
  | nil => exact decode_nil
  | cons c text ih =>
    rw [decode_cons (h c List.mem_cons_self), ih fun c' hc' => h c' (List.mem_cons_of_mem _ hc'),
      Option.map_some, units_cons]

/-! ## The scanner -/

/-- A character of code, or a literal. -/
inductive Token
  | code (c : Char)
  | literal (raw : List Char) (value : List Nat)
deriving DecidableEq

/-- Where the scanner stands: in code, or in a literal with its quote and the text read so far,
last character first, possibly right behind a backslash. -/
inductive Mode
  | code
  | literal (quote : Char) (read : List Char) (escaped : Bool)

/-- The scanner. -/
def scan : Mode → List Char → Option (List Token)
  | .code, [] => some []
  | .code, c :: text =>
    if c = '\'' ∨ c = '"' then scan (.literal c [] false) text
    else (scan .code text).map (.code c :: ·)
  | .literal _ _ _, [] => none
  | .literal quote read true, c :: text => scan (.literal quote (c :: read) false) text
  | .literal quote read false, c :: text =>
    if c = quote then
      (decode read.reverse).bind fun value =>
        (scan .code text).map (.literal read.reverse value :: ·)
    else if c = '\n' ∨ c = '\r' then none
    else scan (.literal quote (c :: read) (c = '\\')) text

/-- No character of the text ends a literal in single quotes. -/
def IsBody : List Char → Bool
  | [] => true
  | ['\\'] => false
  | '\\' :: _ :: text => IsBody text
  | c :: text => c ≠ '\'' && c ≠ '\n' && c ≠ '\r' && IsBody text

lemma scan_code {text : List Char} (h : ∀ c ∈ text, c ≠ '\'' ∧ c ≠ '"') (rest : List Char) :
    scan .code (text ++ rest) = (scan .code rest).map (text.map .code ++ ·) := by
  induction text with
  | nil => simp
  | cons c text ih =>
    have hc := h c List.mem_cons_self
    rw [List.cons_append, scan, if_neg (by simp [hc.1, hc.2]),
      ih fun c' hc' => h c' (List.mem_cons_of_mem _ hc'), Option.map_map]
    rfl

lemma read_of_scan {quote : Char} {read text raw : List Char} {escaped : Bool} {value : List Nat}
    {tokens : List Token}
    (h : scan (.literal quote read escaped) text = some (.literal raw value :: tokens)) :
    ∃ more, raw = read.reverse ++ more := by
  induction text generalizing read escaped with
  | nil => simp [scan] at h
  | cons c text ih =>
    cases escaped with
    | true =>
      obtain ⟨more, hraw⟩ := ih h
      exact ⟨c :: more, by rw [hraw, List.reverse_cons, List.append_assoc]; rfl⟩
    | false =>
      rw [scan] at h
      split at h
      case isTrue =>
        obtain ⟨v, -, hv⟩ := Option.bind_eq_some_iff.mp h
        obtain ⟨rest, -, hrest⟩ := Option.map_eq_some_iff.mp hv
        have hraw := (Token.literal.inj (List.cons.inj hrest).1).1
        exact ⟨[], by rw [← hraw, List.append_nil]⟩
      case isFalse =>
        split at h
        case isTrue => exact absurd h (by simp)
        case isFalse =>
          obtain ⟨more, hraw⟩ := ih h
          exact ⟨c :: more, by rw [hraw, List.reverse_cons, List.append_assoc]; rfl⟩

lemma scan_literal_iff {read text rest : List Char} {value : List Nat} {tokens : List Token} :
    scan (.literal '\'' read false) (text ++ '\'' :: rest) =
        some (.literal (read.reverse ++ text) value :: tokens) ↔
      IsBody text = true ∧ decode (read.reverse ++ text) = some value ∧
        scan .code rest = some tokens := by
  induction text using IsBody.induct generalizing read with
  | case1 =>
    rw [List.nil_append, List.append_nil, scan, if_pos rfl]
    constructor
    · intro h
      obtain ⟨v, hvalue, hv⟩ := Option.bind_eq_some_iff.mp h
      obtain ⟨rest', htokens, hrest⟩ := Option.map_eq_some_iff.mp hv
      obtain ⟨hliteral, rfl⟩ := List.cons.inj hrest
      obtain ⟨-, rfl⟩ := Token.literal.inj hliteral
      exact ⟨rfl, hvalue, htokens⟩
    · rintro ⟨-, hvalue, htokens⟩
      rw [hvalue, htokens]
      rfl
  | case2 =>
    -- The backslash hides the quote, and the literal goes on.
    refine iff_of_false (fun h => ?_) (by simp [IsBody])
    have hscan : scan (.literal '\'' read false) (['\\'] ++ '\'' :: rest) =
        scan (.literal '\'' ('\'' :: '\\' :: read) false) rest := by
      simp [scan]
    rw [hscan] at h
    obtain ⟨more, hraw⟩ := read_of_scan h
    simp at hraw
  | case3 c text ih =>
    have hscan : scan (.literal '\'' read false) ('\\' :: c :: text ++ '\'' :: rest) =
        scan (.literal '\'' (c :: '\\' :: read) false) (text ++ '\'' :: rest) := by
      simp [scan]
    have hread : read.reverse ++ '\\' :: c :: text = (c :: '\\' :: read).reverse ++ text := by simp
    rw [hscan, hread, ih, IsBody]
  | case4 c text hlast hnext ih =>
    have hc : c ≠ '\\' := by
      rintro rfl
      cases text with
      | nil => exact hlast rfl rfl
      | cons c' text => exact hnext c' text rfl rfl
    have hbody : IsBody (c :: text) = (c ≠ '\'' && c ≠ '\n' && c ≠ '\r' && IsBody text) := by
      rw [IsBody]
      · exact hlast
      · exact hnext
    rw [List.cons_append, scan]
    by_cases hquote : c = '\''
    · refine iff_of_false (fun h => ?_) (by rw [hbody]; simp [hquote])
      rw [if_pos hquote] at h
      obtain ⟨v, -, hv⟩ := Option.bind_eq_some_iff.mp h
      obtain ⟨rest', -, hrest⟩ := Option.map_eq_some_iff.mp hv
      have hraw := (Token.literal.inj (List.cons.inj hrest).1).1
      simp at hraw
    rw [if_neg hquote]
    by_cases hline : c = '\n' ∨ c = '\r'
    · refine iff_of_false (by simp [hline]) ?_
      rcases hline with rfl | rfl <;> simp [hbody]
    · rw [if_neg hline, decide_eq_false hc]
      have hread : read.reverse ++ c :: text = (c :: read).reverse ++ text := by simp
      rw [not_or] at hline
      rw [hread, ih, hbody]
      simp [hquote, hline]

/-! ## Texts with slots -/

/-- A piece of a program text: code, or a single-quoted literal with what its value should be. -/
inductive Slot
  | code (text : List Char)
  | quoted (raw : List Char) (P : List Nat → Prop)

/-- The text of the pieces. -/
def render : List Slot → List Char
  | [] => []
  | .code text :: slots => text ++ render slots
  | .quoted raw _ :: slots => '\'' :: (raw ++ '\'' :: render slots)

@[simp] lemma render_append (slots slots' : List Slot) :
    render (slots ++ slots') = render slots ++ render slots' := by
  induction slots with
  | nil => rfl
  | cons slot slots ih => cases slot <;> simp [render, ih]

/-- The tokens are the code of the pieces and their literals. -/
def Fits : List Slot → List Token → Prop
  | [], tokens => tokens = []
  | .code text :: slots, tokens => ∃ rest, tokens = text.map .code ++ rest ∧ Fits slots rest
  | .quoted raw P :: slots, tokens =>
    ∃ value rest, tokens = .literal raw value :: rest ∧ P value ∧ Fits slots rest

/-- Code without quotes, and a body of the right value. -/
def Slot.Ok : Slot → Prop
  | .code text => ∀ c ∈ text, c ≠ '\'' ∧ c ≠ '"'
  | .quoted raw P => IsBody raw = true ∧ ∃ value, decode raw = some value ∧ P value

/-- A text that is put together from code and quoted slots is scanned as that code and these
literals if and only if every slot is a body of the right value. -/
theorem scan_render_iff {slots : List Slot}
    (hcode : ∀ text, .code text ∈ slots → (Slot.code text).Ok) :
    (∃ tokens, scan .code (render slots) = some tokens ∧ Fits slots tokens) ↔
      ∀ slot ∈ slots, slot.Ok := by
  induction slots with
  | nil => simp [render, scan, Fits]
  | cons slot slots ih =>
    have ih := ih fun text htext => hcode text (List.mem_cons_of_mem _ htext)
    rw [List.forall_mem_cons, ← ih]
    cases slot with
    | code text =>
      have htext : (Slot.code text).Ok := hcode text List.mem_cons_self
      rw [render, scan_code htext]
      constructor
      · rintro ⟨tokens, hscan, rest, rfl, hfits⟩
        obtain ⟨tokens, htokens, heq⟩ := Option.map_eq_some_iff.mp hscan
        obtain rfl := List.append_cancel_left heq
        exact ⟨htext, tokens, htokens, hfits⟩
      · rintro ⟨-, tokens, htokens, hfits⟩
        exact ⟨_, by rw [htokens, Option.map_some], tokens, rfl, hfits⟩
    | quoted raw P =>
      have hscan (value : List Nat) (tokens : List Token) :
          scan .code (render (.quoted raw P :: slots)) = some (.literal raw value :: tokens) ↔
            IsBody raw = true ∧ decode raw = some value ∧
              scan .code (render slots) = some tokens := by
        rw [render, scan, if_pos (.inl rfl)]
        exact @scan_literal_iff [] raw (render slots) value tokens
      constructor
      · rintro ⟨tokens, htokens, value, rest, rfl, hvalue, hfits⟩
        obtain ⟨hbody, hdecode, hrest⟩ := (hscan value rest).mp htokens
        exact ⟨⟨hbody, value, hdecode, hvalue⟩, rest, hrest, hfits⟩
      · rintro ⟨⟨hbody, value, hdecode, hvalue⟩, rest, hrest, hfits⟩
        exact ⟨_, (hscan value rest).mpr ⟨hbody, hdecode, hrest⟩, value, rest, rfl, hvalue, hfits⟩

end Lib.JavaScript

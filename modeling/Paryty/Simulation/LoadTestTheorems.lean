import Paryty.Lib.Text
import Paryty.Simulation.LoadTest

/-!
# Load-test scripts: theorems

The escaped URL is read token by token: a pair of backslashes and a quote behind a backslash come
out as they went in, a quote by itself longer, any other escape sequence shorter. A URL with a
token of the last two kinds never comes out as it went in (`decode_replace_iff`).

`script_faithful_iff`: a generated script is faithful exactly if its configuration is clean.
-/

namespace Paryty.Simulation

open Lib.Float64 (nearest nearest_intCast truncate truncate_intCast)
open Lib.JavaScript (decode decode_nil decode_cons decode_backslash decode_of_forall render
  render_append scan_render_iff escape escape_reads IsBody Reads Slot
  units units_nil utf16)

/-! ## The replacer -/

/-- The characters that are replaced by themselves behind two backslashes, or by a letter. -/
def letter (c : Char) : Option Char :=
  if c = '\'' then some '\''
  else if c = '"' then some '"'
  else if c = '\n' then some 'n'
  else if c = '\r' then some 'r'
  else none

lemma escape_letter {c l : Char} (h : letter c = some l) (text : List Char) :
    escape (l :: text) = some ([c.toNat], text) ∧ l ≠ '\\' ∧ utf16 l.toNat = [l.toNat] ∧
      utf16 c.toNat = [c.toNat] ∧ c ≠ '\\' := by
  unfold letter at h
  split at h
  case isTrue hc =>
    obtain rfl := Option.some.inj h
    subst hc
    exact ⟨rfl, by decide⟩
  split at h
  case isTrue hc =>
    obtain rfl := Option.some.inj h
    subst hc
    exact ⟨rfl, by decide⟩
  split at h
  case isTrue hc =>
    obtain rfl := Option.some.inj h
    subst hc
    exact ⟨rfl, by decide⟩
  split at h
  case isTrue hc =>
    obtain rfl := Option.some.inj h
    subst hc
    exact ⟨rfl, by decide⟩
  exact absurd h (by simp)

lemma decode_pair (text : List Char) :
    decode ('\\' :: '\\' :: text) = (decode text).map ([92] ++ ·) := by
  rw [decode_backslash]
  rfl

lemma replace_letter {c l : Char} (h : letter c = some l) (url : List Char) :
    replace (c :: url) = '\\' :: '\\' :: l :: replace url := by
  unfold letter at h
  split at h
  case isTrue hc => obtain rfl := Option.some.inj h; rw [hc, replace]
  split at h
  case isTrue hc => obtain rfl := Option.some.inj h; rw [hc, replace]
  split at h
  case isTrue hc => obtain rfl := Option.some.inj h; rw [hc, replace]
  split at h
  case isTrue hc => obtain rfl := Option.some.inj h; rw [hc, replace]
  exact absurd h (by simp)

lemma not_letter {c : Char} (h : letter c = none) : c ≠ '\'' ∧ c ≠ '"' ∧ c ≠ '\n' ∧ c ≠ '\r' := by
  refine ⟨?_, ?_, ?_, ?_⟩ <;> rintro rfl <;> exact absurd h (by decide)

lemma replace_cons {c : Char} (hc : c ≠ '\\') (h : letter c = none) (url : List Char) :
    replace (c :: url) = c :: replace url := by
  obtain ⟨hsingle, hdouble, hline, hreturn⟩ := not_letter h
  rw [replace]
  · exact fun _ h => absurd h hc
  · exact hsingle
  · exact hdouble
  · exact hline
  · exact hreturn

lemma replace_backslash {c : Char} (hc : c ≠ '\\') (url : List Char) :
    replace ('\\' :: c :: url) = '\\' :: replace (c :: url) := by
  simp [replace, hc]

lemma reads_replace {piece rest url : List Char} (h : Reads (replace url) piece rest) :
    ∃ url', url = piece ++ url' ∧ rest = replace url' := by
  induction piece generalizing url with
  | nil => exact ⟨url, rfl, h.1.symm⟩
  | cons c piece ih =>
    obtain ⟨htext, hpiece⟩ := h
    obtain ⟨hc, hmore⟩ := List.forall_mem_cons.mp hpiece
    cases url with
    | nil => simp [replace] at htext
    | cons c' url =>
      have hc' : c' ≠ '\\' := by
        rintro rfl
        cases url with
        | nil => simp [replace, Ne.symm hc] at htext
        | cons c'' url =>
          by_cases hc'' : c'' = '\\'
          · simp [hc'', replace, Ne.symm hc] at htext
          · simp [replace_backslash hc'', Ne.symm hc] at htext
      cases hletter : letter c' with
      | some l => simp [replace_letter hletter, Ne.symm hc] at htext
      | none =>
        rw [replace_cons hc' hletter, List.cons_append] at htext
        obtain ⟨rfl, htail⟩ := List.cons.inj htext
        obtain ⟨url', rfl, hrest⟩ := ih ⟨htail, hmore⟩
        exact ⟨url', rfl, hrest⟩

/-! ## Tokens of the escaped URL -/

/-- How a piece comes out (`p`) of what went in (`t`), and whether unchanged. -/
inductive Token : (p t : List ℕ) → Bool → Prop
  | pair : Token [92, 92] [92, 92] true
  | same (before : List ℕ) {x : ℕ} (hx : x ≠ 92) : Token (before ++ [x]) (before ++ [x]) true
  | longer {x : ℕ} (hx : x ≠ 92) (y : ℕ) : Token [92, y] [x] false
  | shorter {p before : List ℕ} {x : ℕ} (hx : x ≠ 92) (hle : p.length ≤ before.length) :
      Token p (before ++ [x]) false

lemma utf16_last {c : Char} (hc : c ≠ '\\') :
    ∃ before x, utf16 c.toNat = before ++ [x] ∧ x ≠ 92 := by
  unfold utf16
  split
  · refine ⟨[], c.toNat, rfl, fun h => hc ?_⟩
    rw [← Char.ofNat_toNat c, h]
  · exact ⟨[_], _, rfl, by omega⟩

lemma units_last {text : List Char} (hne : text ≠ []) (h : ∀ c ∈ text, c ≠ '\\') :
    ∃ before x, units text = before ++ [x] ∧ x ≠ 92 := by
  obtain ⟨before, c, rfl⟩ := (List.eq_nil_or_concat' text).resolve_left hne
  obtain ⟨before', x, hunits, hx⟩ := utf16_last (h c (by simp))
  exact ⟨units before ++ before', x, by simp [hunits], hx⟩

lemma toNat_ne {c : Char} (hc : c ≠ '\\') : c.toNat ≠ 92 := by
  intro h
  refine hc ?_
  rw [← Char.ofNat_toNat c, h]

lemma cleanURL_backslash (c : Char) (url : List Char) :
    cleanURL ('\\' :: c :: url) =
      ((c = '\\' || c = '\'' || c = '"' || c = '\n' || c = '\r') && cleanURL url) := by
  rw [cleanURL]

lemma cleanURL_cons {c : Char} (hc : c ≠ '\\') (url : List Char) :
    cleanURL (c :: url) = (c ≠ '\'' && c ≠ '"' && c ≠ '\n' && c ≠ '\r' && cleanURL url) := by
  rw [cleanURL]
  · exact fun h => absurd h hc
  · exact fun _ _ h => absurd h hc

lemma letter_iff {c : Char} :
    (letter c).isSome = (c = '\'' || c = '"' || c = '\n' || c = '\r') := by
  unfold letter
  split
  case isTrue h => simp [h]
  split
  case isTrue h => simp [h]
  split
  case isTrue h => simp [h]
  split
  case isTrue h => simp [h]
  simp_all

lemma decode_replace (url : List Char) : url = [] ∨
    (decode (replace url) = none ∧ cleanURL url = false) ∨
    ∃ p t url' ok, Token p t ok ∧ decode (replace url) = (decode (replace url')).map (p ++ ·) ∧
      units url = t ++ units url' ∧ url'.length < url.length ∧
      cleanURL url = (ok && cleanURL url') := by
  cases url with
  | nil => exact .inl rfl
  | cons c url =>
  right
  by_cases hc : c = '\\'
  · subst hc
    cases url with
    | nil => exact .inl ⟨by simp [replace, decode_backslash, escape], rfl⟩
    | cons c url =>
    have hlength : url.length < ('\\' :: c :: url).length := by
      simp only [List.length_cons]
      omega
    by_cases hc : c = '\\'
    · subst hc
      refine .inr ⟨[92, 92], [92, 92], url, true, .pair, ?_, rfl, hlength,
        by simp [cleanURL_backslash]⟩
      rw [replace, decode_pair, decode_pair, Option.map_map]
      rfl
    · cases hletter : letter c with
      | some l =>
        -- The backslash before the character pairs off with the first of the two.
        obtain ⟨hescape, -, -, hutf, -⟩ := escape_letter hletter (replace url)
        refine .inr ⟨[92, c.toNat], [92, c.toNat], url, true, .same [92] (toNat_ne hc), ?_, ?_,
          hlength, ?_⟩
        · rw [replace_backslash hc, replace_letter hletter, decode_pair, decode_backslash, hescape,
            Option.bind_some, Option.map_map]
          rfl
        · rw [Lib.JavaScript.units_cons, Lib.JavaScript.units_cons, hutf]
          rfl
        · have hsome := letter_iff (c := c)
          rw [hletter, Option.isSome_some] at hsome
          rw [cleanURL_backslash, decide_eq_false hc, Bool.false_or, ← hsome]
      | none =>
        have hunclean : cleanURL ('\\' :: c :: url) = false := by
          have hnone := letter_iff (c := c)
          rw [hletter, Option.isSome_none] at hnone
          rw [cleanURL_backslash, decide_eq_false hc, Bool.false_or, ← hnone, Bool.false_and]
        rw [replace_backslash hc, replace_cons hc hletter, decode_backslash, hunclean]
        cases hescape : escape (c :: replace url) with
        | none => exact .inl ⟨rfl, rfl⟩
        | some result =>
          obtain ⟨value, rest⟩ := result
          obtain ⟨piece, hpiece, hle⟩ := escape_reads hescape
          obtain ⟨url', rfl, rfl⟩ := reads_replace hpiece
          obtain ⟨before, x, hunits, hx⟩ := units_last (List.cons_ne_nil c piece)
            (List.forall_mem_cons.mpr ⟨hc, hpiece.2⟩)
          have htoken : Token value (92 :: before ++ [x]) false := by
            refine .shorter hx ?_
            rw [hunits, List.length_append] at hle
            exact hle
          refine .inr ⟨value, 92 :: before ++ [x], url', false, htoken, rfl, ?_, ?_, rfl⟩
          · calc units ('\\' :: c :: (piece ++ url'))
                = 92 :: (units (c :: piece) ++ units url') := by
                  rw [← Lib.JavaScript.units_append]
                  rfl
              _ = 92 :: before ++ [x] ++ units url' := by rw [hunits]; rfl
          · simp only [List.length_cons, List.length_append]
            omega
  · right
    cases hletter : letter c with
    | none =>
      obtain ⟨before, x, hunits, hx⟩ := utf16_last hc
      refine ⟨utf16 c.toNat, utf16 c.toNat, url, true, hunits ▸ .same before hx, ?_, rfl,
        Nat.lt_succ_self _, ?_⟩
      · rw [replace_cons hc hletter, decode_cons hc]
      · obtain ⟨hsingle, hdouble, hline, hreturn⟩ := not_letter hletter
        rw [cleanURL_cons hc]
        simp [hsingle, hdouble, hline, hreturn]
    | some l =>
      obtain ⟨-, hl, hutfl, hutf, -⟩ := escape_letter hletter []
      refine ⟨[92, l.toNat], [c.toNat], url, false, .longer (toNat_ne hc) _, ?_, ?_,
        Nat.lt_succ_self _, ?_⟩
      · rw [replace_letter hletter, decode_pair, decode_cons hl, Option.map_map, hutfl]
        rfl
      · rw [Lib.JavaScript.units_cons, hutf]
      · have hsome := letter_iff (c := c)
        rw [hletter, Option.isSome_some] at hsome
        rw [cleanURL_cons hc]
        by_contra hne
        simp_all

/-! ## URLs that come out as they went in -/

lemma exists_left_over {p v front u : List ℕ} (h : p ++ v = front ++ u)
    (hle : p.length ≤ front.length) : ∃ w, front = p ++ w ∧ v = w ++ u := by
  rcases List.append_eq_append_iff.mp h with ⟨w, hfront, hv⟩ | ⟨w, hp, hu⟩
  · exact ⟨w, hfront, hv⟩
  · have hw : w = [] := by
      rw [hp, List.length_append] at hle
      rw [← List.length_eq_zero_iff]
      omega
    subst hw
    exact ⟨[], by simpa using hp.symm, by simpa using hu.symm⟩

lemma mem_left_over (p front : List ℕ) {w : List ℕ} {x : ℕ} (h : front ++ [x] = p ++ w)
    (hle : p.length ≤ front.length) : x ∈ w := by
  rcases List.eq_nil_or_concat' w with rfl | ⟨before, z, rfl⟩
  · have hlength := congrArg List.length h
    simp only [List.length_append, List.length_singleton, List.length_nil] at hlength
    omega
  · rw [← List.append_assoc] at h
    obtain ⟨-, hz⟩ := List.append_inj' h rfl
    simp only [List.cons.injEq, and_true] at hz
    rw [hz]
    exact List.mem_append_right _ List.mem_cons_self

/-- Once units other than backslashes are owed, or a token does not come out unchanged, some are
owed after the token. -/
lemma Token.owed {p t v w u : List ℕ} {ok : Bool} (h : Token p t ok)
    (heq : p ++ v = w ++ t ++ u) (howed : (∃ x ∈ w, x ≠ 92) ∨ w = [] ∧ ok = false) :
    ∃ w', v = w' ++ u ∧ ∃ x ∈ w', x ≠ 92 := by
  cases h with
  | pair =>
    obtain ⟨x, hmem, hx⟩ := howed.resolve_right (by simp)
    obtain ⟨w', hw', hv⟩ := exists_left_over heq (by simp)
    refine ⟨w', hv, x, ?_, hx⟩
    have hmem' : x ∈ [92, 92] ++ w' := hw' ▸ List.mem_append_left _ hmem
    simpa [hx] using hmem'
  | @same before x hx =>
    obtain ⟨y, hmem, -⟩ := howed.resolve_right (by simp)
    have hpos := List.length_pos_of_mem hmem
    obtain ⟨w', hw', hv⟩ := exists_left_over heq (by simp)
    refine ⟨w', hv, _, mem_left_over (before ++ [x]) (w ++ before) ?_ ?_, hx⟩
    · rw [List.append_assoc]
      exact hw'
    · simp only [List.length_append, List.length_singleton]
      omega
  | longer hx y =>
    -- A unit that is owed is no backslash, but a backslash comes out.
    cases w with
    | nil =>
      simp only [List.nil_append, List.cons_append, List.cons.injEq] at heq
      exact absurd heq.1.symm hx
    | cons z w =>
      obtain ⟨y', hmem, hy'⟩ := howed.resolve_right (by simp)
      have hpos : 0 < w.length := by
        refine List.length_pos_of_ne_nil ?_
        rintro rfl
        simp only [List.cons_append, List.cons.injEq] at heq
        rw [List.mem_singleton, ← heq.1] at hmem
        exact hy' hmem
      obtain ⟨w', hw', hv⟩ := exists_left_over heq (by simp)
      refine ⟨w', hv, _, mem_left_over [92, y] (z :: w) hw' ?_, hx⟩
      simp only [List.length_cons, List.length_nil]
      omega
  | @shorter p before x hx hle =>
    obtain ⟨w', hw', hv⟩ := exists_left_over heq (by simp; omega)
    refine ⟨w', hv, _, mem_left_over p (w ++ before) ?_ ?_, hx⟩
    · rw [List.append_assoc]
      exact hw'
    · simp only [List.length_append]
      omega

lemma not_owed {url : List Char} {w : List ℕ} (hw : ∃ x ∈ w, x ≠ 92) :
    decode (replace url) ≠ some (w ++ units url) := by
  induction h : url.length using Nat.strong_induction_on generalizing url w with
  | _ n ih =>
    subst h
    intro hdecode
    rcases decode_replace url with
      rfl | ⟨hnone, -⟩ | ⟨p, t, url', ok, htoken, htext, hunits, hlt, -⟩
    · obtain ⟨x, hmem, -⟩ := hw
      simp only [replace, decode_nil, Option.some.injEq, units_nil, List.append_nil] at hdecode
      rw [← hdecode] at hmem
      exact absurd hmem (by simp)
    · rw [hnone] at hdecode
      exact absurd hdecode (by simp)
    · rw [htext] at hdecode
      obtain ⟨v, hv, heq⟩ := Option.map_eq_some_iff.mp hdecode
      rw [hunits, ← List.append_assoc] at heq
      obtain ⟨w', rfl, hw'⟩ := htoken.owed heq (.inl hw)
      exact ih _ hlt hw' rfl hv

lemma Token.eq {p t : List ℕ} (h : Token p t true) : p = t := by
  cases h <;> rfl

lemma decode_replace_iff (url : List Char) :
    decode (replace url) = some (units url) ↔ cleanURL url = true := by
  induction h : url.length using Nat.strong_induction_on generalizing url with
  | _ n ih =>
    subst h
    rcases decode_replace url with
      rfl | ⟨hnone, hclean⟩ | ⟨p, t, url', ok, htoken, htext, hunits, hlt, hclean⟩
    · simp [replace, cleanURL]
    · simp [hnone, hclean]
    · rw [htext, hunits, hclean, Option.map_eq_some_iff]
      cases ok with
      | true =>
        rw [htoken.eq, Bool.true_and, ← ih _ hlt _ rfl]
        simp
      | false =>
        refine iff_of_false ?_ (by simp)
        rintro ⟨v, hv, heq⟩
        obtain ⟨w, rfl, howed⟩ := htoken.owed (w := []) heq (.inr ⟨rfl, rfl⟩)
        exact not_owed howed hv

/-! ## Literals of the template -/

lemma isBody_replace {url : List Char} (h : cleanURL url = true) : IsBody (replace url) = true := by
  induction url using cleanURL.induct with
  | case1 => rfl
  | case2 => exact absurd h (by decide)
  | case3 c url ih =>
    rw [cleanURL_backslash, Bool.and_eq_true] at h
    by_cases hc : c = '\\'
    · rw [hc, replace, IsBody, IsBody]
      exact ih h.2
    · have hsome : (letter c).isSome = true := by
        rw [letter_iff]
        simpa [hc] using h.1
      obtain ⟨l, hletter⟩ := Option.isSome_iff_exists.mp hsome
      rw [replace_backslash hc, replace_letter hletter, IsBody, IsBody]
      exact ih h.2
  | case4 c url hlast hnext ih =>
    have hc : c ≠ '\\' := by
      rintro rfl
      cases url with
      | nil => exact hlast rfl rfl
      | cons c' url => exact hnext c' url rfl rfl
    rw [cleanURL_cons hc] at h
    simp only [ne_eq, decide_not, Bool.and_eq_true, Bool.not_eq_true', decide_eq_false_iff_not] at h
    obtain ⟨⟨⟨⟨hsingle, hdouble⟩, hline⟩, hreturn⟩, hclean⟩ := h
    have hletter : letter c = none := by simp [letter, hsingle, hdouble, hline, hreturn]
    rw [replace_cons hc hletter, IsBody]
    · simp [hsingle, hline, hreturn, ih hclean]
    · exact fun h => absurd h hc
    · exact fun _ _ h => absurd h hc

lemma isBody_of_forall {text : List Char}
    (h : ∀ c ∈ text, c ≠ '\\' ∧ c ≠ '\'' ∧ c ≠ '\n' ∧ c ≠ '\r') : IsBody text = true := by
  induction text with
  | nil => rfl
  | cons c text ih =>
    obtain ⟨⟨hc, hsingle, hline, hreturn⟩, htext⟩ := List.forall_mem_cons.mp h
    rw [IsBody]
    · simp [hsingle, hline, hreturn, ih htext]
    · exact fun h => absurd h hc
    · exact fun _ _ h => absurd h hc

/-! ## Durations -/

lemma digits_toDigits (m : ℕ) :
    Nat.toDigits 10 m ≠ [] ∧ (Nat.toDigits 10 m).all Char.isDigit = true := by
  refine ⟨Nat.toDigits_ne_nil, ?_⟩
  rw [List.all_eq_true]
  exact fun c hc => Nat.isDigit_of_mem_toDigits (by decide) (by decide) hc

lemma integerOf_toString (n : ℤ) : integerOf (toString n).toList = some n := by
  rw [Int.toString_eq_repr, Int.repr_eq_if]
  split
  case isTrue h =>
    rw [Nat.toList_repr, integerOf]
    · rw [if_pos (digits_toDigits _), Nat.ofDigitChars_ten_toDigits, Int.toNat_of_nonneg h]
    · intro digits hdigits
      have hmem : '-' ∈ Nat.toDigits 10 n.toNat := hdigits ▸ List.mem_cons_self
      exact absurd (Nat.isDigit_of_mem_toDigits (by decide) (by decide) hmem) (by decide)
  case isFalse h =>
    have htext : ("-" ++ (-n).toNat.repr).toList = '-' :: Nat.toDigits 10 (-n).toNat := by
      rw [String.toList_append, Nat.toList_repr]
      rfl
    rw [htext, integerOf, if_pos (digits_toDigits _), Nat.ofDigitChars_ten_toDigits,
      Int.toNat_of_nonneg (by omega), neg_neg]

/-- What the written duration denotes. -/
def written (d : Duration) : ℤ :=
  if d.toInt < minute then truncate d.seconds * second else truncate d.minutes * minute

lemma durationOf_formatDuration (d : Duration) :
    durationOf (formatDuration d).toList = some (written d) := by
  unfold formatDuration written
  split
  case isTrue =>
    rw [String.toList_append]
    simp [durationOf, integerOf_toString, - Int.toString_eq_repr]
  case isFalse =>
    rw [String.toList_append]
    simp [durationOf, integerOf_toString, - Int.toString_eq_repr]

lemma of_mem_formatDuration {d : Duration} {c : Char} (h : c ∈ (formatDuration d).toList) :
    c ≠ '\\' ∧ c ≠ '\'' ∧ c ≠ '\n' ∧ c ≠ '\r' ∧ c.toNat < 0x10000 := by
  have hc : c = 's' ∨ c = 'm' ∨ c = '-' ∨ c.isDigit = true := by
    unfold formatDuration at h
    split at h
    · rw [String.toList_append, List.mem_append] at h
      rcases h with h | h
      · exact .inr (.inr (Lib.Text.of_mem_toString h))
      · exact .inl (by simpa using h)
    · rw [String.toList_append, List.mem_append] at h
      rcases h with h | h
      · exact .inr (.inr (Lib.Text.of_mem_toString h))
      · exact .inr (.inl (by simpa using h))
  rcases hc with rfl | rfl | rfl | hdigit
  · decide
  · decide
  · decide
  · have hlt : c.toNat < 0x10000 := by
      exact Nat.lt_of_le_of_lt (Char.isDigit_iff_toNat.mp hdigit).2 (by decide)
    refine ⟨?_, ?_, ?_, ?_, hlt⟩ <;> rintro rfl <;> exact absurd hdigit (by decide)

lemma nearest_zero : nearest 0 = 0 := by
  simpa using nearest_intCast (n := 0) (by decide)

lemma inUnits_mul {unit n : ℤ} {d : Duration} (hunit : unit ≠ 0) (h : d.toInt = unit * n)
    (hn : |n| < 2 ^ 53) : d.inUnits unit = n := by
  have hdiv : d.toInt.tdiv unit = n := by rw [h, Int.mul_tdiv_cancel_left _ hunit]
  have hmod : d.toInt.tmod unit = 0 := by rw [h, Int.mul_tmod_right]
  rw [Duration.inUnits, hdiv, hmod, Int.cast_zero, nearest_zero, zero_div, nearest_zero, add_zero,
    nearest_intCast hn, nearest_intCast hn]

lemma written_eq_iff (d : Duration) : written d = d.toInt ↔ Exact d := by
  have hlt := d.toInt_lt
  have hle := d.le_toInt
  have hunits {unit : ℤ} (hunit : 1000000000 ≤ unit) (hdvd : unit ∣ d.toInt) :
      truncate (d.inUnits unit) * unit = d.toInt := by
    obtain ⟨n, hn⟩ := hdvd
    have hsmall : |n| < 2 ^ 53 := by
      rw [abs_lt]
      constructor <;> nlinarith
    rw [inUnits_mul (by omega) hn hsmall, truncate_intCast, hn, mul_comm]
  unfold written Exact
  split
  case isTrue => exact ⟨fun h => ⟨_, by rw [← h, mul_comm]⟩, hunits (by decide)⟩
  case isFalse => exact ⟨fun h => ⟨_, by rw [← h, mul_comm]⟩, hunits (by decide)⟩

lemma map_ofNat_units {text : List Char} (h : ∀ c ∈ text, c.toNat < 0x10000) :
    (units text).map Char.ofNat = text := by
  induction text with
  | nil => rfl
  | cons c text ih =>
    obtain ⟨hc, htext⟩ := List.forall_mem_cons.mp h
    rw [Lib.JavaScript.units_cons, utf16, if_pos hc, List.map_append, ih htext]
    simp

lemma ok_formatDuration_iff (d : Duration) :
    (Slot.quoted (formatDuration d).toList (Denotes d)).Ok ↔ Exact d := by
  have hbody : IsBody (formatDuration d).toList = true :=
    isBody_of_forall fun c hc => by
      obtain ⟨hbackslash, hsingle, hline, hreturn, -⟩ := of_mem_formatDuration hc
      exact ⟨hbackslash, hsingle, hline, hreturn⟩
  have hdecode : decode (formatDuration d).toList = some (units (formatDuration d).toList) :=
    decode_of_forall fun c hc => (of_mem_formatDuration hc).1
  have htext := map_ofNat_units fun c (hc : c ∈ (formatDuration d).toList) =>
    (of_mem_formatDuration hc).2.2.2.2
  rw [Slot.Ok, hbody, hdecode, ← written_eq_iff]
  simp [Denotes, htext, durationOf_formatDuration]

/-! ## The template -/

lemma toList_writeStages (config : LoadTestConfig) :
    (writeStages config).toList = render (stageSlots config) := by
  unfold writeStages stageSlots
  split
  case isTrue => simp [render, code, String.toList_append]
  case isFalse => simp [render, code, String.toList_append]

lemma toList_writeThreshold (t : String) :
    (writeThreshold t).toList = render (thresholdSlots t) := by
  unfold writeThreshold thresholdSlots
  cases metric t with
  | none => rfl
  | some metric => simp [render, code, String.toList_append]

lemma toList_writeThresholds (config : LoadTestConfig) : (writeThresholds config).toList =
    render (if config.thresholds.length > 0 then
      code "  thresholds: \x7b\n" :: config.thresholds.flatMap thresholdSlots ++ [code "  \x7d,\n"]
      else []) := by
  have hthresholds (thresholds : List String) :
      (thresholds.foldr (fun t rest => writeThreshold t ++ rest) "").toList =
        render (thresholds.flatMap thresholdSlots) := by
    induction thresholds with
    | nil => rfl
    | cons t thresholds ih =>
      rw [List.foldr_cons, String.toList_append, toList_writeThreshold, ih, List.flatMap_cons,
        render_append]
  unfold writeThresholds
  split
  case isTrue => simp [render, code, String.toList_append, hthresholds]
  case isFalse => rfl

lemma toList_join {a b c d stages thresholds e f g g' url h i j k l m n : String}
    {head stages' thresholds' call tail : List Char} (hhead : (a ++ b ++ c ++ d).toList = head)
    (hstages : stages.toList = stages') (hthresholds : thresholds.toList = thresholds')
    (hcall : (e ++ f ++ g ++ g').toList = call)
    (htail : (h ++ i ++ j ++ k ++ l ++ m ++ n).toList = tail) :
    (a ++ b ++ c ++ d ++ stages ++ thresholds ++ e ++ f ++ g ++ (g' ++ url ++ h) ++
        i ++ j ++ k ++ l ++ m ++ n).toList =
      head ++ (stages' ++ (thresholds' ++ (call ++ (url.toList ++ tail)))) := by
  rw [← hhead, ← hstages, ← hthresholds, ← hcall, ← htail]
  simp only [String.toList_append, List.append_assoc]

lemma toList_writeScript (config : LoadTestConfig) :
    (writeScript config).toList = render (template config) := by
  have hhead : ("import http from 'k6/http';\n" ++ "import \x7b check, sleep \x7d from 'k6';\n" ++
      "\n" ++ "export const options = \x7b\n").toList =
      render [code "import http from ", fixed "k6/http",
        code ";\nimport \x7b check, sleep \x7d from ", fixed "k6",
        code ";\n\nexport const options = \x7b\n"] := by
    simp only [String.toList_append, -String.reduceAppend, -String.reduceToList]
    decide +kernel
  have hcall : ("\x7d;\n" ++ "\n" ++ "export default function () \x7b\n" ++
      "  const res = http.get('").toList =
      "\x7d;\n\nexport default function () \x7b\n  const res = http.get(".toList ++ ['\''] := by
    simp only [String.toList_append, -String.reduceAppend, -String.reduceToList]
    decide +kernel
  have htail : ("');\n" ++ "  check(res, \x7b\n" ++
      "    'status is 200': (r) => r.status === 200,\n" ++
      "    'response time < 500ms': (r) => r.timings.duration < 500,\n" ++
      "  \x7d);\n" ++ "  sleep(1);\n" ++ "\x7d\n").toList =
      '\'' :: render [code ");\n  check(res, \x7b\n    ", fixed "status is 200",
        code ": (r) => r.status === 200,\n    ", fixed "response time < 500ms",
        code ": (r) => r.timings.duration < 500,\n  \x7d);\n  sleep(1);\n\x7d\n"] := by
    simp only [String.toList_append, -String.reduceAppend, -String.reduceToList]
    decide +kernel
  unfold writeScript
  refine (toList_join hhead (toList_writeStages config) (toList_writeThresholds config) hcall
    htail).trans ?_
  unfold template
  simp only [render_append, List.append_assoc]
  rfl

/-! ## Faithful scripts -/

lemma ok_code {text : String} (h : text.toList.all (fun c => c ≠ '\'' && c ≠ '"') = true) :
    (code text).Ok := by
  intro c hc
  simpa using List.all_eq_true.mp h c hc

lemma ok_fixed {text : String}
    (h : text.toList.all (fun c => c ≠ '\\' && c ≠ '\'' && c ≠ '\n' && c ≠ '\r') = true) :
    (fixed text).Ok := by
  have hplain : ∀ c ∈ text.toList, c ≠ '\\' ∧ c ≠ '\'' ∧ c ≠ '\n' ∧ c ≠ '\r' := fun c hc => by
    simpa [and_assoc] using List.all_eq_true.mp h c hc
  exact ⟨isBody_of_forall hplain, _, decode_of_forall fun c hc => (hplain c hc).1, rfl⟩

lemma ok_number (before after : String) (n : ℤ)
    (hbefore : before.toList.all (fun c => c ≠ '\'' && c ≠ '"') = true)
    (hafter : after.toList.all (fun c => c ≠ '\'' && c ≠ '"') = true) :
    (code (before ++ toString n ++ after)).Ok := by
  refine ok_code ?_
  rw [String.toList_append, String.toList_append, List.all_append, List.all_append, hbefore, hafter,
    Bool.true_and, Bool.and_true, List.all_eq_true]
  intro c hc
  rcases Lib.Text.of_mem_toString hc with rfl | hdigit
  · decide
  · have hsingle : c ≠ '\'' := by rintro rfl; exact absurd hdigit (by decide)
    have hdouble : c ≠ '"' := by rintro rfl; exact absurd hdigit (by decide)
    simp [hsingle, hdouble]

/-- The code of the slots has no quotes. -/
def CodeOk (slots : List Slot) : Prop := ∀ text, .code text ∈ slots → (Slot.code text).Ok

lemma codeOk_nil : CodeOk [] := fun _ h => absurd h (by simp)

lemma codeOk_code {text : String} {slots : List Slot} (h : (code text).Ok) (hslots : CodeOk slots) :
    CodeOk (code text :: slots) := by
  intro text' hmem
  rcases List.mem_cons.mp hmem with heq | hmem
  · rw [heq]
    exact h
  · exact hslots text' hmem

lemma codeOk_quoted {raw : List Char} {P : List ℕ → Prop} {slots : List Slot}
    (hslots : CodeOk slots) : CodeOk (.quoted raw P :: slots) := fun text hmem =>
  hslots text ((List.mem_cons.mp hmem).resolve_left (by simp))

lemma codeOk_append {slots slots' : List Slot} (h : CodeOk slots) (h' : CodeOk slots') :
    CodeOk (slots ++ slots') := fun text hmem =>
  (List.mem_append.mp hmem).elim (h text) (h' text)

lemma codeOk_stageSlots (config : LoadTestConfig) : CodeOk (stageSlots config) := by
  have htarget := ok_number ", target: " " \x7d,\n" config.vus.toInt (by decide +kernel)
    (by decide +kernel)
  unfold stageSlots
  split
  case isTrue =>
    exact codeOk_code (ok_code (by decide +kernel)) <| codeOk_quoted <| codeOk_code htarget <|
      codeOk_code (ok_code (by decide +kernel)) <| codeOk_quoted <| codeOk_code htarget <|
      codeOk_code (ok_code (by decide +kernel)) codeOk_nil
  case isFalse =>
    exact codeOk_code (ok_number _ _ _ (by decide +kernel) (by decide +kernel)) <| codeOk_quoted <|
      codeOk_code (ok_code (by decide +kernel)) codeOk_nil

lemma codeOk_thresholdSlots (t : String) : CodeOk (thresholdSlots t) := by
  unfold thresholdSlots
  cases metric t with
  | none => exact codeOk_nil
  | some metric =>
    exact codeOk_code (ok_code (by decide +kernel)) <| codeOk_quoted <|
      codeOk_code (ok_code (by decide +kernel)) <| codeOk_quoted <|
      codeOk_code (ok_code (by decide +kernel)) codeOk_nil

lemma codeOk_template (config : LoadTestConfig) : CodeOk (template config) := by
  refine codeOk_append (codeOk_append (codeOk_append ?_ (codeOk_stageSlots config)) ?_) ?_
  · exact codeOk_code (ok_code (by decide +kernel)) <| codeOk_quoted <|
      codeOk_code (ok_code (by decide +kernel)) <| codeOk_quoted <|
      codeOk_code (ok_code (by decide +kernel)) codeOk_nil
  · split
    case isTrue =>
      refine codeOk_code (ok_code (by decide +kernel)) (codeOk_append ?_
        (codeOk_code (ok_code (by decide +kernel)) codeOk_nil))
      intro text hmem
      obtain ⟨t, -, hslot⟩ := List.mem_flatMap.mp hmem
      exact codeOk_thresholdSlots t text hslot
    case isFalse => exact codeOk_nil
  · exact codeOk_code (ok_code (by decide +kernel)) <| codeOk_quoted <|
      codeOk_code (ok_code (by decide +kernel)) <| codeOk_quoted <|
      codeOk_code (ok_code (by decide +kernel)) <| codeOk_quoted <|
      codeOk_code (ok_code (by decide +kernel)) codeOk_nil

/-- The literals of the slots are what they should be. -/
def LiteralsOk (slots : List Slot) : Prop :=
  ∀ raw P, .quoted raw P ∈ slots → (Slot.quoted raw P).Ok

lemma literalsOk_iff {slots : List Slot} (h : CodeOk slots) :
    (∀ slot ∈ slots, slot.Ok) ↔ LiteralsOk slots := by
  constructor
  · exact fun hok raw P hmem => hok _ hmem
  · intro hok slot hmem
    cases slot with
    | code text => exact h text hmem
    | quoted raw P => exact hok raw P hmem

@[simp] lemma literalsOk_nil : LiteralsOk [] := fun _ _ h => absurd h (by simp)

@[simp] lemma literalsOk_code {text : String} {slots : List Slot} :
    LiteralsOk (code text :: slots) ↔ LiteralsOk slots :=
  ⟨fun h raw P hmem => h raw P (List.mem_cons_of_mem _ hmem),
    fun h raw P hmem => h raw P ((List.mem_cons.mp hmem).resolve_left (by simp [code]))⟩

@[simp] lemma literalsOk_quoted {raw : List Char} {P : List ℕ → Prop} {slots : List Slot} :
    LiteralsOk (.quoted raw P :: slots) ↔ (Slot.quoted raw P).Ok ∧ LiteralsOk slots := by
  constructor
  · exact fun h =>
      ⟨h raw P List.mem_cons_self, fun raw P hmem => h raw P (List.mem_cons_of_mem _ hmem)⟩
  · rintro ⟨hok, h⟩ raw' P' hmem
    rcases List.mem_cons.mp hmem with heq | hmem
    · rw [heq]
      exact hok
    · exact h raw' P' hmem

@[simp] lemma literalsOk_append {slots slots' : List Slot} :
    LiteralsOk (slots ++ slots') ↔ LiteralsOk slots ∧ LiteralsOk slots' :=
  ⟨fun h => ⟨fun raw P hmem => h raw P (List.mem_append_left _ hmem),
      fun raw P hmem => h raw P (List.mem_append_right _ hmem)⟩,
    fun h raw P hmem => (List.mem_append.mp hmem).elim (h.1 raw P) (h.2 raw P)⟩

lemma literalsOk_stageSlots (config : LoadTestConfig) : LiteralsOk (stageSlots config) ↔
    (config.rampUp.toInt > 0 → Exact config.rampUp) ∧ Exact config.duration := by
  unfold stageSlots
  split
  case isTrue hramp => simp [ok_formatDuration_iff, hramp]
  case isFalse hramp => simp [ok_formatDuration_iff, hramp]

lemma literalsOk_thresholdSlots (t : String) :
    LiteralsOk (thresholdSlots t) ↔ metric t = none := by
  unfold thresholdSlots
  cases metric t with
  | none => simp
  | some metric =>
    have hquote : ("'" ++ t ++ "'").toList = '\'' :: (t ++ "'").toList := by
      simp only [String.toList_append]
      rfl
    have hbody : IsBody ("'" ++ t ++ "'").toList = false := by
      rw [hquote, IsBody]
      · rfl
      · exact fun h => absurd h (by decide)
      · exact fun _ _ h => absurd h (by decide)
    refine iff_of_false (fun h => ?_) (by simp)
    rw [literalsOk_code, literalsOk_quoted, literalsOk_code, literalsOk_quoted] at h
    have hok := h.2.1.1
    rw [hbody] at hok
    exact absurd hok (by decide)

lemma literalsOk_thresholds (config : LoadTestConfig) :
    LiteralsOk (if config.thresholds.length > 0 then
      code "  thresholds: \x7b\n" :: config.thresholds.flatMap thresholdSlots ++ [code "  \x7d,\n"]
      else []) ↔ ∀ t ∈ config.thresholds, metric t = none := by
  have hthresholds (thresholds : List String) :
      LiteralsOk (thresholds.flatMap thresholdSlots) ↔ ∀ t ∈ thresholds, metric t = none := by
    induction thresholds with
    | nil => simp
    | cons t thresholds ih => simp [ih, literalsOk_thresholdSlots]
  split
  case isTrue => simp [hthresholds]
  case isFalse h =>
    have hnil : config.thresholds = [] := List.length_eq_zero_iff.mp (by omega)
    simp [hnil]

lemma ok_safeURL_iff (url : String) :
    (Slot.quoted (safeURL url).toList (· = units url.toList)).Ok ↔ cleanURL url.toList = true := by
  have hsafe : (safeURL url).toList = replace url.toList := String.toList_ofList
  rw [hsafe, ← decode_replace_iff]
  constructor
  · rintro ⟨-, value, hdecode, rfl⟩
    exact hdecode
  · exact fun h => ⟨isBody_replace ((decode_replace_iff _).mp h), _, h, rfl⟩

/-- A generated script is faithful if and only if its configuration is clean. -/
theorem script_faithful_iff {parse : String → Option URL} {config : LoadTestConfig}
    {script : String} (htemplate : config.scriptTemplate = "")
    (h : generateK6Script parse config = .ok script) : Faithful config script ↔ Clean config := by
  have hscript : script = writeScript config := by
    unfold generateK6Script at h
    rw [if_neg (by simp [htemplate])] at h
    split at h
    case h_1 => exact absurd h (by simp)
    case h_2 parsedURL _ =>
      split at h
      case isTrue => exact absurd h (by simp)
      case isFalse =>
        split at h
        case isTrue => exact absurd h (by simp)
        case isFalse => exact (Except.ok.inj h).symm
  rw [hscript, Faithful, toList_writeScript, scan_render_iff (codeOk_template config),
    literalsOk_iff (codeOk_template config), template, Clean]
  have hok (text : String)
      (h : text.toList.all (fun c => c ≠ '\\' && c ≠ '\'' && c ≠ '\n' && c ≠ '\r') = true) :
      (Slot.quoted text.toList (· = units text.toList)).Ok := ok_fixed h
  simp only [literalsOk_append, literalsOk_code, literalsOk_stageSlots, literalsOk_thresholds,
    fixed, literalsOk_quoted, literalsOk_nil, ok_safeURL_iff, hok "k6/http" (by decide),
    hok "k6" (by decide), hok "status is 200" (by decide),
    hok "response time < 500ms" (by decide), true_and, and_true]
  -- The URL comes last in the template.
  constructor
  · exact fun ⟨⟨⟨hramp, hduration⟩, hthresholds⟩, hurl⟩ => ⟨hurl, hramp, hduration, hthresholds⟩
  · exact fun ⟨hurl, hramp, hduration, hthresholds⟩ => ⟨⟨⟨hramp, hduration⟩, hthresholds⟩, hurl⟩

/-- A configuration that is clean, with a ramp-up. -/
def cleanConfig : LoadTestConfig where
  targetURL := "http://host/path?q=1"
  vus := 10
  duration := 120000000000
  rampUp := 30000000000
  thresholds := []
  scriptTemplate := ""

theorem script_faithful_iff_clean :
    Faithful cleanConfig (writeScript cleanConfig) ↔ Clean cleanConfig :=
  @script_faithful_iff (fun _ => some ⟨"http", "host"⟩) _ _ rfl rfl

/-- A target URL with a quote. -/
def quoteConfig : LoadTestConfig where
  targetURL := "http://host/'"
  vus := 10
  duration := 60000000000
  rampUp := 0
  thresholds := []
  scriptTemplate := ""

/-- The script of a target URL with a quote is accepted and not faithful. -/
theorem script_unfaithful : ∃ script,
    generateK6Script (fun _ => some ⟨"http", "host"⟩) quoteConfig = .ok script ∧
      quoteConfig.scriptTemplate = "" ∧ ¬ Faithful quoteConfig script := by
  refine ⟨writeScript quoteConfig, rfl, rfl, ?_⟩
  rintro ⟨tokens, htokens, -⟩
  have hscan : Lib.JavaScript.scan .code (writeScript quoteConfig).toList = none := by
    rw [toList_writeScript]
    decide +kernel
  rw [hscan] at htokens
  exact absurd htokens (by simp)

end Paryty.Simulation

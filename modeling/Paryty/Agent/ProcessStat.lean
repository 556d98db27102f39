import Mathlib.Data.Int.Notation
import Paryty.Agent.ProcFallbackTheorems
import Paryty.Lib.RustString

/-!
# /proc/[pid]/stat

The part of `agent/src/metal/process.rs` that reads the stat file of a process.

* `readStat` is what the source does with the bytes of the file: it takes them for UTF-8, or else
  skips the process, splits at the first `)`, and takes its fields by their positions behind it.
* `Process` is what the kernel prints the file of, and `Process.stat` is the file. The name stands
  in it between parentheses, as it is.
* `recovers_iff_utf8_name` says for which processes the source finds what was printed.

What the source computes of the fields is left out.
-/

namespace Paryty.Agent.ProcessStat

open Lib Lib.RustString ProcFallback

/-- The fields of a stat file that the source takes out of it. -/
structure Stat where
  processName : String
  state : String
  ppid : ℕ
  utime : ℕ
  stime : ℕ
  numThreads : ℕ
  starttimeTicks : ℕ
  vsize : ℕ
  rss : ℕ
deriving DecidableEq

/-- `fields.get(i).and_then(|s| s.parse().ok()).unwrap_or(0)`, of a type with `size` values. -/
def field (size : ℕ) (fields : List String) (i : ℕ) : ℕ :=
  (fields[i]?.bind (parseUnsigned size)).getD 0

/-- What the source takes out of the text of a stat file. A text without `)` is skipped. -/
def parseStat (stat : String) : Option Stat :=
  match splitOnce ')' stat.toList with
  | none => none
  | some (head, tail) =>
    let fields := splitWhitespace (String.ofList tail)
    some {
      processName := ((splitOnce '(' head).map fun parts => String.ofList parts.2).getD ""
      state := fields.head?.getD ""
      ppid := field UInt32.size fields 1
      utime := field UInt64.size fields 11
      stime := field UInt64.size fields 12
      numThreads := field UInt32.size fields 17
      starttimeTicks := field UInt64.size fields 19
      vsize := field UInt64.size fields 20
      rss := field UInt64.size fields 21 }

/-- What the source takes out of a stat file. -/
def readStat (file : Lib.Bytes) : Option Stat := (fromUtf8 file).bind parseStat

/-! ## What the kernel prints -/

/-- The digits of an integer. -/
def printInt (n : ℤ) : List Char :=
  if n < 0 then '-' :: Nat.toDigits 10 n.natAbs else Nat.toDigits 10 n.natAbs

/-- A process, as its stat file shows it. Its name can be any bytes. -/
structure Process where
  pid : ℕ
  comm : Lib.Bytes
  state : Char
  state_isAlpha : state.isAlpha = true
  ppid : UInt32
  pgrp : ℤ
  session : ℤ
  ttyNr : ℤ
  tpgid : ℤ
  flags : ℕ
  minflt : ℕ
  cminflt : ℕ
  majflt : ℕ
  cmajflt : ℕ
  utime : UInt64
  stime : UInt64
  cutime : ℤ
  cstime : ℤ
  priority : ℤ
  nice : ℤ
  numThreads : UInt32
  itrealvalue : ℕ
  starttime : UInt64
  vsize : UInt64
  rss : UInt64
  /-- The fields from `rsslim` on. -/
  rest : List ℤ

namespace Process

variable (p : Process)

/-- The fields behind the name. -/
def fields : List (List Char) :=
  [p.state] :: [(p.ppid.toNat : ℤ), p.pgrp, p.session, p.ttyNr, p.tpgid, p.flags, p.minflt,
    p.cminflt, p.majflt, p.cmajflt, p.utime.toNat, p.stime.toNat, p.cutime, p.cstime, p.priority,
    p.nice, p.numThreads.toNat, p.itrealvalue, p.starttime.toNat, p.vsize.toNat,
    p.rss.toNat].map printInt ++ p.rest.map printInt

/-- What stands before the name. -/
def head : List Char := Nat.toDigits 10 p.pid ++ [' ', '(']

/-- What stands behind the name. -/
def tail : List Char := ')' :: (p.fields.flatMap (' ' :: ·) ++ ['\n'])

/-- The stat file. -/
def stat : Lib.Bytes := utf8 (String.ofList p.head) ++ (p.comm ++ utf8 (String.ofList p.tail))

/-- What was printed, with a text for the name. -/
def shown (name : String) : Stat where
  processName := name
  state := String.singleton p.state
  ppid := p.ppid.toNat
  utime := p.utime.toNat
  stime := p.stime.toNat
  numThreads := p.numThreads.toNat
  starttimeTicks := p.starttime.toNat
  vsize := p.vsize.toNat
  rss := p.rss.toNat

/-- The source takes out of the stat file what was printed, the bytes of the name among it. -/
def Recovers : Prop := ∃ name, utf8 name = p.comm ∧ readStat p.stat = some (p.shown name)

end Process

/-! ## Reading what was printed -/

variable {p : Process} {name : String}

lemma isWhitespace_of_isAlphanum {c : Char} (h : (c.isAlpha || c.isDigit) = true) :
    isWhitespace c = false := by
  have hrange : (48 ≤ c.toNat ∧ c.toNat ≤ 57) ∨ (65 ≤ c.toNat ∧ c.toNat ≤ 90) ∨
      (97 ≤ c.toNat ∧ c.toNat ≤ 122) := by
    have hkinds : ((decide ('A'.val ≤ c.val ∧ c.val ≤ 'Z'.val) ||
        (decide ('a'.val ≤ c.val) && decide (c.val ≤ 'z'.val))) ||
          (decide ('0'.val ≤ c.val) && decide (c.val ≤ '9'.val))) = true := h
    simp only [Bool.or_eq_true, Bool.and_eq_true, decide_eq_true_eq,
      UInt32.le_iff_toNat_le] at hkinds
    rcases hkinds with (hupper | hlower) | hdigit
    · exact .inr (.inl hupper)
    · exact .inr (.inr hlower)
    · exact .inl hdigit
  exact decide_eq_false (by omega)

lemma printInt_word (n : ℤ) : printInt n ≠ [] ∧ ∀ c ∈ printInt n, isWhitespace c = false := by
  have hdigits : ∀ c ∈ Nat.toDigits 10 n.natAbs, isWhitespace c = false := fun c hc =>
    isWhitespace_of_isAlphanum (by
      rw [Nat.isDigit_of_mem_toDigits (by decide) (by decide) hc, Bool.or_true])
  unfold printInt
  split
  · refine ⟨List.cons_ne_nil _ _, fun c hc => ?_⟩
    rcases List.mem_cons.mp hc with rfl | hc
    · decide
    · exact hdigits c hc
  · exact ⟨Nat.toDigits_ne_nil, hdigits⟩

lemma fields_words : ∀ word ∈ p.fields, word ≠ [] ∧ ∀ c ∈ word, isWhitespace c = false := by
  intro word hword
  rcases List.mem_cons.mp hword with rfl | hword
  · refine ⟨List.cons_ne_nil _ _, fun c hc => isWhitespace_of_isAlphanum ?_⟩
    obtain rfl := List.mem_singleton.mp hc
    rw [p.state_isAlpha, Bool.true_or]
  · rcases List.mem_append.mp hword with hword | hword
    all_goals
      obtain ⟨n, -, rfl⟩ := List.mem_map.mp hword
      exact printInt_word n

lemma parse_printInt {size n : ℕ} (h : n < size) :
    parseUnsigned size (String.ofList (printInt n)) = some n := by
  have hpos : ¬ (n : ℤ) < 0 := by omega
  unfold printInt
  rw [if_neg hpos]
  exact parseUnsigned_toDigits h

lemma fromUtf8_stat (h : utf8 name = p.comm) :
    fromUtf8 p.stat = some (String.ofList (p.head ++ (name.toList ++ p.tail))) := by
  rw [fromUtf8_eq_some, Process.stat, ← h, ← utf8_append, ← utf8_append]
  congr 1
  rw [String.ofList_append, String.ofList_append, String.ofList_toList]

lemma parseStat_tail {before : List Char} (hbefore : ')' ∉ before) :
    parseStat (String.ofList (before ++ p.tail)) = some (p.shown
      (((splitOnce '(' before).map fun parts => String.ofList parts.2).getD "")) := by
  rw [parseStat, String.toList_ofList, Process.tail, splitOnce_append hbefore]
  dsimp only
  rw [splitWhitespace_flatMap fields_words]
  have hfield {size n i : ℕ} (h : n < size)
      (hi : (p.fields.map String.ofList)[i]? = some (String.ofList (printInt n))) :
      field size (p.fields.map String.ofList) i = n := by
    rw [field, hi, Option.bind_some, parse_printInt h]
    rfl
  rw [hfield p.ppid.toNat_lt rfl, hfield p.utime.toNat_lt rfl, hfield p.stime.toNat_lt rfl,
    hfield p.numThreads.toNat_lt rfl, hfield p.starttime.toNat_lt rfl, hfield p.vsize.toNat_lt rfl,
    hfield p.rss.toNat_lt rfl]
  rfl

lemma not_mem_head : ')' ∉ p.head ∧ '(' ∉ Nat.toDigits 10 p.pid ++ [' '] := by
  have hdigit (c : Char) (hc : c.isDigit = false) : c ∉ Nat.toDigits 10 p.pid := fun hmem =>
    absurd (Nat.isDigit_of_mem_toDigits (by decide) (by decide) hmem) (by simp [hc])
  have hclose := hdigit ')' (by decide)
  have hopen := hdigit '(' (by decide)
  constructor
  · simp [Process.head, hclose]
  · simp [hopen]

lemma splitOnce_head (before : List Char) :
    splitOnce '(' (p.head ++ before) = some (Nat.toDigits 10 p.pid ++ [' '], before) := by
  have hopen : '(' ∉ Nat.toDigits 10 p.pid ++ [' '] := not_mem_head.2
  have hbefore : p.head ++ before = (Nat.toDigits 10 p.pid ++ [' ']) ++ '(' :: before := by
    simp [Process.head]
  rw [hbefore, splitOnce_append hopen]

lemma not_mem_of_readStat (hname : utf8 name = p.comm)
    (hread : readStat p.stat = some (p.shown name)) : ')' ∉ name.toList := by
  intro hmem
  -- the name ends for the source at its own first parenthesis
  obtain ⟨before, after, hsplit, hbefore⟩ := List.eq_append_cons_of_mem hmem
  have htext : p.head ++ (name.toList ++ p.tail) =
      (p.head ++ before) ++ ')' :: (after ++ p.tail) := by
    rw [hsplit]
    simp
  rw [readStat, fromUtf8_stat hname, Option.bind_some, htext, parseStat, String.toList_ofList,
    splitOnce_append (by simp [not_mem_head.1, hbefore])] at hread
  have hshort := congrArg Stat.processName (Option.some.inj hread)
  dsimp only [Process.shown] at hshort
  rw [splitOnce_head] at hshort
  have hlength := congrArg (fun s => s.toList.length) hshort
  simp [hsplit] at hlength

/-- What was printed is recovered exactly if the name is UTF-8 without a closing parenthesis. -/
theorem recovers_iff_utf8_name (p : Process) :
    p.Recovers ↔ ∃ name : String, p.comm = utf8 name ∧ ')' ∉ name.toList := by
  constructor
  · rintro ⟨name, hname, hread⟩
    exact ⟨name, hname.symm, not_mem_of_readStat hname hread⟩
  · rintro ⟨name, hname, hmem⟩
    refine ⟨name, hname.symm, ?_⟩
    rw [readStat, fromUtf8_stat hname.symm, Option.bind_some, ← List.append_assoc,
      parseStat_tail (by simp [not_mem_head.1, hmem]), splitOnce_head]
    simp

/-- A process that has named itself `a)b`. -/
def hostile : Process where
  pid := 1
  comm := utf8 "a)b"
  state := 'S'
  state_isAlpha := by decide
  ppid := 7
  pgrp := 1
  session := 1
  ttyNr := 0
  tpgid := -1
  flags := 0
  minflt := 0
  cminflt := 0
  majflt := 0
  cmajflt := 0
  utime := 3
  stime := 4
  cutime := 0
  cstime := 0
  priority := 20
  nice := 0
  numThreads := 1
  itrealvalue := 0
  starttime := 100
  vsize := 4096
  rss := 1
  rest := []

theorem not_recovers_hostile : ¬ hostile.Recovers := by
  rintro ⟨name, hname, hread⟩
  obtain rfl : name = "a)b" := utf8_injective hname
  exact not_mem_of_readStat hname hread (by decide)

end Paryty.Agent.ProcessStat

import Paryty.Lib.Calendar
import Paryty.Lib.Run
import Paryty.Processing.Window
import Paryty.Storage.ILPLine

/-!
# Retention

`RetentionManager` of `internal/storage/warm/retention.go`: for each rule it archives a table, lists
its partitions and drops the expired ones. A partition holds the rows of a day and is known by its
date.

* The partitions are listed by `SELECT DISTINCT cast(timestamp as date) .. ORDER BY 1`. What the
  cast makes of a time is the parameter `castDate`; it stays within the day. A day is listed as
  often as its rows have different dates.
* The archiver takes the rows before the cutoff, which is what its interface promises.
* Whether the database and the archiver fail is an input (`Surroundings`). No rows are written
  while a rule is processed.
* `runSafe_iff`: what a run drops is old enough, archived and not the newest partition if and only
  if, for each rule, the partition of the cutoff's day has no row that is too young, and the newest
  partition is not expired, unless these are the partitions that are kept.
-/

namespace Paryty.Storage.Retention

open Lib Paryty.Processing
open ILPLine (sortStrings)

/-- The length of a day. -/
def day : Duration := 24 * 60 * minute

/-- The day of a time. -/
def dayOf (t : Time) : ℤ := t / day

/-- When the day of a time begins. -/
def midnight (t : Time) : Time := dayOf t * day

/-- The year of a time. -/
def yearOf (t : Time) : ℤ := (Date.ofEpochDay (dayOf t)).year

/-! ## Rules -/

/-- `RetentionRule`. -/
structure RetentionRule where
  table : String
  maxAge : Int64
  archiveToCold : Bool
deriving DecidableEq

/-- A number of days. -/
def days (n : ℤ) : Int64 := .ofInt (n * day)

/-- `DefaultRetentionRules`. -/
def defaultRetentionRules : List RetentionRule :=
  [⟨"cpu_metrics", days 30, true⟩,
   ⟨"memory_metrics", days 30, true⟩,
   ⟨"disk_metrics", days 30, true⟩,
   ⟨"network_metrics", days 30, true⟩,
   ⟨"process_metrics", days 7, false⟩,
   ⟨"container_metrics", days 7, false⟩,
   ⟨"aggregated_metrics", days 90, true⟩,
   ⟨"spans", days 14, true⟩,
   ⟨"db_queries", days 14, true⟩,
   ⟨"topology_snapshots", days 7, true⟩]

/-- `RetentionManager`: its rules, and whether there is a cold store. -/
structure RetentionManager where
  rules : List RetentionRule
  coldStore : Bool

/-- `NewRetentionManager`. -/
def newRetentionManager (rules : List RetentionRule) (coldStore : Bool) : RetentionManager :=
  ⟨if rules = [] then defaultRetentionRules else rules, coldStore⟩

/-! ## Partitions -/

/-- `retentionCutoff`. -/
def retentionCutoff (now : Time) (maxAge : Int64) : Time := midnight now + (-maxAge).toInt

/-- `partitionDate`. -/
def partitionDate (t : Time) : Bytes := (Date.ofEpochDay (dayOf t)).format

/-- `parsePartitionDate`. -/
def parsePartitionDate (s : Bytes) : Option Time := (parseDate s).map fun d => d.toEpochDay * day

/-- `partitionsToDrop`. -/
def partitionsToDrop (partitions : List Bytes) (cutoff : Time) : List Bytes :=
  if partitions.length ≤ 1 then []
  else (sortStrings partitions).dropLast.filter fun p =>
    match parsePartitionDate p with
    | none => false
    | some t => t < cutoff

/-- A letter, a digit or an underscore. -/
def isIdentifierChar (c : Char) : Bool :=
  ('a' ≤ c ∧ c ≤ 'z') ∨ ('A' ≤ c ∧ c ≤ 'Z') ∨ ('0' ≤ c ∧ c ≤ '9') ∨ c = '_'

/-- `validIdentifier.MatchString`. -/
def validIdentifier (name : String) : Bool :=
  match name.toList with
  | [] => false
  | c :: rest => isIdentifierChar c ∧ ¬ ('0' ≤ c ∧ c ≤ '9') ∧ rest.all isIdentifierChar

/-! ## A run -/

/-- What the database and the archiver answer while a rule is processed. -/
structure Surroundings where
  now : Time
  /-- The error of `ArchiveTable`. -/
  archive : Option String := none
  /-- The error of the list query. -/
  list : Option String := none
  /-- The partitions whose DROP succeeds. -/
  drops : Bytes → Bool := fun _ => true

/-- What is done to a table. -/
inductive Action
  | archived (before : Time)
  | dropped (partition : Bytes)
deriving DecidableEq

section Rules

variable (castDate : Time → Time) (coldStore : Bool) (rule : RetentionRule) (env : Surroundings)
  (rows : List Time)

/-- The answer to the list query. -/
def listedDates : List Time := (rows.map castDate).dedup.insertionSort (· ≤ ·)

/-- `ListPartitions`. -/
def listPartitions : Except String (List Bytes) :=
  if validIdentifier rule.table then
    match env.list with
    | some err => .error s!"query partitions for {rule.table}: {err}"
    | none => .ok ((listedDates castDate rows).map partitionDate)
  else .error "list partitions: invalid identifier"

/-- `DropPartition`: the partition is dropped. -/
def dropPartition (p : Bytes) : Bool :=
  validIdentifier rule.table && (parsePartitionDate p).isSome && env.drops p

/-- Steps 2 and 3 of `processRule`. A DROP that fails is logged. -/
def dropExpired : Except String Unit × List Action :=
  match listPartitions castDate rule env rows with
  | .error err => (.error s!"list partitions for {rule.table}: {err}", [])
  | .ok partitions =>
    let toDrop := partitionsToDrop partitions (retentionCutoff env.now rule.maxAge)
    (.ok (), (toDrop.filter (dropPartition rule env)).map .dropped)

/-- The table is archived before its partitions are dropped. -/
def archives : Bool := rule.archiveToCold && coldStore

/-- `processRule`. -/
def processRule : Except String Unit × List Action :=
  if archives coldStore rule then
    match env.archive with
    | some err => (.error s!"archive {rule.table}: {err}", [])
    | none =>
      let result := dropExpired castDate rule env rows
      (result.1, .archived (retentionCutoff env.now rule.maxAge) :: result.2)
  else dropExpired castDate rule env rows

/-- The rows that are left. -/
def rowsAfter : List Time :=
  rows.filter fun t => .dropped (partitionDate t) ∉ (processRule castDate coldStore rule env rows).2

end Rules

/-- The rows of each table. -/
abbrev Tables := String → List Time

/-- A rule and what happens while it is processed. -/
abbrev Event := RetentionRule × Surroundings

/-- One rule of `RunRetention`. -/
def next (castDate : Time → Time) (coldStore : Bool) (tables : Tables) (e : Event) : Tables :=
  Function.update tables e.1.table
    (rowsAfter castDate coldStore e.1 e.2 (tables e.1.table))

/-! ## Safety -/

/-- No row is in a later partition. -/
def IsNewest (rows : List Time) (t : Time) : Prop := ∀ t' ∈ rows, dayOf t' ≤ dayOf t

/-- What a rule drops is safe to drop: its rows are older than the maximal age and, if the table is
archived, have been archived before, and it is not the newest partition. -/
structure Safe (castDate : Time → Time) (coldStore : Bool) (rule : RetentionRule)
    (env : Surroundings) (rows : List Time) : Prop where
  old : ∀ t ∈ rows,
    .dropped (partitionDate t) ∈ (processRule castDate coldStore rule env rows).2 →
      t < env.now - rule.maxAge.toInt
  archived : archives coldStore rule = true → ∀ t ∈ rows, ∀ before after,
    (processRule castDate coldStore rule env rows).2 =
      before ++ .dropped (partitionDate t) :: after →
      ∃ cutoff, .archived cutoff ∈ before ∧ t < cutoff
  newest : ∀ t ∈ rows, IsNewest rows t →
    .dropped (partitionDate t) ∉ (processRule castDate coldStore rule env rows).2

/-! ## Which partitions are dropped -/

/-- In a sorted list, an element stands before the last one if there is a larger one, or if it is
there twice. -/
lemma mem_dropLast_iff {l : List Bytes} (hsorted : l.Pairwise (· ≤ ·)) {p : Bytes} :
    p ∈ l.dropLast ↔ p ∈ l ∧ ((∃ p' ∈ l, p < p') ∨ 2 ≤ l.count p) := by
  rcases List.eq_nil_or_concat l with rfl | ⟨init, last, rfl⟩
  · simp
  rw [List.concat_eq_append] at hsorted ⊢
  have hle : ∀ p' ∈ init, p' ≤ last := fun p' hp' =>
    (List.pairwise_append.mp hsorted).2.2 p' hp' last (List.mem_singleton_self last)
  rw [List.dropLast_concat]
  constructor
  · intro hmem
    refine ⟨List.mem_append_left _ hmem, ?_⟩
    by_cases hlast : last ≤ p
    · obtain rfl := List.le_antisymm hlast (hle p hmem)
      have hcount : 0 < init.count last := List.count_pos_iff.mpr hmem
      refine .inr ?_
      rw [List.count_append, List.count_singleton_self]
      omega
    · exact .inl ⟨last, by simp, List.not_le.mp hlast⟩
  · rintro ⟨hmem, hlarger⟩
    rcases List.mem_append.mp hmem with hmem | hmem
    · exact hmem
    obtain rfl := List.mem_singleton.mp hmem
    rcases hlarger with ⟨p', hp', hlt⟩ | hcount
    · rcases List.mem_append.mp hp' with hp' | hp'
      · exact absurd (hle p' hp') (List.not_le.mpr hlt)
      · obtain rfl := List.mem_singleton.mp hp'
        exact absurd hlt (List.lt_irrefl p')
    · rw [List.count_append, List.count_singleton_self] at hcount
      exact List.count_pos_iff.mp (by omega)

lemma two_le_count_map {α : Type*} [DecidableEq α] {f : α → Bytes} {l : List α} (hl : l.Nodup)
    {a : α} (ha : a ∈ l) : 2 ≤ (l.map f).count (f a) ↔ ∃ b ∈ l, b ≠ a ∧ f b = f a := by
  have hperm : (l.map f).Perm (f a :: (l.erase a).map f) := (List.perm_cons_erase ha).map f
  rw [hperm.count_eq, List.count_cons_self, Nat.succ_le_succ_iff, Nat.one_le_iff_ne_zero,
    ← Nat.pos_iff_ne_zero, List.count_pos_iff, List.mem_map]
  constructor
  · rintro ⟨b, hb, hsame⟩
    exact ⟨b, List.mem_of_mem_erase hb, (hl.mem_erase_iff.mp hb).1, hsame⟩
  · rintro ⟨b, hb, hne, hsame⟩
    exact ⟨b, hl.mem_erase_iff.mpr ⟨hne, hb⟩, hsame⟩

lemma partitionDate_inj {t t' : Time} :
    partitionDate t = partitionDate t' ↔ dayOf t = dayOf t' := by
  constructor
  · exact fun h => format_ofEpochDay_injective h
  · intro h
    rw [partitionDate, partitionDate, h]

lemma parsePartitionDate_partitionDate (t : Time) : parsePartitionDate (partitionDate t) =
    if FourDigits (yearOf t) then some (midnight t) else none := by
  unfold parsePartitionDate partitionDate
  split
  case isTrue h =>
    rw [parseDate_format h, Option.map_some, Date.toEpochDay_ofEpochDay]
    rfl
  case isFalse h => rw [parseDate_format_of_not h, Option.map_none]

/-- The name of the partition of a row comes last. -/
def ComesLast (rows : List Time) (t : Time) : Prop :=
  ∀ t' ∈ rows, ¬ partitionDate t < partitionDate t'

/-- The rows of a partition have one date. -/
def ListedOnce (castDate : Time → Time) (rows : List Time) (t : Time) : Prop :=
  ∀ t' ∈ rows, dayOf t' = dayOf t → castDate t' = castDate t

/-- The partition of a row is skipped, or spared as the last one. -/
def Kept (castDate : Time → Time) (rows : List Time) (t : Time) : Prop :=
  ¬ FourDigits (yearOf t) ∨ ComesLast rows t ∧ ListedOnce castDate rows t

section Dropped

variable {castDate : Time → Time} {coldStore : Bool} {rule : RetentionRule} {env : Surroundings}
  {rows : List Time} {t : Time}

/-- A date is in the partition of its time. -/
def StaysInDay (castDate : Time → Time) : Prop := ∀ t, dayOf (castDate t) = dayOf t

lemma mem_listedDates {d : Time} : d ∈ listedDates castDate rows ↔ ∃ t ∈ rows, castDate t = d := by
  rw [listedDates, (List.perm_insertionSort _ _).mem_iff, List.mem_dedup, List.mem_map]

lemma nodup_listedDates : (listedDates castDate rows).Nodup :=
  (List.perm_insertionSort _ _).nodup_iff.mpr (List.nodup_dedup _)

lemma partitionDate_castDate (hcast : StaysInDay castDate) (t : Time) :
    partitionDate (castDate t) = partitionDate t := partitionDate_inj.mpr (hcast t)

lemma mem_listed (hcast : StaysInDay castDate) {p : Bytes} :
    p ∈ (listedDates castDate rows).map partitionDate ↔ ∃ t ∈ rows, partitionDate t = p := by
  simp only [List.mem_map, mem_listedDates]
  constructor
  · rintro ⟨_, ⟨t, ht, rfl⟩, rfl⟩
    exact ⟨t, ht, (partitionDate_castDate hcast t).symm⟩
  · rintro ⟨t, ht, rfl⟩
    exact ⟨_, ⟨t, ht, rfl⟩, partitionDate_castDate hcast t⟩

lemma two_le_count_listed (hcast : StaysInDay castDate) (ht : t ∈ rows) :
    2 ≤ ((listedDates castDate rows).map partitionDate).count (partitionDate t) ↔
      ¬ ListedOnce castDate rows t := by
  have hmem : castDate t ∈ listedDates castDate rows := mem_listedDates.mpr ⟨t, ht, rfl⟩
  rw [← partitionDate_castDate hcast t, two_le_count_map nodup_listedDates hmem, ListedOnce]
  push Not
  constructor
  · rintro ⟨_, hd, hne, hsame⟩
    obtain ⟨t', ht', rfl⟩ := mem_listedDates.mp hd
    refine ⟨t', ht', ?_, hne⟩
    rw [← hcast t', ← hcast t]
    exact partitionDate_inj.mp hsame
  · rintro ⟨t', ht', hday, hne⟩
    refine ⟨castDate t', mem_listedDates.mpr ⟨t', ht', rfl⟩, hne, partitionDate_inj.mpr ?_⟩
    rw [hcast, hcast, hday]

lemma mem_partitionsToDrop_iff {partitions : List Bytes} {cutoff : Time} {p : Bytes} :
    p ∈ partitionsToDrop partitions cutoff ↔
      (∃ t, parsePartitionDate p = some t ∧ t < cutoff) ∧ p ∈ partitions ∧
        ((∃ p' ∈ partitions, p < p') ∨ 2 ≤ partitions.count p) := by
  have hperm : (sortStrings partitions).Perm partitions := List.perm_insertionSort _ _
  have hsorted : (sortStrings partitions).Pairwise (· ≤ ·) := List.pairwise_insertionSort _ _
  have hdrop := mem_dropLast_iff hsorted (p := p)
  simp only [hperm.mem_iff, hperm.count_eq] at hdrop
  rw [← hdrop]
  unfold partitionsToDrop
  split
  case isTrue h =>
    have hnone : (sortStrings partitions).dropLast = [] := by
      rw [← List.length_eq_zero_iff, List.length_dropLast, hperm.length_eq]
      omega
    simp [hnone]
  case isFalse =>
    rw [List.mem_filter, and_comm]
    refine and_congr_left fun _ => ?_
    cases parsePartitionDate p <;> simp

lemma mem_partitionsToDrop (hcast : StaysInDay castDate) (ht : t ∈ rows) (cutoff : Time) :
    partitionDate t ∈ partitionsToDrop ((listedDates castDate rows).map partitionDate) cutoff ↔
      midnight t < cutoff ∧ ¬ Kept castDate rows t := by
  have hlarger : (∃ p ∈ (listedDates castDate rows).map partitionDate, partitionDate t < p) ↔
      ¬ ComesLast rows t := by
    simp only [mem_listed hcast, ComesLast]
    push Not
    constructor
    · rintro ⟨_, ⟨t', ht', rfl⟩, hlt⟩
      exact ⟨t', ht', hlt⟩
    · rintro ⟨t', ht', hlt⟩
      exact ⟨_, ⟨t', ht', rfl⟩, hlt⟩
  have hparsed : (∃ d, parsePartitionDate (partitionDate t) = some d ∧ d < cutoff) ↔
      FourDigits (yearOf t) ∧ midnight t < cutoff := by
    rw [parsePartitionDate_partitionDate]
    split
    case isTrue h => simp [h]
    case isFalse h => simp [h]
  rw [mem_partitionsToDrop_iff, hparsed, hlarger, two_le_count_listed hcast ht, mem_listed hcast,
    Kept, not_or, not_and_or, not_not]
  constructor
  · rintro ⟨⟨hyear, hexpired⟩, _, hnot⟩
    exact ⟨hexpired, hyear, hnot⟩
  · rintro ⟨hexpired, hyear, hnot⟩
    exact ⟨⟨hyear, hexpired⟩, ⟨t, ht, rfl⟩, hnot⟩

/-- The list and the archiver answer. -/
def Answers (coldStore : Bool) (rule : RetentionRule) (env : Surroundings) : Prop :=
  validIdentifier rule.table = true ∧ env.list = none ∧
    (archives coldStore rule = true → env.archive = none)

lemma mem_dropExpired (rule : RetentionRule) (env : Surroundings) (hcast : StaysInDay castDate)
    (ht : t ∈ rows) :
    .dropped (partitionDate t) ∈ (dropExpired castDate rule env rows).2 ↔
      (validIdentifier rule.table = true ∧ env.list = none) ∧ env.drops (partitionDate t) = true ∧
        midnight t < retentionCutoff env.now rule.maxAge ∧ ¬ Kept castDate rows t := by
  unfold dropExpired listPartitions
  by_cases hvalid : validIdentifier rule.table = true
  · rw [if_pos hvalid]
    cases hlist : env.list with
    | some err => simp
    | none =>
      have hparsed : ¬ Kept castDate rows t →
          (parsePartitionDate (partitionDate t)).isSome = true := by
        intro hkept
        have hyear : FourDigits (yearOf t) := not_not.mp (not_or.mp hkept).1
        rw [parsePartitionDate_partitionDate, if_pos hyear]
        rfl
      have hmem := mem_partitionsToDrop hcast ht (retentionCutoff env.now rule.maxAge)
      simp only [List.mem_map, List.mem_filter, Action.dropped.injEq, exists_eq_right, hmem,
        dropPartition, hvalid, Bool.and_eq_true, true_and]
      tauto
  · rw [if_neg hvalid]
    simp [hvalid]

lemma mem_processRule (hcast : StaysInDay castDate) (ht : t ∈ rows) :
    .dropped (partitionDate t) ∈ (processRule castDate coldStore rule env rows).2 ↔
      Answers coldStore rule env ∧ env.drops (partitionDate t) = true ∧
        midnight t < retentionCutoff env.now rule.maxAge ∧ ¬ Kept castDate rows t := by
  have hexpired := mem_dropExpired rule env hcast ht
  unfold processRule Answers
  split
  case isTrue harchives =>
    cases harchive : env.archive with
    | some err => simp [harchives]
    | none => simp [harchives, hexpired, and_assoc]
  case isFalse harchives => simp [harchives, hexpired, and_assoc]

lemma processRule_archives (castDate : Time → Time) (env : Surroundings) (rows : List Time)
    (h : archives coldStore rule = true) :
    (processRule castDate coldStore rule env rows).2 = [] ∨
      ∃ actions, (processRule castDate coldStore rule env rows).2 =
        .archived (retentionCutoff env.now rule.maxAge) :: actions ∧
          ∀ cutoff, .archived cutoff ∉ actions := by
  unfold processRule
  rw [if_pos h]
  cases env.archive with
  | some err => exact .inl rfl
  | none =>
    refine .inr ⟨_, rfl, fun cutoff hmem => ?_⟩
    unfold dropExpired at hmem
    split at hmem
    case h_1 => cases hmem
    case h_2 =>
      obtain ⟨p, _, hp⟩ := List.mem_map.mp hmem
      cases hp

/-- The rows of a partition have been archived before it is dropped if they are before the
cutoff. -/
lemma archived_iff (h : archives coldStore rule = true) :
    (∀ before after, (processRule castDate coldStore rule env rows).2 =
        before ++ .dropped (partitionDate t) :: after →
        ∃ cutoff, .archived cutoff ∈ before ∧ t < cutoff) ↔
      (.dropped (partitionDate t) ∈ (processRule castDate coldStore rule env rows).2 →
        t < retentionCutoff env.now rule.maxAge) := by
  rcases processRule_archives castDate env rows h with hnone | ⟨actions, hactions, honce⟩
  · rw [hnone]
    simp
  rw [hactions]
  constructor
  · intro hsplit hmem
    obtain ⟨before, after, hsame⟩ := List.append_of_mem hmem
    obtain ⟨cutoff, hcutoff, hlt⟩ := hsplit before after hsame
    have hin : Action.archived cutoff ∈
        Action.archived (retentionCutoff env.now rule.maxAge) :: actions := by
      rw [hsame]
      exact List.mem_append_left _ hcutoff
    rcases List.mem_cons.mp hin with heq | hin
    · rwa [← Action.archived.inj heq]
    · exact absurd hin (honce cutoff)
  · intro hbefore before after hsame
    have hmem : Action.dropped (partitionDate t) ∈
        Action.archived (retentionCutoff env.now rule.maxAge) :: actions := by
      rw [hsame]
      exact List.mem_append_right _ List.mem_cons_self
    cases before with
    | nil => cases (List.cons.inj hsame).1
    | cons first before =>
      obtain rfl := (List.cons.inj hsame).1
      exact ⟨_, List.mem_cons_self, hbefore hmem⟩

/-! ## When a rule is safe -/

lemma toInt_neg (m : Int64) :
    (-m).toInt = -m.toInt ∨ m.toInt = -2 ^ 63 ∧ (-m).toInt = -2 ^ 63 := by
  have hle := m.le_toInt
  have hlt := m.toInt_lt
  rw [Int64.toInt_neg]
  by_cases hmin : m.toInt = -2 ^ 63
  · exact .inr ⟨hmin, by rw [hmin]; decide⟩
  · refine .inl (Int.bmod_eq_of_le ?_ ?_) <;> norm_num at * <;> omega

lemma retentionCutoff_le (now : Time) (maxAge : Int64) :
    retentionCutoff now maxAge ≤ now - maxAge.toInt := by
  have hday : midnight now ≤ now := Int.ediv_mul_le now (by decide)
  rw [retentionCutoff]
  rcases toInt_neg maxAge with h | ⟨h, h'⟩
  · linarith
  · linarith

lemma dvd_retentionCutoff (now : Time) (maxAge : Int64) :
    day ∣ retentionCutoff now maxAge ↔ day ∣ maxAge.toInt := by
  rw [retentionCutoff, midnight, Int.dvd_add_right (Int.dvd_mul_left _ _)]
  rcases toInt_neg maxAge with h | ⟨h, h'⟩
  · rw [h, Int.dvd_neg]
  · rw [h, h']

/-- Before this time, rows are old enough and, if the table is archived, have been archived. -/
def safeBefore (coldStore : Bool) (rule : RetentionRule) (env : Surroundings) : Time :=
  if archives coldStore rule then retentionCutoff env.now rule.maxAge
  else env.now - rule.maxAge.toInt

lemma retentionCutoff_le_safeBefore (coldStore : Bool) (rule : RetentionRule)
    (env : Surroundings) : retentionCutoff env.now rule.maxAge ≤ safeBefore coldStore rule env := by
  unfold safeBefore
  split
  · exact le_rfl
  · exact retentionCutoff_le _ _

/-- A row of the cutoff's day that is not safe to drop. The cutoff is within the day only if the
maximal age is not a whole number of days. -/
def Leftover (coldStore : Bool) (rule : RetentionRule) (env : Surroundings) (t : Time) : Prop :=
  ¬ day ∣ rule.maxAge.toInt ∧ dayOf t = dayOf (retentionCutoff env.now rule.maxAge) ∧
    safeBefore coldStore rule env ≤ t

lemma leftover_iff : Leftover coldStore rule env t ↔
    midnight t < retentionCutoff env.now rule.maxAge ∧ safeBefore coldStore rule env ≤ t := by
  have hday : (0 : ℤ) < day := by decide
  have hsafe := retentionCutoff_le_safeBefore coldStore rule env
  rw [Leftover, ← dvd_retentionCutoff env.now]
  generalize retentionCutoff env.now rule.maxAge = cutoff at hsafe ⊢
  have hmidnight : dayOf cutoff * day ≤ cutoff := Int.ediv_mul_le cutoff hday.ne'
  constructor
  · rintro ⟨hwhole, hsame, hlate⟩
    refine ⟨lt_of_le_of_ne (by rw [midnight, hsame]; exact hmidnight) fun heq => hwhole ?_, hlate⟩
    rw [← heq]
    exact Int.dvd_mul_left _ _
  · rintro ⟨hexpired, hlate⟩
    have hle : dayOf cutoff ≤ dayOf t := Int.ediv_le_ediv hday (hsafe.trans hlate)
    have hge : dayOf t ≤ dayOf cutoff := (Int.le_ediv_iff_mul_le hday).mpr hexpired.le
    have hsame := le_antisymm hge hle
    refine ⟨fun hwhole => ?_, hsame, hlate⟩
    have hcutoff : dayOf cutoff * day = cutoff := Int.ediv_mul_cancel hwhole
    rw [midnight, hsame, hcutoff] at hexpired
    exact lt_irrefl _ hexpired

lemma comesLast_of_isNewest (hnewest : IsNewest rows t) (hyear : FourDigits (yearOf t)) :
    ComesLast rows t := by
  intro t' ht' hlt
  rcases lt_or_eq_of_le (hnewest t' ht') with hday | hday
  · have hyears : yearOf t' ≤ yearOf t := by
      rcases Date.ofEpochDay_lt hday with h | ⟨h, _⟩
      · exact h.le
      · exact h.le
    by_cases hneg : yearOf t' < 0
    · exact List.lt_asymm hlt (format_lt_of_neg hneg hyear)
    · have hyear' : FourDigits (yearOf t') := ⟨not_lt.mp hneg, hyears.trans_lt hyear.2⟩
      exact List.lt_asymm hlt (format_lt hday hyear' hyear)
  · rw [partitionDate_inj.mpr hday] at hlt
    exact List.lt_irrefl _ hlt

/-- The rule spares what it must: the partitions of leftovers are kept, and the newest partition, if
it is expired, is skipped or listed once. -/
structure Spared (castDate : Time → Time) (coldStore : Bool) (rule : RetentionRule)
    (env : Surroundings) (rows : List Time) : Prop where
  leftovers : Answers coldStore rule env → ∀ t ∈ rows, env.drops (partitionDate t) = true →
    Leftover coldStore rule env t → Kept castDate rows t
  newest : Answers coldStore rule env → ∀ t ∈ rows, env.drops (partitionDate t) = true →
    IsNewest rows t → midnight t < retentionCutoff env.now rule.maxAge → FourDigits (yearOf t) →
      ListedOnce castDate rows t

lemma safe_iff_forall : Safe castDate coldStore rule env rows ↔ ∀ t ∈ rows,
    .dropped (partitionDate t) ∈ (processRule castDate coldStore rule env rows).2 →
      t < safeBefore coldStore rule env ∧ ¬ IsNewest rows t := by
  have hle := retentionCutoff_le env.now rule.maxAge
  constructor
  · intro hsafe t ht hdropped
    refine ⟨?_, fun hnewest => hsafe.newest t ht hnewest hdropped⟩
    unfold safeBefore
    split
    case isTrue h => exact (archived_iff h).mp (hsafe.archived h t ht) hdropped
    case isFalse => exact hsafe.old t ht hdropped
  · intro hsafe
    refine ⟨fun t ht hdropped => ?_, fun h t ht => (archived_iff h).mpr fun hdropped => ?_,
      fun t ht hnewest hdropped => (hsafe t ht hdropped).2 hnewest⟩
    · have hbefore := (hsafe t ht hdropped).1
      unfold safeBefore at hbefore
      split at hbefore
      · exact hbefore.trans_le hle
      · exact hbefore
    · have hbefore := (hsafe t ht hdropped).1
      rwa [safeBefore, if_pos h] at hbefore

lemma safe_iff (hcast : StaysInDay castDate) :
    Safe castDate coldStore rule env rows ↔ Spared castDate coldStore rule env rows := by
  rw [safe_iff_forall]
  constructor
  · intro hsafe
    have hdropped {t : Time} (hanswers : Answers coldStore rule env) (ht : t ∈ rows)
        (hdrops : env.drops (partitionDate t) = true)
        (hexpired : midnight t < retentionCutoff env.now rule.maxAge)
        (hkept : ¬ Kept castDate rows t) := hsafe t ht
      ((mem_processRule hcast ht).mpr ⟨hanswers, hdrops, hexpired, hkept⟩)
    refine ⟨fun hanswers t ht hdrops hleft => ?_,
      fun hanswers t ht hdrops hnewest hexpired hyear => ?_⟩
    · by_contra hkept
      obtain ⟨hexpired, hlate⟩ := leftover_iff.mp hleft
      exact absurd (hdropped hanswers ht hdrops hexpired hkept).1 (not_lt.mpr hlate)
    · by_contra honce
      have hkept : ¬ Kept castDate rows t :=
        not_or.mpr ⟨not_not.mpr hyear, fun hlast => honce hlast.2⟩
      exact (hdropped hanswers ht hdrops hexpired hkept).2 hnewest
  · intro hspared t ht hdropped
    obtain ⟨hanswers, hdrops, hexpired, hkept⟩ := (mem_processRule hcast ht).mp hdropped
    constructor
    · by_contra hlate
      have hleft := leftover_iff.mpr ⟨hexpired, not_lt.mp hlate⟩
      exact hkept (hspared.leftovers hanswers t ht hdrops hleft)
    · intro hnewest
      obtain ⟨hyear, hlisted⟩ := not_or.mp hkept
      have honce := hspared.newest hanswers t ht hdrops hnewest hexpired (not_not.mp hyear)
      exact hlisted ⟨comesLast_of_isNewest hnewest (not_not.mp hyear), honce⟩

end Dropped

/-! ## Runs -/

/-- Every rule of a run is safe on the tables it meets. -/
def RunSafe (castDate : Time → Time) (coldStore : Bool) (tables : Tables) (es : List Event) :
    Prop :=
  Allowed (next castDate coldStore)
    (fun tables e => Safe castDate coldStore e.1 e.2 (tables e.1.table)) tables es

/-- Every rule spares what it must on the tables it meets. -/
def RunSpared (castDate : Time → Time) (coldStore : Bool) (tables : Tables) (es : List Event) :
    Prop :=
  Allowed (next castDate coldStore)
    (fun tables e => Spared castDate coldStore e.1 e.2 (tables e.1.table)) tables es

/-- For every list of rules, every table and whatever fails: what a run drops is older than the
maximal age, archived before, and not the newest partition, if and only if its rules spare the
partitions of leftovers and the newest partition. -/
theorem runSafe_iff {castDate : Time → Time} (hcast : StaysInDay castDate) (coldStore : Bool)
    (tables : Tables) (es : List Event) :
    RunSafe castDate coldStore tables es ↔ RunSpared castDate coldStore tables es :=
  allowed_iff_allowed (I := fun _ => True) (fun _ _ _ _ => trivial)
    (fun _ _ _ => safe_iff hcast) trivial

/-- A date of the database, which has milliseconds. -/
def toDate (t : Time) : Time := t / 1000000 * 1000000

lemma staysInDay_toDate : StaysInDay toDate := by
  intro t
  have hday : day = 86400000000000 := by decide
  rw [dayOf, dayOf, toDate, hday]
  omega

lemma not_leftover_of_default {coldStore : Bool} {rule : RetentionRule} {env : Surroundings}
    {t : Time} (hrule : rule ∈ (newRetentionManager [] coldStore).rules) :
    ¬ Leftover coldStore rule env t := by
  have hwhole : ∀ rule ∈ defaultRetentionRules, day ∣ rule.maxAge.toInt := by decide
  exact fun hleft => hleft.1 (hwhole rule hrule)

/-- The spans of an hour of the first day, and of the twentieth. -/
def spans (_ : String) : List Time := [60 * minute, 20 * day]

/-- After thirty days the first day is dropped, and the twentieth is too young. -/
theorem runSafe_iff_spans :
    RunSafe toDate true spans [(⟨"spans", days 14, true⟩, { now := 30 * day })] := by
  have hdefault : ⟨"spans", days 14, true⟩ ∈ (newRetentionManager [] true).rules := by decide
  refine (runSafe_iff staysInDay_toDate true spans _).mpr ⟨⟨?_, ?_⟩, trivial⟩
  · intro _ t _ _ hleft
    exact absurd hleft (not_leftover_of_default hdefault)
  · intro _ t ht _ hnewest hexpired
    rcases List.mem_cons.mp ht with rfl | ht
    · have hday := hnewest (20 * day) (List.mem_cons_of_mem _ List.mem_cons_self)
      exact absurd hday (by decide)
    · obtain rfl := List.mem_singleton.mp ht
      exact absurd hexpired (by decide)

/-- With a maximal age of 36 hours, at one o'clock of the tenth day, the eighth day is dropped with
a row that is 29 hours old. And after thirty days a table is dropped whose newest partition is
listed twice. -/
theorem not_runSafe :
    (¬ RunSafe toDate false (fun _ => [8 * day + 1200 * minute, 10 * day])
      [(⟨"spans", .ofInt (2160 * minute), false⟩, { now := 10 * day + 60 * minute })]) ∧
    ¬ RunSafe toDate false (fun _ => [60 * minute, 120 * minute])
      [(⟨"spans", days 14, false⟩, { now := 30 * day })] := by
  constructor
  · intro hrun
    have hdropped : Action.dropped (partitionDate (8 * day + 1200 * minute)) ∈
        (processRule toDate false ⟨"spans", .ofInt (2160 * minute), false⟩
          { now := 10 * day + 60 * minute } [8 * day + 1200 * minute, 10 * day]).2 := by
      decide +kernel
    exact absurd (hrun.1.old _ List.mem_cons_self hdropped) (by decide)
  · intro hrun
    have hdropped : Action.dropped (partitionDate (60 * minute)) ∈
        (processRule toDate false ⟨"spans", days 14, false⟩ { now := 30 * day }
          [60 * minute, 120 * minute]).2 := by
      decide +kernel
    have hnewest : IsNewest [60 * minute, 120 * minute] (60 * minute) := by
      intro t ht
      rcases List.mem_cons.mp ht with rfl | ht
      · exact le_rfl
      · obtain rfl := List.mem_singleton.mp ht
        decide
    exact hrun.1.newest _ List.mem_cons_self hnewest hdropped

end Paryty.Storage.Retention

import Paryty.Lib.Cache

/-!
# The model store

Forecasting models are kept in one directory, one file for each metric. A file that is written
again is first renamed to a backup with the next version number; versions are read off the names
of the files that match the metric's backup pattern.

`Footprint` is what a metric can touch: its file and every file whose name begins like a backup
of it. What the store reads and writes for a metric stays within its footprint (`load_only`,
`save_only`, `save_of_neg`).
-/

namespace Paryty.Intelligence

abbrev MetricName := String
abbrev FileName := String

/-! ## File names -/

/-- The characters `[A-Za-z0-9._-]`. -/
def isSafe (c : Char) : Bool := c.isAlphanum || c = '.' || c = '_' || c = '-'

/-- Every run of other characters becomes one underscore. -/
def replaceUnsafe : (inRun : Bool) → List Char → List Char
  | _, [] => []
  | inRun, c :: cs =>
    if isSafe c then c :: replaceUnsafe false cs
    else if inRun then replaceUnsafe true cs
    else '_' :: replaceUnsafe true cs

/-- Strip dots and underscores from both ends. -/
def stripDots (cs : List Char) : List Char :=
  let edge : Char → Bool := fun c => c = '.' || c = '_'
  ((cs.dropWhile edge).reverse.dropWhile edge).reverse

/-- Every `..` becomes an underscore. One pass leaves none. -/
def replaceParents : List Char → List Char
  | '.' :: '.' :: cs => '_' :: replaceParents cs
  | c :: cs => c :: replaceParents cs
  | [] => []

/-- A filesystem-safe version of an untrusted name component. -/
def sanitizeFilenameComponent (raw : String) : String :=
  let cleaned := replaceParents (stripDots (replaceUnsafe false raw.toList))
  String.ofList ((if cleaned = [] then "unnamed".toList else cleaned).take 100)

/-- What the names of a metric's file and of its backups begin with. -/
def stem (modelName : String) (metric : MetricName) : String :=
  sanitizeFilenameComponent modelName ++ "_" ++ sanitizeFilenameComponent metric

/-- The file of a metric. -/
def filename (modelName : String) (metric : MetricName) : FileName :=
  stem modelName metric ++ ".joblib"

/-- The backup with a version number. -/
def versionedFilename (modelName : String) (metric : MetricName) (version : Int) : FileName :=
  stem modelName metric ++ "_v" ++ toString version ++ ".joblib"

/-! ## Versions -/

/-- Digits with single underscores between them. -/
def digits : (value : ℕ) → (afterDigit : Bool) → List Char → Option ℕ
  | value, afterDigit, [] => if afterDigit then some value else none
  | value, afterDigit, c :: cs =>
    if c.isDigit then digits (value * 10 + (c.toNat - '0'.toNat)) true cs
    else if c = '_' && afterDigit then digits value false cs
    else none

/-- `int(text)`, for text without blanks. -/
def parseInt : List Char → Option Int
  | '-' :: cs => (digits 0 false cs).map (fun n => -(n : Int))
  | '+' :: cs => (digits 0 false cs).map Int.ofNat
  | cs => (digits 0 false cs).map Int.ofNat

/-- What follows the last `_v`. -/
def afterLastV (cs : List Char) : Option (List Char) :=
  ((cs.tails.filter (fun t => ['_', 'v'].isPrefixOf t)).getLast?).map (List.drop 2)

/-- The name begins like a backup of the metric. -/
def isBackupOf (modelName : String) (metric : MetricName) (file : FileName) : Bool :=
  (stem modelName metric ++ "_v").toList.isPrefixOf file.toList

/-- The version in a file name that matches `{stem}_v*.joblib`. -/
def versionIn (modelName : String) (metric : MetricName) (file : FileName) : Option Int :=
  if isBackupOf modelName metric file &&
      (".joblib".toList.isSuffixOf (file.toList.drop (stem modelName metric ++ "_v").length)) then
    (afterLastV (file.toList.take (file.length - ".joblib".length))).bind parseInt
  else none

/-! ## The directory -/

/-- The files of the directory. -/
abbrev Directory (σ : Type) := Lib.Table (FileName × σ) FileName Prod.fst

variable {σ : Type}

/-- The version of the next backup. -/
def nextVersion (dir : Directory σ) (modelName : String) (metric : MetricName) : Int :=
  match dir.rows.filterMap (fun file => versionIn modelName metric file.1) with
  | [] => 1
  | v :: versions => versions.foldl max v + 1

/-- How writing a file ends: written, not begun, or given up after the old file was renamed. -/
inductive SaveOutcome
  | saved
  | refused
  | lost
deriving DecidableEq

/-- Rename the metric's file, if there is one, to the next backup. -/
def rotate (dir : Directory σ) (modelName : String) (metric : MetricName) : Directory σ :=
  match dir.find? (filename modelName metric) with
  | none => dir
  | some file =>
    let backup := versionedFilename modelName metric (nextVersion dir modelName metric)
    (dir.erase (filename modelName metric)).put (backup, file.2)

/-- Persist a model artifact to disk. -/
def save (dir : Directory σ) (modelName : String) (metric : MetricName) (artifact : σ)
    (outcome : SaveOutcome) : Directory σ :=
  match outcome with
  | .refused => dir
  | .lost => rotate dir modelName metric
  | .saved => (rotate dir modelName metric).put (filename modelName metric, artifact)

/-- Load a model artifact from disk. -/
def load (dir : Directory σ) (modelName : String) (metric : MetricName) : Option σ :=
  (dir.find? (filename modelName metric)).map Prod.snd

/-- Delete a persisted model file; the answer is whether there was one. -/
def delete (dir : Directory σ) (modelName : String) (metric : MetricName) : Directory σ × Bool :=
  if dir.HasKey (filename modelName metric) then (dir.erase (filename modelName metric), true)
  else (dir, false)

/-! ## Footprints -/

/-- The files a metric can touch. -/
def Footprint (modelName : String) (metric : MetricName) (file : FileName) : Prop :=
  file = filename modelName metric ∨ isBackupOf modelName metric file = true

section Footprint

variable {dir : Directory σ} {modelName : String} {metric : MetricName} {mine : FileName → Bool}

lemma isBackupOf_versioned (version : Int) :
    isBackupOf modelName metric (versionedFilename modelName metric version) = true := by
  rw [isBackupOf, List.isPrefixOf_iff_prefix, versionedFilename]
  simp only [String.toList_append, List.append_assoc, List.prefix_append_right_inj]
  exact List.prefix_append _ _

lemma footprint_versioned (version : Int) :
    Footprint modelName metric (versionedFilename modelName metric version) :=
  .inr (isBackupOf_versioned version)

lemma footprint_of_versionIn {file : FileName} {version : Int}
    (h : versionIn modelName metric file = some version) : Footprint modelName metric file := by
  unfold versionIn at h
  split at h
  case isTrue hmatch => exact .inr (Bool.and_eq_true_iff.mp hmatch).1
  case isFalse => exact absurd h (by simp)

lemma nextVersion_only (h : ∀ file, Footprint modelName metric file → mine file = true) :
    nextVersion (dir.only mine) modelName metric = nextVersion dir modelName metric := by
  have hversions : (dir.only mine).rows.filterMap (fun file => versionIn modelName metric file.1) =
      dir.rows.filterMap (fun file => versionIn modelName metric file.1) := by
    rw [Lib.Table.rows_only, List.filterMap_filter]
    refine List.filterMap_congr fun file _ => ?_
    cases hversion : versionIn modelName metric file.1 with
    | none => simp
    | some version => simp [h file.1 (footprint_of_versionIn hversion)]
  simp only [nextVersion, hversions]

lemma load_only (h : ∀ file, Footprint modelName metric file → mine file = true) :
    load (dir.only mine) modelName metric = load dir modelName metric := by
  rw [load, load, Lib.Table.find?_only (h _ (.inl rfl))]

lemma rotate_only (h : ∀ file, Footprint modelName metric file → mine file = true) :
    rotate (dir.only mine) modelName metric = (rotate dir modelName metric).only mine := by
  simp only [rotate, Lib.Table.find?_only (h _ (.inl rfl)), nextVersion_only h]
  cases dir.find? (filename modelName metric) with
  | none => rfl
  | some file =>
    simp only [Lib.Table.only_put (t := dir.erase _) (r := (versionedFilename _ _ _, file.2))
      (h _ (footprint_versioned _)), Lib.Table.only_erase]

lemma save_only (h : ∀ file, Footprint modelName metric file → mine file = true) (artifact : σ)
    (outcome : SaveOutcome) : save (dir.only mine) modelName metric artifact outcome =
      (save dir modelName metric artifact outcome).only mine := by
  cases outcome with
  | refused => rfl
  | lost => exact rotate_only h
  | saved =>
    simp only [save, rotate_only h]
    exact (Lib.Table.only_put (r := (filename modelName metric, artifact)) (h _ (.inl rfl))).symm

lemma save_of_neg (h : ∀ file, Footprint modelName metric file → mine file = false)
    (artifact : σ) (outcome : SaveOutcome) :
    (save dir modelName metric artifact outcome).only mine = dir.only mine := by
  have hrotate : (rotate dir modelName metric).only mine = dir.only mine := by
    unfold rotate
    cases dir.find? (filename modelName metric) with
    | none => rfl
    | some file =>
      exact (Lib.Table.only_put_of_neg (r := (versionedFilename _ _ _, file.2))
        (h _ (footprint_versioned _))).trans (Lib.Table.only_erase_of_neg (h _ (.inl rfl)))
  cases outcome with
  | refused => rfl
  | lost => exact hrotate
  | saved =>
    exact (Lib.Table.only_put_of_neg (r := (filename modelName metric, artifact))
      (h _ (.inl rfl))).trans hrotate

end Footprint

end Paryty.Intelligence

import Mathlib.Data.List.Infix
import Paryty.Intelligence.ModelStore
import Paryty.Lib.Run
import Paryty.Lib.Text

/-!
# The model store as a map

What the model store should be: a map from pairs of a model name and a metric name to artifacts.
`State.current` is that map, `State.backups` are the files that hold what was replaced.

The names of the files are joined from shortened names, and backups lie among the current files.
`map_iff_apart`: the store is the map exactly if no call meets, under the name of its file, a file
that is another pair's or a backup. Rotation by itself overwrites nothing (`fresh_nextVersion`).
-/

namespace Paryty.Intelligence.ModelMap

/-! ## Calls -/

/-- What an artifact is saved under. -/
structure Name where
  modelName : String
  metricName : MetricName
deriving DecidableEq

namespace Name

def file (name : Name) : FileName := filename name.modelName name.metricName

def backup (name : Name) (version : Int) : FileName :=
  versionedFilename name.modelName name.metricName version

end Name

inductive Call (σ : Type)
  | save (name : Name) (artifact : σ)
  | load (name : Name)
  | delete (name : Name)

variable {σ : Type}

def Call.name : Call σ → Name
  | save name _ | load name | delete name => name

/-- The directory, and what should be in it. -/
structure State (σ : Type) where
  dir : Directory σ
  /-- What was saved last and not deleted since. -/
  current : Name → Option σ
  /-- What was saved before, in the files it was moved to. -/
  backups : List (FileName × σ)

namespace State

def empty : State σ := ⟨.empty, fun _ => none, []⟩

/-- The version a rotation moves the current file to. -/
def version (s : State σ) (name : Name) : Int := nextVersion s.dir name.modelName name.metricName

def rotated (s : State σ) (name : Name) : Directory σ :=
  rotate s.dir name.modelName name.metricName

/-- The backups after a rotation. -/
def moved (s : State σ) (name : Name) : List (FileName × σ) :=
  match s.current name with
  | none => s.backups
  | some artifact => (name.backup (s.version name), artifact) :: s.backups

def next (s : State σ) : Call σ → State σ
  | .save name artifact =>
    { dir := save s.dir name.modelName name.metricName artifact .saved
      current := Function.update s.current name (some artifact)
      backups := s.moved name }
  | .load _ => s
  | .delete name =>
    { dir := (delete s.dir name.modelName name.metricName).1
      current := Function.update s.current name none
      backups := s.backups }

end State

/-! ## What the store should do -/

/-- The directory holds the backups, and the current artifacts of all other names. -/
structure Holds (dir : Directory σ) (name : Name) (current : Name → Option σ)
    (backups : List (FileName × σ)) : Prop where
  others : ∀ other artifact, other ≠ name → current other = some artifact →
    (other.file, artifact) ∈ dir
  backups : ∀ row ∈ backups, row ∈ dir

/-- The call does what it would do to a map, and moves or removes no file but its own. -/
def Lawful (s : State σ) : Call σ → Prop
  | .save name artifact =>
    Holds (s.rotated name) name s.current (s.moved name) ∧
      Holds (s.next (.save name artifact)).dir name s.current (s.moved name) ∧
      load (s.next (.save name artifact)).dir name.modelName name.metricName = some artifact
  | .load name => load s.dir name.modelName name.metricName = s.current name
  | .delete name =>
    Holds (s.next (.delete name)).dir name s.current s.backups ∧
      load (s.next (.delete name)).dir name.modelName name.metricName = none

/-- The file lies directly inside the directory. -/
def Inside (file : FileName) : Prop :=
  '/' ∉ file.toList ∧ file ≠ "" ∧ file ≠ "." ∧ file ≠ ".."

/-- No file of another name, and no backup, is under the name of this one's file. -/
def Apart (s : State σ) (name : Name) : Prop :=
  (∀ other, other ≠ name → s.current other ≠ none → other.file ≠ name.file) ∧
    ∀ row ∈ s.backups, row.1 ≠ name.file

/-! ## File names -/

lemma isSafe_of_mem_replaceUnsafe {inRun : Bool} {cs : List Char} {c : Char}
    (h : c ∈ replaceUnsafe inRun cs) : isSafe c = true := by
  fun_induction replaceUnsafe inRun cs with
  | case1 => exact absurd h List.not_mem_nil
  | case2 _ c' cs hsafe ih =>
    rcases List.mem_cons.mp h with rfl | h
    · exact hsafe
    · exact ih h
  | case3 _ _ _ ih => exact ih h
  | case4 _ _ _ _ _ ih =>
    rcases List.mem_cons.mp h with rfl | h
    · rfl
    · exact ih h

lemma mem_of_mem_stripDots {cs : List Char} {c : Char} (h : c ∈ stripDots cs) : c ∈ cs := by
  have hreverse := List.mem_reverse.mp h
  exact (List.dropWhile_sublist _).subset
    (List.mem_reverse.mp ((List.dropWhile_sublist _).subset hreverse))

lemma mem_of_mem_replaceParents {cs : List Char} {c : Char} (h : c ∈ replaceParents cs) :
    c = '_' ∨ c ∈ cs := by
  fun_induction replaceParents cs with
  | case1 cs ih =>
    rcases List.mem_cons.mp h with rfl | h
    · exact .inl rfl
    · exact (ih h).imp_right fun hmem => List.mem_cons_of_mem _ (List.mem_cons_of_mem _ hmem)
  | case2 c' cs _ ih =>
    rcases List.mem_cons.mp h with rfl | h
    · exact .inr List.mem_cons_self
    · exact (ih h).imp_right (List.mem_cons_of_mem _)
  | case3 => exact absurd h List.not_mem_nil

lemma isSafe_of_mem_sanitize {raw : String} {c : Char}
    (h : c ∈ (sanitizeFilenameComponent raw).toList) : isSafe c = true := by
  rw [sanitizeFilenameComponent, String.toList_ofList] at h
  have hmem := List.mem_of_mem_take h
  split at hmem
  case isTrue =>
    have hunnamed : "unnamed".toList.all isSafe = true := by decide +kernel
    exact List.all_eq_true.mp hunnamed c hmem
  case isFalse =>
    rcases mem_of_mem_replaceParents hmem with rfl | hmem
    · rfl
    · exact isSafe_of_mem_replaceUnsafe (mem_of_mem_stripDots hmem)

lemma isSafe_of_mem_stem {modelName : String} {metric : MetricName} {c : Char}
    (h : c ∈ (stem modelName metric).toList) : isSafe c = true := by
  simp only [stem, String.toList_append, List.mem_append] at h
  rcases h with (h | h) | h
  · exact isSafe_of_mem_sanitize h
  · obtain rfl : c = '_' := by simpa using h
    rfl
  · exact isSafe_of_mem_sanitize h

lemma inside_of_isSafe {file : FileName} (hsafe : ∀ c ∈ file.toList, isSafe c = true)
    (hsuffix : ".joblib".toList <:+ file.toList) : Inside file := by
  have hlength := hsuffix.length_le
  refine ⟨fun h => absurd (hsafe _ h) (by decide), ?_, ?_, ?_⟩ <;> rintro rfl <;>
    exact absurd hlength (by decide)

lemma inside_file (name : Name) : Inside name.file := by
  refine inside_of_isSafe (fun c hc => ?_) ?_
  · simp only [Name.file, filename, String.toList_append, List.mem_append] at hc
    rcases hc with hc | hc
    · exact isSafe_of_mem_stem hc
    · have hjoblib : ".joblib".toList.all isSafe = true := by decide +kernel
      exact List.all_eq_true.mp hjoblib c hc
  · rw [Name.file, filename, String.toList_append]
    exact List.suffix_append _ _

lemma inside_backup (name : Name) (version : Int) : Inside (name.backup version) := by
  refine inside_of_isSafe (fun c hc => ?_) ?_
  · simp only [Name.backup, versionedFilename, String.toList_append, List.mem_append] at hc
    rcases hc with ((hc | hc) | hc) | hc
    · exact isSafe_of_mem_stem hc
    · have hv : "_v".toList.all isSafe = true := by decide +kernel
      exact List.all_eq_true.mp hv c hc
    · rcases Lib.Text.of_mem_toString hc with rfl | hdigit
      · rfl
      · simp [isSafe, Char.isAlphanum, hdigit]
    · have hjoblib : ".joblib".toList.all isSafe = true := by decide +kernel
      exact List.all_eq_true.mp hjoblib c hc
  · rw [Name.backup, versionedFilename, String.toList_append]
    exact List.suffix_append _ _

lemma file_ne_backup (name : Name) (version : Int) : name.file ≠ name.backup version := by
  intro h
  have hlength := congrArg String.length h
  have hv : "_v".length = 2 := by decide
  simp only [Name.file, Name.backup, filename, versionedFilename, String.length_append] at hlength
  omega

/-! ## Versions -/

lemma digits_of_isDigit {cs : List Char} (hcs : ∀ c ∈ cs, c.isDigit = true) (value : ℕ) :
    digits value true cs = some (Nat.ofDigitChars 10 cs value) := by
  induction cs generalizing value with
  | nil => rfl
  | cons c cs ih =>
    obtain ⟨hc, hcs⟩ := List.forall_mem_cons.mp hcs
    rw [digits, if_pos hc, ih hcs, Nat.ofDigitChars_cons, Nat.mul_comm]

lemma digits_toDigits (n : ℕ) : digits 0 false (Nat.toDigits 10 n) = some n := by
  have hdigit : ∀ c ∈ Nat.toDigits 10 n, c.isDigit = true := fun c hc =>
    Nat.isDigit_of_mem_toDigits (by decide) (by decide) hc
  have hvalue : Nat.ofDigitChars 10 (Nat.toDigits 10 n) 0 = n := Nat.ofDigitChars_ten_toDigits
  cases htext : Nat.toDigits 10 n with
  | nil => exact absurd htext Nat.toDigits_ne_nil
  | cons c cs =>
    rw [htext] at hdigit hvalue
    obtain ⟨hc, hcs⟩ := List.forall_mem_cons.mp hdigit
    rw [digits, if_pos hc, digits_of_isDigit hcs, ← hvalue, Nat.ofDigitChars_cons, Nat.mul_comm]

lemma parseInt_toString (version : Int) : parseInt (toString version).toList = some version := by
  rw [Int.toString_eq_repr, Int.repr_eq_if]
  split
  case isTrue h =>
    have hhead : ∀ c cs, Nat.toDigits 10 version.toNat = c :: cs → c.isDigit = true :=
      fun c cs hcons => Nat.isDigit_of_mem_toDigits (by decide) (by decide)
        (hcons ▸ List.mem_cons_self)
    rw [Nat.toList_repr]
    unfold parseInt
    split
    · next hcons => exact absurd (hhead _ _ hcons) (by decide)
    · next hcons => exact absurd (hhead _ _ hcons) (by decide)
    · rw [digits_toDigits, Option.map_some]
      exact congrArg some (Int.toNat_of_nonneg h)
  case isFalse h =>
    have htext : ("-" ++ (-version).toNat.repr).toList =
        '-' :: Nat.toDigits 10 (-version).toNat := by
      rw [String.toList_append, Nat.toList_repr]
      rfl
    rw [htext, parseInt, digits_toDigits]
    exact congrArg some (show -((-version).toNat : Int) = version by omega)

lemma afterLastV_append (pre : List Char) {cs : List Char} (hcs : 'v' ∉ cs) :
    afterLastV (pre ++ '_' :: 'v' :: cs) = some cs := by
  have hnone : cs.tails.filter (fun t => ['_', 'v'].isPrefixOf t) = [] := by
    refine List.filter_eq_nil_iff.mpr fun t ht hbegins => hcs ?_
    exact ((List.mem_tails _ _).mp ht).subset
      ((List.isPrefixOf_iff_prefix.mp hbegins).subset (by simp))
  have hlast : ((pre ++ '_' :: 'v' :: cs).tails.filter
      (fun t => ['_', 'v'].isPrefixOf t)).getLast? = some ('_' :: 'v' :: cs) := by
    induction pre with
    | nil => simp [List.isPrefixOf, hnone]
    | cons c pre ih =>
      rw [List.cons_append, List.tails, List.filter_cons]
      split
      · rw [List.getLast?_cons, ih]
        rfl
      · exact ih
  rw [afterLastV, hlast]
  rfl

lemma versionIn_backup (name : Name) (version : Int) :
    versionIn name.modelName name.metricName (name.backup version) = some version := by
  have hbegins : isBackupOf name.modelName name.metricName (name.backup version) = true :=
    isBackupOf_versioned version
  have hsuffix : ".joblib".toList.isSuffixOf ((name.backup version).toList.drop
      (stem name.modelName name.metricName ++ "_v").length) = true := by
    rw [List.isSuffixOf_iff_suffix, Name.backup, versionedFilename, String.toList_append,
      String.toList_append, List.append_assoc, ← String.length_toList, List.drop_left]
    exact List.suffix_append _ _
  have htext : (name.backup version).toList.take
      ((name.backup version).length - ".joblib".length) =
      (stem name.modelName name.metricName).toList ++ '_' :: 'v' :: (toString version).toList := by
    rw [Name.backup, versionedFilename, String.length_append, Nat.add_sub_cancel,
      String.toList_append, ← String.length_toList, List.take_left]
    simp
  have hv : 'v' ∉ (toString version).toList := fun hmem =>
    (Lib.Text.of_mem_toString hmem).elim (by decide) (by decide)
  rw [versionIn, if_pos (by rw [hbegins, hsuffix]; rfl), htext, afterLastV_append _ hv,
    Option.bind_some, parseInt_toString]

lemma le_foldl_max (versions : List Int) (v : Int) :
    v ≤ versions.foldl max v ∧ ∀ w ∈ versions, w ≤ versions.foldl max v := by
  induction versions generalizing v with
  | nil => simp
  | cons w versions ih =>
    obtain ⟨hmax, hmem⟩ := ih (max v w)
    rw [List.foldl_cons, List.forall_mem_cons]
    exact ⟨(le_max_left v w).trans hmax, (le_max_right v w).trans hmax, hmem⟩

lemma fresh_nextVersion (s : State σ) (name : Name) {row : FileName × σ} (h : row ∈ s.dir) :
    row.1 ≠ name.backup (s.version name) := by
  intro heq
  have hmem : s.version name ∈ s.dir.rows.filterMap
      (fun file => versionIn name.modelName name.metricName file.1) := by
    refine List.mem_filterMap.mpr ⟨row, h, ?_⟩
    rw [heq]
    exact versionIn_backup name _
  have hlt : ∀ v ∈ s.dir.rows.filterMap
      (fun file => versionIn name.modelName name.metricName file.1), v < s.version name := by
    intro v hv
    unfold State.version nextVersion
    split
    case h_1 hnil => exact absurd (hnil ▸ hv) List.not_mem_nil
    case h_2 v' versions hcons =>
      obtain ⟨hmax, hle⟩ := le_foldl_max versions v'
      rw [hcons] at hv
      rcases List.mem_cons.mp hv with rfl | hv
      · exact Int.lt_add_one_of_le hmax
      · exact Int.lt_add_one_of_le (hle v hv)
  exact (hlt _ hmem).false

/-! ## The invariant -/

lemma State.rotated_eq (s : State σ) (name : Name) : s.rotated name =
    match s.dir.find? name.file with
    | none => s.dir
    | some file => (s.dir.erase name.file).put (name.backup (s.version name), file.2) := rfl

/-- The files are those of the current artifacts and the backups, each under its own name. -/
structure Stored (s : State σ) : Prop where
  files : ∀ row, row ∈ s.dir ↔
    (∃ name, s.current name = some row.2 ∧ name.file = row.1) ∨ row ∈ s.backups
  names : ∀ name other, s.current name ≠ none → s.current other ≠ none →
    other.file = name.file → other = name
  backups : ∀ name, s.current name ≠ none → ∀ row ∈ s.backups, row.1 ≠ name.file

lemma stored_empty : Stored (State.empty : State σ) where
  files row := by simp [State.empty]
  names name other h := absurd rfl h
  backups name h := absurd rfl h

section Stored

variable {s : State σ} {name : Name} (h : Stored s)
include h

lemma Stored.apart (hname : s.current name ≠ none) : Apart s name :=
  ⟨fun other hne hother hfile => hne (h.names name other hname hother hfile),
    h.backups name hname⟩

lemma Stored.mem_file (hapart : Apart s name) {row : FileName × σ} (hfile : row.1 = name.file) :
    row ∈ s.dir ↔ s.current name = some row.2 := by
  rw [h.files]
  constructor
  · rintro (⟨other, hother, hrow⟩ | hbackup)
    · by_cases hne : other = name
      · rwa [← hne]
      · exact absurd (hrow.trans hfile) (hapart.1 other hne (by simp [hother]))
    · exact absurd hfile (hapart.2 row hbackup)
  · exact fun hcurrent => .inl ⟨name, hcurrent, hfile.symm⟩

lemma Stored.find?_file (hapart : Apart s name) :
    s.dir.find? name.file = (s.current name).map fun artifact => (name.file, artifact) := by
  ext row
  rw [Lib.Table.find?_eq_some, Option.map_eq_some_iff]
  constructor
  · rintro ⟨hrow, hfile⟩
    exact ⟨row.2, (h.mem_file hapart hfile).mp hrow, Prod.ext hfile.symm rfl⟩
  · rintro ⟨artifact, hcurrent, rfl⟩
    have hfile : ((name.file, artifact) : FileName × σ).1 = name.file := rfl
    exact ⟨(h.mem_file hapart hfile).mpr hcurrent, hfile⟩

lemma Stored.mem_ne (hapart : Apart s name) {row : FileName × σ} :
    row ∈ s.dir ∧ row.1 ≠ name.file ↔
      (∃ other ≠ name, s.current other = some row.2 ∧ other.file = row.1) ∨ row ∈ s.backups := by
  rw [h.files]
  constructor
  · rintro ⟨⟨other, hother, hrow⟩ | hbackup, hfile⟩
    · exact .inl ⟨other, fun heq => hfile (by rw [← hrow, heq]), hother, hrow⟩
    · exact .inr hbackup
  · rintro (⟨other, hne, hother, hrow⟩ | hbackup)
    · exact ⟨.inl ⟨other, hother, hrow⟩,
        hrow ▸ hapart.1 other hne (by simp [hother])⟩
    · exact ⟨.inr hbackup, hapart.2 row hbackup⟩

lemma Stored.mem_rotated (hapart : Apart s name) {row : FileName × σ} :
    row ∈ s.rotated name ↔
      (∃ other ≠ name, s.current other = some row.2 ∧ other.file = row.1) ∨ row ∈ s.moved name := by
  rw [State.rotated_eq, h.find?_file hapart, State.moved]
  cases hcurrent : s.current name with
  | none =>
    rw [← h.mem_ne hapart]
    refine (and_iff_left_of_imp fun hrow hfile => ?_).symm
    exact absurd ((h.mem_file hapart hfile).mp hrow) (by simp [hcurrent])
  | some artifact =>
    have hfresh : ∀ row ∈ s.dir, row.1 ≠ name.backup (s.version name) :=
      fun _ => fresh_nextVersion s name
    simp only [Option.map_some, Lib.Table.mem_put, Lib.Table.mem_erase, List.mem_cons]
    rw [or_left_comm, ← h.mem_ne hapart]
    refine or_congr Iff.rfl (and_iff_left_of_imp fun hrow => ?_)
    exact hfresh row hrow.1

end Stored

/-! ## Calls that are apart -/

section Calls

variable {s : State σ} {name : Name}

lemma mem_moved {row : FileName × σ} (hrow : row ∈ s.moved name) :
    row ∈ s.backups ∨ row.1 = name.backup (s.version name) := by
  unfold State.moved at hrow
  split at hrow
  · exact .inl hrow
  · rcases List.mem_cons.mp hrow with rfl | hrow
    · exact .inr rfl
    · exact .inl hrow

lemma subset_moved : s.backups ⊆ s.moved name := by
  unfold State.moved
  split
  · exact List.Subset.refl _
  · exact List.subset_cons_self _ _

lemma Apart.moved_ne (hapart : Apart s name) {row : FileName × σ} (hrow : row ∈ s.moved name) :
    row.1 ≠ name.file := by
  rcases mem_moved hrow with hold | hnew
  · exact hapart.2 row hold
  · exact fun hfile => file_ne_backup name _ (hfile.symm.trans hnew)

lemma Stored.mem_save (h : Stored s) (hapart : Apart s name) (artifact : σ) {row : FileName × σ} :
    row ∈ (s.next (.save name artifact)).dir ↔
      row = (name.file, artifact) ∨
        (∃ other ≠ name, s.current other = some row.2 ∧ other.file = row.1) ∨
          row ∈ s.moved name := by
  have hput : (s.next (.save name artifact)).dir = (s.rotated name).put (name.file, artifact) := rfl
  have hne : (∃ other ≠ name, s.current other = some row.2 ∧ other.file = row.1) ∨
      row ∈ s.moved name → row.1 ≠ name.file := by
    rintro (⟨other, hne, hother, hrow⟩ | hrow) hfile
    · exact hapart.1 other hne (by simp [hother]) (hrow.trans hfile)
    · exact hapart.moved_ne hrow hfile
  rw [hput, Lib.Table.mem_put, h.mem_rotated hapart]
  exact or_congr Iff.rfl (and_iff_left_of_imp hne)

lemma mem_delete {row : FileName × σ} :
    row ∈ (s.next (.delete name)).dir ↔ row ∈ s.dir ∧ row.1 ≠ name.file := by
  have hdir : (s.next (.delete name)).dir =
      (if s.dir.HasKey name.file then (s.dir.erase name.file, true) else (s.dir, false)).1 := rfl
  rw [hdir]
  split
  case isTrue => exact Lib.Table.mem_erase
  case isFalse hnone =>
    refine (and_iff_left_of_imp fun hrow hfile => hnone ?_).symm
    exact ⟨row, hrow, hfile⟩

lemma exists_update {current : Name → Option σ} {artifact : Option σ} {row : FileName × σ} :
    (∃ other, Function.update current name artifact other = some row.2 ∧ other.file = row.1) ↔
      (artifact = some row.2 ∧ name.file = row.1) ∨
        ∃ other ≠ name, current other = some row.2 ∧ other.file = row.1 := by
  constructor
  · rintro ⟨other, hother, hfile⟩
    by_cases hne : other = name
    · subst hne
      exact .inl ⟨by simpa using hother, hfile⟩
    · exact .inr ⟨other, hne, by simpa [hne] using hother, hfile⟩
  · rintro (⟨hartifact, hfile⟩ | ⟨other, hne, hother, hfile⟩)
    · exact ⟨name, by simpa using hartifact, hfile⟩
    · exact ⟨other, by simpa [hne] using hother, hfile⟩

lemma Stored.names_update (h : Stored s) (hapart : Apart s name) (artifact : Option σ)
    {other other' : Name} (hother : Function.update s.current name artifact other ≠ none)
    (hother' : Function.update s.current name artifact other' ≠ none)
    (hfile : other'.file = other.file) : other' = other := by
  by_cases hne : other = name
  · by_cases hne' : other' = name
    · rw [hne, hne']
    · rw [Function.update_of_ne hne'] at hother'
      exact absurd (hfile.trans (congrArg _ hne)) (hapart.1 other' hne' hother')
  · rw [Function.update_of_ne hne] at hother
    by_cases hne' : other' = name
    · exact absurd (hfile.symm.trans (congrArg _ hne')) (hapart.1 other hne hother)
    · rw [Function.update_of_ne hne'] at hother'
      exact h.names other other' hother hother' hfile

lemma Stored.next_save (h : Stored s) (hapart : Apart s name) (artifact : σ) :
    Stored (s.next (.save name artifact)) where
  files row := by
    have hrow : row = (name.file, artifact) ↔ some artifact = some row.2 ∧ name.file = row.1 := by
      rw [Prod.ext_iff, Option.some_inj, eq_comm (a := row.1), eq_comm (a := row.2), and_comm]
    have hcurrent : (s.next (.save name artifact)).current =
        Function.update s.current name (some artifact) := rfl
    rw [h.mem_save hapart, hcurrent, exists_update, hrow, or_assoc]
    rfl
  names other other' := h.names_update hapart _
  backups other hother row hrow hfile := by
    have hcurrent : Function.update s.current name (some artifact) other ≠ none := hother
    by_cases hne : other = name
    · exact hapart.moved_ne hrow (hfile.trans (congrArg _ hne))
    · rw [Function.update_of_ne hne] at hcurrent
      rcases mem_moved hrow with hold | hnew
      · exact h.backups other hcurrent row hold hfile
      · -- the file of the other name was there before
        obtain ⟨artifact', hartifact⟩ := Option.ne_none_iff_exists'.mp hcurrent
        have hmem : (other.file, artifact') ∈ s.dir :=
          (h.files (other.file, artifact')).mpr (.inl ⟨other, hartifact, rfl⟩)
        exact fresh_nextVersion s name hmem (hfile.symm.trans hnew)

lemma Stored.next_delete (h : Stored s) (hapart : Apart s name) :
    Stored (s.next (.delete name)) where
  files row := by
    have hcurrent : (s.next (.delete name : Call σ)).current =
        Function.update s.current name none := rfl
    rw [mem_delete, h.mem_ne hapart, hcurrent, exists_update]
    simp [State.next]
  names other other' := h.names_update hapart _
  backups other hother row hrow := by
    have hcurrent : Function.update s.current name none other ≠ none := hother
    by_cases hne : other = name
    · exact absurd (by rw [hne, Function.update_self]) hcurrent
    · rw [Function.update_of_ne hne] at hcurrent
      exact h.backups other hcurrent row hrow

lemma Stored.next (h : Stored s) (call : Call σ) (hapart : Apart s call.name) :
    Stored (s.next call) := by
  cases call with
  | save name artifact => exact h.next_save hapart artifact
  | load name => exact h
  | delete name => exact h.next_delete hapart

lemma apart_of_holds {dir : Directory σ} (hholds : Holds dir name s.current s.backups)
    (hdir : ∀ row ∈ dir, row.1 ≠ name.file) : Apart s name := by
  refine ⟨fun other hne hother => ?_, fun row hrow => hdir row (hholds.backups row hrow)⟩
  obtain ⟨artifact, hartifact⟩ := Option.ne_none_iff_exists'.mp hother
  exact hdir (other.file, artifact) (hholds.others other artifact hne hartifact)

lemma rotated_ne {row : FileName × σ} (hrow : row ∈ s.rotated name) : row.1 ≠ name.file := by
  rw [State.rotated_eq] at hrow
  split at hrow
  · next hnone => exact Lib.Table.find?_eq_none.mp hnone row hrow
  · rcases Lib.Table.mem_put.mp hrow with rfl | ⟨hmem, -⟩
    · exact (file_ne_backup name _).symm
    · exact (Lib.Table.mem_erase.mp hmem).2

lemma load_eq : load s.dir name.modelName name.metricName =
    (s.dir.find? name.file).map Prod.snd := rfl

lemma Stored.lawful_save_iff (h : Stored s) (artifact : σ) :
    Lawful s (.save name artifact) ↔ Apart s name := by
  constructor
  · rintro ⟨hholds, -, -⟩
    exact apart_of_holds ⟨hholds.others, fun row hrow => hholds.backups row (subset_moved hrow)⟩
      fun _ => rotated_ne
  · intro hapart
    refine ⟨⟨fun other artifact' hne hother => ?_, fun row hrow => ?_⟩,
      ⟨fun other artifact' hne hother => ?_, fun row hrow => ?_⟩, ?_⟩
    · exact (h.mem_rotated hapart).mpr (.inl ⟨other, hne, hother, rfl⟩)
    · exact (h.mem_rotated hapart).mpr (.inr hrow)
    · exact (h.mem_save hapart artifact).mpr (.inr (.inl ⟨other, hne, hother, rfl⟩))
    · exact (h.mem_save hapart artifact).mpr (.inr (.inr hrow))
    · have hput : (s.next (.save name artifact)).dir =
        (s.rotated name).put (name.file, artifact) := rfl
      rw [load_eq, hput, Lib.Table.find?_put, if_pos rfl]
      rfl

lemma Stored.lawful_load_iff (h : Stored s) : Lawful s (.load name) ↔ Apart s name := by
  have hlawful : Lawful s (.load name) ↔ load s.dir name.modelName name.metricName =
      s.current name := Iff.rfl
  rw [hlawful, load_eq]
  constructor
  · intro hload
    by_cases hcurrent : s.current name = none
    case neg => exact h.apart hcurrent
    rw [hcurrent, Option.map_eq_none_iff] at hload
    refine apart_of_holds ⟨fun other artifact hne hother => ?_, fun row hrow => ?_⟩
      (Lib.Table.find?_eq_none.mp hload)
    · exact (h.files (other.file, artifact)).mpr (.inl ⟨other, hother, rfl⟩)
    · exact (h.files row).mpr (.inr hrow)
  · intro hapart
    rw [h.find?_file hapart, Option.map_map]
    exact Option.map_id'

lemma Stored.lawful_delete_iff (h : Stored s) : Lawful s (.delete name) ↔ Apart s name := by
  constructor
  · rintro ⟨hholds, -⟩
    exact apart_of_holds hholds fun row hrow => (mem_delete.mp hrow).2
  · intro hapart
    refine ⟨⟨fun other artifact hne hother => ?_, fun row hrow => ?_⟩, ?_⟩
    · exact mem_delete.mpr ((h.mem_ne hapart).mpr (.inl ⟨other, hne, hother, rfl⟩))
    · exact mem_delete.mpr ((h.mem_ne hapart).mpr (.inr hrow))
    · rw [load_eq, Lib.Table.find?_eq_none.mpr fun row hrow => (mem_delete.mp hrow).2]
      rfl

lemma Stored.lawful_call_iff (h : Stored s) (call : Call σ) :
    Lawful s call ↔ Apart s call.name := by
  cases call with
  | save name artifact => exact h.lawful_save_iff artifact
  | load name => exact h.lawful_load_iff
  | delete name => exact h.lawful_delete_iff

end Calls

/-- The store is a map exactly in the runs whose calls are all apart from what is stored. -/
theorem map_iff_apart (calls : List (Call σ)) :
    (Lib.Allowed State.next Lawful State.empty calls ∧
      ∀ name : Name, Inside name.file ∧ ∀ version, Inside (name.backup version)) ↔
        Lib.Allowed State.next (fun s call => Apart s call.name) State.empty calls := by
  have hruns : Lib.Allowed State.next (fun s call => Apart s call.name) State.empty calls ↔
      Lib.Allowed State.next Lawful State.empty calls :=
    Lib.allowed_iff_allowed (I := Stored) (fun _ call h hapart => h.next call hapart)
      (fun _ call h => (h.lawful_call_iff call).symm) stored_empty
  rw [hruns]
  exact and_iff_left fun name => ⟨inside_file name, inside_backup name⟩

/-- The first backup of `cpu` is loaded as `cpu_v1`. -/
def backupLoaded : List (Call ℕ) :=
  [.save ⟨"linear", "cpu"⟩ 1, .save ⟨"linear", "cpu"⟩ 2, .load ⟨"linear", "cpu_v1"⟩]

/-- What is saved for `a/b` is loaded for `a_b`. -/
def otherLoaded : List (Call ℕ) := [.save ⟨"linear", "a/b"⟩ 1, .load ⟨"linear", "a_b"⟩]

theorem not_map : ¬ Lib.Allowed State.next Lawful State.empty backupLoaded ∧
    ¬ Lib.Allowed State.next Lawful State.empty otherLoaded := by
  constructor
  · rintro ⟨-, -, hload, -⟩
    revert hload
    show ¬ load _ _ _ = _
    decide +kernel
  · rintro ⟨-, hload, -⟩
    revert hload
    show ¬ load _ _ _ = _
    decide +kernel

end Paryty.Intelligence.ModelMap

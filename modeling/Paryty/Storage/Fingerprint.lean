import Paryty.Storage.ILPLineTheorems

/-!
# Fingerprints of alerts

`Fingerprint` of `cluster/internal/storage/hot/alert_ops.go`: an alert's name, its labels by key and
its severity are written one after another into a hash. `preimage` is what is written.

No lengths are written and no marks are escaped, so a text can be taken apart in other ways.
`unshared_iff` says which alerts are the only one with their text.
-/

namespace Paryty.Storage.Fingerprint

open Lib (Bytes utf8)
open ILPLine (sortStrings comma equals)

/-! ## The code -/

/-- `Labels`, a map. -/
abbrev Labels := Lib.Table (Bytes × Bytes) Bytes Prod.fst

/-- The parts of `models.Alert` that go into the fingerprint. -/
structure Alert where
  name : Bytes
  severity : Bytes
  labels : Labels

/-- `Fingerprint`: the loop over the sorted keys. -/
def writeLabels (labels : Labels) : Bytes :=
  (sortStrings (labels.rows.map Prod.fst)).flatMap fun k =>
    k ++ equals :: (((labels.find? k).map Prod.snd).getD [] ++ [comma])

/-- `Fingerprint`: what is passed to the hash. -/
def preimage (alert : Alert) : Bytes :=
  alert.name ++ (if alert.labels.rows.length > 0 then writeLabels alert.labels else []) ++
    alert.severity

/-- The constants of `AlertSeverity`. -/
def severities : List Bytes := [utf8 "info", utf8 "warning", utf8 "error", utf8 "critical"]

/-! ## Alerts that share their text -/

/-- The same name, the same severity and the same map. -/
structure Alert.Same (a b : Alert) : Prop where
  name : a.name = b.name
  severity : a.severity = b.severity
  labels : ∀ k, a.labels.find? k = b.labels.find? k

/-- No other alert, of those whose severity is admitted, has the text of this one. -/
def Alert.Unshared (admitted : Bytes → Prop) (a : Alert) : Prop :=
  ∀ b : Alert, admitted b.severity → preimage a = preimage b → a.Same b

/-- A name that can be read as the text of a label: it ends in a comma, with an equals sign
before. -/
def LooksLabelled (name : Bytes) : Prop := ∃ text, name = text ++ [comma] ∧ equals ∈ text

variable {a b : Alert} {labels : Labels} {k v name severity : Bytes}

lemma preimage_eq (a : Alert) :
    preimage a = a.name ++ (writeLabels a.labels ++ a.severity) := by
  unfold preimage
  split
  case isTrue => rw [List.append_assoc]
  case isFalse hnone =>
    have hrows : a.labels.rows = [] := by simpa using hnone
    simp [writeLabels, hrows, sortStrings]

lemma writeLabels_of_rows (h : labels.rows = []) : writeLabels labels = [] := by
  simp [writeLabels, h, sortStrings]

lemma looksLabelled_writeLabels (h : labels.rows ≠ []) : LooksLabelled (writeLabels labels) := by
  have hkeys : sortStrings (labels.rows.map Prod.fst) ≠ [] := by
    rw [sortStrings, ← List.length_pos_iff, List.length_insertionSort, List.length_map]
    exact List.length_pos_iff.mpr h
  obtain ⟨keys, k, hlast⟩ : ∃ keys k, sortStrings (labels.rows.map Prod.fst) = keys ++ [k] :=
    ⟨_, _, (List.dropLast_append_getLast hkeys).symm⟩
  unfold writeLabels LooksLabelled
  rw [hlast, List.flatMap_append]
  refine ⟨(keys.flatMap fun k =>
    k ++ equals :: (((labels.find? k).map Prod.snd).getD [] ++ [comma])) ++
      (k ++ equals :: ((labels.find? k).map Prod.snd).getD []), ?_, ?_⟩
  · simp
  · simp

lemma LooksLabelled.append (h : LooksLabelled name) (before : Bytes) :
    LooksLabelled (before ++ name) := by
  obtain ⟨text, rfl, hequals⟩ := h
  exact ⟨before ++ text, by rw [List.append_assoc], List.mem_append_right _ hequals⟩

/-- The alert without labels. -/
def plain (name severity : Bytes) : Alert := ⟨name, severity, .empty⟩

lemma preimage_plain : preimage (plain name severity) = name ++ severity := by
  rw [preimage_eq, plain, writeLabels_of_rows rfl, List.nil_append]

/-- The alert with one label. -/
def single (name severity k v : Bytes) : Alert := ⟨name, severity, Lib.Table.empty.put (k, v)⟩

lemma preimage_single :
    preimage (single name severity k v) = name ++ (k ++ equals :: (v ++ [comma]) ++ severity) := by
  have hfind : (Lib.Table.empty.put (k, v) : Labels).find? k = some (k, v) := by
    simp [Lib.Table.find?_put]
  have hrows : (single name severity k v).labels.rows = [(k, v)] :=
    Lib.Table.rows_put_of_fresh (Lib.Table.not_hasKey_empty k)
  rw [preimage_eq, writeLabels, hrows]
  simp [sortStrings, hfind, single]

lemma rows_of_same_plain (h : a.Same (plain name severity)) : a.labels.rows = [] := by
  refine List.eq_nil_iff_forall_not_mem.mpr fun row hrow => ?_
  have hnone : a.labels.find? row.1 = none := h.labels row.1
  exact Lib.Table.find?_eq_none.mp hnone row hrow rfl

lemma same_of_rows (ha : a.labels.rows = []) (hb : b.labels.rows = []) (hname : a.name = b.name)
    (hseverity : a.severity = b.severity) : a.Same b :=
  ⟨hname, hseverity, fun k => by rw [Lib.Table.find?, Lib.Table.find?, ha, hb]⟩

/-! ## Which alerts do not -/

/-- With any severity: only the alert that has nothing. -/
theorem unshared_any_iff : a.Unshared (fun _ => True) ↔
    a.name = [] ∧ a.labels.rows = [] ∧ a.severity = [] := by
  constructor
  · intro h
    have hname := h (plain [] (preimage a)) trivial (by rw [preimage_plain, List.nil_append])
    have hseverity := h (plain (preimage a) []) trivial (by rw [preimage_plain, List.append_nil])
    exact ⟨hname.name, rows_of_same_plain hname, hseverity.severity⟩
  · rintro ⟨hname, hrows, hseverity⟩ b - h
    rw [preimage_eq, preimage_eq, hname, writeLabels_of_rows hrows, hseverity] at h
    obtain ⟨hname', hrest⟩ := List.append_eq_nil_iff.mp h.symm
    obtain ⟨hlabels', hseverity'⟩ := List.append_eq_nil_iff.mp hrest
    have hrows' : b.labels.rows = [] := by
      by_contra hne
      obtain ⟨text, htext, -⟩ := looksLabelled_writeLabels hne
      rw [hlabels'] at htext
      exact absurd htext (by simp)
    exact same_of_rows hrows hrows' (hname.trans hname'.symm) (hseverity.trans hseverity'.symm)

lemma severity_of_suffix : ∀ s ∈ severities, ∀ s' ∈ severities, s <:+ s' → s = s' := by decide

lemma severity_of_append {x x' s s' : Bytes} (hs : s ∈ severities) (hs' : s' ∈ severities)
    (h : x ++ s = x' ++ s') : s = s' := by
  have hsuffix : s <:+ x' ++ s' := ⟨x, h⟩
  rcases List.suffix_or_suffix_of_suffix hsuffix (List.suffix_append x' s') with h | h
  · exact severity_of_suffix s hs s' hs' h
  · exact (severity_of_suffix s' hs' s hs h).symm

/-- With the severities that the code declares: the alerts without labels whose name cannot be read
as the text of one. -/
theorem unshared_declared_iff (ha : a.severity ∈ severities) :
    a.Unshared (· ∈ severities) ↔ a.labels.rows = [] ∧ ¬ LooksLabelled a.name := by
  constructor
  · intro h
    have hplain := h (plain (a.name ++ writeLabels a.labels) a.severity) ha (by
      rw [preimage_plain, preimage_eq, List.append_assoc])
    have hrows := rows_of_same_plain hplain
    refine ⟨hrows, ?_⟩
    rintro ⟨text, hname, hequals⟩
    obtain ⟨k, v, rfl⟩ := List.append_of_mem hequals
    have hsingle := h (single [] a.severity k v) ha (by
      rw [preimage_single, preimage_eq, writeLabels_of_rows hrows, hname]
      simp)
    have hempty := hsingle.name
    rw [hname] at hempty
    exact absurd hempty (by simp [single])
  · rintro ⟨hrows, hname⟩ b hb h
    rw [preimage_eq, preimage_eq, writeLabels_of_rows hrows, List.nil_append,
      ← List.append_assoc] at h
    have hseverity : a.severity = b.severity := severity_of_append ha hb h
    rw [hseverity] at h
    have hnames : a.name = b.name ++ writeLabels b.labels := List.append_cancel_right h
    have hrows' : b.labels.rows = [] := by
      by_contra hne
      exact hname (hnames ▸ (looksLabelled_writeLabels hne).append b.name)
    rw [writeLabels_of_rows hrows', List.append_nil] at hnames
    exact same_of_rows hrows hrows' hnames hseverity

/-- Only the alert that has nothing is the only one with its text; with the severities that the
code declares, those are without labels whose name cannot be read as the text of one. -/
theorem unshared_iff (a : Alert) :
    (a.Unshared (fun _ => True) ↔ a.name = [] ∧ a.labels.rows = [] ∧ a.severity = []) ∧
      (a.severity ∈ severities →
        (a.Unshared (· ∈ severities) ↔ a.labels.rows = [] ∧ ¬ LooksLabelled a.name)) :=
  ⟨unshared_any_iff, unshared_declared_iff⟩

theorem unshared_disk : (plain (utf8 "disk") (utf8 "critical")).Unshared (· ∈ severities) := by
  refine ((unshared_iff (plain (utf8 "disk") (utf8 "critical"))).2 (by decide)).mpr ⟨rfl, ?_⟩
  rintro ⟨text, hname, -⟩
  have hlast : (utf8 "disk").getLast? = some comma := by
    rw [show utf8 "disk" = text ++ [comma] from hname, List.getLast?_concat]
  revert hlast
  decide

/-- The labels of a disk. -/
def diskLabels : Labels :=
  (Lib.Table.empty.put (utf8 "mount", utf8 "b")).put (utf8 "path", utf8 "a")

/-- The two labels of one disk are read as one label of another. -/
theorem shared_disks :
    ¬ ∀ a b : Alert, preimage a = preimage b → a.Same b := by
  intro h
  have htext : preimage ⟨utf8 "disk", utf8 "critical", diskLabels⟩ =
      preimage (single (utf8 "disk") (utf8 "critical") (utf8 "mount") (utf8 "b,path=a")) := by
    decide +kernel
  have hpath := (h _ _ htext).labels (utf8 "path")
  revert hpath
  decide +kernel

end Paryty.Storage.Fingerprint

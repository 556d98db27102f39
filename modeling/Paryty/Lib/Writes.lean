import Paryty.Lib.Interleaving

/-!
# What a program writes

`Prog.writes` is the row writes of a program that runs alone, in the order in which they take
effect; those of a transaction that is rolled back are not among them. `execAlone_eq_writes` says
that the store after the program is the store before it with these writes performed.

`Throughout` is a property of every write in the store it is performed in. Writes that lock
different rows do not meet, so among such it is enough to look at the store before all of them
(`throughout_of_nodup`).
-/

namespace Lib

variable {q : Type → Type} {ρ ρ' σ w κ : Type} {E : Engine q σ w κ}

namespace Prog

/-- The row writes of a program, from a store and a transaction state. -/
@[grind =]
def writes (E : Engine q σ w κ) : Prog q ρ → σ → Tx w → List w
  | ret _, _, _ => []
  | stmt s k, store, .idle =>
    match E.run s store store with
    | none => writes E (k none) store .idle
    | some (answer, made) =>
      made ++ writes E (k (some answer)) (made.foldl E.apply store) .idle
  | stmt s k, store, .active pending =>
    match E.run s (pending.foldl E.apply store) (pending.foldl E.apply store) with
    | none => writes E (k none) store .aborted
    | some (answer, made) => writes E (k (some answer)) store (.active (pending ++ made))
  | stmt _ k, store, .aborted => writes E (k none) store .aborted
  | begin k, store, _ => writes E k store (.active [])
  | commit k, store, .active pending =>
    pending ++ writes E (k true) (pending.foldl E.apply store) .idle
  | commit k, store, _ => writes E (k false) store .idle

/-- The transaction state of a program that runs alone. -/
def Solo.of (E : Engine q σ w κ) (store : σ) : Tx w → Solo σ
  | .idle => .idle
  | .active pending => .active (pending.foldl E.apply store)
  | .aborted => .aborted

lemma exec_eq_writes (p : Prog q ρ) (store : σ) (tx : Tx w) :
    (exec E p store (Solo.of E store tx)).2 = (writes E p store tx).foldl E.apply store := by
  induction p generalizing store tx with
  | ret r => rfl
  | stmt s k ih =>
    cases tx with
    | idle =>
      simp only [Solo.of, exec, writes, effect]
      cases E.run s store store with
      | none => exact ih none store .idle
      | some result =>
        rw [List.foldl_append]
        exact ih (some result.1) (result.2.foldl E.apply store) .idle
    | active pending =>
      simp only [Solo.of, exec, writes, effect]
      cases E.run s (pending.foldl E.apply store) (pending.foldl E.apply store) with
      | none => exact ih none store .aborted
      | some result =>
        have happend : (pending ++ result.2).foldl E.apply store =
            result.2.foldl E.apply (pending.foldl E.apply store) := List.foldl_append
        have hih := ih (some result.1) store (.active (pending ++ result.2))
        rw [Solo.of, happend] at hih
        exact hih
    | aborted => exact ih none store .aborted
  | begin k ih => exact ih store (.active [])
  | commit k ih =>
    cases tx with
    | idle => exact ih false store .idle
    | active pending =>
      simp only [Solo.of, exec, writes]
      rw [List.foldl_append]
      exact ih true (pending.foldl E.apply store) .idle
    | aborted => exact ih false store .idle

/-- A program that runs alone performs its writes. -/
theorem execAlone_eq_writes (p : Prog q ρ) (store : σ) :
    (execAlone E p store).2 = (writes E p store .idle).foldl E.apply store :=
  exec_eq_writes p store .idle

lemma writes_map (p : Prog q ρ) (f : ρ → ρ') (store : σ) (tx : Tx w) :
    writes E (p >>= fun r => pure (f r)) store tx = writes E p store tx := by
  change writes E (bind p fun r => ret (f r)) store tx = _
  induction p generalizing store tx with
  | ret r => rfl
  | stmt s k ih =>
    cases tx with
    | idle =>
      simp only [bind, writes]
      cases E.run s store store with
      | none => exact ih none _ _
      | some result => exact congrArg _ (ih (some result.1) _ _)
    | active pending =>
      simp only [bind, writes]
      cases E.run s (pending.foldl E.apply store) (pending.foldl E.apply store) with
      | none => exact ih none _ _
      | some result => exact ih (some result.1) _ _
    | aborted => exact ih none _ _
  | begin k ih => exact ih _ _
  | commit k ih =>
    cases tx with
    | idle => exact ih false _ _
    | active pending => exact congrArg _ (ih true _ _)
    | aborted => exact ih false _ _

/-! ## Statement by statement -/

section Steps

variable {β : Type} {s : q β} {k : Option β → Prog q ρ} {store : σ} {pending made : List w}
  {answer : β}

lemma writes_stmt_idle (h : E.run s store store = some (answer, made)) :
    writes E (stmt s k) store .idle =
      made ++ writes E (k (some answer)) (made.foldl E.apply store) .idle := by
  simp only [writes, h]

lemma writes_stmt_failed (h : E.run s store store = none) :
    writes E (stmt s k) store .idle = writes E (k none) store .idle := by
  simp only [writes, h]

lemma writes_stmt_active (h : E.run s (pending.foldl E.apply store)
    (pending.foldl E.apply store) = some (answer, made)) :
    writes E (stmt s k) store (.active pending) =
      writes E (k (some answer)) store (.active (pending ++ made)) := by
  simp only [writes, h]

lemma writes_stmt_aborts (h : E.run s (pending.foldl E.apply store)
    (pending.foldl E.apply store) = none) :
    writes E (stmt s k) store (.active pending) = writes E (k none) store .aborted := by
  simp only [writes, h]

end Steps

end Prog

/-! ## Properties of writes -/

section Throughout

variable {P : σ → w → Prop}

/-- Every write has the property in the store in which it is performed. -/
def Throughout (E : Engine q σ w κ) (P : σ → w → Prop) : σ → List w → Prop
  | _, [] => True
  | store, write :: writes => P store write ∧ Throughout E P (E.apply store write) writes

lemma throughout_append {store : σ} {writes writes' : List w} :
    Throughout E P store (writes ++ writes') ↔
      Throughout E P store writes ∧ Throughout E P (writes.foldl E.apply store) writes' := by
  induction writes generalizing store with
  | nil => simp [Throughout]
  | cons write writes ih => simp [Throughout, ih, and_assoc]

lemma throughout_of_nodup
    (hlocal : ∀ store write write', E.locks write ≠ E.locks write' →
      (P (E.apply store write') write ↔ P store write))
    {store : σ} {writes : List w} (hnodup : (writes.map E.locks).Nodup) :
    Throughout E P store writes ↔ ∀ write ∈ writes, P store write := by
  induction writes generalizing store with
  | nil => simp [Throughout]
  | cons write writes ih =>
    rw [List.map_cons, List.nodup_cons] at hnodup
    obtain ⟨hnew, hrest⟩ := hnodup
    rw [Throughout, ih hrest, List.forall_mem_cons]
    refine and_congr_right fun _ => forall₂_congr fun write' hwrite' => ?_
    refine hlocal store write' write fun heq => hnew ?_
    exact heq ▸ List.mem_map_of_mem hwrite'

lemma Throughout.keeps {J : σ → Prop} (hkeeps : ∀ store write, P store write → J store →
    J (E.apply store write)) {store : σ} {writes : List w} (h : Throughout E P store writes)
    (hJ : J store) : J (writes.foldl E.apply store) := by
  induction writes generalizing store with
  | nil => exact hJ
  | cons write writes ih => exact ih h.2 (hkeeps store write h.1 hJ)

/-- The writes of a program have the property if those of each of its statements do, in every
store that satisfies what such writes keep. -/
theorem throughout_of_all {J : σ → Prop} {R : {β : Type} → Bool → q β → Prop}
    (hkeeps : ∀ store write, P store write → J store → J (E.apply store write))
    (hstmt : ∀ {β : Type} {inTx : Bool} (s : q β), R inTx s → ∀ store, J store →
      ∀ answer made, E.run s store store = some (answer, made) → Throughout E P store made)
    {p : Prog q ρ} {inTx : Bool} (hall : p.All R inTx) {store : σ} (hJ : J store) {tx : Tx w}
    (htx : Throughout E P store tx.pending) : Throughout E P store (p.writes E store tx) := by
  induction p generalizing store tx inTx with
  | ret r => trivial
  | stmt s k ih =>
    obtain ⟨hs, hrest⟩ := hall
    cases tx with
    | idle =>
      cases hrun : E.run s store store with
      | none =>
        rw [Prog.writes_stmt_failed hrun]
        exact ih none (hrest none) hJ trivial
      | some result =>
        have hmade := hstmt s hs store hJ result.1 result.2 hrun
        rw [Prog.writes_stmt_idle hrun, throughout_append]
        exact ⟨hmade, ih (some result.1) (hrest _) (hmade.keeps hkeeps hJ) trivial⟩
    | active pending =>
      have hown : J (pending.foldl E.apply store) := Throughout.keeps hkeeps htx hJ
      cases hrun : E.run s (pending.foldl E.apply store) (pending.foldl E.apply store) with
      | none =>
        rw [Prog.writes_stmt_aborts hrun]
        exact ih none (hrest none) hJ trivial
      | some result =>
        have hmade := hstmt s hs _ hown result.1 result.2 hrun
        rw [Prog.writes_stmt_active hrun]
        exact ih (some result.1) (hrest _) hJ (throughout_append.mpr ⟨htx, hmade⟩)
    | aborted => exact ih none (hrest none) hJ trivial
  | begin k ih => exact ih hall hJ trivial
  | commit k ih =>
    cases tx with
    | idle => exact ih false (hall false) hJ trivial
    | active pending =>
      refine throughout_append.mpr ⟨htx, ?_⟩
      exact ih true (hall true) (Throughout.keeps hkeeps htx hJ) trivial
    | aborted => exact ih false (hall false) hJ trivial

end Throughout

/-! ## A part of a larger store -/

section Part

variable {q' : Type → Type} {σ' w' κ' : Type} {E' : Engine q' σ' w' κ'}

/-- The same program over other statements. -/
def Prog.embed (f : {β : Type} → q β → q' β) : Prog q ρ → Prog q' ρ
  | ret r => ret r
  | stmt s k => stmt (f s) (fun answer => embed f (k answer))
  | begin k => begin (embed f k)
  | commit k => commit (fun ok => embed f (k ok))

lemma Prog.All.embed {R : {β : Type} → Bool → q' β → Prop} {f : {β : Type} → q β → q' β}
    {p : Prog q ρ} {inTx : Bool} (h : p.All (fun {_} inTx s => R inTx (f s)) inTx) :
    (p.embed f).All R inTx := by
  induction p generalizing inTx with
  | ret r => trivial
  | stmt s k ih => exact ⟨h.1, fun answer => ih answer (h.2 answer)⟩
  | begin k ih => exact ih h
  | commit k ih => exact fun ok => ih ok (h ok)

/-- An engine that serves a part of the store of another. -/
structure Engine.Part (E : Engine q σ w κ) (E' : Engine q' σ' w' κ') where
  stmt : {β : Type} → q β → q' β
  write : w → w'
  view : σ' → σ
  run_stmt : ∀ {β : Type} (s : q β) (snapshot current : σ'), E'.run (stmt s) snapshot current =
    (E.run s (view snapshot) (view current)).map (fun result => (result.1, result.2.map write))
  view_apply : ∀ store x, view (E'.apply store (write x)) = E.apply (view store) x

variable (part : Engine.Part E E')

lemma Engine.Part.view_foldl (writes : List w) (store : σ') :
    part.view ((writes.map part.write).foldl E'.apply store) =
      writes.foldl E.apply (part.view store) := by
  induction writes generalizing store with
  | nil => rfl
  | cons x writes ih =>
    rw [List.map_cons, List.foldl_cons, ih, part.view_apply, List.foldl_cons]

/-- The transaction state of an embedded program. -/
def Tx.map (f : w → w') : Tx w → Tx w'
  | idle => idle
  | active pending => active (pending.map f)
  | aborted => aborted

/-- An embedded program writes what the program writes, on its part. -/
theorem Prog.writes_embed (p : Prog q ρ) (store : σ') (tx : Tx w) :
    (p.embed part.stmt).writes E' store (tx.map part.write) =
      (p.writes E (part.view store) tx).map part.write := by
  induction p generalizing store tx with
  | ret r => rfl
  | stmt s k ih =>
    cases tx with
    | idle =>
      simp only [embed, writes, Tx.map, part.run_stmt]
      cases E.run s (part.view store) (part.view store) with
      | none => exact ih none store .idle
      | some result =>
        simp only [Option.map_some, List.map_append, ← part.view_foldl]
        exact congrArg _ (ih (some result.1) _ .idle)
    | active pending =>
      simp only [embed, writes, Tx.map, part.run_stmt, part.view_foldl]
      cases E.run s (pending.foldl E.apply (part.view store))
          (pending.foldl E.apply (part.view store)) with
      | none => exact ih none store .aborted
      | some result =>
        simp only [Option.map_some, ← List.map_append]
        exact ih (some result.1) store (.active (pending ++ result.2))
    | aborted => exact ih none store .aborted
  | begin k ih => exact ih store (.active [])
  | commit k ih =>
    cases tx with
    | idle => exact ih false store .idle
    | active pending =>
      simp only [embed, writes, Tx.map, List.map_append, ← part.view_foldl]
      exact congrArg _ (ih true _ .idle)
    | aborted => exact ih false store .idle

lemma throughout_map {P : σ → w → Prop} {P' : σ' → w' → Prop}
    (h : ∀ store x, P' store (part.write x) ↔ P (part.view store) x) {store : σ'}
    {writes : List w} : Throughout E' P' store (writes.map part.write) ↔
      Throughout E P (part.view store) writes := by
  induction writes generalizing store with
  | nil => rfl
  | cons x writes ih =>
    rw [List.map_cons, Throughout, Throughout, ih, part.view_apply, h]

end Part

end Lib

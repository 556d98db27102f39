import Mathlib.Logic.Function.Basic
import Paryty.Lib.Transaction

/-!
# Interleaved database sessions

A server runs many sessions at once, each a `Prog`. Between any two actions of one session any
number of actions of others can happen.

* A statement is issued, which fixes its snapshot, and answered later, when no other session
  holds a lock on a row it writes. Inside a transaction its writes stay pending and keep their
  rows locked until the transaction ends.
* `fail` is whatever makes a statement or a commit fail: a lost connection, a deadlock, a
  cancelled request.

`Prog.Safe` is the rely-guarantee side of the machine: a family of store properties is kept by
everything the program can write. A store property that all open sessions keep holds for as
long as they run (`Session.Safe.act`).
-/

namespace Lib

/-- Where a session stands: outside a transaction, inside one with the writes made so far, or
inside one that a failed statement aborted. -/
inductive Tx (w : Type)
  | idle
  | active (pending : List w)
  | aborted

/-- The writes that wait for the commit. -/
def Tx.pending {w : Type} : Tx w → List w
  | active pending => pending
  | _ => []

/-- A session: the call it serves, what is left of its program, its transaction, and the
snapshot of the statement under way. -/
structure Session (q : Type → Type) (ρ c σ w : Type) where
  call : c
  prog : Prog q ρ
  tx : Tx w := .idle
  snapshot : Option σ := none

/-- The actions of a session; `control` is the next transaction command. -/
inductive Act
  | issue
  | answer
  | fail
  | control
deriving DecidableEq

namespace Session

variable {q : Type → Type} {ρ c σ w κ : Type} (E : Engine q σ w κ)

/-- The store as the session sees it. -/
def view (sess : Session q ρ c σ w) (store : σ) : σ := sess.tx.pending.foldl E.apply store

/-- The transaction state after a failed statement. -/
def abortedTx : Tx w → Tx w
  | .idle => .idle
  | _ => .aborted

/-- An action of a session: the session and the store after it, and the writes it makes. -/
def act (sess : Session q ρ c σ w) (store : σ) : Act →
    Option (Session q ρ c σ w × σ × List w)
  | .issue =>
    match sess.prog, sess.snapshot with
    | .stmt _ _, none => some ({ sess with snapshot := some (sess.view E store) }, store, [])
    | _, _ => none
  | .answer =>
    match sess.prog, sess.snapshot, sess.tx with
    | .stmt _ k, some _, .aborted =>
      some ({ sess with prog := k none, snapshot := none }, store, [])
    | .stmt s k, some snapshot, tx =>
      match E.run s snapshot (sess.view E store), tx with
      | none, tx =>
        some ({ sess with prog := k none, tx := abortedTx tx, snapshot := none }, store, [])
      | some (answer, writes), .active pending =>
        some ({ sess with
          prog := k (some answer)
          tx := .active (pending ++ writes)
          snapshot := none }, store, writes)
      | some (answer, writes), _ =>
        some ({ sess with prog := k (some answer), snapshot := none },
          writes.foldl E.apply store, writes)
    | _, _, _ => none
  | .fail =>
    match sess.prog with
    | .stmt _ k =>
      some ({ sess with prog := k none, tx := abortedTx sess.tx, snapshot := none }, store, [])
    | .commit k => some ({ sess with prog := k false, tx := .idle }, store, [])
    | _ => none
  | .control =>
    match sess.prog, sess.tx with
    | .begin k, _ => some ({ sess with prog := k, tx := .active [] }, store, [])
    | .commit k, .active pending =>
      some ({ sess with prog := k true, tx := .idle }, pending.foldl E.apply store, [])
    | .commit k, _ => some ({ sess with prog := k false, tx := .idle }, store, [])
    | _, _ => none

end Session

/-! ## The server -/

lemma eq_of_update {ι α : Type*} [DecidableEq ι] {f : ι → Option α} {i j : ι} {new : Option α}
    {x : α} (h : Function.update f i new j = some x) :
    (j = i ∧ new = some x) ∨ (j ≠ i ∧ f j = some x) := by
  by_cases hj : j = i
  · subst hj
    rw [Function.update_self] at h
    exact .inl ⟨rfl, h⟩
  · rw [Function.update_of_ne hj] at h
    exact .inr ⟨hj, h⟩

/-- The store, the open sessions and the row locks they hold. -/
structure Server (ι : Type) (q : Type → Type) (ρ c σ w κ : Type) where
  store : σ
  sessions : ι → Option (Session q ρ c σ w)
  locks : List (ι × κ)

/-- What can happen next: a call opens a session, a session acts, a session that has returned
closes. -/
inductive ServerEvent (ι c : Type)
  | call (i : ι) (call : c)
  | act (i : ι) (a : Act)
  | finish (i : ι)
deriving DecidableEq

namespace Server

variable {ι : Type} {q : Type → Type} {ρ c σ w κ : Type} [DecidableEq ι] [DecidableEq κ]

/-- A server without sessions. -/
def init (store : σ) : Server ι q ρ c σ w κ := ⟨store, fun _ => none, []⟩

/-- No other session holds a lock on a row of the writes. -/
def free (E : Engine q σ w κ) (s : Server ι q ρ c σ w κ) (i : ι) (writes : List w) : Bool :=
  s.locks.all (fun lock => lock.1 = i || writes.all (fun w => E.locks w ≠ some lock.2))

/-- The locks when session `i` has become `sess`: it holds the rows of its pending writes. -/
def relock (E : Engine q σ w κ) (s : Server ι q ρ c σ w κ) (i : ι) (pending : List w) :
    List (ι × κ) :=
  s.locks.filter (fun lock => lock.1 ≠ i) ++ (pending.filterMap E.locks).map (fun k => (i, k))

/-- One event. -/
def step (E : Engine q σ w κ) (program : c → Prog q ρ) (s : Server ι q ρ c σ w κ) :
    ServerEvent ι c → Option (Server ι q ρ c σ w κ)
  | .call i call =>
    match s.sessions i with
    | some _ => none
    | none => some { s with
        sessions := Function.update s.sessions i (some { call, prog := program call }) }
  | .act i a =>
    match s.sessions i with
    | none => none
    | some sess =>
      match sess.act E s.store a with
      | none => none
      | some (sess', store, writes) =>
        if s.free E i writes then
          some { store
                 sessions := Function.update s.sessions i (some sess')
                 locks := s.relock E i sess'.tx.pending }
        else none
  | .finish i =>
    match s.sessions i with
    | some { prog := .ret _, .. } => some { s with
        sessions := Function.update s.sessions i none
        locks := s.relock E i [] }
    | _ => none

variable {E : Engine q σ w κ} {program : c → Prog q ρ} {s s' : Server ι q ρ c σ w κ} {i : ι}

lemma step_call {call : c} (h : s.step E program (.call i call) = some s') :
    s.sessions i = none ∧ s'.store = s.store ∧ s'.sessions =
      Function.update s.sessions i (some { call, prog := program call }) := by
  cases hi : s.sessions i with
  | some sess => simp [step, hi] at h
  | none =>
    simp only [step, hi, Option.some.injEq] at h
    subst h
    exact ⟨rfl, rfl, rfl⟩

lemma step_act {a : Act} (h : s.step E program (.act i a) = some s') :
    ∃ sess sess' writes, s.sessions i = some sess ∧
      sess.act E s.store a = some (sess', s'.store, writes) ∧
      s'.sessions = Function.update s.sessions i (some sess') := by
  cases hi : s.sessions i with
  | none => simp [step, hi] at h
  | some sess =>
    cases hact : sess.act E s.store a with
    | none => simp [step, hi, hact] at h
    | some result =>
      obtain ⟨sess', store, writes⟩ := result
      simp only [step, hi, hact] at h
      split at h
      case isTrue =>
        obtain rfl := Option.some.inj h
        exact ⟨sess, sess', writes, rfl, hact, rfl⟩
      case isFalse => exact absurd h (by simp)

lemma step_finish (h : s.step E program (.finish i) = some s') :
    ∃ sess result, s.sessions i = some sess ∧ sess.prog = .ret result ∧ s'.store = s.store ∧
      s'.sessions = Function.update s.sessions i none := by
  cases hi : s.sessions i with
  | none => simp [step, hi] at h
  | some sess =>
    obtain ⟨call, prog, tx, snapshot⟩ := sess
    cases prog with
    | ret result =>
      simp only [step, hi, Option.some.injEq] at h
      subst h
      exact ⟨_, result, rfl, rfl, rfl, rfl⟩
    | stmt | begin | commit => simp [step, hi] at h

end Server

/-! ## What programs keep -/

section Safe

variable {q : Type → Type} {ρ ρ' c σ w κ π : Type} {E : Engine q σ w κ}
  {P : π → σ → Prop} {permits : {β : Type} → q β → σ → Prop} {J : σ → Prop}

/-- A write keeps every property of the family, whatever the store. -/
def Keeps (E : Engine q σ w κ) (P : π → σ → Prop) (write : w) : Prop :=
  ∀ j store, P j store → P j (E.apply store write)

/-- What a statement guarantees. Inside a transaction, where its writes are applied later, each
write keeps the family. Outside, the store it acts on keeps the family, if the statement is
permitted there. -/
def Prog.Guarantee (E : Engine q σ w κ) (P : π → σ → Prop)
    (permits : {β : Type} → q β → σ → Prop) (inTx : Bool) {β : Type} (s : q β) (current : σ)
    (writes : List w) : Prop :=
  if inTx then ∀ write ∈ writes, Keeps E P write
  else permits s current → ∀ j, P j current → P j (writes.foldl E.apply current)

/-- Whatever the program writes keeps the family of properties, for statements issued in
snapshots that satisfy `J`. -/
def Prog.Safe (E : Engine q σ w κ) (P : π → σ → Prop)
    (permits : {β : Type} → q β → σ → Prop) (J : σ → Prop) : Bool → Prog q ρ → Prop
  | _, .ret _ => True
  | inTx, .stmt s k =>
    (∀ snapshot current answer writes, J snapshot →
      E.run s snapshot current = some (answer, writes) →
      Prog.Guarantee E P permits inTx s current writes ∧
        Prog.Safe E P permits J inTx (k (some answer))) ∧
    Prog.Safe E P permits J inTx (k none)
  | _, .begin k => Prog.Safe E P permits J true k
  | _, .commit k => ∀ ok, Prog.Safe E P permits J false (k ok)

lemma Prog.Safe.query {β : Type} {s : q β} {f : Option β → Prog q ρ} {inTx : Bool}
    (hf : ∀ snapshot current answer writes, J snapshot →
      E.run s snapshot current = some (answer, writes) →
      Prog.Guarantee E P permits inTx s current writes ∧
        (f (some answer)).Safe E P permits J inTx)
    (hnone : (f none).Safe E P permits J inTx) : (Prog.query s >>= f).Safe E P permits J inTx :=
  ⟨hf, hnone⟩

lemma keeps_foldl {writes : List w} (h : ∀ write ∈ writes, Keeps E P write) (j : π) {store : σ}
    (hj : P j store) : P j (writes.foldl E.apply store) := by
  induction writes generalizing store with
  | nil => exact hj
  | cons write writes ih =>
    rw [List.foldl_cons]
    apply ih
    · exact fun write' hwrite' => h write' (List.mem_cons_of_mem _ hwrite')
    · exact h write List.mem_cons_self j store hj

lemma guarantee_of_keeps {β : Type} {s : q β} {inTx : Bool} {current : σ} {writes : List w}
    (h : ∀ write ∈ writes, Keeps E P write) :
    Prog.Guarantee E P permits inTx s current writes := by
  unfold Prog.Guarantee
  split
  · exact h
  · exact fun _ j hj => keeps_foldl h j hj

/-- Every statement of the program satisfies `R`, which may ask whether it stands inside a
transaction. -/
def Prog.All (R : {β : Type} → Bool → q β → Prop) : Bool → Prog q ρ → Prop
  | _, .ret _ => True
  | inTx, .stmt s k => R inTx s ∧ ∀ answer, Prog.All R inTx (k answer)
  | _, .begin k => Prog.All R true k
  | _, .commit k => ∀ ok, Prog.All R false (k ok)

section All

variable {β : Type} {R : {β : Type} → Bool → q β → Prop} {inTx : Bool}

lemma Prog.All.ret (r : ρ) : (Prog.ret r : Prog q ρ).All R inTx := trivial

lemma Prog.All.query {s : q β} {f : Option β → Prog q ρ} (hs : R inTx s)
    (hf : ∀ answer, (f answer).All R inTx) : (Prog.query s >>= f).All R inTx := ⟨hs, hf⟩

lemma Prog.All.beginTx {f : Unit → Prog q ρ} (hf : (f ()).All R true) :
    (Prog.beginTx >>= f).All R inTx := hf

lemma Prog.All.commitTx {f : Bool → Prog q ρ} (hf : ∀ ok, (f ok).All R false) :
    (Prog.commitTx >>= f).All R inTx := hf

lemma Prog.All.mono {R' : {β : Type} → Bool → q β → Prop}
    (hR : ∀ {β : Type} {inTx : Bool} {s : q β}, R inTx s → R' inTx s) {p : Prog q ρ}
    (h : p.All R inTx) : p.All R' inTx := by
  induction p generalizing inTx with
  | ret r => trivial
  | stmt s k ih => exact ⟨hR h.1, fun answer => ih answer (h.2 answer)⟩
  | begin k ih => exact ih h
  | commit k ih => exact fun ok => ih ok (h ok)

lemma Prog.All.map {p : Prog q ρ} {f : ρ → ρ'} (h : p.All R inTx) :
    (p >>= fun r => pure (f r)).All R inTx := by
  change (Prog.bind p fun r => .ret (f r)).All R inTx
  induction p generalizing inTx with
  | ret r => trivial
  | stmt s k ih => exact ⟨h.1, fun answer => ih answer (h.2 answer)⟩
  | begin k ih => exact ih h
  | commit k ih => exact fun ok => ih ok (h ok)

end All

lemma Prog.Safe.of_all {R : {β : Type} → Bool → q β → Prop}
    (hR : ∀ {β : Type} (inTx : Bool) (s : q β) snapshot current answer writes, R inTx s →
      E.run s snapshot current = some (answer, writes) →
      Prog.Guarantee E P permits inTx s current writes)
    {p : Prog q ρ} {inTx : Bool} (h : p.All R inTx) : p.Safe E P permits J inTx := by
  induction p generalizing inTx with
  | ret r => trivial
  | stmt s k ih =>
    refine ⟨fun snapshot current answer writes _ hrun => ⟨?_, ih _ (h.2 _)⟩, ih _ (h.2 _)⟩
    exact hR inTx s snapshot current answer writes h.1 hrun
  | begin k ih => exact ih h
  | commit k ih => exact fun ok => ih ok (h ok)

/-! ## What a commit will establish -/

/-- The write brings the property about, whatever the store. -/
def Establishes (E : Engine q σ w κ) (P : π → σ → Prop) (write : w) (j : π) : Prop :=
  ∀ store, P j (E.apply store write)

/-- The store has the property, or a pending write will bring it about. -/
def Covered (E : Engine q σ w κ) (P : π → σ → Prop) (pending : List w) (store : σ) (j : π) :
    Prop :=
  P j store ∨ ∃ write ∈ pending, Establishes E P write j

lemma Covered.append {pending : List w} {store : σ} {j : π} (h : Covered E P pending store j)
    (writes : List w) : Covered E P (pending ++ writes) store j := by
  rcases h with h | ⟨write, hmem, hestablishes⟩
  · exact .inl h
  · exact .inr ⟨write, List.mem_append_left _ hmem, hestablishes⟩

lemma Covered.mono {pending : List w} {store store' : σ} {j : π}
    (h : Covered E P pending store j) (hkept : P j store → P j store') :
    Covered E P pending store' j := by
  rcases h with h | h
  · exact .inl (hkept h)
  · exact .inr h

lemma Covered.commit {pending : List w} (hkeeps : ∀ write ∈ pending, Keeps E P write) {store : σ}
    {j : π} (h : Covered E P pending store j) : P j (pending.foldl E.apply store) := by
  rcases h with h | ⟨write, hmem, hestablishes⟩
  · exact keeps_foldl hkeeps j h
  · obtain ⟨before, after, rfl⟩ := List.append_of_mem hmem
    rw [List.foldl_append, List.foldl_cons]
    apply keeps_foldl
    · intro write' hwrite'
      exact hkeeps write' (List.mem_append_right _ (List.mem_cons_of_mem _ hwrite'))
    · exact hestablishes _

/-! ## What sessions keep -/

namespace Session

/-- Inside a transaction, aborted or not. -/
def inTx (sess : Session q ρ c σ w) : Bool :=
  match sess.tx with
  | .idle => false
  | _ => true

/-- The statement the session is about to perform is permitted in the store. -/
def Permitted (permits : {β : Type} → q β → σ → Prop) (sess : Session q ρ c σ w) (store : σ) :
    Prop :=
  match sess.prog with
  | .stmt s _ => permits s store
  | _ => True

lemma call_act {sess sess' : Session q ρ c σ w} {store store' : σ} {writes : List w} {a : Act}
    (h : sess.act E store a = some (sess', store', writes)) : sess'.call = sess.call := by
  cases a <;> simp only [act] at h <;> repeat' split at h
  all_goals first
    | exact (congrArg Session.call (Prod.mk.inj (Option.some.inj h)).1).symm
    | exact absurd h (by simp)

@[simp] lemma act_ret {r : ρ} {call : c} {tx : Tx w} {snapshot : Option σ} {store : σ} {a : Act} :
    (⟨call, .ret r, tx, snapshot⟩ : Session q ρ c σ w).act E store a = none := by
  cases a <;> rfl

lemma act_begin {k : Prog q ρ} {call : c} {tx : Tx w} {snapshot : Option σ}
    {sess' : Session q ρ c σ w} {store store' : σ} {writes : List w} {a : Act}
    (h : (⟨call, .begin k, tx, snapshot⟩ : Session q ρ c σ w).act E store a =
      some (sess', store', writes)) :
    sess' = ⟨call, k, .active [], snapshot⟩ ∧ store' = store := by
  cases a with
  | control =>
    simp only [act, Option.some.injEq, Prod.mk.injEq] at h
    obtain ⟨rfl, rfl, -⟩ := h
    exact ⟨rfl, rfl⟩
  | issue => simp [act] at h
  | answer => simp [act] at h
  | fail => simp [act] at h

lemma act_stmt_idle {β : Type} {s : q β} {k : Option β → Prog q ρ} {call : c}
    {snapshot : Option σ} {sess' : Session q ρ c σ w} {store store' : σ} {writes : List w} {a : Act}
    (h : (⟨call, .stmt s k, .idle, snapshot⟩ : Session q ρ c σ w).act E store a =
      some (sess', store', writes)) :
    (a = .issue ∧ snapshot = none ∧ sess' = ⟨call, .stmt s k, .idle, some store⟩ ∧
        store' = store) ∨
      (∃ snap answer made, a = .answer ∧ snapshot = some snap ∧
        E.run s snap store = some (answer, made) ∧
        sess' = ⟨call, k (some answer), .idle, none⟩ ∧ store' = made.foldl E.apply store) ∨
      ((a = .fail ∨ ∃ snap, a = .answer ∧ snapshot = some snap ∧ E.run s snap store = none) ∧
        sess' = ⟨call, k none, .idle, none⟩ ∧ store' = store) := by
  cases a with
  | issue =>
    cases snapshot with
    | some snap => simp [act] at h
    | none =>
      simp only [act, Option.some.injEq, Prod.mk.injEq] at h
      obtain ⟨rfl, rfl, -⟩ := h
      exact .inl ⟨rfl, rfl, rfl, rfl⟩
  | answer =>
    cases snapshot with
    | none => simp [act] at h
    | some snap =>
      cases hrun : E.run s snap store with
      | none =>
        simp only [act, view, Tx.pending, List.foldl_nil, hrun, Option.some.injEq,
          Prod.mk.injEq] at h
        obtain ⟨rfl, rfl, -⟩ := h
        exact .inr (.inr ⟨.inr ⟨snap, rfl, rfl, hrun⟩, rfl, rfl⟩)
      | some result =>
        simp only [act, view, Tx.pending, List.foldl_nil, hrun, Option.some.injEq,
          Prod.mk.injEq] at h
        obtain ⟨rfl, rfl, -⟩ := h
        exact .inr (.inl ⟨snap, result.1, result.2, rfl, rfl, hrun, rfl, rfl⟩)
  | fail =>
    simp only [act, Option.some.injEq, Prod.mk.injEq] at h
    obtain ⟨rfl, rfl, -⟩ := h
    exact .inr (.inr ⟨.inl rfl, rfl, rfl⟩)
  | control => simp [act] at h

lemma act_stmt {β : Type} {s : q β} {k : Option β → Prog q ρ} {call : c} {pending : List w}
    {snapshot : Option σ} {sess' : Session q ρ c σ w} {store store' : σ} {writes : List w} {a : Act}
    (h : (⟨call, .stmt s k, .active pending, snapshot⟩ : Session q ρ c σ w).act E store a =
      some (sess', store', writes)) :
    store' = store ∧
      ((snapshot = none ∧ sess' =
          ⟨call, .stmt s k, .active pending, some (pending.foldl E.apply store)⟩) ∨
        (∃ snap answer made, snapshot = some snap ∧
          E.run s snap (pending.foldl E.apply store) = some (answer, made) ∧
          sess' = ⟨call, k (some answer), .active (pending ++ made), none⟩) ∨
        sess' = ⟨call, k none, .aborted, none⟩) := by
  cases a with
  | issue =>
    cases snapshot with
    | some snap => simp [act] at h
    | none =>
      simp only [act, Option.some.injEq, Prod.mk.injEq] at h
      obtain ⟨rfl, rfl, -⟩ := h
      exact ⟨rfl, .inl ⟨rfl, rfl⟩⟩
  | answer =>
    cases snapshot with
    | none => simp [act] at h
    | some snap =>
      cases hrun : E.run s snap (pending.foldl E.apply store) with
      | none =>
        simp only [act, view, Tx.pending, hrun, Option.some.injEq, Prod.mk.injEq] at h
        obtain ⟨rfl, rfl, -⟩ := h
        exact ⟨rfl, .inr (.inr rfl)⟩
      | some result =>
        simp only [act, view, Tx.pending, hrun, Option.some.injEq, Prod.mk.injEq] at h
        obtain ⟨rfl, rfl, -⟩ := h
        exact ⟨rfl, .inr (.inl ⟨snap, result.1, result.2, rfl, hrun, rfl⟩)⟩
  | fail =>
    simp only [act, Option.some.injEq, Prod.mk.injEq] at h
    obtain ⟨rfl, rfl, -⟩ := h
    exact ⟨rfl, .inr (.inr rfl)⟩
  | control => simp [act] at h

lemma act_stmt_aborted {β : Type} {s : q β} {k : Option β → Prog q ρ} {call : c}
    {snapshot : Option σ} {sess' : Session q ρ c σ w} {store store' : σ} {writes : List w} {a : Act}
    (h : (⟨call, .stmt s k, .aborted, snapshot⟩ : Session q ρ c σ w).act E store a =
      some (sess', store', writes)) :
    store' = store ∧ (sess' = ⟨call, .stmt s k, .aborted, some store⟩ ∨
      sess' = ⟨call, k none, .aborted, none⟩) := by
  cases a with
  | issue =>
    cases snapshot with
    | some snap => simp [act] at h
    | none =>
      simp only [act, Option.some.injEq, Prod.mk.injEq] at h
      obtain ⟨rfl, rfl, -⟩ := h
      exact ⟨rfl, .inl rfl⟩
  | answer =>
    cases snapshot with
    | none => simp [act] at h
    | some snap =>
      simp only [act, Option.some.injEq, Prod.mk.injEq] at h
      obtain ⟨rfl, rfl, -⟩ := h
      exact ⟨rfl, .inr rfl⟩
  | fail =>
    simp only [act, Option.some.injEq, Prod.mk.injEq] at h
    obtain ⟨rfl, rfl, -⟩ := h
    exact ⟨rfl, .inr rfl⟩
  | control => simp [act] at h

lemma act_commit {k : Bool → Prog q ρ} {call : c} {tx : Tx w} {snapshot : Option σ}
    {sess' : Session q ρ c σ w} {store store' : σ} {writes : List w} {a : Act}
    (h : (⟨call, .commit k, tx, snapshot⟩ : Session q ρ c σ w).act E store a =
      some (sess', store', writes)) :
    (sess' = ⟨call, k false, .idle, snapshot⟩ ∧ store' = store) ∨
      ∃ pending, a = .control ∧ tx = .active pending ∧
        sess' = ⟨call, k true, .idle, snapshot⟩ ∧ store' = pending.foldl E.apply store := by
  cases a with
  | issue => simp [act] at h
  | answer => simp [act] at h
  | fail =>
    simp only [act, Option.some.injEq, Prod.mk.injEq] at h
    obtain ⟨rfl, rfl, -⟩ := h
    exact .inl ⟨rfl, rfl⟩
  | control =>
    cases tx with
    | active pending =>
      simp only [act, Option.some.injEq, Prod.mk.injEq] at h
      obtain ⟨rfl, rfl, -⟩ := h
      exact .inr ⟨pending, rfl, rfl, rfl, rfl⟩
    | idle =>
      simp only [act, Option.some.injEq, Prod.mk.injEq] at h
      obtain ⟨rfl, rfl, -⟩ := h
      exact .inl ⟨rfl, rfl⟩
    | aborted =>
      simp only [act, Option.some.injEq, Prod.mk.injEq] at h
      obtain ⟨rfl, rfl, -⟩ := h
      exact .inl ⟨rfl, rfl⟩

/-- The writes that take effect in the store with an action: those of a statement outside a
transaction, and those of a transaction that commits. -/
def visible (E : Engine q σ w κ) (sess : Session q ρ c σ w) (store : σ) (a : Act) : List w :=
  match a, sess.prog, sess.tx, sess.snapshot with
  | .answer, .stmt s _, .idle, some snapshot =>
    match E.run s snapshot store with
    | some (_, writes) => writes
    | none => []
  | .control, .commit _, .active pending, _ => pending
  | _, _, _, _ => []

lemma store_act {sess sess' : Session q ρ c σ w} {store store' : σ} {writes : List w} {a : Act}
    (h : sess.act E store a = some (sess', store', writes)) :
    store' = (sess.visible E store a).foldl E.apply store := by
  obtain ⟨call, prog, tx, snapshot⟩ := sess
  cases prog with
  | ret r => simp at h
  | begin k =>
    obtain ⟨-, rfl⟩ := act_begin h
    cases a <;> rfl
  | commit k =>
    cases a with
    | control =>
      cases tx with
      | active pending =>
        simp only [act, Option.some.injEq, Prod.mk.injEq] at h
        exact h.2.1.symm
      | idle =>
        simp only [act, Option.some.injEq, Prod.mk.injEq] at h
        exact h.2.1.symm
      | aborted =>
        simp only [act, Option.some.injEq, Prod.mk.injEq] at h
        exact h.2.1.symm
    | issue => simp [act] at h
    | answer => simp [act] at h
    | fail =>
      simp only [act, Option.some.injEq, Prod.mk.injEq] at h
      exact h.2.1.symm
  | stmt s k =>
    cases tx with
    | idle =>
      rcases act_stmt_idle h with ⟨rfl, rfl, -, rfl⟩ | ⟨snap, answer, made, rfl, rfl, hrun, -, rfl⟩ |
        ⟨rfl | ⟨snap, rfl, rfl, hrun⟩, -, rfl⟩
      · rfl
      · simp only [visible, hrun]
      · rfl
      · simp only [visible, hrun, List.foldl_nil]
    | active pending =>
      obtain ⟨rfl, -⟩ := act_stmt h
      cases a <;> rfl
    | aborted =>
      obtain ⟨rfl, -⟩ := act_stmt_aborted h
      cases a <;> rfl

/-- Writes that all satisfy `Q`, if the statements of the program only make such: what is left
of the session stays so after an action, and the store changes by such writes. -/
lemma act_all {R : {β : Type} → Bool → q β → Prop} {Q : w → Prop}
    (hR : ∀ {β : Type} {inTx : Bool} {s : q β} {snapshot current answer writes}, R inTx s →
      E.run s snapshot current = some (answer, writes) → ∀ write ∈ writes, Q write)
    {sess sess' : Session q ρ c σ w} {store store' : σ} {writes : List w} {a : Act}
    (hprog : sess.prog.All R sess.inTx) (hpending : ∀ write ∈ sess.tx.pending, Q write)
    (h : sess.act E store a = some (sess', store', writes)) :
    sess'.prog.All R sess'.inTx ∧ (∀ write ∈ sess'.tx.pending, Q write) ∧
      ∃ made : List w, (∀ write ∈ made, Q write) ∧ store' = made.foldl E.apply store := by
  obtain ⟨call, prog, tx, snapshot⟩ := sess
  have hnothing : ∀ write ∈ ([] : List w), Q write := fun _ h => absurd h (by simp)
  cases prog with
  | ret r => simp at h
  | begin k =>
    obtain ⟨rfl, rfl⟩ := act_begin h
    exact ⟨hprog, hnothing, [], hnothing, rfl⟩
  | commit k =>
    rcases act_commit h with ⟨rfl, rfl⟩ | ⟨pending, -, rfl, rfl, rfl⟩
    · exact ⟨hprog false, hnothing, [], hnothing, rfl⟩
    · exact ⟨hprog true, hnothing, pending, hpending, rfl⟩
  | stmt s k =>
    cases tx with
    | idle =>
      rcases act_stmt_idle h with ⟨-, -, rfl, rfl⟩ | ⟨snap, answer, made, -, -, hrun, rfl, rfl⟩ |
        ⟨-, rfl, rfl⟩
      · exact ⟨hprog, hpending, [], hnothing, rfl⟩
      · exact ⟨hprog.2 _, hpending, made, hR hprog.1 hrun, rfl⟩
      · exact ⟨hprog.2 _, hpending, [], hnothing, rfl⟩
    | active pending =>
      obtain ⟨rfl, ⟨-, rfl⟩ | ⟨snap, answer, made, -, hrun, rfl⟩ | rfl⟩ := act_stmt h
      · exact ⟨hprog, hpending, [], hnothing, rfl⟩
      · refine ⟨hprog.2 _, fun write hwrite => ?_, [], hnothing, rfl⟩
        rcases List.mem_append.mp hwrite with hold | hnew
        · exact hpending write hold
        · exact hR hprog.1 hrun write hnew
      · exact ⟨hprog.2 _, hnothing, [], hnothing, rfl⟩
    | aborted =>
      obtain ⟨rfl, rfl | rfl⟩ := act_stmt_aborted h
      · exact ⟨hprog, hpending, [], hnothing, rfl⟩
      · exact ⟨hprog.2 _, hpending, [], hnothing, rfl⟩

/-- What is left of the session, its pending writes included, keeps the family. -/
structure Safe (E : Engine q σ w κ) (P : π → σ → Prop)
    (permits : {β : Type} → q β → σ → Prop) (J : σ → Prop) (sess : Session q ρ c σ w) :
    Prop where
  prog : sess.prog.Safe E P permits J sess.inTx
  pending : ∀ write ∈ sess.tx.pending, Keeps E P write
  snapshot : ∀ snapshot, sess.snapshot = some snapshot → J snapshot

lemma Safe.view {sess : Session q ρ c σ w} (h : sess.Safe E P permits J) {store : σ} (j : π)
    (hj : P j store) : P j (sess.view E store) := keeps_foldl h.pending j hj

/-- An action of a safe session leaves it safe. It serves the same call, and the store keeps the
family if the statement it performs is permitted. -/
lemma Safe.act {sess sess' : Session q ρ c σ w} {store store' : σ} {writes : List w} {a : Act}
    (h : sess.Safe E P permits J) (hact : sess.act E store a = some (sess', store', writes))
    (hissue : a = .issue → J (sess.view E store)) :
    sess'.Safe E P permits J ∧ sess'.call = sess.call ∧
      ((a = .answer → sess.Permitted permits store) → ∀ j, P j store → P j store') := by
  obtain ⟨call, prog, tx, snapshot⟩ := sess
  obtain ⟨hprog, hpending, hsnapshot⟩ := h
  have hnone : ∀ snap, (none : Option σ) = some snap → J snap := fun _ h => absurd h (by simp)
  have hkept : ∀ j, P j store → P j store := fun _ h => h
  cases a with
  | issue =>
    cases prog with
    | stmt s k =>
      cases snapshot with
      | none =>
        simp only [Session.act, Option.some.injEq, Prod.mk.injEq] at hact
        obtain ⟨rfl, rfl, -⟩ := hact
        refine ⟨⟨hprog, hpending, fun snap hsnap => ?_⟩, rfl, fun _ => hkept⟩
        obtain rfl := Option.some.inj hsnap
        exact hissue rfl
      | some snap => simp [Session.act] at hact
    | ret | begin | commit => simp [Session.act] at hact
  | answer =>
    cases prog with
    | stmt s k =>
      cases snapshot with
      | none => simp [Session.act] at hact
      | some snap =>
        have hJ : J snap := hsnapshot snap rfl
        cases tx with
        | aborted =>
          simp only [Session.act, Option.some.injEq, Prod.mk.injEq] at hact
          obtain ⟨rfl, rfl, -⟩ := hact
          exact ⟨⟨hprog.2, hpending, hnone⟩, rfl, fun _ => hkept⟩
        | idle =>
          cases hrun : E.run s snap store with
          | none =>
            simp only [Session.act, Session.view, Tx.pending, List.foldl_nil, hrun,
              Option.some.injEq, Prod.mk.injEq] at hact
            obtain ⟨rfl, rfl, -⟩ := hact
            exact ⟨⟨hprog.2, hpending, hnone⟩, rfl, fun _ => hkept⟩
          | some result =>
            obtain ⟨answer, made⟩ := result
            simp only [Session.act, Session.view, Tx.pending, List.foldl_nil, hrun,
              Option.some.injEq, Prod.mk.injEq] at hact
            obtain ⟨rfl, rfl, -⟩ := hact
            -- Outside a transaction the guarantee is about this very store.
            obtain ⟨hkeep, hrest⟩ := hprog.1 snap store answer made hJ hrun
            exact ⟨⟨hrest, hpending, hnone⟩, rfl, fun hpermit => hkeep (hpermit rfl)⟩
        | active pending =>
          cases hrun : E.run s snap (pending.foldl E.apply store) with
          | none =>
            simp only [Session.act, Session.view, Tx.pending, hrun, Option.some.injEq,
              Prod.mk.injEq] at hact
            obtain ⟨rfl, rfl, -⟩ := hact
            exact ⟨⟨hprog.2, by simp [abortedTx, Tx.pending], hnone⟩, rfl, fun _ => hkept⟩
          | some result =>
            obtain ⟨answer, made⟩ := result
            simp only [Session.act, Session.view, Tx.pending, hrun, Option.some.injEq,
              Prod.mk.injEq] at hact
            obtain ⟨rfl, rfl, -⟩ := hact
            -- Inside one the writes join the pending ones.
            obtain ⟨hkeep, hrest⟩ := hprog.1 snap _ answer made hJ hrun
            refine ⟨⟨hrest, fun write hwrite => ?_, hnone⟩, rfl, fun _ => hkept⟩
            rcases List.mem_append.mp hwrite with hold | hnew
            · exact hpending write hold
            · exact hkeep write hnew
    | ret | begin | commit => simp [Session.act] at hact
  | fail =>
    cases prog with
    | stmt s k =>
      simp only [Session.act, Option.some.injEq, Prod.mk.injEq] at hact
      obtain ⟨rfl, rfl, -⟩ := hact
      refine ⟨⟨?_, ?_, hnone⟩, rfl, fun _ => hkept⟩
      · cases tx <;> exact hprog.2
      · cases tx <;> simp [abortedTx, Tx.pending]
    | commit k =>
      simp only [Session.act, Option.some.injEq, Prod.mk.injEq] at hact
      obtain ⟨rfl, rfl, -⟩ := hact
      exact ⟨⟨hprog false, by simp [Tx.pending], hsnapshot⟩, rfl, fun _ => hkept⟩
    | ret r => simp [Session.act] at hact
    | begin k => simp [Session.act] at hact
  | control =>
    cases prog with
    | begin k =>
      simp only [Session.act, Option.some.injEq, Prod.mk.injEq] at hact
      obtain ⟨rfl, rfl, -⟩ := hact
      exact ⟨⟨hprog, by simp [Tx.pending], hsnapshot⟩, rfl, fun _ => hkept⟩
    | commit k =>
      cases tx with
      | active pending =>
        simp only [Session.act, Option.some.injEq, Prod.mk.injEq] at hact
        obtain ⟨rfl, rfl, -⟩ := hact
        refine ⟨⟨hprog true, by simp [Tx.pending], hsnapshot⟩, rfl, fun _ j hj => ?_⟩
        exact keeps_foldl hpending j hj
      | idle =>
        simp only [Session.act, Option.some.injEq, Prod.mk.injEq] at hact
        obtain ⟨rfl, rfl, -⟩ := hact
        exact ⟨⟨hprog false, by simp [Tx.pending], hsnapshot⟩, rfl, fun _ => hkept⟩
      | aborted =>
        simp only [Session.act, Option.some.injEq, Prod.mk.injEq] at hact
        obtain ⟨rfl, rfl, -⟩ := hact
        exact ⟨⟨hprog false, by simp [Tx.pending], hsnapshot⟩, rfl, fun _ => hkept⟩
    | ret r => simp [Session.act] at hact
    | stmt s k => simp [Session.act] at hact

end Session

end Safe

end Lib

import Mathlib.Tactic.Lemma

/-!
# Programs over a transactional store

A `Prog` is the client side of a database session: it issues statements and transaction
commands and goes on with their answers. An `Engine` is the server side: what a statement
answers, which row writes it makes, and what a row write does to the store.

* A statement sees two stores, as under the isolation level READ COMMITTED: the snapshot taken
  when it was issued, from which it chooses its rows, and the store as it is when it gets to
  write them. The two differ only when the statement had to wait for a lock.
* `Prog.exec` runs a program alone. Statements outside a transaction take effect at once; a
  transaction works on a store of its own that replaces the common one when it commits. A
  failed statement aborts its transaction: from then on every statement fails and the commit
  rolls back. A program that returns inside a transaction rolls it back.
* The same programs interleave statement by statement in `Lib.Interleaving`.
-/

namespace Lib

/-- Programs over the statements `q`, where `q β` are the statements that answer a `β`. The
answer `none` is a failed statement; a commit answers whether it took effect. -/
inductive Prog (q : Type → Type) (ρ : Type) : Type 1
  | ret (r : ρ)
  | stmt {β : Type} (s : q β) (k : Option β → Prog q ρ)
  | begin (k : Prog q ρ)
  | commit (k : Bool → Prog q ρ)

/-- The server side: a statement answers and makes row writes, given the store it was issued
in and the store it acts on; a write changes the store and may lock a row. -/
structure Engine (q : Type → Type) (σ w κ : Type) where
  run : {β : Type} → q β → (snapshot current : σ) → Option (β × List w)
  apply : σ → w → σ
  locks : w → Option κ

namespace Prog

variable {q : Type → Type} {ρ ρ' : Type}

/-- Sequential composition. -/
def bind : Prog q ρ → (ρ → Prog q ρ') → Prog q ρ'
  | ret r, f => f r
  | stmt s k, f => stmt s (fun answer => bind (k answer) f)
  | begin k, f => begin (bind k f)
  | commit k, f => commit (fun ok => bind (k ok) f)

instance : Monad (Prog q) where
  pure := ret
  bind := bind

/-- Issue a statement and return its answer. -/
def query {β : Type} (s : q β) : Prog q (Option β) := stmt s ret

/-- Begin a transaction. -/
def beginTx : Prog q Unit := begin (ret ())

/-- Commit the transaction. -/
def commitTx : Prog q Bool := commit ret

section Simp

variable {β : Type}

@[simp] lemma pure_eq (r : ρ) : (pure r : Prog q ρ) = ret r := rfl

@[simp] lemma ret_bind (r : ρ) (f : ρ → Prog q ρ') : ret r >>= f = f r := rfl

@[simp] lemma query_bind (s : q β) (f : Option β → Prog q ρ') : query s >>= f = stmt s f := rfl

@[simp] lemma beginTx_bind (f : Unit → Prog q ρ') : beginTx >>= f = begin (f ()) := rfl

@[simp] lemma commitTx_bind (f : Bool → Prog q ρ') : commitTx >>= f = commit f := rfl

end Simp

/-! ## Running alone -/

variable {σ w κ : Type} (E : Engine q σ w κ)

/-- Where a program that runs alone stands: outside a transaction, inside one that sees its own
store, or inside one that a failed statement aborted. -/
inductive Solo (σ : Type)
  | idle
  | active (own : σ)
  | aborted

/-- What a statement answers on a store nobody else changes, and the store after it. -/
def effect {β : Type} (s : q β) (store : σ) : Option (β × σ) :=
  (E.run s store store).map (fun answer => (answer.1, answer.2.foldl E.apply store))

/-- Run a program from a store and a transaction state: its result and the store after it. -/
def exec : Prog q ρ → σ → Solo σ → ρ × σ
  | ret r, store, _ => (r, store)
  | stmt s k, store, .idle =>
    match effect E s store with
    | none => exec (k none) store .idle
    | some (answer, store) => exec (k (some answer)) store .idle
  | stmt s k, store, .active own =>
    match effect E s own with
    | none => exec (k none) store .aborted
    | some (answer, own) => exec (k (some answer)) store (.active own)
  | stmt _ k, store, .aborted => exec (k none) store .aborted
  | begin k, store, _ => exec k store (.active store)
  | commit k, _, .active own => exec (k true) own .idle
  | commit k, store, _ => exec (k false) store .idle

/-- Run a program from its start: outside a transaction. -/
def execAlone (p : Prog q ρ) (store : σ) : ρ × σ := exec E p store .idle

variable {E}

lemma exec_map (p : Prog q ρ) (f : ρ → ρ') (store : σ) (tx : Solo σ) :
    (exec E (p >>= fun r => pure (f r)) store tx).2 = (exec E p store tx).2 := by
  change (exec E (bind p fun r => ret (f r)) store tx).2 = _
  induction p generalizing store tx with
  | ret r => rfl
  | stmt s k ih =>
    cases tx with
    | idle =>
      simp only [bind, exec]
      cases effect E s store with
      | none => exact ih none _ _
      | some answer => exact ih (some answer.1) _ _
    | active own =>
      simp only [bind, exec]
      cases effect E s own with
      | none => exact ih none _ _
      | some answer => exact ih (some answer.1) _ _
    | aborted => exact ih none _ _
  | begin k ih => exact ih _ _
  | commit k ih =>
    cases tx with
    | idle => exact ih false _ _
    | active own => exact ih true _ _
    | aborted => exact ih false _ _

end Prog

end Lib

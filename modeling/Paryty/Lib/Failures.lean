import Mathlib.Data.Nat.Notation
import Paryty.Lib.Transaction

/-!
# Programs whose requests fail

A program runs alone, but the database may refuse any of its requests: a statement, the begin
of a transaction, a commit.

* `Prog.execFailing` numbers the requests of a run. A refused statement has no effect and aborts
  the transaction it stands in, a refused commit rolls back, and a program that cannot begin its
  transaction returns a result of its own.
* `Prog.Transactional`: outside of its transaction a program only reads, and a commit that takes
  effect is the end of it.
* `Prog.Transactional.unchanged`: such a program changes nothing, or it ends well.
-/

namespace Lib.Prog

variable {q : Type → Type} {ρ ρ' σ w κ : Type} (E : Engine q σ w κ)

/-- Run a program from its `n`-th request on. `fails` says which requests the database refuses,
`refused` is what the program returns if that is a begin. -/
def execFailing (fails : ℕ → Bool) (refused : ρ) : Prog q ρ → ℕ → σ → Solo σ → ρ × σ
  | ret r, _, store, _ => (r, store)
  | stmt s k, n, store, .idle =>
    match if fails n then none else effect E s store with
    | none => execFailing fails refused (k none) (n + 1) store .idle
    | some (answer, store) => execFailing fails refused (k (some answer)) (n + 1) store .idle
  | stmt s k, n, store, .active own =>
    match if fails n then none else effect E s own with
    | none => execFailing fails refused (k none) (n + 1) store .aborted
    | some (answer, own) => execFailing fails refused (k (some answer)) (n + 1) store (.active own)
  | stmt _ k, n, store, .aborted => execFailing fails refused (k none) (n + 1) store .aborted
  | begin k, n, store, _ =>
    if fails n then (refused, store) else execFailing fails refused k (n + 1) store (.active store)
  | commit k, n, store, .active own =>
    if fails n then execFailing fails refused (k false) (n + 1) store .idle
    else execFailing fails refused (k true) (n + 1) own .idle
  | commit k, n, store, _ => execFailing fails refused (k false) (n + 1) store .idle

variable {E} {fails : ℕ → Bool} {refused : ρ}

lemma answer_eq {α : Type*} {p : Prop} [Decidable p] {answer : α} {n : ℕ} :
    (if fails n then none else if p then some answer else none) =
      if fails n = false ∧ p then some answer else none := by
  cases fails n <;> simp

lemma execFailing_map (f : ρ → ρ') (refused : ρ) (p : Prog q ρ) (n : ℕ) (store : σ)
    (tx : Solo σ) :
    execFailing E fails (f refused) (p >>= fun r => pure (f r)) n store tx =
      (execFailing E fails refused p n store tx).map f id := by
  change execFailing E fails (f refused) (bind p fun r => ret (f r)) n store tx = _
  induction p generalizing n store tx with
  | ret r => rfl
  | stmt s k ih =>
    cases tx with
    | idle =>
      simp only [bind, execFailing]
      cases if fails n then none else effect E s store with
      | none => exact ih none _ _ _
      | some answer => exact ih (some answer.1) _ _ _
    | active own =>
      simp only [bind, execFailing]
      cases if fails n then none else effect E s own with
      | none => exact ih none _ _ _
      | some answer => exact ih (some answer.1) _ _ _
    | aborted => exact ih none _ _ _
  | begin k ih =>
    simp only [bind, execFailing]
    split
    case isTrue => rfl
    case isFalse => exact ih _ _ _
  | commit k ih =>
    cases tx with
    | idle => exact ih false _ _ _
    | active own =>
      simp only [bind, execFailing]
      split
      case isTrue => exact ih false _ _ _
      case isFalse => exact ih true _ _ _
    | aborted => exact ih false _ _ _

/-! ## Transactional programs -/

/-- The statement makes no writes. -/
def ReadOnly (E : Engine q σ w κ) {β : Type} (s : q β) : Prop :=
  ∀ store answer, effect E s store = some answer → answer.2 = store

/-- Outside of its transaction the program only reads; after a commit it returns at once, and
`done` holds of the result if the commit took effect. -/
inductive Transactional (E : Engine q σ w κ) (done : ρ → Prop) : (inTx : Bool) → Prog q ρ → Prop
  | ret {inTx : Bool} (r : ρ) : Transactional E done inTx (ret r)
  | read {β : Type} {s : q β} {k : Option β → Prog q ρ} (reads : ReadOnly E s)
      (rest : ∀ answer, Transactional E done false (k answer)) :
      Transactional E done false (stmt s k)
  | stmt {β : Type} {s : q β} {k : Option β → Prog q ρ}
      (rest : ∀ answer, Transactional E done true (k answer)) : Transactional E done true (stmt s k)
  | begin {k : Prog q ρ} (rest : Transactional E done true k) : Transactional E done false (begin k)
  | commit {k : Bool → Prog q ρ} {r r' : ρ} (committed : k true = .ret r) (ends : done r)
      (rolledBack : k false = .ret r') : Transactional E done true (commit k)

namespace Transactional

variable {done : ρ → Prop} {inTx : Bool} {p : Prog q ρ}

section Steps

variable {ρ₀ β : Type} {done : ρ₀ → Prop} {s : q β}

lemma readQuery {f : Option β → Prog q ρ₀} (reads : ReadOnly E s)
    (rest : ∀ answer, Transactional E done false (f answer)) :
    Transactional E done false (query s >>= f) := .read reads rest

lemma query {f : Option β → Prog q ρ₀} (rest : ∀ answer, Transactional E done true (f answer)) :
    Transactional E done true (Prog.query s >>= f) := .stmt rest

lemma beginTx {f : Unit → Prog q ρ₀} (rest : Transactional E done true (f ())) :
    Transactional E done false (Prog.beginTx >>= f) := .begin rest

end Steps

/-- A transactional program that does not end well leaves the store as it was, whatever the
database refuses. -/
theorem unchanged (h : Transactional E done inTx p) {n : ℕ} {store : σ} {tx : Solo σ}
    (hidle : tx = .idle ↔ inTx = false)
    (hfailed : ¬ done (execFailing E fails refused p n store tx).1) :
    (execFailing E fails refused p n store tx).2 = store := by
  induction h generalizing n store tx with
  | ret r => rfl
  | @read β s k reads rest ih =>
    -- Outside the transaction there are reads only.
    obtain rfl := hidle.mpr rfl
    simp only [execFailing] at hfailed ⊢
    split at hfailed
    case h_1 => exact ih none (by simp) hfailed
    case h_2 answer store' hanswer =>
      have hstore : store' = store := by
        split at hanswer
        case isTrue => exact absurd hanswer (by simp)
        case isFalse => exact reads store (answer, store') hanswer
      subst hstore
      exact ih (some answer) (by simp) hfailed
  | stmt rest ih =>
    cases tx with
    | idle => exact absurd (hidle.mp rfl) (by simp)
    | active own =>
      simp only [execFailing] at hfailed ⊢
      split at hfailed
      case h_1 => exact ih none (by simp) hfailed
      case h_2 answer own' _ => exact ih (some answer) (by simp) hfailed
    | aborted => exact ih none (by simp) hfailed
  | begin rest ih =>
    cases hn : fails n with
    -- Without a transaction the program ends.
    | true => simp only [execFailing, hn, if_true]
    | false =>
      simp only [execFailing, hn, Bool.false_eq_true, if_false] at hfailed ⊢
      exact ih (by simp) hfailed
  | commit committed ends rolledBack =>
    cases tx with
    | idle =>
      simp only [execFailing, rolledBack]
    | active own =>
      cases hn : fails n with
      | true => simp only [execFailing, hn, if_true, rolledBack]
      | false =>
        simp only [execFailing, hn, Bool.false_eq_true, if_false, committed] at hfailed
        exact absurd ends hfailed
    | aborted => simp only [execFailing, rolledBack]

end Transactional

end Lib.Prog

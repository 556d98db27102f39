import Paryty.Intelligence.Retraining

/-!
# When retraining takes effect

The threads of `Retraining` under events that are careful.

* `Move` says once what a step of a thread can do, and `advance_move` that it does so.
* `Fresh s k d`: whatever a thread may use of the ensembles under a key is fitted on history of the
  time `d` or later. No step ends this (`Fresh.next`).
* `Sound` is the invariant: it holds in every state of a careful run (`Sound.next`), and retraining
  is effective wherever it holds (`Sound.effective`).
-/

namespace Paryty.Intelligence.Retraining

open Ensemble (Model models)

variable {κ : Type} [DecidableEq κ] {limit : ℕ} {o : Outcome} {s s' : Shared κ} {t t' : Thread κ}
  {k : κ}

/-! ## One step of a thread -/

/-- The work on the key ends, without anything that raises through it. -/
inductive Leaves (o : Outcome) (t : Thread κ) (k : κ) : Prop
  | getting (stage : t.stage = .getting k) (job : t.job.locks = false) (raised : o = .raised)
  | few (n : ℕ) (stage : t.stage = .fetching k n) (few : o = .few)
  | fetching (n : ℕ) (stage : t.stage = .fetching k n) (job : t.job.locks = false)
      (raised : o = .raised)
  | fitted (n time : ℕ) (stage : t.stage = .fitting k n time []) (job : t.job.locks = false)
  | predicted (n : ℕ) (stage : t.stage = .predicting k n)

omit [DecidableEq κ] in
lemma Leaves.key (h : Leaves o t k) : t.stage.key? = some k := by
  cases h <;> simp_all [Stage.key?]

/-- What a step can do. -/
inductive Move (limit : ℕ) (o : Outcome) (t : Thread κ) (s : Shared κ) :
    Shared κ → Thread κ → Prop
  | stay : Move limit o t s s t
  | finish (stage : t.stage = .idle) (todo : t.todo = []) :
      Move limit o t s (if t.job = .forecast then s else s.require t.start t.done)
        { t with stage := .returned }
  | take (k : κ) (rest : List κ) (stage : t.stage = .idle) (todo : t.todo = k :: rest)
      (free : t.job.locks → s.locked k = false) :
      Move limit o t s (if t.job.locks then s.setLock k true else s)
        { t with stage := .getting k, todo := rest }
  | leave (k : κ) (leaves : Leaves o t k) :
      Move limit o t s (release t k s) { t with stage := .idle, done := k :: t.done }
  | raise (k : κ) (key : t.stage.key? = some k) (job : t.job.locks = true) :
      Move limit o t s (release t k s) { t with stage := .raised }
  | found (k : κ) (row : κ × ℕ) (stage : t.stage = .getting k)
      (cached : s.ensembles.find? k = some row) :
      Move limit o t s { s with ensembles := s.ensembles.moveToEnd k }
        { t with stage := .ready k row.2 }
  | create (k : κ) (stage : t.stage = .getting k) (missing : s.ensembles.find? k = none) :
      Move limit o t s
        { s with
          created := s.created + 1
          fits := Function.update s.fits (k, s.created) fun _ => none }
        { t with stage := .created k s.created }
  | store (k : κ) (n : ℕ) (stage : t.stage = .created k n) :
      Move limit o t s { s with ensembles := (s.ensembles.put (k, n)).newest limit }
        { t with stage := .ready k n }
  | trust (k : κ) (n : ℕ) (stage : t.stage = .ready k n) (job : t.job.locks = true)
      (fitted : isFitted (s.fits (k, n))) :
      Move limit o t s s { t with stage := .predicting k n }
  | query (k : κ) (n : ℕ) (stage : t.stage = .ready k n) :
      Move limit o t s s { t with stage := .fetching k n }
  | begin (k : κ) (n : ℕ) (stage : t.stage = .fetching k n) :
      Move limit o t s s { t with stage := .fitting k n s.clock models }
  | fit (k : κ) (n time : ℕ) (m : Model) (rest : List Model)
      (stage : t.stage = .fitting k n time (m :: rest)) :
      Move limit o t s (s.setFit (k, n) m time) { t with stage := .fitting k n time rest }
  | skip (k : κ) (n time : ℕ) (m : Model) (rest : List Model)
      (stage : t.stage = .fitting k n time (m :: rest)) (outcome : o ≠ .ok) :
      Move limit o t s s { t with stage := .fitting k n time rest }
  | forecast (k : κ) (n time : ℕ) (stage : t.stage = .fitting k n time [])
      (job : t.job.locks = true) (outcome : o ≠ .raised) :
      Move limit o t s s { t with stage := .predicting k n }

lemma fail_move (hkey : t.stage.key? = some k) (hleaves : t.job.locks = false → Leaves o t k) :
    Move limit o t s (fail t k s).1 (fail t k s).2 := by
  unfold fail
  split
  case isTrue hlocks => exact .raise k hkey hlocks
  case isFalse hlocks => exact .leave k (hleaves (by simpa using hlocks))

theorem advance_move (limit : ℕ) (o : Outcome) (t : Thread κ) (s : Shared κ) :
    Move limit o t s (advance limit o t s).1 (advance limit o t s).2 := by
  cases hstage : t.stage with
  | idle =>
    obtain ⟨job, start, due, todo, done, stage⟩ := t
    obtain rfl : stage = .idle := hstage
    cases todo with
    | nil => exact .finish rfl rfl
    | cons k rest =>
      simp only [advance]
      split
      case isTrue => exact .stay
      case isFalse hfree => exact .take k rest rfl rfl (by simpa using hfree)
  | getting k =>
    simp only [advance, hstage]
    split
    case isTrue hraised =>
      exact fail_move (by simp [hstage, Stage.key?]) fun hjob => .getting hstage hjob hraised
    case isFalse =>
      cases hfind : s.ensembles.find? k with
      | some row => exact .found k row hstage hfind
      | none => exact .create k hstage hfind
  | created k n =>
    simp only [advance, hstage]
    exact .store k n hstage
  | ready k n =>
    simp only [advance, hstage]
    split
    case isTrue h => exact .trust k n hstage h.1 h.2
    case isFalse => exact .query k n hstage
  | fetching k n =>
    cases o with
    | raised =>
      simp only [advance, hstage]
      exact fail_move (by simp [hstage, Stage.key?]) fun hjob => .fetching n hstage hjob rfl
    | few =>
      simp only [advance, hstage]
      exact .leave k (.few n hstage rfl)
    | ok | failed =>
      simp only [advance, hstage]
      exact .begin k n hstage
  | fitting k n time rest =>
    cases rest with
    | nil =>
      have hkey : t.stage.key? = some k := by simp [hstage, Stage.key?]
      simp only [advance, hstage]
      split
      case isTrue => exact fail_move hkey fun hjob => .fitted n time hstage hjob
      case isFalse hraised =>
        split
        case isTrue hjob => exact .forecast k n time hstage hjob hraised
        case isFalse hjob => exact .leave k (.fitted n time hstage (by simpa using hjob))
    | cons m rest =>
      simp only [advance, hstage]
      split
      case isTrue => exact .fit k n time m rest hstage
      case isFalse hfailed => exact .skip k n time m rest hstage hfailed
  | predicting k n =>
    simp only [advance, hstage]
    split
    case isTrue =>
      exact fail_move (by simp [hstage, Stage.key?]) fun _ => .predicted n hstage
    case isFalse => exact .leave k (.predicted n hstage)
  | returned | raised =>
    simp only [advance, hstage]
    exact .stay

/-! ## What a step changes -/

namespace Move

lemma clock (h : Move limit o t s s' t') : s'.clock = s.clock := by
  cases h with
  | finish => split <;> rfl
  | take => split <;> rfl
  | leave | raise =>
    unfold release
    split <;> rfl
  | _ => rfl

lemma same (h : Move limit o t s s' t') : t'.job = t.job ∧ t'.start = t.start ∧ t'.due = t.due := by
  cases h <;> exact ⟨rfl, rfl, rfl⟩

lemma fits (h : Move limit o t s s' t') {e : κ × ℕ} {m : Model} {time : ℕ}
    (hfit : time ∈ s'.fits e m) :
    time ∈ s.fits e m ∨ ∃ rest, t.stage = .fitting e.1 e.2 time (m :: rest) := by
  cases h with
  | finish | take =>
    split at hfit <;> exact .inl hfit
  | leave | raise =>
    unfold release at hfit
    split at hfit <;> exact .inl hfit
  | create k =>
    by_cases he : e = (k, s.created)
    · simp [he] at hfit
    · exact .inl (by simpa [he] using hfit)
  | fit k n time' m' rest hstage =>
    by_cases he : e = (k, n)
    · subst he
      by_cases hm : m = m'
      · subst hm
        obtain rfl : time' = time := by simpa [Shared.setFit] using hfit
        exact .inr ⟨rest, hstage⟩
      · exact .inl (by simpa [Shared.setFit, hm] using hfit)
    · exact .inl (by simpa [Shared.setFit, he] using hfit)
  | _ => exact .inl hfit

lemma cached (h : Move limit o t s s' t') {row : κ × ℕ} (hrow : row ∈ s'.ensembles) :
    row ∈ s.ensembles ∨ t.stage = .created row.1 row.2 := by
  cases h with
  | finish | take =>
    split at hrow <;> exact .inl hrow
  | leave | raise =>
    unfold release at hrow
    split at hrow <;> exact .inl hrow
  | found => exact .inl (by simpa using hrow)
  | store k n hstage =>
    rcases Lib.Table.mem_put.mp (Lib.Table.mem_of_mem_newest hrow) with rfl | ⟨hrow, -⟩
    · exact .inr hstage
    · exact .inl hrow
  | _ => exact .inl hrow

lemma held (h : Move limit o t s s' t') {e : κ × ℕ} (he : t'.stage.ensemble? = some e) :
    t.stage.ensemble? = some e ∨ e ∈ s.ensembles ∨ s'.fits e = fun _ => none := by
  cases h with
  | stay => exact .inl he
  | found k row hstage hcached =>
    obtain ⟨hrow, hkey⟩ := Lib.Table.find?_eq_some.mp hcached
    obtain rfl : (k, row.2) = e := Option.some.inj he
    exact .inr (.inl (hkey ▸ hrow))
  | create k =>
    obtain rfl : (k, s.created) = e := Option.some.inj he
    exact .inr (.inr (Function.update_self ..))
  | store k n hstage | trust k n hstage | query k n hstage | begin k n hstage
  | fit k n _ _ _ hstage | skip k n _ _ _ hstage | forecast k n _ hstage =>
    exact .inl (by rw [hstage]; exact he)
  | finish | take | leave | raise => cases he

lemma history (h : Move limit o t s s' t') {n time : ℕ} {rest : List Model}
    (hfitting : t'.stage = .fitting k n time rest) :
    (∃ rest', t.stage = .fitting k n time rest') ∨ time = s.clock := by
  cases h with
  | stay => exact .inl ⟨rest, hfitting⟩
  | begin =>
    cases hfitting
    exact .inr rfl
  | fit _ _ _ m _ hstage | skip _ _ _ m _ hstage =>
    cases hfitting
    exact .inl ⟨m :: rest, hstage⟩
  | _ => cases hfitting

lemma key (h : Move limit o t s s' t') (hkey : t'.stage.key? = some k) :
    t.stage.key? = some k ∨ (t.stage = .idle ∧ t.todo.head? = some k ∧
      (t.job.locks → s.locked k = false)) := by
  cases h with
  | stay => exact .inl hkey
  | take k' rest hstage htodo hfree =>
    obtain rfl : k' = k := Option.some.inj hkey
    exact .inr ⟨hstage, by rw [htodo]; rfl, hfree⟩
  | found _ _ hstage | create _ hstage | store _ _ hstage | trust _ _ hstage | query _ _ hstage
  | begin _ _ hstage | fit _ _ _ _ _ hstage | skip _ _ _ _ _ hstage | forecast _ _ _ hstage =>
    exact .inl (by rw [hstage]; exact hkey)
  | finish | leave | raise => cases hkey

lemma todo (h : Move limit o t s s' t') (hk : k ∈ t'.todo) : k ∈ t.todo := by
  cases h with
  | take _ _ _ htodo => exact htodo ▸ List.mem_cons_of_mem _ hk
  | _ => exact hk

lemma done (h : Move limit o t s s' t') (hk : k ∈ t'.done) :
    k ∈ t.done ∨ (Leaves o t k ∧ s' = release t k s ∧ t'.stage = .idle) := by
  cases h with
  | leave k' hleaves =>
    rcases List.mem_cons.mp hk with rfl | hk
    · exact .inr ⟨hleaves, rfl, rfl⟩
    · exact .inl hk
  | _ => exact .inl hk

lemma required (h : Move limit o t s s' t') {d : ℕ} (hd : d ∈ s'.required k) :
    d ∈ s.required k ∨
      (t.job ≠ .forecast ∧ k ∈ t.done ∧ d = max t.start ((s.required k).getD 0)) := by
  cases h with
  | finish =>
    split at hd
    case isTrue => exact .inl hd
    case isFalse hjob =>
      simp only [Shared.require] at hd
      split at hd
      case isTrue hk => exact .inr ⟨hjob, hk, (Option.some.inj hd).symm⟩
      case isFalse => exact .inl hd
  | take =>
    split at hd <;> exact .inl hd
  | leave | raise =>
    unfold release at hd
    split at hd <;> exact .inl hd
  | _ => exact .inl hd

end Move

/-! ## Fresh keys -/

/-- Whatever a thread may use of the ensembles under the key is fitted on history of the time or
later. -/
structure Fresh (s : System κ) (k : κ) (d : ℕ) : Prop where
  le : d ≤ s.shared.clock
  cached : ∀ row ∈ s.shared.ensembles, row.1 = k → Since (s.shared.fits row) d
  held : ∀ t ∈ s.threads, ∀ n, t.stage.ensemble? = some (k, n) → Since (s.shared.fits (k, n)) d
  history : ∀ t ∈ s.threads, ∀ n time rest, t.stage = .fitting k n time rest → d ≤ time

namespace Fresh

variable {s : System κ} {d d' : ℕ}

omit [DecidableEq κ] in
lemma tick (h : Fresh s k d) : Fresh (tick s) k d :=
  ⟨Nat.le_succ_of_le h.le, h.cached, h.held, h.history⟩

omit [DecidableEq κ] in
lemma spawn (h : Fresh s k d) (hidle : t.stage = .idle) : Fresh (s.spawn t) k d := by
  refine ⟨h.le, h.cached, fun u hu n hheld => ?_, fun u hu n time rest hfitting => ?_⟩
  · rcases List.mem_append.mp hu with hu | hu
    · exact h.held u hu n hheld
    · obtain rfl := List.mem_singleton.mp hu
      rw [hidle] at hheld
      cases hheld
  · rcases List.mem_append.mp hu with hu | hu
    · exact h.history u hu n time rest hfitting
    · obtain rfl := List.mem_singleton.mp hu
      rw [hidle] at hfitting
      cases hfitting

omit [DecidableEq κ] in
lemma max (h : Fresh s k d) (h' : Fresh s k d') : Fresh s k (max d d') := by
  rcases le_total d d' with hle | hle
  · rwa [max_eq_right hle]
  · rwa [max_eq_left hle]

lemma act (h : Fresh s k d) (i : ℕ) (o : Outcome) :
    Fresh (s.act (fun _ => advance limit o) i) k d := by
  cases hi : s.threads[i]? with
  | none => rwa [Lib.Threads.act_none hi]
  | some t =>
    have ht := List.mem_of_getElem? hi
    have hmove := advance_move limit o t s.shared
    rw [Lib.Threads.act_some hi]
    generalize advance limit o t s.shared = after at hmove
    have hsince (e : κ × ℕ) (he : e.1 = k) (hold : Since (s.shared.fits e) d) :
        Since (after.1.fits e) d := by
      intro m time hfit
      rcases hmove.fits hfit with hfit | ⟨rest, hstage⟩
      · exact hold m time hfit
      · exact h.history t ht _ _ _ (he ▸ hstage)
    refine ⟨hmove.clock ▸ h.le, fun row hrow hkey => ?_, fun u hu n hheld => ?_,
      fun u hu n time rest hfitting => ?_⟩
    · refine hsince row hkey ?_
      rcases hmove.cached hrow with hrow | hstage
      · exact h.cached row hrow hkey
      · subst hkey
        exact h.held t ht row.2 (by rw [hstage]; rfl)
    · rcases List.mem_or_eq_of_mem_set hu with hu | rfl
      · exact hsince _ rfl (h.held u hu n hheld)
      · rcases hmove.held hheld with hheld | hrow | hnone
        · exact hsince _ rfl (h.held t ht n hheld)
        · exact hsince _ rfl (h.cached _ hrow rfl)
        · rw [hnone]
          exact fun m time hfit => nomatch hfit
    · rcases List.mem_or_eq_of_mem_set hu with hu | rfl
      · exact h.history u hu n time rest hfitting
      · rcases hmove.history hfitting with ⟨rest', hfitting⟩ | rfl
        · exact h.history t ht n time rest' hfitting
        · exact h.le

lemma next (h : Fresh s k d) (event : Event κ) : Fresh (next limit s event) k d := by
  cases event with
  | forecast | retrain | retrainModels => exact h.tick.spawn rfl
  | act i o => exact h.tick.act i o

end Fresh

/-! ## One thread -/

/-- What a retrain has made sure of where it stands. -/
def Settled (s : Shared κ) (t : Thread κ) : Stage κ → Prop
  | .fetching k n => t.job = .retrain → Since (s.fits (k, n)) t.start
  | .fitting k n time rest => t.job ≠ .forecast → t.start ≤ time ∧
      ∀ m, (t.job = .retrain ∨ m ∉ rest) → ∀ fetched ∈ s.fits (k, n) m, t.start ≤ fetched
  | .predicting k n => (t.job ≠ .forecast → Since (s.fits (k, n)) t.start) ∧
      (t.due.isSome → isFitted (s.fits (k, n)))
  | .idle | .getting _ | .created _ _ | .ready _ _ | .returned | .raised => True

/-- What holds of a thread in a careful run. -/
structure Steady (s : Shared κ) (t : Thread κ) : Prop where
  begun : t.start ≤ s.clock
  locked : t.job.locks = true → ∀ k, t.stage.key? = some k → s.locked k = true
  same : ∀ e, t.stage.ensemble? = some e → ∀ row ∈ s.ensembles, row.1 = e.1 → row = e
  settled : Settled s t t.stage

/-- What stays as it was under a key. -/
structure Aside (k : κ) (s s' : Shared κ) : Prop where
  locked : s.locked k = true → s'.locked k = true
  cached : ∀ row ∈ s'.ensembles, row.1 = k → row ∈ s.ensembles
  fits : ∀ n, s'.fits (k, n) = s.fits (k, n)

omit [DecidableEq κ] in
lemma Stage.key_of_ensemble {stage : Stage κ} {e : κ × ℕ} (h : stage.ensemble? = some e) :
    stage.key? = some e.1 := by
  cases stage <;> cases h <;> rfl

lemma Move.aside (h : Move limit o t s s' t') (hk : t.stage.key? ≠ some k) : Aside k s s' where
  locked hlocked := by
    have hother {k' : κ} (hkey : t.stage.key? = some k') : (release t k' s).locked k = true := by
      have hne : k ≠ k' := fun heq => hk (heq ▸ hkey)
      unfold release Shared.setLock
      split
      · simpa [hne] using hlocked
      · exact hlocked
    cases h with
    | finish => split <;> exact hlocked
    | take k' =>
      split
      · by_cases heq : k = k'
        · simp [Shared.setLock, heq]
        · simpa [Shared.setLock, heq] using hlocked
      · exact hlocked
    | leave k' hleaves => exact hother hleaves.key
    | raise k' hkey => exact hother hkey
    | _ => exact hlocked
  cached row hrow hkey := by
    rcases h.cached hrow with hrow | hstage
    · exact hrow
    · exact absurd (by rw [hstage, Stage.key?, hkey]) hk
  fits n := by
    cases h with
    | finish | take => split <;> rfl
    | leave | raise =>
      unfold release
      split <;> rfl
    | create k' hstage =>
      have hne : k ≠ k' := fun heq => hk (by rw [hstage, heq]; rfl)
      exact Function.update_of_ne (fun heq => hne (congrArg Prod.fst heq)) _ _
    | fit k' n' _ _ _ hstage =>
      have hne : k ≠ k' := fun heq => hk (by rw [hstage, heq]; rfl)
      exact Function.update_of_ne (fun heq => hne (congrArg Prod.fst heq)) _ _
    | _ => rfl

namespace Steady

omit [DecidableEq κ] in
lemma aside (h : Steady s t) (hclock : s.clock ≤ s'.clock)
    (haside : ∀ k, t.stage.key? = some k → Aside k s s') : Steady s' t where
  begun := h.begun.trans hclock
  locked hlocks k hkey := (haside k hkey).locked (h.locked hlocks k hkey)
  same e he row hrow hkey :=
    h.same e he row ((haside e.1 (Stage.key_of_ensemble he)).cached row hrow hkey) hkey
  settled := by
    have hsettled := h.settled
    cases hstage : t.stage with
    | fetching k n | fitting k n | predicting k n =>
      have hfits : s'.fits (k, n) = s.fits (k, n) := (haside k (by rw [hstage]; rfl)).fits n
      rw [hstage] at hsettled
      simpa only [Settled, hfits] using hsettled
    | _ => trivial

omit [DecidableEq κ] in
lemma of_key_none (hbegun : t.start ≤ s.clock) (hkey : t.stage.key? = none) : Steady s t where
  begun := hbegun
  locked _ k hk := by
    rw [hkey] at hk
    cases hk
  same e he := by
    rw [Stage.key_of_ensemble he] at hkey
    cases hkey
  settled := by
    cases hstage : t.stage <;> first | trivial | (rw [hstage] at hkey; cases hkey)

omit [DecidableEq κ] in
lemma next_stage (h : Steady s t) (fits : κ × ℕ → Fits) {stage : Stage κ}
    (hensemble : stage.ensemble? = t.stage.ensemble?) (hkey : stage.key? = t.stage.key?)
    (hsettled : Settled { s with fits } t stage) : Steady { s with fits } { t with stage } where
  begun := h.begun
  locked hlocks k hk := h.locked hlocks k (hkey ▸ hk)
  same e he := h.same e (hensemble ▸ he)
  settled := hsettled

omit [DecidableEq κ] in
lemma got (h : Steady s t) (ensembles : Lib.Table (κ × ℕ) κ Prod.fst) (created : ℕ)
    (fits : κ × ℕ → Fits) {stage : Stage κ} {n : ℕ} (hkey : t.stage.key? = some k)
    (hstage : stage = .created k n ∨ stage = .ready k n)
    (hsame : ∀ row ∈ ensembles, row.1 = k → row = (k, n)) :
    Steady { s with ensembles, created, fits } { t with stage } := by
  have hkey' : stage.key? = some k := by rcases hstage with rfl | rfl <;> rfl
  have hensemble : stage.ensemble? = some (k, n) := by rcases hstage with rfl | rfl <;> rfl
  refine ⟨h.begun, fun hlocks k' hk => h.locked hlocks k' ?_, fun e he => ?_, ?_⟩
  · rw [hkey, ← hkey']
    exact hk
  · obtain rfl : (k, n) = e := Option.some.inj (hensemble ▸ he)
    exact hsame
  · rcases hstage with rfl | rfl <;> trivial

lemma move (h : Steady s t) (hmove : Move limit o t s s' t') (hcareful : t.stage.Careful o t s) :
    Steady s' t' := by
  have hsettled := h.settled
  cases hmove with
  | stay => exact h
  | finish =>
    refine of_key_none ?_ rfl
    split <;> exact h.begun
  | leave | raise =>
    refine of_key_none ?_ rfl
    unfold release
    split <;> exact h.begun
  | take k =>
    refine ⟨?_, fun hlocks k' hkey => ?_, fun _ he => (nomatch he), trivial⟩
    · split <;> exact h.begun
    · obtain rfl : k = k' := Option.some.inj hkey
      have hlocks : t.job.locks = true := hlocks
      simp [hlocks, Shared.setLock]
  | found k row hstage hcached =>
    obtain ⟨hrow, hkey⟩ := Lib.Table.find?_eq_some.mp hcached
    refine h.got _ s.created s.fits (by rw [hstage]; rfl) (.inr rfl) fun row' hrow' hkey' => ?_
    have hsame : row' = row :=
      s.ensembles.eq_of_key_eq (by simpa using hrow') hrow (hkey'.trans hkey.symm)
    rw [hsame, ← hkey]
  | create k hstage hmissing =>
    exact h.got s.ensembles _ _ (by rw [hstage]; rfl) (.inl rfl)
      fun row hrow hkey => absurd hkey (Lib.Table.find?_eq_none.mp hmissing row hrow)
  | store k n hstage =>
    refine h.got _ s.created s.fits (by rw [hstage]; rfl) (.inr rfl) fun row hrow hkey => ?_
    rcases Lib.Table.mem_put.mp (Lib.Table.mem_of_mem_newest hrow) with rfl | ⟨-, hne⟩
    · rfl
    · exact absurd hkey hne
  | trust k n hstage hlocks hfitted =>
    simp only [hstage, Stage.Careful] at hcareful
    refine h.next_stage s.fits (by rw [hstage]; rfl) (by rw [hstage]; rfl)
      ⟨fun hjob => hcareful ?_, fun _ => hfitted⟩
    cases hjob' : t.job with
    | forecast => exact absurd hjob' hjob
    | retrain => rfl
    | rpc =>
      rw [hjob'] at hlocks
      cases hlocks
  | query k n hstage =>
    simp only [hstage, Stage.Careful] at hcareful
    exact h.next_stage s.fits (by rw [hstage]; rfl) (by rw [hstage]; rfl) hcareful
  | begin k n hstage =>
    rw [hstage] at hsettled
    refine h.next_stage s.fits (by rw [hstage]; rfl) (by rw [hstage]; rfl)
      fun _ => ⟨h.begun, fun m hm => ?_⟩
    rcases hm with hretrain | hm
    · exact hsettled hretrain m
    · exact absurd (by cases m <;> decide) hm
  | fit k n time m rest hstage =>
    rw [hstage] at hsettled
    refine h.next_stage _ (by rw [hstage]; rfl) (by rw [hstage]; rfl) fun hjob => ?_
    obtain ⟨hle, hold⟩ := hsettled hjob
    refine ⟨hle, fun m' hm' fetched hfetched => ?_⟩
    by_cases hm : m' = m
    · subst hm
      obtain rfl : time = fetched := by simpa using hfetched
      exact hle
    · refine hold m' (hm'.imp_right fun hrest => ?_) fetched (by simpa [hm] using hfetched)
      simpa [hm] using hrest
  | skip k n time m rest hstage hfailed =>
    simp only [hstage, Stage.Careful] at hcareful
    rw [hstage] at hsettled
    refine h.next_stage s.fits (by rw [hstage]; rfl) (by rw [hstage]; rfl) fun hjob => ?_
    obtain ⟨hle, hold⟩ := hsettled hjob
    refine ⟨hle, fun m' hm' fetched hfetched => ?_⟩
    by_cases hretrain : t.job = .retrain
    · exact hold m' (.inl hretrain) fetched hfetched
    · by_cases hm : m' = m
      · subst hm
        refine hcareful ?_ hfailed fetched hfetched
        cases hjob' : t.job with
        | forecast => exact absurd hjob' hjob
        | retrain => exact absurd hjob' hretrain
        | rpc => rfl
      · have hrest : m' ∉ rest := hm'.resolve_left hretrain
        exact hold m' (.inr (by simp [hm, hrest])) fetched hfetched
  | forecast k n time hstage hlocks hraised =>
    simp only [hstage, Stage.Careful] at hcareful
    rw [hstage] at hsettled
    refine h.next_stage s.fits (by rw [hstage]; rfl) (by rw [hstage]; rfl)
      ⟨fun hjob m => (hsettled hjob).2 m (.inr List.not_mem_nil), hcareful (fun hjob => ?_) hraised⟩
    rw [hjob] at hlocks
    cases hlocks

lemma of_leaves (h : Steady s t) (hleaves : Leaves o t k) (hcareful : t.stage.Careful o t s)
    (hjob : t.job ≠ .forecast) {row : κ × ℕ} (hrow : row ∈ s.ensembles) (hkey : row.1 = k) :
    Since (s.fits row) t.start := by
  have hrpc (hlocks : t.job.locks = false) : t.job = .rpc := by
    cases hjob' : t.job with
    | rpc => rfl
    | forecast | retrain =>
      rw [hjob'] at hlocks
      cases hlocks
  have hsettled := h.settled
  have hheld {n : ℕ} (he : t.stage.ensemble? = some (k, n)) : row = (k, n) :=
    h.same _ he row hrow hkey
  cases hleaves with
  | getting hstage hlocks hraised =>
    simp only [hstage, Stage.Careful] at hcareful
    exact hcareful (hrpc hlocks) hraised row (Lib.Table.find?_eq_some.mpr ⟨hrow, hkey⟩)
  | few n hstage hfew =>
    simp only [hstage, Stage.Careful] at hcareful
    rw [hstage] at hsettled
    rw [hheld (by rw [hstage]; rfl)]
    cases hjob' : t.job with
    | forecast => exact absurd hjob' hjob
    | retrain => exact hsettled hjob'
    | rpc => exact hcareful hjob' (.inl hfew)
  | fetching n hstage hlocks hraised =>
    simp only [hstage, Stage.Careful] at hcareful
    rw [hheld (by rw [hstage]; rfl)]
    exact hcareful (hrpc hlocks) (.inr hraised)
  | fitted n time hstage =>
    rw [hstage] at hsettled
    rw [hheld (by rw [hstage]; rfl)]
    exact fun m => (hsettled hjob).2 m (.inr List.not_mem_nil)
  | predicted n hstage =>
    rw [hstage] at hsettled
    rw [hheld (by rw [hstage]; rfl)]
    exact hsettled.1 hjob

end Steady

/-! ## All threads -/

/-- The invariant of the careful runs. -/
structure Sound (s : System κ) : Prop where
  steady : ∀ t ∈ s.threads, Steady s.shared t
  /-- No two threads work on one key. -/
  apart : ∀ (i j : ℕ) (t u : Thread κ) k, s.threads[i]? = some t → s.threads[j]? = some u →
    t.stage.key? = some k → u.stage.key? = some k → i = j
  required : ∀ k, ∀ d ∈ s.shared.required k, Fresh s k d
  due : ∀ t ∈ s.threads, ∀ d ∈ t.due, ∀ k, t.stage.key? = some k ∨ k ∈ t.todo → Fresh s k d
  done : ∀ t ∈ s.threads, t.job ≠ .forecast → ∀ k ∈ t.done, Fresh s k t.start

namespace Sound

variable {s : System κ}

omit [DecidableEq κ] in
lemma empty : Sound (System.empty : System κ) where
  steady _ ht := nomatch ht
  apart _ _ _ _ _ ht := nomatch ht
  required _ _ hd := nomatch hd
  due _ ht := nomatch ht
  done _ ht := nomatch ht

omit [DecidableEq κ] in
/-- **Retraining is effective** where the invariant holds. -/
theorem effective (h : Sound s) : Effective s where
  fresh t ht k n hstage time hdue := by
    have hkey : t.stage.key? = some k := by rw [hstage]; rfl
    have hsettled := (h.steady t ht).settled
    rw [hstage] at hsettled
    exact ⟨hsettled.2 (by rw [Option.mem_def.mp hdue]; rfl),
      (h.due t ht time hdue k (.inl hkey)).held t ht n (by rw [hstage]; rfl)⟩
  apart i j t u k n time rest hi hj hne hstage hfitting :=
    hne (h.apart i j t u k hi hj (by rw [hstage]; rfl) (by rw [hfitting]; rfl))

omit [DecidableEq κ] in
lemma tick (h : Sound s) : Sound (tick s) where
  steady t ht := (h.steady t ht).aside (Nat.le_succ _)
    fun _ _ => ⟨id, fun _ hrow _ => hrow, fun _ => rfl⟩
  apart := h.apart
  required k d hd := (h.required k d hd).tick
  due t ht d hd k hk := (h.due t ht d hd k hk).tick
  done t ht hjob k hk := (h.done t ht hjob k hk).tick

omit [DecidableEq κ] in
lemma spawn (h : Sound s) (hstart : t.start = s.shared.clock) (hidle : t.stage = .idle)
    (hdone : t.done = []) (hdue : ∀ d ∈ t.due, ∀ k ∈ t.todo, Fresh s k d) : Sound (s.spawn t) where
  steady u hu := by
    rcases List.mem_append.mp hu with hu | hu
    · exact h.steady u hu
    · obtain rfl := List.mem_singleton.mp hu
      exact .of_key_none (Nat.le_of_eq hstart) (by rw [hidle]; rfl)
  apart i j u v k hi hj hu hv := by
    have hnone : t.stage.key? ≠ some k := by simp [hidle, Stage.key?]
    rcases Lib.Threads.getElem?_spawn hi with ⟨-, rfl⟩ | hi
    · exact absurd hu hnone
    · rcases Lib.Threads.getElem?_spawn hj with ⟨-, rfl⟩ | hj
      · exact absurd hv hnone
      · exact h.apart i j u v k hi hj hu hv
  required k d hd := (h.required k d hd).spawn hidle
  due u hu d hd k hk := by
    refine Fresh.spawn ?_ hidle
    rcases List.mem_append.mp hu with hu | hu
    · exact h.due u hu d hd k hk
    · obtain rfl := List.mem_singleton.mp hu
      refine hdue d hd k (hk.resolve_left ?_)
      simp [hidle, Stage.key?]
  done u hu hjob k hk := by
    refine Fresh.spawn ?_ hidle
    rcases List.mem_append.mp hu with hu | hu
    · exact h.done u hu hjob k hk
    · obtain rfl := List.mem_singleton.mp hu
      rw [hdone] at hk
      cases hk

section Step

variable {i j : ℕ} {u : Thread κ}

omit [DecidableEq κ] in
lemma key_ne (h : Sound s) (hi : s.threads[i]? = some t) (hj : s.threads[j]? = some u)
    (hne : j ≠ i) (hkey : u.stage.key? = some k) : t.stage.key? ≠ some k :=
  fun hkey' => hne (h.apart j i u t k hj hi hkey hkey')

lemma key_ne_of_move (h : Sound s) (hi : s.threads[i]? = some t) (hj : s.threads[j]? = some u)
    (hne : j ≠ i) (hu : u.stage.key? = some k)
    (halone : t.stage = .idle → ∀ k ∈ t.todo.head?, Alone s i t k)
    (hmove : Move limit o t s.shared s' t') : t'.stage.key? ≠ some k := by
  intro hkey
  rcases hmove.key hkey with hkey | ⟨hidle, htodo, hfree⟩
  · exact h.key_ne hi hj hne hu hkey
  · obtain ⟨htrpc, hurpc⟩ :=
      halone hidle k htodo u (List.mem_eraseIdx_iff_getElem?.mpr ⟨j, hne, hj⟩) hu
    have hlocks {v : Thread κ} (hv : v.job ≠ .rpc) : v.job.locks = true := by
      cases hjob : v.job with
      | rpc => exact absurd hjob hv
      | forecast | retrain => rfl
    have hheld := (h.steady u (List.mem_of_getElem? hj)).locked (hlocks hurpc) k hu
    rw [hfree (hlocks htrpc)] at hheld
    cases hheld

lemma fresh_of_leaves (h : Sound s) (hi : s.threads[i]? = some t)
    (hcareful : t.stage.Careful o t s.shared) (hjob : t.job ≠ .forecast) (hleaves : Leaves o t k)
    (hidle : t'.stage = .idle) : Fresh ⟨release t k s.shared, s.threads.set i t'⟩ k t.start := by
  have hsteady := h.steady t (List.mem_of_getElem? hi)
  have hnobody {u : Thread κ} (hu : u ∈ s.threads.set i t') : u.stage.key? ≠ some k := by
    obtain ⟨j, hj⟩ := List.mem_iff_getElem?.mp hu
    by_cases hne : j = i
    · subst hne
      rw [List.getElem?_set_self (List.getElem?_eq_some_iff.mp hi).1] at hj
      obtain rfl := Option.some.inj hj
      rw [hidle]
      exact fun hkey => nomatch hkey
    · rw [List.getElem?_set_ne (Ne.symm hne)] at hj
      exact fun hkey => h.key_ne hi hj hne hkey hleaves.key
  have hsame : (release t k s.shared).clock = s.shared.clock ∧
      (release t k s.shared).ensembles = s.shared.ensembles ∧
      (release t k s.shared).fits = s.shared.fits := by
    unfold release
    split <;> exact ⟨rfl, rfl, rfl⟩
  refine ⟨hsame.1 ▸ hsteady.begun, fun row hrow hkey => ?_, fun u hu n hheld => ?_,
    fun u hu n time rest hfitting => ?_⟩
  · rw [hsame.2.2]
    exact hsteady.of_leaves hleaves hcareful hjob (hsame.2.1 ▸ hrow) hkey
  · exact absurd (Stage.key_of_ensemble hheld) (hnobody hu)
  · exact absurd (by rw [hfitting]; rfl) (hnobody hu)

end Step

lemma act (h : Sound s) {i : ℕ} {o : Outcome} (hcareful : Careful s (.act i o)) :
    Sound (s.act (fun _ => advance limit o) i) := by
  cases hi : s.threads[i]? with
  | none => rwa [Lib.Threads.act_none hi]
  | some t =>
    have ht := List.mem_of_getElem? hi
    obtain ⟨hcareful, halone⟩ := hcareful t hi
    have hmove := advance_move limit o t s.shared
    have hfresh (k : κ) (d : ℕ) (hd : Fresh s k d) :
        Fresh (s.act (fun _ => advance limit o) i) k d := hd.act i o
    have hthreads (j : ℕ) (u : Thread κ)
        (hj : (s.act (fun _ => advance limit o) i).threads[j]? = some u) :
        (j = i ∧ u = (advance limit o t s.shared).2) ∨ (j ≠ i ∧ s.threads[j]? = some u) :=
      Lib.Threads.getElem?_act hi hj
    rw [Lib.Threads.act_some hi] at hfresh hthreads ⊢
    generalize advance limit o t s.shared = after at hmove hfresh hthreads
    obtain ⟨hjob, hstart, hdue⟩ := hmove.same
    constructor
    case steady =>
      intro u hu
      obtain ⟨j, hj⟩ := List.mem_iff_getElem?.mp hu
      rcases hthreads j u hj with ⟨-, rfl⟩ | ⟨hne, hj⟩
      · exact (h.steady t ht).move hmove hcareful
      · exact (h.steady u (List.mem_of_getElem? hj)).aside (Nat.le_of_eq hmove.clock.symm)
          fun k hkey => hmove.aside (h.key_ne hi hj hne hkey)
    case apart =>
      intro j l u v k hj hl hu hv
      rcases hthreads j u hj with ⟨rfl, rfl⟩ | ⟨hjne, hjold⟩
      · rcases hthreads l v hl with ⟨rfl, -⟩ | ⟨hlne, hl⟩
        · rfl
        · exact absurd hu (h.key_ne_of_move hi hl hlne hv halone hmove)
      · rcases hthreads l v hl with ⟨rfl, rfl⟩ | ⟨hlne, hl⟩
        · exact absurd hv (h.key_ne_of_move hi hjold hjne hu halone hmove)
        · exact h.apart j l u v k hjold hl hu hv
    case required =>
      intro k d hd
      rcases hmove.required hd with hd | ⟨hforecast, hk, rfl⟩
      · exact hfresh k d (h.required k d hd)
      · have hnew := hfresh k _ (h.done t ht hforecast k hk)
        cases hrequired : s.shared.required k with
        | none => simpa using hnew
        | some d' => exact hnew.max (hfresh k d' (h.required k d' hrequired))
    case due =>
      intro u hu d hd k hk
      rcases List.mem_or_eq_of_mem_set hu with hu | rfl
      · exact hfresh k d (h.due u hu d hd k hk)
      · refine hfresh k d (h.due t ht d (hdue ▸ hd) k ?_)
        rcases hk with hkey | hk
        · rcases hmove.key hkey with hkey | ⟨-, htodo, -⟩
          · exact .inl hkey
          · exact .inr (List.mem_of_mem_head? htodo)
        · exact .inr (hmove.todo hk)
    case done =>
      intro u hu hforecast k hk
      rcases List.mem_or_eq_of_mem_set hu with hu | rfl
      · exact hfresh k _ (h.done u hu hforecast k hk)
      · rw [hstart]
        rw [hjob] at hforecast
        rcases hmove.done hk with hk | ⟨hleaves, hrelease, hidle⟩
        · exact hfresh k _ (h.done t ht hforecast k hk)
        · rw [hrelease]
          exact h.fresh_of_leaves hi hcareful hforecast hleaves hidle

/-- **A careful event** keeps the invariant. -/
theorem next (h : Sound s) {event : Event κ} (hcareful : Careful s event) :
    Sound (next limit s event) := by
  cases event with
  | forecast k | retrain k =>
    refine h.tick.spawn rfl rfl rfl fun d hd k' hk' => ?_
    obtain rfl := List.mem_singleton.mp hk'
    exact (h.required k' d hd).tick
  | retrainModels => exact h.tick.spawn rfl rfl rfl fun _ hd => nomatch hd
  | act i o => exact h.tick.act hcareful

end Sound

/-- **Retraining takes effect** in the runs whose steps are careful: whatever calls begin, in
whatever order the threads go on and whatever they meet. -/
theorem effective_of_careful (limit : ℕ) {events : List (Event κ)}
    (h : Lib.Allowed (next limit) Careful System.empty events) :
    Lib.Always (next limit) Effective (System.empty : System κ) events :=
  h.always (I := Sound) (fun _ _ hsound => hsound.next) (fun _ => Sound.effective) Sound.empty

/-! ## Three runs -/

/-- A thread goes on, and nothing fails. -/
def steps (i n : ℕ) : List (Event ℕ) := List.replicate n (.act i .ok)

/-- The first forecast, which makes and fits the ensemble. -/
def first : List (Event ℕ) := .forecast 0 :: steps 0 11

/-- Then `RetrainModels` fits it again, and a forecast uses it. -/
def renewed : List (Event ℕ) := first ++ .retrainModels [0] :: steps 1 9 ++ .forecast 0 :: steps 2 3

/-- Retraining takes effect there: the forecast must be newer than the time 13, and is. -/
theorem effective_of_careful_renewed :
    (renewed.foldl (next 100) System.empty).threads[2]?.map (fun t => (t.stage, t.due)) =
        some (.predicting 0 0, some 13) ∧
      Lib.Always (next 100) Effective System.empty renewed :=
  ⟨by decide, effective_of_careful 100 (by decide)⟩

/-- A retrain of the pipeline instead: it finds the ensemble fitted and reports success. -/
def stale : List (Event ℕ) := first ++ .retrain 0 :: steps 1 5 ++ .forecast 0 :: steps 2 3

/-- `RetrainModels` fits the ensemble while a forecast uses it. -/
def together : List (Event ℕ) :=
  first ++ .forecast 0 :: steps 1 3 ++ .retrainModels [0] :: steps 2 4

/-- In the one the forecast uses what was fitted before the retrain, in the other it uses what
another thread is fitting. -/
theorem not_effective : ¬ Lib.Always (next 100) Effective System.empty stale ∧
    ¬ Lib.Always (next 100) Effective System.empty together := by
  constructor
  · intro h
    have hfresh := h.foldl.fresh
      ⟨.forecast, 19, some 13, [], [], .predicting 0 0⟩ (by decide) 0 0 rfl 13 rfl
    exact absurd hfresh.2 (by decide)
  · intro h
    have hapart := h.foldl.apart 1 2 ⟨.forecast, 13, none, [], [], .predicting 0 0⟩
      ⟨.rpc, 17, none, [], [], .fitting 0 0 21 models⟩ 0 0 21 models
    exact hapart rfl rfl (by decide) rfl rfl

end Paryty.Intelligence.Retraining

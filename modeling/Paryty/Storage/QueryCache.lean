import Paryty.Lib.Calendar
import Paryty.Lib.Glob
import Paryty.Lib.Run
import Paryty.Processing.Window

/-!
# The cache of query results

`cacheKey`, `QueryMetricsWithCache` and `InvalidateCache` of
`internal/storage/warm/query_optimizer.go`. Strings are byte strings, as they are in Go and in the
cache. The optimizer keeps the default prefix, and the table and the window of a query follow from
the name of the metric.

* A key joins its parts with colons and has whole seconds. `InvalidateCache` removes what a glob
  pattern matches, in which the IDs stand as they are.
* `distinct_keys_iff`: the keys of different queries differ and `InvalidateCache` removes exactly
  the results of its tenant and agent, for the IDs over some bytes and the times of some set, if
  and only if the IDs have no colon and no byte that means something in a pattern, and no two times
  are in the same second. The name of the metric is any text.
-/

namespace Paryty.Storage.QueryCache

open Lib Lib.Glob Paryty.Processing

/-- `defaultCachePrefix`. -/
def defaultCachePrefix : Bytes := utf8 "query_cache"

/-- The parameters of a query. -/
structure Query where
  tenant : Bytes
  agentID : Bytes
  metricName : Bytes
  start : Time
  stop : Time
deriving DecidableEq

/-- `t.UTC().Format(time.RFC3339)`. -/
def formatTime (t : Time) : Bytes := formatRFC3339 (t / second)

/-- `cacheKey`. -/
def cacheKey (q : Query) : Bytes :=
  utf8 "paryty:" ++ (q.tenant ++ 58 :: (defaultCachePrefix ++ 58 :: (q.agentID ++ 58 ::
    ((q.metricName ++ 58 :: formatTime q.start) ++ 58 :: formatTime q.stop))))

/-- What a pattern of `InvalidateCache` has in front of its star. -/
def keyPrefix (tenant agentID : Bytes) : Bytes :=
  utf8 "paryty:" ++ (tenant ++ 58 :: (defaultCachePrefix ++ 58 :: (agentID ++ [58])))

/-- The pattern of `InvalidateCache`. -/
def invalidatePattern (tenant agentID : Bytes) : Bytes := keyPrefix tenant agentID ++ [42]

/-- The cache: payloads by key. -/
abbrev Cache := Table (Bytes × Bytes) Bytes Prod.fst

/-- An answer to SCAN, and whether the DEL of its keys succeeds. -/
inductive Reply
  | scanError (err : String)
  | page (keys : List Bytes) (deleted : Bool)
deriving DecidableEq

/-- The loop of `InvalidateCache`. A DEL that fails is logged. -/
def sweep : List Reply → Cache → Except String Unit × Cache
  | [], cache => (.ok (), cache)
  | .scanError err :: _, cache => (.error ("scan cache keys for invalidation: " ++ err), cache)
  | .page keys deleted :: replies, cache =>
    sweep replies (if deleted then keys.foldl Table.erase cache else cache)

/-- `InvalidateCache`, where `scan` are the answers to the SCAN of a pattern. -/
def invalidateCache (scan : Bytes → List Reply) (tenant agentID : Bytes) (cache : Cache) :
    Except String Unit × Cache :=
  sweep (scan (invalidatePattern tenant agentID)) cache

/-- What SCAN promises: the keys of its pages match, and a scan that succeeds has every key of the
cache that matches. -/
structure ScanOf (pattern : Bytes) (cache : Cache) (replies : List Reply) : Prop where
  matching : ∀ keys deleted, .page keys deleted ∈ replies → ∀ k ∈ keys, globMatch pattern k = true
  complete : (∀ err, .scanError err ∉ replies) → ∀ k, cache.HasKey k → globMatch pattern k = true →
    ∃ keys deleted, .page keys deleted ∈ replies ∧ k ∈ keys

/-- Every command of the sweep succeeds. -/
def Succeeds (replies : List Reply) : Prop := ∀ reply ∈ replies, ∃ keys, reply = .page keys true

variable {letters : Set UInt8} {instants : Set Time} {tenant agentID : Bytes} {q q' : Query}
  {cache : Cache} {replies : List Reply}

/-! ## What the sweep removes -/

lemma find?_foldl_erase (keys : List Bytes) (cache : Cache) (k : Bytes) :
    (keys.foldl Table.erase cache).find? k = if k ∈ keys then none else cache.find? k := by
  induction keys generalizing cache with
  | nil => rfl
  | cons k' keys ih =>
    rw [List.foldl_cons, ih, Table.find?_erase]
    by_cases hk : k = k' <;> by_cases hmem : k ∈ keys <;> simp [hk, hmem]

lemma find?_sweep_of_not_mem {k : Bytes}
    (h : ∀ keys deleted, .page keys deleted ∈ replies → k ∉ keys) :
    (sweep replies cache).2.find? k = cache.find? k := by
  induction replies generalizing cache with
  | nil => rfl
  | cons reply replies ih =>
    cases reply with
    | scanError err => rfl
    | page keys deleted =>
      have hrest := fun keys' deleted' hmem => h keys' deleted' (List.mem_cons_of_mem _ hmem)
      rw [sweep, ih hrest]
      cases deleted with
      | false => rfl
      | true =>
        rw [if_pos rfl, find?_foldl_erase, if_neg (h keys true List.mem_cons_self)]

lemma find?_of_find?_sweep {k : Bytes} {entry : Bytes × Bytes}
    (h : (sweep replies cache).2.find? k = some entry) : cache.find? k = some entry := by
  induction replies generalizing cache with
  | nil => exact h
  | cons reply replies ih =>
    cases reply with
    | scanError err => exact h
    | page keys deleted =>
      have hrest := ih h
      cases deleted with
      | false => exact hrest
      | true =>
        rw [if_pos rfl, find?_foldl_erase] at hrest
        split at hrest
        · cases hrest
        · exact hrest

lemma find?_sweep_of_none {k : Bytes} (hnone : cache.find? k = none) :
    (sweep replies cache).2.find? k = none := by
  cases hfind : (sweep replies cache).2.find? k with
  | none => rfl
  | some entry =>
    rw [find?_of_find?_sweep hfind] at hnone
    cases hnone

lemma find?_sweep_of_mem (hsucceeds : Succeeds replies) {k : Bytes} {keys : List Bytes}
    {deleted : Bool} (hpage : .page keys deleted ∈ replies) (hk : k ∈ keys) :
    (sweep replies cache).2.find? k = none := by
  induction replies generalizing cache with
  | nil => cases hpage
  | cons reply replies ih =>
    obtain ⟨keys', rfl⟩ := hsucceeds reply List.mem_cons_self
    rw [sweep, if_pos rfl]
    rcases List.mem_cons.mp hpage with heq | hpage
    · obtain ⟨rfl, rfl⟩ := Reply.page.inj heq
      refine find?_sweep_of_none ?_
      rw [find?_foldl_erase, if_pos hk]
    · exact ih (fun reply hmem => hsucceeds reply (List.mem_cons_of_mem _ hmem)) hpage

/-- `InvalidateCache` leaves what its pattern does not match, whatever fails. -/
lemma find?_invalidateCache_of_not_match {scan : Bytes → List Reply} {k : Bytes}
    (hscan : ScanOf (invalidatePattern tenant agentID) cache
      (scan (invalidatePattern tenant agentID)))
    (hk : globMatch (invalidatePattern tenant agentID) k ≠ true) :
    (invalidateCache scan tenant agentID cache).2.find? k = cache.find? k :=
  find?_sweep_of_not_mem fun keys deleted hpage hmem =>
    hk (hscan.matching keys deleted hpage k hmem)

/-- `InvalidateCache` removes what its pattern matches, if every command succeeds. -/
lemma find?_invalidateCache_of_match {scan : Bytes → List Reply} {k : Bytes}
    (hscan : ScanOf (invalidatePattern tenant agentID) cache
      (scan (invalidatePattern tenant agentID)))
    (hsucceeds : Succeeds (scan (invalidatePattern tenant agentID)))
    (hk : globMatch (invalidatePattern tenant agentID) k = true) :
    (invalidateCache scan tenant agentID cache).2.find? k = none := by
  have hnoError (err : String) : .scanError err ∉ scan (invalidatePattern tenant agentID) := by
    intro hmem
    obtain ⟨keys, heq⟩ := hsucceeds _ hmem
    cases heq
  cases hfind : cache.find? k with
  | none => exact find?_sweep_of_none hfind
  | some entry =>
    have hkey : cache.HasKey k := Table.hasKey_iff_find?.mpr (by rw [hfind]; rfl)
    obtain ⟨keys, deleted, hpage, hmem⟩ := hscan.complete hnoError k hkey hk
    exact find?_sweep_of_mem hsucceeds hpage hmem

/-! ## Soundness -/

/-- The tenant and the agent of a query are over some bytes, and its times in some set. -/
structure Query.Over (letters : Set UInt8) (instants : Set Time) (q : Query) : Prop where
  tenant : ∀ b ∈ q.tenant, b ∈ letters
  agentID : ∀ b ∈ q.agentID, b ∈ letters
  start : q.start ∈ instants
  stop : q.stop ∈ instants

/-- The cache is sound for the queries over some bytes and times: their keys differ, and
`InvalidateCache` removes the results of its tenant and agent, if its commands succeed, and no
others. -/
structure Sound (letters : Set UInt8) (instants : Set Time) : Prop where
  distinct : ∀ q q' : Query, q.Over letters instants → q'.Over letters instants →
    cacheKey q = cacheKey q' → q = q'
  invalidated : ∀ (scan : Bytes → List Reply) (cache : Cache) (tenant agentID : Bytes) (q : Query),
    ScanOf (invalidatePattern tenant agentID) cache (scan (invalidatePattern tenant agentID)) →
    Succeeds (scan (invalidatePattern tenant agentID)) →
    q.Over letters instants → q.tenant = tenant → q.agentID = agentID →
    (invalidateCache scan tenant agentID cache).2.find? (cacheKey q) = none
  untouched : ∀ (scan : Bytes → List Reply) (cache : Cache) (tenant agentID : Bytes) (q : Query),
    ScanOf (invalidatePattern tenant agentID) cache (scan (invalidatePattern tenant agentID)) →
    (∀ b ∈ tenant, b ∈ letters) → (∀ b ∈ agentID, b ∈ letters) → q.Over letters instants →
    ¬ (q.tenant = tenant ∧ q.agentID = agentID) →
    (invalidateCache scan tenant agentID cache).2.find? (cacheKey q) = cache.find? (cacheKey q)

/-- The patterns match the keys of their tenant and agent only. -/
def Exact (letters : Set UInt8) (instants : Set Time) : Prop :=
  ∀ (tenant agentID : Bytes) (q : Query), (∀ b ∈ tenant, b ∈ letters) →
    (∀ b ∈ agentID, b ∈ letters) → q.Over letters instants →
    (globMatch (invalidatePattern tenant agentID) (cacheKey q) = true ↔
      q.tenant = tenant ∧ q.agentID = agentID)

/-- A cache with one result. -/
def single (q : Query) : Cache := Table.empty.put (cacheKey q, [])

lemma find?_single (q : Query) : (single q).find? (cacheKey q) = some (cacheKey q, []) := by
  rw [single, Table.find?_put, if_pos rfl]

lemma hasKey_single {k : Bytes} (h : (single q).HasKey k) : k = cacheKey q := by
  rcases Table.hasKey_put.mp h with ⟨entry, hmem, _⟩ | hk
  · cases hmem
  · exact hk.symm

/-- The scan of a cache with one result. -/
def scanSingle (q : Query) (pattern : Bytes) : List Reply :=
  [.page (if globMatch pattern (cacheKey q) then [cacheKey q] else []) true]

lemma succeeds_scanSingle (q : Query) (pattern : Bytes) : Succeeds (scanSingle q pattern) := by
  intro reply hmem
  obtain rfl := List.mem_singleton.mp hmem
  exact ⟨_, rfl⟩

lemma scanOf_scanSingle (q : Query) (pattern : Bytes) :
    ScanOf pattern (single q) (scanSingle q pattern) where
  matching := by
    intro keys deleted hpage k hk
    obtain ⟨rfl, rfl⟩ := Reply.page.inj (List.mem_singleton.mp hpage)
    split at hk
    case isTrue h =>
      obtain rfl := List.mem_singleton.mp hk
      exact h
    case isFalse => cases hk
  complete := by
    intro _ k hkey hmatch
    obtain rfl := hasKey_single hkey
    exact ⟨_, _, List.mem_singleton_self _, by rw [if_pos hmatch]; exact List.mem_singleton_self _⟩

/-- The cache is sound if and only if no keys collide and the patterns are exact. -/
theorem sound_iff_exact : Sound letters instants ↔
    (∀ q q' : Query, q.Over letters instants → q'.Over letters instants →
      cacheKey q = cacheKey q' → q = q') ∧ Exact letters instants := by
  constructor
  · intro hsound
    refine ⟨hsound.distinct, fun tenant agentID q htenant hagent hq => ⟨fun hmatch => ?_, ?_⟩⟩
    · -- what the pattern matches is removed, and was there
      by_contra hother
      have hkept := hsound.untouched (scanSingle q) (single q) tenant agentID q
        (scanOf_scanSingle q _) htenant hagent hq hother
      rw [find?_invalidateCache_of_match (scanOf_scanSingle q _) (succeeds_scanSingle q _) hmatch,
        find?_single] at hkept
      cases hkept
    · rintro ⟨htenant, hagent⟩
      by_contra hmatch
      have hgone := hsound.invalidated (scanSingle q) (single q) tenant agentID q
        (scanOf_scanSingle q _) (succeeds_scanSingle q _) hq htenant hagent
      rw [find?_invalidateCache_of_not_match (scanOf_scanSingle q _) hmatch, find?_single] at hgone
      cases hgone
  · rintro ⟨hdistinct, hexact⟩
    refine ⟨hdistinct, ?_, ?_⟩
    · rintro scan cache tenant agentID q hscan hsucceeds hq rfl rfl
      exact find?_invalidateCache_of_match hscan hsucceeds
        ((hexact _ _ q hq.tenant hq.agentID hq).mpr ⟨rfl, rfl⟩)
    · intro scan cache tenant agentID q hscan htenant hagent hq hother
      exact find?_invalidateCache_of_not_match hscan
        fun hmatch => hother ((hexact tenant agentID q htenant hagent hq).mp hmatch)

/-! ## IDs without special bytes -/

/-- An ID has no colon and no byte that means something in a pattern. -/
def CleanID (id : Bytes) : Prop := 58 ∉ id ∧ Plain id

/-- No two times are in the same second. -/
def Apart (instants : Set Time) : Prop :=
  ∀ t ∈ instants, ∀ t' ∈ instants, t / second = t' / second → t = t'

lemma cleanID_of_forall (h : ∀ b ∈ letters, b ≠ 58 ∧ ¬ IsSpecial b) {id : Bytes}
    (hid : ∀ b ∈ id, b ∈ letters) : CleanID id :=
  ⟨fun hmem => (h 58 (hid 58 hmem)).1 rfl, fun b hmem => (h b (hid b hmem)).2⟩

lemma plain_append {text text' : Bytes} (h : Plain text) (h' : Plain text') :
    Plain (text ++ text') := by
  intro b hb
  rcases List.mem_append.mp hb with hb | hb
  · exact h b hb
  · exact h' b hb

lemma plain_keyPrefix (htenant : CleanID tenant) (hagent : CleanID agentID) :
    Plain (keyPrefix tenant agentID) := by
  have hcolon : Plain [58] := by decide
  have hhead : Plain (utf8 "paryty:") := by decide
  have hcache : Plain defaultCachePrefix := by decide
  have htail := plain_append hcolon (plain_append hcache (plain_append hcolon
    (plain_append hagent.2 hcolon)))
  exact plain_append hhead (plain_append htenant.2 htail)

lemma keyPrefix_begins (q : Query) : keyPrefix q.tenant q.agentID <+: cacheKey q :=
  ⟨(q.metricName ++ 58 :: formatTime q.start) ++ 58 :: formatTime q.stop, by
    simp [keyPrefix, cacheKey]⟩

lemma eq_of_keyPrefix_begins (htenant : CleanID tenant) (hagent : CleanID agentID)
    (hq : CleanID q.tenant) (hq' : CleanID q.agentID)
    (h : keyPrefix tenant agentID <+: cacheKey q) : q.tenant = tenant ∧ q.agentID = agentID := by
  obtain ⟨rest, hrest⟩ := h
  simp only [keyPrefix, cacheKey, List.append_assoc, List.cons_append, List.nil_append] at hrest
  obtain ⟨htenants, htail⟩ := append_cons_inj htenant.1 hq.1 (List.append_cancel_left hrest)
  have hagents := (List.cons.inj (List.append_cancel_left htail)).2
  exact ⟨htenants.symm, (append_cons_inj hagent.1 hq'.1 hagents).1.symm⟩

lemma cacheKey_inj (hq : CleanID q.tenant ∧ CleanID q.agentID)
    (hq' : CleanID q'.tenant ∧ CleanID q'.agentID) (h : cacheKey q = cacheKey q') :
    q.tenant = q'.tenant ∧ q.agentID = q'.agentID ∧ q.metricName = q'.metricName ∧
      q.start / second = q'.start / second ∧ q.stop / second = q'.stop / second := by
  obtain ⟨htenant, htail⟩ := append_cons_inj hq.1.1 hq'.1.1 (List.append_cancel_left h)
  have hagents := (List.cons.inj (List.append_cancel_left htail)).2
  obtain ⟨hagent, hrest⟩ := append_cons_inj hq.2.1 hq'.2.1 hagents
  obtain ⟨hmetrics, hstop⟩ := append_formatRFC3339_inj (.inr (by decide)) (by decide) hrest
  obtain ⟨hmetric, hstart⟩ := append_formatRFC3339_inj (.inr (by decide)) (by decide) hmetrics
  exact ⟨htenant, hagent, hmetric, hstart, hstop⟩

lemma exact_of_clean (h : ∀ b ∈ letters, b ≠ 58 ∧ ¬ IsSpecial b) : Exact letters instants := by
  intro tenant agentID q htenant hagent hq
  have hclean {id : Bytes} (hid : ∀ b ∈ id, b ∈ letters) : CleanID id := cleanID_of_forall h hid
  rw [invalidatePattern, globMatch_append_star (plain_keyPrefix (hclean htenant) (hclean hagent))]
  constructor
  · exact eq_of_keyPrefix_begins (hclean htenant) (hclean hagent) (hclean hq.tenant)
      (hclean hq.agentID)
  · rintro ⟨rfl, rfl⟩
    exact keyPrefix_begins q

lemma distinct_of_clean (h : ∀ b ∈ letters, b ≠ 58 ∧ ¬ IsSpecial b) (hapart : Apart instants)
    (hq : q.Over letters instants) (hq' : q'.Over letters instants)
    (heq : cacheKey q = cacheKey q') : q = q' := by
  have hclean {id : Bytes} (hid : ∀ b ∈ id, b ∈ letters) : CleanID id := cleanID_of_forall h hid
  obtain ⟨htenant, hagent, hmetric, hstart, hstop⟩ :=
    cacheKey_inj ⟨hclean hq.tenant, hclean hq.agentID⟩ ⟨hclean hq'.tenant, hclean hq'.agentID⟩ heq
  have hstarts := hapart _ hq.start _ hq'.start hstart
  have hstops := hapart _ hq.stop _ hq'.stop hstop
  cases q
  cases q'
  simp only [Query.mk.injEq]
  exact ⟨htenant, hagent, hmetric, hstarts, hstops⟩

/-! ## When the cache is sound -/

/-- The query of no tenant and an agent, for all metrics at a time. -/
def bareQuery (agentID : Bytes) (t : Time) : Query := ⟨[], agentID, [], t, t⟩

lemma over_bareQuery {t : Time} (ht : t ∈ instants) (hagent : ∀ b ∈ agentID, b ∈ letters) :
    (bareQuery agentID t).Over letters instants :=
  ⟨fun _ hb => (List.not_mem_nil hb).elim, hagent, ht, ht⟩

/-- What the pattern of an agent does to the key of a bare query depends on what stands where the
agents do. -/
lemma globMatch_bareQuery (agentID agentID' : Bytes) (t : Time) :
    globMatch (invalidatePattern [] agentID) (cacheKey (bareQuery agentID' t)) = true ↔
      globMatch (agentID ++ [58, 42])
        (agentID' ++ 58 :: 58 :: (formatTime t ++ 58 :: formatTime t)) = true := by
  have hplain : Plain (utf8 "paryty::query_cache:") := by decide
  have hhead : utf8 "paryty::query_cache:" =
      utf8 "paryty:" ++ 58 :: (defaultCachePrefix ++ [58]) := by
    decide
  have hpattern : invalidatePattern [] agentID =
      utf8 "paryty::query_cache:" ++ (agentID ++ [58, 42]) := by
    simp [invalidatePattern, keyPrefix, hhead]
  have hkey : cacheKey (bareQuery agentID' t) = utf8 "paryty::query_cache:" ++
      (agentID' ++ 58 :: 58 :: (formatTime t ++ 58 :: formatTime t)) := by
    simp [cacheKey, bareQuery, hhead]
  rw [hpattern, hkey, globMatch_append hplain]
  constructor
  · rintro ⟨rest, heq, hrest⟩
    rwa [List.append_cancel_left heq]
  · exact fun h => ⟨_, rfl, h⟩

lemma not_isSpecial_of_exact (hexact : Exact letters instants) {t : Time} (ht : t ∈ instants)
    {b : UInt8} (hb : b ∈ letters) : ¬ IsSpecial b := by
  have hnil : ∀ b ∈ ([] : Bytes), b ∈ letters := fun b hb => (List.not_mem_nil hb).elim
  have hagent : ∀ c ∈ [b], c ∈ letters := by
    intro c hc
    obtain rfl := List.mem_singleton.mp hc
    exact hb
  -- the agent without a name is another agent, and this agent is itself
  have hother : globMatch ([b] ++ [58, 42])
      ([] ++ 58 :: 58 :: (formatTime t ++ 58 :: formatTime t)) ≠ true := by
    rw [Ne, ← globMatch_bareQuery, hexact [] [b] _ hnil hagent (over_bareQuery ht hnil)]
    rintro ⟨-, h⟩
    cases h
  have hself : globMatch ([b] ++ [58, 42])
      ([b] ++ 58 :: 58 :: (formatTime t ++ 58 :: formatTime t)) = true := by
    rw [← globMatch_bareQuery, hexact [] [b] _ hnil hagent (over_bareQuery ht hagent)]
    exact ⟨rfl, rfl⟩
  have hplain : Plain [58] := by decide
  have hcolon (rest : Bytes) : globMatch [58, 42] (58 :: rest) = true :=
    (globMatch_append_star hplain).mpr ⟨rest, rfl⟩
  rintro (rfl | rfl | rfl | rfl)
  · -- a star takes nothing
    exact hother (globMatch_star_of_globMatch (hcolon _))
  · -- a question mark takes the colon
    refine hother ?_
    rw [List.nil_append, List.singleton_append, globMatch_one]
    exact hcolon _
  · -- a bracket opens a class that it is not in
    have hclass (rest : Bytes) : globMatch ([91] ++ [58, 42]) ([91] ++ rest) = false := by
      simp [globMatch, parse, matchTokens, inRanges]
    rw [hclass] at hself
    cases hself
  · -- a backslash is gone
    refine hother ?_
    rw [List.nil_append, List.singleton_append, globMatch_escape]
    exact globMatch_star _

theorem distinct_keys_iff : Sound letters instants ↔
    instants = ∅ ∨ (∀ b ∈ letters, b ≠ 58 ∧ ¬ IsSpecial b) ∧ Apart instants := by
  rw [sound_iff_exact]
  constructor
  · rintro ⟨hdistinct, hexact⟩
    rcases instants.eq_empty_or_nonempty with hempty | ⟨t₀, ht₀⟩
    · exact .inl hempty
    have hnil : ∀ b ∈ ([] : Bytes), b ∈ letters := fun b hb => (List.not_mem_nil hb).elim
    refine .inr ⟨fun b hb => ⟨?_, not_isSpecial_of_exact hexact ht₀ hb⟩, ?_⟩
    · -- a colon may belong to the agent or to the metric
      rintro rfl
      have hagent : ∀ b ∈ [(58 : UInt8)], b ∈ letters := by
        intro b hmem
        obtain rfl := List.mem_singleton.mp hmem
        exact hb
      have hsame := hdistinct (bareQuery [58] t₀) { bareQuery [] t₀ with metricName := [58] }
        (over_bareQuery ht₀ hagent) ⟨hnil, hnil, ht₀, ht₀⟩ rfl
      cases congrArg Query.agentID hsame
    · intro t ht t' ht' hsecond
      have hkeys : cacheKey (bareQuery [] t) = cacheKey (bareQuery [] t') := by
        simp only [cacheKey, bareQuery, formatTime, hsecond]
      exact congrArg Query.start
        (hdistinct _ _ (over_bareQuery ht hnil) (over_bareQuery ht' hnil) hkeys)
  · rintro (rfl | ⟨hclean, hapart⟩)
    · exact ⟨fun q q' hq => (Set.notMem_empty _ hq.start).elim,
        fun tenant agentID q _ _ hq => (Set.notMem_empty _ hq.start).elim⟩
    · exact ⟨fun q q' => distinct_of_clean hclean hapart, exact_of_clean hclean⟩

/-- The CPU of the agent `web:1` and the metric `1:cpu` of the agent `web` share a key, and so do
the first and the second half of a second. The pattern of the agent `web` matches the first. -/
theorem cacheKey_collides :
    let q : Query := ⟨utf8 "acme", utf8 "web:1", utf8 "cpu", 0, 3600 * second⟩
    let other := { q with agentID := utf8 "web", metricName := utf8 "1:cpu" }
    let later := { q with start := second / 2 }
    q ≠ other ∧ cacheKey q = cacheKey other ∧ q ≠ later ∧ cacheKey q = cacheKey later ∧
      globMatch (invalidatePattern (utf8 "acme") (utf8 "web")) (cacheKey q) = true := by
  decide

end Paryty.Storage.QueryCache

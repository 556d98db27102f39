import Mathlib.Data.Int.Notation
import Mathlib.Logic.Function.Basic
import Paryty.Lib.Bytes
import Paryty.Lib.Run
import Paryty.Lib.Table

/-!
# The cache of results

`IntelligenceCache` of `cluster/internal/intelligence/cache.go`: a map with an order list, oldest
use first.

* A `Get` is two sections: `getRead` under the read lock and `getFinish` under the write lock, with
  a look at the clock between them. Every other operation is one section. `next` is a section of one
  of any number of goroutines, so a list of events is any interleaving of them.
* `Right` is what a section should do, and `Undisturbed` when it does: what a `Get` found in its
  first section must not have changed before its second. `right_iff_undisturbed` is about all runs.

`setAt`, `observedAt`, `lastUse` and `clock` are for the laws only: the number of the event in
which an entry was set or found, a key was last used. Instants are in nanoseconds.
-/

namespace Paryty.Intelligence.ResultCache

open Lib (Table Allowed)

/-! ## The cache -/

/-- `cacheEntry`, with its key. -/
structure CacheEntry (V : Type) where
  key : Lib.Bytes
  value : V
  expiresAt : ℤ
  setAt : ℕ
deriving DecidableEq

/-- What the lock of `IntelligenceCache` protects. -/
structure IntelligenceCache (V : Type) where
  entries : Table (CacheEntry V) Lib.Bytes CacheEntry.key := .empty
  order : List Lib.Bytes := []

/-- The fields of `IntelligenceCache` that do not change. -/
structure Config where
  defaultTTL : ℤ
  maxEntries : ℕ
  pos : 0 < maxEntries

lemma newMaxEntries_pos (maxEntries : ℤ) :
    0 < if maxEntries ≤ 0 then 1000 else maxEntries.toNat := by
  split <;> omega

/-- `NewIntelligenceCache`. -/
def newIntelligenceCache (defaultTTL maxEntries : ℤ) : Config where
  defaultTTL := if defaultTTL ≤ 0 then 5 * 60 * 1000000000 else defaultTTL
  maxEntries := if maxEntries ≤ 0 then 1000 else maxEntries.toNat
  pos := newMaxEntries_pos maxEntries

section Operations

variable {V : Type}

/-- `removeFromOrder`. -/
def removeFromOrder (key : Lib.Bytes) (c : IntelligenceCache V) : IntelligenceCache V :=
  { c with order := c.order.erase key }

/-- `moveToBack`. -/
def moveToBack (key : Lib.Bytes) (c : IntelligenceCache V) : IntelligenceCache V :=
  { removeFromOrder key c with order := (removeFromOrder key c).order ++ [key] }

/-- `evictOldest`, as long as the map is full. Without an order list the loop would not end, but
then the map is empty: `evict_spec`. -/
def evict (cfg : Config) (entries : Table (CacheEntry V) Lib.Bytes CacheEntry.key) :
    List Lib.Bytes → IntelligenceCache V
  | [] => ⟨entries, []⟩
  | oldest :: rest =>
    if cfg.maxEntries ≤ entries.rows.length then evict cfg (entries.erase oldest) rest
    else ⟨entries, oldest :: rest⟩

/-- `SetWithTTL`. -/
def setWithTTL (cfg : Config) (key : Lib.Bytes) (value : V) (ttl now : ℤ) (clock : ℕ)
    (c : IntelligenceCache V) : IntelligenceCache V :=
  let entry : CacheEntry V := ⟨key, value, now + ttl, clock⟩
  if c.entries.HasKey key then moveToBack key { c with entries := c.entries.put entry }
  else
    let c := evict cfg c.entries c.order
    ⟨c.entries.put entry, c.order ++ [key]⟩

/-- `Delete`. -/
def delete (key : Lib.Bytes) (c : IntelligenceCache V) : IntelligenceCache V :=
  removeFromOrder key { c with entries := c.entries.erase key }

/-- `DeleteByPrefix`: a key is looked for in the order list. -/
def deleteByPrefix (start : Lib.Bytes) (c : IntelligenceCache V) : IntelligenceCache V where
  entries := c.entries.deleteWhere fun entry => start.isPrefixOf entry.key && entry.key ∈ c.order
  order := c.order.filter fun key => !start.isPrefixOf key

/-- `Size`. -/
def size (c : IntelligenceCache V) : ℕ := c.entries.rows.length

/-- `Get`: what it finds under the read lock. -/
def getRead (key : Lib.Bytes) (c : IntelligenceCache V) : Option (CacheEntry V) :=
  c.entries.find? key

/-- `Get`: what it does under the write lock, with the entry it found, and what it returns. -/
def getFinish (key : Lib.Bytes) (entry : CacheEntry V) (now : ℤ) (c : IntelligenceCache V) :
    IntelligenceCache V × Option V :=
  if entry.expiresAt < now then (delete key c, none) else (moveToBack key c, some entry.value)

end Operations

/-! ## Interleavings -/

/-- A `Get` between its sections. -/
structure Pending (V : Type) where
  key : Lib.Bytes
  entry : CacheEntry V
  observedAt : ℕ
deriving DecidableEq

/-- The cache and the calls of `Get` that are under way, one a goroutine at most. -/
structure State (V : Type) where
  cache : IntelligenceCache V := {}
  gets : ℕ → Option (Pending V) := fun _ => none
  clock : ℕ := 0
  lastUse : Lib.Bytes → ℕ := fun _ => 0

/-- A section of one goroutine. `now` is what it takes for the time. -/
inductive Event (V : Type)
  | getRead (goroutine : ℕ) (key : Lib.Bytes)
  | getFinish (goroutine : ℕ) (now : ℤ)
  | set (key : Lib.Bytes) (value : V) (now : ℤ)
  | setWithTTL (key : Lib.Bytes) (value : V) (ttl now : ℤ)
  | delete (key : Lib.Bytes)
  | deleteByPrefix (start : Lib.Bytes)
  | clear
deriving DecidableEq

variable {V : Type}

/-- The key is used: it has been set, or a `Get` with a value for it has finished. -/
def State.use (s : State V) (key : Lib.Bytes) : Lib.Bytes → ℕ :=
  Function.update s.lastUse key s.clock

/-- One section. -/
def next (cfg : Config) (s : State V) : Event V → State V
  | .getRead goroutine key =>
    match s.gets goroutine, getRead key s.cache with
    | none, some entry =>
      { s with gets := Function.update s.gets goroutine (some ⟨key, entry, s.clock⟩),
               clock := s.clock + 1 }
    | _, _ => s
  | .getFinish goroutine now =>
    match s.gets goroutine with
    | none => s
    | some get =>
      { cache := (getFinish get.key get.entry now s.cache).1
        gets := Function.update s.gets goroutine none
        clock := s.clock + 1
        lastUse := if get.entry.expiresAt < now then s.lastUse else s.use get.key }
  | .set key value now =>
    { s with cache := setWithTTL cfg key value cfg.defaultTTL now s.clock s.cache,
             clock := s.clock + 1, lastUse := s.use key }
  | .setWithTTL key value ttl now =>
    { s with cache := setWithTTL cfg key value ttl now s.clock s.cache,
             clock := s.clock + 1, lastUse := s.use key }
  | .delete key => { s with cache := delete key s.cache, clock := s.clock + 1 }
  | .deleteByPrefix start =>
    { s with cache := deleteByPrefix start s.cache, clock := s.clock + 1 }
  | .clear => { s with cache := {}, clock := s.clock + 1 }

/-- The section is a `Set`. -/
def Event.IsSet : Event V → Prop
  | .set .. | .setWithTTL .. => True
  | _ => False

/-- The order list has each key of the map exactly once, and nothing else. -/
def Exact (c : IntelligenceCache V) : Prop :=
  ∀ key, c.order.count key = if c.entries.HasKey key then 1 else 0

/-- What a section should do. -/
structure Right (cfg : Config) (s : State V) (e : Event V) : Prop where
  exact : Exact (next cfg s e).cache
  /-- After a `Set` the map is not too large. -/
  bounded : e.IsSet → size (next cfg s e).cache ≤ cfg.maxEntries
  /-- A key that a `Set` evicts is the one that was used least recently. -/
  leastRecent : e.IsSet → ∀ key, s.cache.entries.HasKey key →
    ¬ (next cfg s e).cache.entries.HasKey key →
      ∀ other, s.cache.entries.HasKey other → other ≠ key → s.lastUse key < s.lastUse other
  /-- A `Get` leaves what has been set since it looked. -/
  newer : ∀ goroutine now, e = .getFinish goroutine now → ∀ get, s.gets goroutine = some get →
    ∀ entry ∈ s.cache.entries, get.observedAt < entry.setAt → entry ∈ (next cfg s e).cache.entries

/-- What a `Get` found has not changed when it takes the write lock: the key of an entry that is
alive is still in the map, and the key of an expired one has not been set again. -/
def Undisturbed (s : State V) : Event V → Prop
  | .getFinish goroutine now => ∀ get, s.gets goroutine = some get →
    if get.entry.expiresAt < now then
      ∀ entry ∈ s.cache.entries, entry.key = get.key → entry.setAt ≤ get.observedAt
    else s.cache.entries.HasKey get.key
  | _ => True

/-! ## What the operations do to the order list -/

variable {cfg : Config} {c : IntelligenceCache V} {key other start : Lib.Bytes}
  {entry : CacheEntry V} {value : V} {ttl now : ℤ} {clock : ℕ}

lemma Exact.nodup (h : Exact c) : c.order.Nodup := by
  refine List.nodup_iff_count_le_one.mpr fun key => ?_
  rw [h key]
  split <;> omega

lemma Exact.mem_order (h : Exact c) (key : Lib.Bytes) : key ∈ c.order ↔ c.entries.HasKey key := by
  rw [← List.count_pos_iff, h key]
  by_cases hkey : c.entries.HasKey key <;> simp [hkey]

lemma exact_of_nodup (hnodup : c.order.Nodup)
    (hmem : ∀ key, key ∈ c.order ↔ c.entries.HasKey key) : Exact c := by
  intro key
  by_cases hkey : c.entries.HasKey key
  · rw [if_pos hkey, List.count_eq_one_of_mem hnodup ((hmem key).mpr hkey)]
  · rw [if_neg hkey, List.count_eq_zero_of_not_mem fun h => hkey ((hmem key).mp h)]

lemma exact_iff : Exact c ↔ c.order.Nodup ∧ ∀ key, key ∈ c.order ↔ c.entries.HasKey key :=
  ⟨fun h => ⟨h.nodup, h.mem_order⟩, fun h => exact_of_nodup h.1 h.2⟩

lemma exact_put (h : Exact c) (hkey : c.entries.HasKey entry.key) :
    Exact { c with entries := c.entries.put entry } := by
  obtain ⟨hnodup, hmem⟩ := exact_iff.mp h
  refine exact_iff.mpr ⟨hnodup, fun key => ?_⟩
  rw [hmem key, Table.hasKey_put]
  constructor
  · exact .inl
  · rintro (hkey' | rfl)
    · exact hkey'
    · exact hkey

lemma exact_append (h : Exact c) (hkey : ¬ c.entries.HasKey entry.key) :
    Exact ⟨c.entries.put entry, c.order ++ [entry.key]⟩ := by
  obtain ⟨hnodup, hmem⟩ := exact_iff.mp h
  have hfresh : entry.key ∉ c.order := fun h => hkey ((hmem _).mp h)
  refine exact_iff.mpr ⟨List.nodup_append.mpr ⟨hnodup, by simp, ?_⟩, fun key => ?_⟩
  · rintro a ha b hb rfl
    exact hfresh (List.mem_singleton.mp hb ▸ ha)
  · rw [List.mem_append, hmem key, List.mem_singleton, Table.hasKey_put, eq_comm (a := key)]

lemma exact_moveToBack (h : Exact c) : Exact (moveToBack key c) ↔ c.entries.HasKey key := by
  obtain ⟨hnodup, hmem⟩ := exact_iff.mp h
  rw [exact_iff]
  constructor
  · rintro ⟨-, hmem'⟩
    exact (hmem' key).mp (List.mem_append_right _ (by simp))
  · intro hkey
    refine ⟨List.nodup_append.mpr ⟨hnodup.erase key, by simp, ?_⟩, fun other => ?_⟩
    · rintro a ha b hb rfl
      exact (hnodup.mem_erase_iff.mp ha).1 (List.mem_singleton.mp hb)
    · change other ∈ c.order.erase key ++ [key] ↔ c.entries.HasKey other
      rw [List.mem_append, hnodup.mem_erase_iff, hmem other, List.mem_singleton]
      by_cases hother : other = key <;> simp [hother, hkey]

lemma exact_delete (h : Exact c) : Exact (delete key c) := by
  obtain ⟨hnodup, hmem⟩ := exact_iff.mp h
  refine exact_iff.mpr ⟨hnodup.erase key, fun other => ?_⟩
  change other ∈ c.order.erase key ↔ (c.entries.erase key).HasKey other
  rw [hnodup.mem_erase_iff, hmem other, Table.hasKey_erase, and_comm]

lemma hasKey_deleteByPrefix (h : Exact c) : (deleteByPrefix start c).entries.HasKey key ↔
    c.entries.HasKey key ∧ start.isPrefixOf key = false := by
  obtain ⟨-, hmem⟩ := exact_iff.mp h
  constructor
  · rintro ⟨entry, hentry, rfl⟩
    obtain ⟨hentry, hkept⟩ := Table.mem_deleteWhere.mp hentry
    have hkey : c.entries.HasKey entry.key := ⟨entry, hentry, rfl⟩
    exact ⟨hkey, by simpa [(hmem _).mpr hkey] using hkept⟩
  · rintro ⟨⟨entry, hentry, rfl⟩, hstart⟩
    exact ⟨entry, Table.mem_deleteWhere.mpr ⟨hentry, by simp [hstart]⟩, rfl⟩

lemma exact_deleteByPrefix (h : Exact c) : Exact (deleteByPrefix start c) := by
  obtain ⟨hnodup, hmem⟩ := exact_iff.mp h
  refine exact_iff.mpr ⟨hnodup.filter _, fun key => ?_⟩
  change key ∈ c.order.filter (fun key => !start.isPrefixOf key) ↔ _
  rw [hasKey_deleteByPrefix h, List.mem_filter, hmem key]
  simp

/-! ## Eviction -/

/-- The order list has all keys of the map. -/
def Covered (c : IntelligenceCache V) : Prop := ∀ key, c.entries.HasKey key → key ∈ c.order

lemma evict_spec (h : Covered c) : Covered (evict cfg c.entries c.order) ∧
    size (evict cfg c.entries c.order) < cfg.maxEntries := by
  obtain ⟨entries, order⟩ := c
  induction order generalizing entries with
  | nil =>
    refine ⟨h, ?_⟩
    have hempty : entries.rows = [] :=
      List.eq_nil_iff_forall_not_mem.mpr fun entry hentry => nomatch h _ ⟨entry, hentry, rfl⟩
    change entries.rows.length < _
    rw [hempty]
    exact cfg.pos
  | cons oldest rest ih =>
    simp only [evict]
    split
    case isTrue =>
      refine ih (entries.erase oldest) fun key hkey => ?_
      obtain ⟨hkey, hne⟩ := Table.hasKey_erase.mp hkey
      exact (List.mem_cons.mp (h key hkey)).resolve_left hne
    case isFalse hroom => exact ⟨h, by simpa [size] using hroom⟩

lemma evict_cases (h : Exact c) (hsize : size c ≤ cfg.maxEntries) :
    (size c < cfg.maxEntries ∧ evict cfg c.entries c.order = c) ∨
      ∃ oldest rest, c.order = oldest :: rest ∧
        evict cfg c.entries c.order = ⟨c.entries.erase oldest, rest⟩ := by
  obtain ⟨entries, order⟩ := c
  obtain ⟨-, hmem⟩ := exact_iff.mp h
  have hcovered : Covered (⟨entries, order⟩ : IntelligenceCache V) := fun key => (hmem key).mpr
  cases order with
  | nil => exact .inl ⟨(evict_spec hcovered).2, rfl⟩
  | cons oldest rest =>
    by_cases hfull : cfg.maxEntries ≤ entries.rows.length
    · refine .inr ⟨oldest, rest, rfl, ?_⟩
      have hkey : entries.HasKey oldest := (hmem oldest).mp List.mem_cons_self
      have hless := Table.length_erase_of_hasKey hkey
      have hroom : ¬ cfg.maxEntries ≤ (entries.erase oldest).rows.length := by
        simp only [size] at hsize
        omega
      simp only [evict, if_pos hfull]
      cases rest with
      | nil => rfl
      | cons second rest => rw [evict, if_neg hroom]
    · exact .inl ⟨by simpa [size] using hfull, by simp only [evict, if_neg hfull]⟩

/-- `SetWithTTL` on an exact order list: the key comes last, and an evicted key was first. -/
lemma setWithTTL_spec (h : Exact c) (hsize : size c ≤ cfg.maxEntries) :
    Exact (setWithTTL cfg key value ttl now clock c) ∧
    size (setWithTTL cfg key value ttl now clock c) ≤ cfg.maxEntries ∧
    (∃ l, l.Sublist c.order ∧ (setWithTTL cfg key value ttl now clock c).order = l ++ [key]) ∧
    ∀ other, c.entries.HasKey other →
      ¬ (setWithTTL cfg key value ttl now clock c).entries.HasKey other →
        ∃ rest, c.order = other :: rest := by
  unfold setWithTTL
  by_cases hkey : c.entries.HasKey key
  · simp only [if_pos hkey]
    have hput : (c.entries.put ⟨key, value, now + ttl, clock⟩).HasKey key :=
      Table.hasKey_put.mpr (.inl hkey)
    refine ⟨(exact_moveToBack (exact_put h hkey)).mpr hput, ?_, ⟨_, List.erase_sublist, rfl⟩, ?_⟩
    · have hlength : (c.entries.put ⟨key, value, now + ttl, clock⟩).rows.length =
          c.entries.rows.length := Table.length_put_of_hasKey hkey
      change (c.entries.put ⟨key, value, now + ttl, clock⟩).rows.length ≤ _
      rw [hlength]
      exact hsize
    · exact fun other hother hgone => absurd (Table.hasKey_put.mpr (.inl hother)) hgone
  · simp only [if_neg hkey]
    -- the new entry follows what the eviction leaves
    have hnew {c' : IntelligenceCache V} (h' : Exact c') (hkey' : ¬ c'.entries.HasKey key)
        (hroom : size c' < cfg.maxEntries) :
        Exact ⟨c'.entries.put ⟨key, value, now + ttl, clock⟩, c'.order ++ [key]⟩ ∧
        (c'.entries.put ⟨key, value, now + ttl, clock⟩).rows.length ≤ cfg.maxEntries := by
      refine ⟨exact_append h' hkey', ?_⟩
      rw [Table.rows_put_of_fresh hkey', List.length_append]
      exact hroom
    rcases evict_cases h hsize with ⟨hroom, hevict⟩ | ⟨oldest, rest, horder, hevict⟩
    · rw [hevict]
      obtain ⟨hexact, hlength⟩ := hnew h hkey hroom
      refine ⟨hexact, hlength, ⟨_, .refl _, rfl⟩, fun other hother hgone => ?_⟩
      exact absurd (Table.hasKey_put.mpr (.inl hother)) hgone
    · rw [hevict]
      have hexact : Exact ⟨c.entries.erase oldest, rest⟩ := by
        have hdelete : delete oldest c = ⟨c.entries.erase oldest, rest⟩ := by
          simp [delete, removeFromOrder, horder]
        exact hdelete ▸ exact_delete h
      have hroom : size (evict cfg c.entries c.order) < cfg.maxEntries :=
        (evict_spec fun key => ((exact_iff.mp h).2 key).mpr).2
      rw [hevict] at hroom
      obtain ⟨hexact', hlength⟩ := hnew hexact (fun h => hkey (Table.hasKey_erase.mp h).1) hroom
      refine ⟨hexact', hlength, ⟨rest, horder ▸ List.sublist_cons_self .., rfl⟩,
        fun other hother hgone => ⟨rest, ?_⟩⟩
      have hsame : other = oldest := by
        by_contra hne
        exact hgone (Table.hasKey_put.mpr (.inl (Table.hasKey_erase.mpr ⟨hother, hne⟩)))
      rw [horder, hsame]

/-! ## Steps -/

/-- The order list is the keys of the map by their last use. -/
structure Ordered (cfg : Config) (s : State V) : Prop where
  exact : Exact s.cache
  recent : s.cache.order.Pairwise fun key other => s.lastUse key < s.lastUse other
  past : ∀ key ∈ s.cache.order, s.lastUse key < s.clock
  bounded : size s.cache ≤ cfg.maxEntries

variable {s : State V} {gets : ℕ → Option (Pending V)} {e : Event V}

lemma ordered_init : Ordered cfg ({} : State V) where
  exact := fun _ => rfl
  recent := .nil
  past := fun _ h => nomatch h
  bounded := Nat.zero_le _

lemma Ordered.leave (h : Ordered cfg s) (hexact : Exact c) (hl : c.order.Sublist s.cache.order)
    (hsize : size c ≤ size s.cache) : Ordered cfg ⟨c, gets, s.clock + 1, s.lastUse⟩ where
  exact := hexact
  recent := h.recent.sublist hl
  past := fun key hkey => Nat.lt_succ_of_lt (h.past key (hl.subset hkey))
  bounded := Nat.le_trans hsize h.bounded

lemma Ordered.use (h : Ordered cfg s) (hexact : Exact c) {l : List Lib.Bytes}
    (hl : l.Sublist s.cache.order) (horder : c.order = l ++ [key])
    (hsize : size c ≤ cfg.maxEntries) : Ordered cfg ⟨c, gets, s.clock + 1, s.use key⟩ := by
  have hnodup := (exact_iff.mp hexact).1
  rw [horder, List.nodup_append] at hnodup
  have hbefore : ∀ other ∈ l, s.use key other = s.lastUse other := fun other hother =>
    Function.update_of_ne (hnodup.2.2 other hother key (by simp)) ..
  have hkey : s.use key key = s.clock := Function.update_self ..
  have hpast : ∀ other ∈ l, s.lastUse other < s.clock := fun other hother =>
    h.past other (hl.subset hother)
  refine ⟨hexact, ?_, ?_, hsize⟩
  · change c.order.Pairwise fun key' other => s.use key key' < s.use key other
    rw [horder, List.pairwise_append]
    refine ⟨(h.recent.sublist hl).imp_of_mem fun ha hb hlt => ?_, List.pairwise_singleton ..,
      fun a ha b hb => ?_⟩
    · rwa [hbefore _ ha, hbefore _ hb]
    · rw [List.mem_singleton.mp hb, hbefore a ha, hkey]
      exact hpast a ha
  · change ∀ other ∈ c.order, s.use key other < s.clock + 1
    rw [horder]
    intro other hother
    rcases List.mem_append.mp hother with hother | hother
    · rw [hbefore other hother]
      exact Nat.lt_succ_of_lt (hpast other hother)
    · rw [List.mem_singleton.mp hother, hkey]
      exact Nat.lt_succ_self _

lemma size_erase_le : (c.entries.erase key).rows.length ≤ size c := List.length_filter_le ..

/-- What a section keeps if the `Get` it may end was not disturbed. -/
lemma Ordered.next (h : Ordered cfg s) (he : Undisturbed s e) : Ordered cfg (next cfg s e) := by
  have hset (key : Lib.Bytes) (value : V) (ttl now : ℤ) :
      Ordered cfg { s with cache := setWithTTL cfg key value ttl now s.clock s.cache,
                           clock := s.clock + 1, lastUse := s.use key } := by
    obtain ⟨hexact, hsize, ⟨l, hl, horder⟩, -⟩ := setWithTTL_spec h.exact h.bounded
    exact h.use hexact hl horder hsize
  cases e with
  | getRead goroutine key =>
    simp only [ResultCache.next]
    split
    · exact h.leave h.exact (.refl _) (Nat.le_refl _)
    · exact h
  | getFinish goroutine now =>
    simp only [ResultCache.next]
    split
    case h_1 => exact h
    case h_2 get hget =>
      have hget := he get hget
      by_cases hexpired : get.entry.expiresAt < now
      · simp only [getFinish, if_pos hexpired]
        exact h.leave (exact_delete h.exact) List.erase_sublist size_erase_le
      · simp only [getFinish, if_neg hexpired] at hget ⊢
        exact h.use ((exact_moveToBack h.exact).mpr hget) List.erase_sublist rfl h.bounded
  | set key value now => exact hset key value cfg.defaultTTL now
  | setWithTTL key value ttl now => exact hset key value ttl now
  | delete key => exact h.leave (exact_delete h.exact) List.erase_sublist size_erase_le
  | deleteByPrefix start =>
    exact h.leave (exact_deleteByPrefix h.exact) List.filter_sublist (List.length_filter_le ..)
  | clear => exact h.leave (fun _ => rfl) (List.nil_sublist _) (Nat.zero_le _)

/-- A key that a `Set` evicts is the one that was used least recently. -/
lemma Ordered.leastRecent (h : Ordered cfg s) (he : e.IsSet) {key : Lib.Bytes}
    (hkey : s.cache.entries.HasKey key)
    (hgone : ¬ (ResultCache.next cfg s e).cache.entries.HasKey key) {other : Lib.Bytes}
    (hother : s.cache.entries.HasKey other) (hne : other ≠ key) :
    s.lastUse key < s.lastUse other := by
  -- the evicted key is the first of the order list
  have hfirst : ∃ rest, s.cache.order = key :: rest := by
    cases e with
    | set => exact (setWithTTL_spec h.exact h.bounded).2.2.2 key hkey hgone
    | setWithTTL => exact (setWithTTL_spec h.exact h.bounded).2.2.2 key hkey hgone
    | _ => exact he.elim
  obtain ⟨rest, horder⟩ := hfirst
  have hmem : other ∈ s.cache.order := ((exact_iff.mp h.exact).2 other).mpr hother
  have hrecent := h.recent
  rw [horder] at hmem hrecent
  exact (List.pairwise_cons.mp hrecent).1 other ((List.mem_cons.mp hmem).resolve_left hne)

/-- A section does what it should exactly if the `Get` it may end was not disturbed. -/
theorem Ordered.right_iff (h : Ordered cfg s) : Right cfg s e ↔ Undisturbed s e := by
  constructor
  · intro hright
    cases e with
    | getFinish goroutine now =>
      intro get hget
      have hnext : (ResultCache.next cfg s (.getFinish goroutine now)).cache =
          (getFinish get.key get.entry now s.cache).1 := by
        simp only [ResultCache.next, hget]
      by_cases hexpired : get.entry.expiresAt < now
      · rw [if_pos hexpired]
        intro entry hentry hkey
        by_contra hnewer
        have hkept := hright.newer goroutine now rfl get hget entry hentry (by omega)
        rw [hnext, getFinish, if_pos hexpired] at hkept
        exact (Table.mem_erase.mp hkept).2 hkey
      · rw [if_neg hexpired]
        have hexact := hright.exact
        rw [hnext, getFinish, if_neg hexpired] at hexact
        exact (exact_moveToBack h.exact).mp hexact
    | _ => trivial
  · intro hundisturbed
    have hnext := h.next hundisturbed
    refine ⟨hnext.exact, fun _ => hnext.bounded,
      fun he key hkey hgone other => h.leastRecent he hkey hgone, ?_⟩
    rintro goroutine now rfl get hget entry hentry hnewer
    have hget' := hundisturbed get hget
    simp only [ResultCache.next, hget, getFinish]
    by_cases hexpired : get.entry.expiresAt < now
    · rw [if_pos hexpired] at hget' ⊢
      refine Table.mem_erase.mpr ⟨hentry, fun hkey => ?_⟩
      have := hget' entry hentry hkey
      omega
    · rw [if_neg hexpired]
      exact hentry

/-! ## Runs -/

/-- In any interleaving every section does what it should exactly if no `Get` is disturbed between
its sections. -/
theorem right_iff_undisturbed (defaultTTL maxEntries : ℤ) (es : List (Event V)) :
    Allowed (next (newIntelligenceCache defaultTTL maxEntries))
      (Right (newIntelligenceCache defaultTTL maxEntries)) {} es ↔
    Allowed (next (newIntelligenceCache defaultTTL maxEntries)) Undisturbed {} es :=
  (Lib.allowed_iff_allowed (fun _ _ h he => h.next he) (fun _ _ h => h.right_iff.symm)
    ordered_init).symm

/-- A `Get` has found a live entry, and the key is deleted before the `Get` makes it the most recent
one. -/
def deleted : List (Event Unit) :=
  [.setWithTTL [107] () 10 0, .getRead 0 [107], .delete [107], .getFinish 0 1]

/-- Then the order list has a key that is not in the map. -/
theorem not_right_deleted : ¬ Allowed (next (newIntelligenceCache 0 0))
    (Right (newIntelligenceCache 0 0)) {} deleted := by
  rintro ⟨-, -, -, hright, -⟩
  exact absurd (hright.exact [107]) (by decide)

/-- A `Get` has found an expired entry, and the key is set before the `Get` deletes it. -/
def replaced : List (Event Unit) :=
  [.setWithTTL [107] () 10 0, .getRead 0 [107], .setWithTTL [107] () 10 20, .getFinish 0 20]

-- then the new entry is lost
example : size (replaced.foldl (next (newIntelligenceCache 0 0)) {}).cache = 0 := by decide

end Paryty.Intelligence.ResultCache

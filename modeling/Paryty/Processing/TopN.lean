import Mathlib.Data.Finset.Basic
import Mathlib.Data.List.Sort
import Paryty.Processing.Window

/-!
# Top-N tracking

`TopNTracker` of `cluster/internal/processing/topn.go`: for each category a min-heap of the
largest entries, kept by `container/heap`. An entry is identified by its process name alone.
The Go heap has a map from names to positions beside the entries; here the position is
looked up in the entries, which is the same (`IndexedTracker.forget_update`).
-/

namespace Paryty.Processing

/-- A ranked entry in a Top-N result set. -/
structure TopNResult where
  rank : ℕ
  agentID : String
  name : String
  category : String
  value : ℚ
  window : Duration
  timestamp : Time
deriving DecidableEq

/-- A single entry tracked by the Top-N heap. -/
structure TopNEntry where
  name : String
  agentID : String
  value : ℚ
  timestamp : Time
deriving DecidableEq

/-! ## `container/heap` on a list of entries -/

namespace MinHeap

/-- `minHeap.Less`: entry `i` is smaller than entry `j`. -/
def less (h : List TopNEntry) (i j : ℕ) : Bool :=
  match h[i]?, h[j]? with
  | some a, some b => a.value < b.value
  | _, _ => false

/-- `minHeap.Swap`. -/
def swap (h : List TopNEntry) (i j : ℕ) : List TopNEntry :=
  match h[i]?, h[j]? with
  | some a, some b => (h.set i b).set j a
  | _, _ => h

/-- `heap.up`: entry `j` rises while it is smaller than its parent, `fuel` levels at most. -/
def up : ℕ → List TopNEntry → ℕ → List TopNEntry
  | 0, h, _ => h
  | fuel + 1, h, j =>
    let i := (j - 1) / 2
    if i = j ∨ !less h j i then h else up fuel (swap h i j) i

/-- `heap.down`: entry `i` sinks while a child is smaller, `fuel` levels at most. The flag
says whether it moved. -/
def down : ℕ → List TopNEntry → ℕ → List TopNEntry × Bool
  | 0, h, _ => (h, false)
  | fuel + 1, h, i =>
    let j₁ := 2 * i + 1
    let j₂ := j₁ + 1
    if h.length ≤ j₁ then (h, false)
    else
      let j := if j₂ < h.length ∧ less h j₂ j₁ then j₂ else j₁
      if !less h j i then (h, false) else ((down fuel (swap h i j) j).1, true)

/-- `heap.Fix`, after entry `i` changed. -/
def fix (h : List TopNEntry) (i : ℕ) : List TopNEntry :=
  let (h', moved) := down h.length h i
  if moved then h' else up h.length h' i

/-- `heap.Push`. -/
def push (h : List TopNEntry) (entry : TopNEntry) : List TopNEntry :=
  up (h.length + 1) (h ++ [entry]) h.length

end MinHeap

/-! ## Trackers -/

/-- The Top-N entries of one category, with the names changed since the last `getChanged`. -/
structure CategoryTracker where
  category : String
  entries : List TopNEntry := []
  maxSize : ℕ
  dirty : Finset String := ∅
deriving DecidableEq

namespace CategoryTracker

/-- `categoryTracker.update`: an entry with the same name is replaced; a new one is pushed, or
takes the place of the smallest one when the heap is full and it is larger. -/
def update (ct : CategoryTracker) (name agentID : String) (value : ℚ) (timestamp : Time) :
    CategoryTracker :=
  let entry : TopNEntry := { name, agentID, value, timestamp }
  match ct.entries.findIdx? (fun e => e.name = name) with
  | some idx =>
    { ct with
      entries := MinHeap.fix (ct.entries.set idx entry) idx
      dirty := insert name ct.dirty }
  | none =>
    if ct.entries.length < ct.maxSize then
      { ct with entries := MinHeap.push ct.entries entry, dirty := insert name ct.dirty }
    else
      match ct.entries with
      | [] => ct
      | smallest :: _ =>
        if value > smallest.value then
          { ct with
            entries := MinHeap.fix (ct.entries.set 0 entry) 0
            dirty := insert name (ct.dirty.erase smallest.name) }
        else ct

/-- Results in descending order of value, ranked from 1. `sort.Slice` leaves the order of equal
values open. -/
def ranked (results : List TopNResult) : List TopNResult :=
  (results.insertionSort (fun a b => b.value ≤ a.value)).mapIdx
    (fun i r => { r with rank := i + 1 })

/-- The result an entry is reported as; the rank is assigned after sorting. -/
def toResult (category : String) (window : Duration) (e : TopNEntry) : TopNResult where
  rank := 0
  agentID := e.agentID
  name := e.name
  category := category
  value := e.value
  window := window
  timestamp := e.timestamp

/-- `getChanged`: the changed entries, ranked among themselves; the dirty set is cleared. -/
def getChanged (ct : CategoryTracker) (window : Duration) :
    List TopNResult × CategoryTracker :=
  let changed := ct.entries.filter (fun e => e.name ∈ ct.dirty)
  (ranked (changed.map (toResult ct.category window)), { ct with dirty := ∅ })

end CategoryTracker

/-- `TopNTracker`: one tracker for each category. -/
structure TopNTracker where
  trackers : List CategoryTracker
  window : Duration := minute
deriving DecidableEq

/-- `NewTopNTracker`. -/
def NewTopNTracker (n : ℕ) (categories : List String) : TopNTracker where
  trackers := categories.map (fun category => { category, maxSize := n })

namespace TopNTracker

/-- `TopNTracker.Update`; an unknown category is only logged. -/
def update (t : TopNTracker) (category name agentID : String) (value : ℚ) (timestamp : Time) :
    TopNTracker :=
  { t with
    trackers := t.trackers.map fun ct =>
      if ct.category = category then ct.update name agentID value timestamp else ct }

/-- `GetChanged` as `collectTopNChanges` uses it: the changed entries of all categories. Go
ranges over a map here; the categories come in the order they were created in. -/
def getChanged (t : TopNTracker) : List TopNResult × TopNTracker :=
  (t.trackers.flatMap (fun ct => (ct.getChanged t.window).1),
    { t with trackers := t.trackers.map (fun ct => (ct.getChanged t.window).2) })

end TopNTracker

end Paryty.Processing

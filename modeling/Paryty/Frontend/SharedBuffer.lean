import Mathlib.Data.Nat.ModEq
import Mathlib.Data.Rat.Floor
import Mathlib.Tactic.NormNum
import Paryty.Lib.Float64
import Paryty.Lib.Run
import Paryty.Lib.Slots

/-!
# The shared ring buffer

`frontend/src/engine/sharedBuffer.ts`: vectors of numbers in slots of 32-bit integers, scaled by
1000, with three counters. Calls are executed under the lock.

`Inv` holds in every run: the buffer is a queue of slot images, what a write leaves in its slot.
An image is the rounded vector if the numbers fit and the rest of the slot holds zeros already;
`queue_right_iff` says that this is when the buffer is a queue of rounded vectors.

A finite number is the rational it stands for. Products and quotients are rounded to floats.
-/

namespace Paryty.Frontend.SharedBuffer

open Lib.Slots (slot writeAt)

/-! ## The code -/

/-- A number. -/
inductive Number
  | finite (x : ℚ)
  | nan
  | infinite (negative : Bool)
deriving DecidableEq

/-- `v * c`, for a positive factor. -/
def Number.times (c : ℚ) : Number → Number
  | finite x =>
    let product := Lib.Float64.nearest (x * c)
    if |product| < 2 ^ 1024 then finite product else infinite (product < 0)
  | v => v

/-- `Math.round`. -/
def Number.round : Number → Number
  | finite x => finite ⌊x + 1 / 2⌋
  | v => v

/-- What `Atomics.store` makes of a number: an integer modulo 2 ^ 32. -/
def Number.toInt32 : Number → ℤ
  | finite x => (if 0 ≤ x then ⌊x⌋ else ⌈x⌉).bmod (2 ^ 32)
  | _ => 0

/-- `SharedRingBuffer`. -/
structure SharedRingBuffer where
  data : List ℤ
  writeIdx : ℕ
  readIdx : ℕ
  count : ℕ
deriving DecidableEq

/-- `createSharedRingBuffer`. -/
def createSharedRingBuffer (capacity slotSize : ℕ) : SharedRingBuffer :=
  ⟨List.replicate (capacity * slotSize) 0, 0, 0, 0⟩

/-- `writeToRingBuffer`: the number as it is stored. -/
def scaled (v : Number) : ℤ := ((v.times 1000).round).toInt32

/-- `writeToRingBuffer`. -/
def writeToRingBuffer (rb : SharedRingBuffer) (values : List Number) (slotSize : ℕ) :
    SharedRingBuffer × Bool :=
  let capacity := rb.data.length / slotSize
  if rb.count ≥ capacity then (rb, false)
  else
    let offset := rb.writeIdx * slotSize
    ({ rb with
        data := writeAt rb.data offset ((values.take slotSize).map scaled)
        writeIdx := (rb.writeIdx + 1) % capacity
        count := rb.count + 1 }, true)

/-- `readFromRingBuffer`: the number that is read. -/
def unscaled (n : ℤ) : ℚ := Lib.Float64.nearest (n / 1000)

/-- `readFromRingBuffer`. -/
def readFromRingBuffer (rb : SharedRingBuffer) (slotSize : ℕ) :
    SharedRingBuffer × Option (List ℚ) :=
  if rb.count ≤ 0 then (rb, none)
  else
    let result := (slot slotSize rb.data rb.readIdx).map unscaled
    ({ rb with
        readIdx := (rb.readIdx + 1) % (rb.data.length / slotSize)
        count := rb.count - 1 }, some result)

/-! ## Runs -/

/-- A call. -/
inductive Call
  | write (values : List Number)
  | read

/-- A vector that has been written, and what its slot held before. -/
structure Written where
  values : List Number
  slot : List ℤ

/-- The answer to a call, with the number of unread vectors before. -/
inductive Answer
  | wrote (unread : ℕ) (ok : Bool)
  | got (unread : ℕ) (result : Option (List ℚ))

/-- The buffer, with the vectors that were written and read successfully and the last answer. -/
structure State where
  buffer : SharedRingBuffer
  written : List Written
  reads : List (List ℚ)
  answer : Option Answer

/-- How many vectors have not been read. -/
def State.unread (s : State) : ℕ := s.written.length - s.reads.length

/-- One call. -/
def next (slotSize : ℕ) (s : State) : Call → State
  | .write values =>
    let (buffer, ok) := writeToRingBuffer s.buffer values slotSize
    { s with
      buffer := buffer
      written := if ok then
          s.written ++ [⟨values, slot slotSize s.buffer.data s.buffer.writeIdx⟩]
        else s.written
      answer := some (.wrote s.unread ok) }
  | .read =>
    let (buffer, result) := readFromRingBuffer s.buffer slotSize
    { s with
      buffer := buffer
      reads := s.reads ++ result.toList
      answer := some (.got s.unread result) }

/-- The state of a new buffer. -/
def start (capacity slotSize : ℕ) : State :=
  ⟨createSharedRingBuffer capacity slotSize, [], [], none⟩

/-- The thousandths of a number. -/
def thousandths (x : ℚ) : ℤ := ⌊x * 1000 + 1 / 2⌋

/-- The number rounded to three decimals, as a float. -/
def Number.round3 : Number → Number
  | finite x => finite (Lib.Float64.nearest (thousandths x / 1000))
  | v => v

/-- What a vector should be read as. -/
def expected (slotSize : ℕ) (values : List Number) : List Number :=
  (values.take slotSize).map Number.round3 ++ List.replicate (slotSize - values.length) (.finite 0)

/-- What the buffer should be: a bounded queue of rounded vectors. -/
structure Right (capacity slotSize : ℕ) (s : State) : Prop where
  writeIdx : s.buffer.writeIdx < capacity
  readIdx : s.buffer.readIdx < capacity
  count : s.buffer.count ≤ capacity
  /-- A write fails exactly if the buffer is full. -/
  write : ∀ unread ok, s.answer = some (.wrote unread ok) → (ok = false ↔ unread = capacity)
  /-- A read returns null exactly if the buffer is empty. -/
  read : ∀ unread result, s.answer = some (.got unread result) → (result = none ↔ unread = 0)
  fifo : ∀ (k : ℕ) (result : List ℚ), s.reads[k]? = some result →
    ∃ w : Written, s.written[k]? = some w ∧
      result.map Number.finite = expected slotSize w.values

/-- The number's thousandths fit into 32 bits, and the float next to its thousandfold rounds to
them too. -/
def Number.Fits : Number → Prop
  | finite x => -2 ^ 31 ≤ thousandths x ∧ thousandths x < 2 ^ 31 ∧
      ⌊Lib.Float64.nearest (x * 1000) + 1 / 2⌋ = thousandths x
  | _ => False

/-- The numbers fit, and the rest of the slot held zeros already. -/
structure Written.Exact (slotSize : ℕ) (w : Written) : Prop where
  fits : ∀ v ∈ w.values.take slotSize, v.Fits
  zeros : ∀ n ∈ w.slot.drop w.values.length, n = 0

/-- The vector that is read was written exactly. -/
def Exact (slotSize : ℕ) (s : State) : Call → Prop
  | .write _ => True
  | .read => ∀ w, s.written[s.reads.length]? = some w → w.Exact slotSize

/-! ## The queue of images -/

/-- What a write leaves in its slot. -/
def Written.image (slotSize : ℕ) (w : Written) : List ℤ :=
  (w.values.take slotSize).map scaled ++ w.slot.drop w.values.length

/-- The buffer is a queue of images. -/
structure Inv (capacity slotSize : ℕ) (s : State) : Prop where
  length : s.buffer.data.length = capacity * slotSize
  writeIdx : s.buffer.writeIdx = s.written.length % capacity
  readIdx : s.buffer.readIdx = s.reads.length % capacity
  count : s.reads.length + s.buffer.count = s.written.length
  bounded : s.buffer.count ≤ capacity
  slots : ∀ w ∈ s.written, w.slot.length = slotSize
  unread : ∀ (j : ℕ) (w : Written), s.reads.length ≤ j → s.written[j]? = some w →
    slot slotSize s.buffer.data (j % capacity) = w.image slotSize

section Steps

variable {capacity slotSize : ℕ} {s : State} {values : List Number}

lemma inv_start : Inv capacity slotSize (start capacity slotSize) where
  length := List.length_replicate
  writeIdx := (Nat.zero_mod _).symm
  readIdx := (Nat.zero_mod _).symm
  count := rfl
  bounded := Nat.zero_le _
  slots _ h := nomatch h
  unread _ _ _ h := nomatch h

variable (h : Inv capacity slotSize s)
include h

lemma slot_bound (hcapacity : 0 < capacity) (i : ℕ) :
    (i % capacity + 1) * slotSize ≤ s.buffer.data.length := by
  rw [h.length]
  exact Nat.mul_le_mul_right _ (Nat.mod_lt i hcapacity)

lemma unread_eq : s.unread = s.buffer.count := by
  have hcount := h.count
  unfold State.unread
  omega

lemma exists_oldest (hsome : s.buffer.count ≠ 0) : ∃ w, s.written[s.reads.length]? = some w ∧
    slot slotSize s.buffer.data s.buffer.readIdx = w.image slotSize := by
  have hlt : s.reads.length < s.written.length := by
    have hcount := h.count
    omega
  refine ⟨s.written[s.reads.length], List.getElem?_eq_getElem hlt, ?_⟩
  rw [h.readIdx]
  exact h.unread _ _ le_rfl (List.getElem?_eq_getElem hlt)

variable (hslot : 0 < slotSize)
include hslot

lemma capacity_eq : s.buffer.data.length / slotSize = capacity := by
  rw [h.length, Nat.mul_div_cancel _ hslot]

lemma next_write_full (hfull : s.buffer.count = capacity) :
    next slotSize s (.write values) = { s with answer := some (.wrote s.unread false) } := by
  simp [next, writeToRingBuffer, capacity_eq h hslot, hfull]

lemma next_write (hroom : s.buffer.count < capacity) :
    next slotSize s (.write values) =
      { s with
        buffer := ⟨writeAt s.buffer.data (s.buffer.writeIdx * slotSize)
            ((values.take slotSize).map scaled), (s.buffer.writeIdx + 1) % capacity,
          s.buffer.readIdx, s.buffer.count + 1⟩
        written := s.written ++ [⟨values, slot slotSize s.buffer.data s.buffer.writeIdx⟩]
        answer := some (.wrote s.unread true) } := by
  simp [next, writeToRingBuffer, capacity_eq h hslot, not_le.mpr hroom]

omit h hslot in
lemma next_read_empty (hempty : s.buffer.count = 0) :
    next slotSize s .read = { s with answer := some (.got s.unread none) } := by
  simp [next, readFromRingBuffer, hempty]

lemma next_read (hsome : s.buffer.count ≠ 0) : next slotSize s .read =
    { s with
      buffer := ⟨s.buffer.data, s.buffer.writeIdx, (s.buffer.readIdx + 1) % capacity,
        s.buffer.count - 1⟩
      reads := s.reads ++
        [(slot slotSize s.buffer.data s.buffer.readIdx).map unscaled]
      answer := some (.got s.unread
        (some ((slot slotSize s.buffer.data s.buffer.readIdx).map unscaled))) } := by
  simp [next, readFromRingBuffer, capacity_eq h hslot, hsome]

lemma inv_write (hcapacity : 0 < capacity) (hroom : s.buffer.count < capacity) :
    Inv capacity slotSize (next slotSize s (.write values)) := by
  have hcount := h.count
  have hlength : ((values.take slotSize).map scaled).length ≤ slotSize := by simp
  have hbound := slot_bound h hcapacity s.written.length
  rw [← h.writeIdx] at hbound
  rw [next_write h hslot hroom]
  refine ⟨Lib.Slots.length_writeAt.trans h.length, ?_, h.readIdx, ?_, hroom, ?_, ?_⟩
  · simp [h.writeIdx, Nat.add_mod]
  · simp
    omega
  · intro w hw
    rcases List.mem_append.mp hw with hw | hw
    · exact h.slots w hw
    · rw [List.mem_singleton.mp hw]
      exact Lib.Slots.length_slot hbound
  · intro j w hj hw
    show slot slotSize (writeAt s.buffer.data (s.buffer.writeIdx * slotSize) _) (j % capacity) = _
    rcases Nat.lt_or_ge j s.written.length with hold | hnew
    · -- the slots of two unread vectors are different
      rw [List.getElem?_append_left hold] at hw
      change s.reads.length ≤ j at hj
      have hne : s.buffer.writeIdx ≠ j % capacity := by
        rw [h.writeIdx]
        intro hmod
        have hdvd : capacity ∣ s.written.length - j :=
          (Nat.modEq_iff_dvd' hold.le).mp hmod.symm
        have hle := Nat.le_of_dvd (by omega) hdvd
        omega
      rw [Lib.Slots.slot_writeAt_ne hlength hne]
      exact h.unread j w hj hw
    · obtain rfl : j = s.written.length := by
        have hlt := (List.getElem?_eq_some_iff.mp hw).1
        simp at hlt
        omega
      obtain rfl : _ = w := by simpa using hw
      rw [← h.writeIdx, Lib.Slots.slot_writeAt_self hlength hbound, Written.image, List.length_map,
        List.length_take]
      congr 1
      -- of a vector that is too long nothing is left
      rcases le_total slotSize values.length with hlong | hshort
      · have hslotLength := Lib.Slots.length_slot hbound
        rw [min_eq_left hlong, List.drop_eq_nil_of_le hslotLength.le,
          List.drop_eq_nil_of_le (hslotLength.le.trans hlong)]
      · rw [min_eq_right hshort]

lemma inv_read (hsome : s.buffer.count ≠ 0) : Inv capacity slotSize (next slotSize s .read) := by
  have hcount := h.count
  rw [next_read h hslot hsome]
  refine ⟨h.length, h.writeIdx, ?_, ?_, (Nat.sub_le _ _).trans h.bounded, h.slots, ?_⟩
  · simp [h.readIdx, Nat.add_mod]
  · simp
    omega
  · intro j w hj hw
    rw [List.length_append, List.length_singleton] at hj
    exact h.unread j w (by omega) hw

/-- Every call keeps the queue. -/
theorem inv_next (hcapacity : 0 < capacity) (call : Call) :
    Inv capacity slotSize (next slotSize s call) := by
  cases call with
  | write values =>
    rcases h.bounded.lt_or_eq with hroom | hfull
    · exact inv_write h hslot hcapacity hroom
    · rw [next_write_full h hslot hfull]
      exact ⟨h.length, h.writeIdx, h.readIdx, h.count, h.bounded, h.slots, h.unread⟩
  | read =>
    by_cases hempty : s.buffer.count = 0
    · rw [next_read_empty hempty]
      exact ⟨h.length, h.writeIdx, h.readIdx, h.count, h.bounded, h.slots, h.unread⟩
    · exact inv_read h hslot hempty

end Steps

/-! ## Vectors that are read -/

section Vectors

variable {slotSize : ℕ} {w : Written} {v : Number}

lemma scaled_of_lt {x : ℚ} (h : |Lib.Float64.nearest (x * 1000)| < 2 ^ 1024) :
    scaled (.finite x) = ⌊Lib.Float64.nearest (x * 1000) + 1 / 2⌋.bmod (2 ^ 32) := by
  rw [scaled, Number.times, if_pos h]
  simp [Number.round, Number.toInt32]

lemma abs_scaled_le (v : Number) : |scaled v| ≤ 2 ^ 31 := by
  have hbmod (n : ℤ) : |n.bmod (2 ^ 32)| ≤ 2 ^ 31 := by
    have hle : -2 ^ 31 ≤ n.bmod (2 ^ 32) := Int.le_bmod (by decide)
    have hlt : n.bmod (2 ^ 32) < 2 ^ 31 := Int.bmod_lt (by decide)
    rw [abs_le]
    omega
  unfold scaled
  cases (v.times 1000).round with
  | finite y => exact hbmod _
  | nan => decide
  | infinite negative => exact (show |(0 : ℤ)| ≤ 2 ^ 31 by decide)

lemma product_near {x : ℚ} (h : |thousandths x| ≤ 2 ^ 31) :
    |Lib.Float64.nearest (x * 1000)| < 2 ^ 1024 ∧
      |⌊Lib.Float64.nearest (x * 1000) + 1 / 2⌋ - thousandths x| < 2 ^ 31 := by
  have hle := Int.floor_le (x * 1000 + 1 / 2)
  have hlt := Int.lt_floor_add_one (x * 1000 + 1 / 2)
  have hle' := Int.floor_le (Lib.Float64.nearest (x * 1000) + 1 / 2)
  have hlt' := Int.lt_floor_add_one (Lib.Float64.nearest (x * 1000) + 1 / 2)
  have hnear := Lib.Float64.abs_nearest_sub_le (x * 1000)
  have hsmall : |(thousandths x : ℚ)| ≤ 2 ^ 31 := by exact_mod_cast h
  unfold thousandths at hsmall ⊢
  have hx : |x * 1000| ≤ 2 ^ 31 + 1 := by
    rw [abs_le] at hsmall ⊢
    constructor <;> linarith
  have hclose : |Lib.Float64.nearest (x * 1000) - x * 1000| ≤ 1 := hnear.trans (by
    rw [div_le_one (by norm_num)]
    linarith)
  rw [abs_le] at hclose hx
  constructor
  · have hlarge : (2 : ℚ) ^ 32 < 2 ^ 1024 := by gcongr <;> norm_num
    refine lt_trans ?_ hlarge
    rw [abs_lt]
    constructor <;> linarith
  · have hdiff : |((⌊Lib.Float64.nearest (x * 1000) + 1 / 2⌋ : ℤ) : ℚ) - ⌊x * 1000 + 1 / 2⌋| <
        2 ^ 31 := by
      rw [abs_lt]
      constructor <;> linarith
    exact_mod_cast hdiff

lemma scaled_eq_iff {x : ℚ} : scaled (.finite x) = thousandths x ↔ Number.Fits (.finite x) := by
  have hbmod : ∀ n : ℤ, (2 ^ 32 : ℤ) ∣ n.bmod (2 ^ 32) - n := fun n =>
    Int.dvd_bmod_sub_self
  constructor
  · intro h
    have hsmall := h ▸ abs_scaled_le (.finite x)
    obtain ⟨hproduct, hnear⟩ := product_near hsmall
    rw [scaled_of_lt hproduct] at h
    have hle : -2 ^ 31 ≤ thousandths x := h ▸ Int.le_bmod (by decide)
    have hlt : thousandths x < 2 ^ 31 := h ▸ Int.bmod_lt (by decide)
    obtain ⟨k, hk⟩ := hbmod ⌊Lib.Float64.nearest (x * 1000) + 1 / 2⌋
    rw [h] at hk
    refine ⟨hle, hlt, ?_⟩
    rw [abs_lt] at hnear
    omega
  · rintro ⟨hle, hlt, hproduct⟩
    rw [scaled_of_lt (product_near (abs_le.mpr ⟨hle, hlt.le⟩)).1, hproduct]
    exact Int.bmod_eq_of_le (by omega) (by omega)

lemma unscaled_inj {m n : ℤ} (hm : |m| ≤ 2 ^ 31) : unscaled m = unscaled n ↔ m = n := by
  refine ⟨fun h => ?_, congrArg unscaled⟩
  exact Lib.Float64.eq_of_nearest_div_eq (d := 1000) (by decide) (by omega) (by push_cast; exact h)

lemma read_scaled_iff : Number.finite (unscaled (scaled v)) = v.round3 ↔ v.Fits := by
  cases v with
  | nan => exact iff_of_false (fun h => nomatch h) id
  | infinite negative => exact iff_of_false (fun h => nomatch h) id
  | finite x =>
    have hround : Number.round3 (.finite x) = .finite (unscaled (thousandths x)) := rfl
    rw [hround, Number.finite.injEq, unscaled_inj (abs_scaled_le _), scaled_eq_iff]

lemma unscaled_eq_zero {n : ℤ} : unscaled n = 0 ↔ n = 0 := by
  have hzero : unscaled 0 = 0 := by
    simpa [unscaled] using Lib.Float64.nearest_intCast (n := 0) (by decide)
  rw [← hzero, eq_comm, unscaled_inj (by decide), eq_comm]

lemma read_rest_iff {rest : List ℤ} : rest.map (fun n => Number.finite (unscaled n)) =
    List.replicate rest.length (.finite 0) ↔ ∀ n ∈ rest, n = 0 := by
  rw [List.eq_replicate_iff]
  simp [unscaled_eq_zero]

lemma read_image_iff (hw : w.slot.length = slotSize) :
    ((w.image slotSize).map unscaled).map Number.finite =
      expected slotSize w.values ↔ w.Exact slotSize := by
  have hrest : (w.slot.drop w.values.length).length = slotSize - w.values.length := by
    rw [List.length_drop, hw]
  have hfits : (w.values.take slotSize).map (fun v => Number.finite (unscaled (scaled v))) =
      (w.values.take slotSize).map Number.round3 ↔ ∀ v ∈ w.values.take slotSize, v.Fits := by
    rw [List.map_inj_left]
    exact forall₂_congr fun v _ => read_scaled_iff
  rw [Written.image, expected, List.map_map, List.map_append, List.map_map, ← hrest]
  constructor
  · intro h
    obtain ⟨hvalues, hzeros⟩ := List.append_inj h (by simp)
    exact ⟨hfits.mp hvalues, read_rest_iff.mp hzeros⟩
  · intro h
    exact congrArg₂ _ (hfits.mpr h.fits) (read_rest_iff.mpr h.zeros)

end Vectors

/-! ## Every run -/

section Runs

variable {capacity slotSize : ℕ} {s : State}

lemma right_write (hcapacity : 0 < capacity) (hslot : 0 < slotSize) (h : Inv capacity slotSize s)
    (hs : Right capacity slotSize s) (values : List Number) :
    Right capacity slotSize (next slotSize s (.write values)) := by
  rcases h.bounded.lt_or_eq with hroom | hfull
  · rw [next_write h hslot hroom]
    refine ⟨Nat.mod_lt _ hcapacity, hs.readIdx, hroom, ?_, (fun _ _ h => nomatch h),
      fun k result hk => ?_⟩
    · rintro unread ok hanswer
      obtain ⟨rfl, rfl⟩ := Answer.wrote.inj (Option.some.inj hanswer)
      rw [unread_eq h]
      exact iff_of_false (by decide) hroom.ne
    · obtain ⟨w, hw, hresult⟩ := hs.fifo k result hk
      exact ⟨w, (List.getElem?_append_left (List.getElem?_eq_some_iff.mp hw).1).trans hw, hresult⟩
  · rw [next_write_full h hslot hfull]
    refine ⟨hs.writeIdx, hs.readIdx, hs.count, ?_, (fun _ _ h => nomatch h), hs.fifo⟩
    rintro unread ok hanswer
    obtain ⟨rfl, rfl⟩ := Answer.wrote.inj (Option.some.inj hanswer)
    rw [unread_eq h]
    exact iff_of_true rfl hfull

lemma right_read_iff (hcapacity : 0 < capacity) (hslot : 0 < slotSize)
    (h : Inv capacity slotSize s) (hs : Right capacity slotSize s) :
    Right capacity slotSize (next slotSize s .read) ↔ Exact slotSize s .read := by
  by_cases hempty : s.buffer.count = 0
  · have hcount := h.count
    have hnone : s.written[s.reads.length]? = none :=
      List.getElem?_eq_none (by omega)
    rw [next_read_empty hempty]
    refine iff_of_true ⟨hs.writeIdx, hs.readIdx, hs.count, (fun _ _ h => nomatch h), ?_, hs.fifo⟩
      (fun w hw => absurd (hnone.symm.trans hw) (by simp))
    rintro unread result hanswer
    obtain ⟨rfl, rfl⟩ := Answer.got.inj (Option.some.inj hanswer)
    rw [unread_eq h]
    exact iff_of_true rfl hempty
  · obtain ⟨w, hw, himage⟩ := exists_oldest h hempty
    have hexact : Exact slotSize s .read ↔ w.Exact slotSize := by
      refine ⟨fun hall => hall w hw, fun hw' w' hsame => ?_⟩
      rwa [Option.some.inj (hsame.symm.trans hw)]
    rw [hexact, ← read_image_iff (h.slots w (List.mem_of_getElem? hw)), next_read h hslot hempty,
      himage]
    constructor
    · intro hright
      obtain ⟨w', hw', hresult⟩ := hright.fifo s.reads.length _ List.getElem?_concat_length
      obtain rfl : w' = w := Option.some.inj (hw'.symm.trans hw)
      exact hresult
    · intro hresult
      refine ⟨hs.writeIdx, Nat.mod_lt _ hcapacity, (Nat.sub_le _ _).trans h.bounded,
        (fun _ _ h => nomatch h), ?_, fun k result' hk => ?_⟩
      · rintro unread result' hanswer
        obtain ⟨rfl, rfl⟩ := Answer.got.inj (Option.some.inj hanswer)
        rw [unread_eq h]
        exact iff_of_false (by simp) hempty
      · rcases Nat.lt_or_ge k s.reads.length with hold | hnew
        · exact hs.fifo k result' ((List.getElem?_append_left hold).symm.trans hk)
        · obtain rfl : k = s.reads.length := by
            have hlt := (List.getElem?_eq_some_iff.mp hk).1
            simp at hlt
            omega
          obtain rfl := Option.some.inj (List.getElem?_concat_length.symm.trans hk)
          exact ⟨w, hw, hresult⟩

end Runs

/-- The buffer is a bounded queue of rounded vectors in exactly the runs that read only vectors that
were written exactly. -/
theorem queue_right_iff (capacity slotSize : ℕ) (hcapacity : 0 < capacity) (hslot : 0 < slotSize)
    (calls : List Call) :
    Lib.Always (next slotSize) (Right capacity slotSize) (start capacity slotSize) calls ↔
      Lib.Allowed (next slotSize) (Exact slotSize) (start capacity slotSize) calls := by
  refine Lib.always_iff_allowed (I := Inv capacity slotSize)
    (fun s call h => inv_next h hslot hcapacity call) (fun s call h hs => ?_) inv_start ?_ calls
  · cases call with
    | write values => exact iff_of_true (right_write hcapacity hslot h hs values) trivial
    | read => exact right_read_iff hcapacity hslot h hs
  · exact ⟨hcapacity, hcapacity, Nat.zero_le _, (fun _ _ h => nomatch h), (fun _ _ h => nomatch h),
      fun k result h => nomatch h⟩

lemma thousandths_of_eq {x : ℚ} {n : ℤ} (hx : x * 1000 = n) : thousandths x = n := by
  rw [thousandths, hx, Int.floor_intCast_add]
  norm_num

lemma fits_of_eq {x : ℚ} {n : ℤ} (hx : x * 1000 = n) (hn : |n| < 2 ^ 31) :
    Number.Fits (.finite x) := by
  have hround := thousandths_of_eq hx
  rw [abs_lt] at hn
  refine ⟨by omega, by omega, ?_⟩
  rw [hx, Lib.Float64.nearest_intCast (by rw [abs_lt]; omega), ← hx]
  rfl

theorem right_one_vector : Lib.Always (next 2) (Right 1 2) (start 1 2)
    [.write [.finite (3 / 2), .finite (-1 / 4)], .read] := by
  refine (queue_right_iff 1 2 (by decide) (by decide) _).mpr ⟨trivial, fun w hw => ?_, trivial⟩
  obtain rfl := Option.some.inj hw
  refine ⟨fun v hv => ?_, fun n hn => nomatch hn⟩
  rcases List.mem_pair.mp hv with rfl | rfl
  · exact fits_of_eq (n := 1500) (by norm_num) (by decide)
  · exact fits_of_eq (n := -250) (by norm_num) (by decide)

/-- In a slot that is used again, a shorter vector is read with the rest of the one before. -/
theorem not_right_reused : ¬ Lib.Always (next 2) (Right 1 2) (start 1 2)
    [.write [.finite 1, .finite 2], .read, .write [.finite 3], .read] := by
  rintro ⟨-, -, -, -, h⟩
  let second : Written := ⟨[.finite 3], [scaled (.finite 1), scaled (.finite 2)]⟩
  obtain ⟨w, hw, hresult⟩ := h.fifo 1 ((second.image 2).map unscaled) rfl
  obtain rfl : second = w := Option.some.inj hw
  have hslot : second.slot.length = 2 := rfl
  have hzero : scaled (.finite 2) = 0 :=
    ((read_image_iff hslot).mp hresult).zeros _ (List.mem_singleton_self _)
  have htwo : (2 : ℚ) * 1000 = (2000 : ℤ) := by norm_num
  rw [scaled_eq_iff.mpr (fits_of_eq htwo (by decide)), thousandths_of_eq htwo] at hzero
  exact absurd hzero (by decide)

end Paryty.Frontend.SharedBuffer

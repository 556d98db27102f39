import Paryty.Lib.ByteLines
import Paryty.Lib.Run
import Paryty.Lib.RustString

/-!
# The log tailer

`agent/src/supervisor/log_tailer.rs`: reads the lines that are added to a file, from a position that
it remembers between polls.

* `tailFile` is one poll: a file shorter than the position is read from its start again, any other
  one from the position on. `read_line` returns a last line without a line end like any other, and
  fails on a line that is not UTF-8.
* `World` is the file with what was written to it, and the tailer. `next` is one event: bytes are
  appended, the file is cut, it is replaced by an empty one, or the tailer polls.
* `Faithful` says that the lines emitted are the complete lines written. `Harmless` is what an event
  must be for that in the state it meets, and `faithful_of_harmless` is the theorem on runs.

The filter, and a channel that is closed, are left out.
-/

namespace Paryty.Agent.LogTailer

open Lib Lib.ByteLines Lib.RustString

/-! ## The tailer -/

/-- `FileState`. -/
structure FileState where
  position : ℕ
  lineNumber : ℕ := 0
deriving DecidableEq

/-- `LogLine`. -/
structure LogLine where
  content : String
  lineNumber : ℕ
deriving DecidableEq

/-- `tail_file`: the loop over what `read_line` returns. -/
def readLines : FileState → List Lib.Bytes → FileState × List LogLine
  | state, [] => (state, [])
  | state, line :: lines =>
    match fromUtf8 line with
    | none => (state, [])
    | some text =>
      let state := { position := state.position + line.length, lineNumber := state.lineNumber + 1 }
      let logLine := { content := trimEnd text, lineNumber := state.lineNumber }
      let (last, logLines) := readLines state lines
      (last, logLine :: logLines)

/-- `tail_file`. -/
def tailFile (state : FileState) (file : Lib.Bytes) : FileState × List LogLine :=
  let state := if file.length < state.position then { position := 0 } else state
  if file.length = state.position then (state, [])
  else readLines state (chunks (file.drop state.position))

/-! ## The file -/

/-- What happens. -/
inductive Event
  /-- Bytes are written at the end of the file. -/
  | append (bytes : Lib.Bytes)
  /-- The file is cut to a length. -/
  | truncate (length : ℕ)
  /-- An empty file takes the place of the file. -/
  | rotate
  /-- The tailer polls. -/
  | poll
deriving DecidableEq

/-- The file and the tailer. `start` is the position in the file where what is followed starts;
`lines` are the complete lines written from there on, in this file and those before it, and
`pending` is the line that has no end yet. `cut` says that a file was cut or replaced below the
tailer's position since it last polled, `polled` that the last event was a poll. -/
structure World where
  file : Lib.Bytes
  start : ℕ
  lines : List Lib.Bytes
  pending : Lib.Bytes
  cut : Bool := false
  polled : Bool := false
  state : FileState
  emitted : List LogLine := []
deriving DecidableEq

/-- `run`: a tailer starts at the end of the file, or at its start. -/
def init (tailFromEnd : Bool) (file : Lib.Bytes) : World :=
  let start := if tailFromEnd then file.length else 0
  { file, start, lines := complete (file.drop start), pending := rest (file.drop start),
    state := { position := start } }

/-- What an event leads to. -/
def next (w : World) : Event → World
  | .append bytes =>
    { w with
      file := w.file ++ bytes
      lines := w.lines ++ complete (w.pending ++ bytes)
      pending := rest (w.pending ++ bytes)
      polled := false }
  | .truncate length =>
    if w.file.length ≤ length then { w with polled := false }
    else
      { w with
        file := w.file.take length
        start := min w.start length
        pending := rest ((w.file.take length).drop w.start)
        cut := w.cut || decide (length < w.state.position)
        polled := false }
  | .rotate => { w with file := [], start := 0, pending := [], cut := true, polled := false }
  | .poll =>
    let (state, logLines) := tailFile w.state w.file
    { w with state, emitted := w.emitted ++ logLines, cut := false, polled := true }

/-! ## What the tailer is for -/

/-- The content of an emitted line is the text of a line, without the white space at its end. -/
def Shows (logLine : LogLine) (line : Lib.Bytes) : Prop :=
  ∃ text, line = utf8 text ∧ logLine.content = trimEnd text

/-- The lines emitted are the first of the complete lines, and after a poll they are all of them. -/
def Faithful (w : World) : Prop :=
  (∃ done, done <+: w.lines ∧ List.Forall₂ Shows w.emitted done) ∧
    (w.polled = true → List.Forall₂ Shows w.emitted w.lines)

/-- Where the tailer would read. -/
def unread (w : World) : Lib.Bytes :=
  if w.file.length < w.state.position then w.file else w.file.drop w.state.position

/-- Complete lines are UTF-8, and behind them is nothing, or the start of a line that breaks off
within a character or is not UTF-8 at all. -/
def Readable (bytes : Lib.Bytes) : Prop :=
  (∀ line ∈ complete bytes, (fromUtf8 line).isSome) ∧
    (rest bytes = [] ∨ fromUtf8 (rest bytes) = none)

/-- Every complete line has been emitted. -/
def CaughtUp (w : World) : Prop := w.emitted.length = w.lines.length

/-- What an event must be in the state it meets. The file is cut or replaced only when every
complete line has been emitted, and what a cut leaves before the position has no complete line. At a
poll, a file that was cut is shorter than the position, and what there is to read can be read. -/
def Harmless (w : World) : Event → Prop
  | .append _ => True
  | .truncate length => w.file.length ≤ length ∨ (CaughtUp w ∧
      (w.state.position ≤ length ∨
        (min w.start length = 0 ∧ lineFeed ∉ w.file.take length)))
  | .rotate => CaughtUp w
  | .poll => (w.cut = true → w.file.length < w.state.position ∨ w.state.position = 0) ∧
      Readable (unread w)

/-! ## A poll -/

variable {lines : List Lib.Bytes} {bytes : Lib.Bytes} {w : World}

lemma readLines_chunks (state : FileState) (h : Readable bytes) : ∃ logLines,
    List.Forall₂ Shows logLines (complete bytes) ∧
      readLines state (chunks bytes) =
        ({  position := state.position + (complete bytes).flatten.length
            lineNumber := state.lineNumber + (complete bytes).length }, logLines) := by
  obtain ⟨hlines, hrest⟩ := h
  unfold chunks
  generalize complete bytes = lines at hlines ⊢
  induction lines generalizing state with
  | nil =>
    refine ⟨[], .nil, ?_⟩
    rcases hrest with hrest | hrest
    · rw [if_pos hrest]
      rfl
    · split
      · rfl
      · rw [List.nil_append, readLines, hrest]
        rfl
  | cons line lines ih =>
    obtain ⟨text, htext⟩ := Option.isSome_iff_exists.mp (hlines line List.mem_cons_self)
    obtain ⟨logLines, hshows, hread⟩ := ih
      { position := state.position + line.length, lineNumber := state.lineNumber + 1 }
      fun l hl => hlines l (List.mem_cons_of_mem _ hl)
    rw [List.cons_append, readLines, htext]
    dsimp only
    rw [hread]
    refine ⟨{ content := trimEnd text, lineNumber := state.lineNumber + 1 } :: logLines,
      .cons ⟨text, fromUtf8_eq_some.mp htext, rfl⟩ hshows, ?_⟩
    simp [Nat.add_assoc, Nat.add_comm 1]

lemma tailFile_eq (state : FileState) (file : Lib.Bytes) : tailFile state file =
    readLines (if file.length < state.position then { position := 0 } else state)
      (chunks (file.drop (if file.length < state.position then 0 else state.position))) := by
  unfold tailFile
  generalize hbase : (if file.length < state.position then { position := 0 } else state) = base
  have hposition :
      (if file.length < state.position then 0 else state.position) = base.position := by
    rw [← hbase]
    split <;> rfl
  rw [hposition]
  dsimp only
  split
  case isTrue hend =>
    rw [← hend, List.drop_length]
    rfl
  case isFalse => rfl

lemma unread_eq (w : World) : unread w =
    w.file.drop (if w.file.length < w.state.position then 0 else w.state.position) := by
  unfold unread
  split <;> rfl

/-! ## The invariant -/

/-- The file goes on where the tailer stopped: the lines before the position are done, and those
behind it are written. -/
structure Following (w : World) (done : List Lib.Bytes) : Prop where
  start_le : w.start ≤ w.state.position
  le_length : w.state.position ≤ w.file.length
  closed : rest ((w.file.take w.state.position).drop w.start) = []
  lines : w.lines = done ++ complete (w.file.drop w.state.position)
  pending : w.pending = rest (w.file.drop w.state.position)

/-- Everything in the file is new to the tailer. -/
structure Anew (w : World) (done : List Lib.Bytes) : Prop where
  start : w.start = 0
  lines : w.lines = done ++ complete w.file
  pending : w.pending = rest w.file

/-- The lines emitted are those that are done. -/
def Inv (w : World) : Prop :=
  ∃ done, List.Forall₂ Shows w.emitted done ∧
    ((w.cut = true ∧ Anew w done) ∨ (w.cut = false ∧ Following w done)) ∧
      (w.polled = true → w.lines = done)

lemma Inv.faithful (h : Inv w) : Faithful w := by
  obtain ⟨done, hshows, hmode, hpolled⟩ := h
  refine ⟨⟨done, ?_, hshows⟩, fun hpoll => hpolled hpoll ▸ hshows⟩
  rcases hmode with ⟨-, hmode⟩ | ⟨-, hmode⟩
  · exact hmode.lines ▸ List.prefix_append _ _
  · exact hmode.lines ▸ List.prefix_append _ _

lemma inv_init (tailFromEnd : Bool) (file : Lib.Bytes) : Inv (init tailFromEnd file) := by
  refine ⟨[], .nil, .inr ⟨rfl, ?_⟩, fun hpoll => nomatch hpoll⟩
  have hstart : (if tailFromEnd = true then file.length else 0) ≤ file.length := by
    split <;> omega
  refine ⟨Nat.le_refl _, hstart, ?_, rfl, rfl⟩
  have hnone : (file.take (if tailFromEnd = true then file.length else 0)).drop
      (if tailFromEnd = true then file.length else 0) = [] :=
    List.drop_eq_nil_of_le (by rw [List.length_take]; omega)
  exact (congrArg rest hnone).trans rfl

lemma Inv.append (h : Inv w) (bytes : Lib.Bytes) : Inv (next w (.append bytes)) := by
  obtain ⟨done, hshows, hmode, -⟩ := h
  refine ⟨done, hshows, ?_, fun hpoll => nomatch hpoll⟩
  rcases hmode with ⟨hcut, hmode⟩ | ⟨hcut, hmode⟩
  · refine .inl ⟨hcut, hmode.start, ?_, ?_⟩
    · dsimp only [next]
      rw [complete_append w.file, hmode.lines, hmode.pending, List.append_assoc]
    · dsimp only [next]
      rw [rest_append w.file, hmode.pending]
  · have hlength := hmode.le_length
    refine .inr ⟨hcut, hmode.start_le, ?_, ?_, ?_, ?_⟩
    · dsimp only [next]
      rw [List.length_append]
      omega
    · dsimp only [next]
      rw [List.take_append_of_le_length hlength]
      exact hmode.closed
    · dsimp only [next]
      rw [List.drop_append_of_le_length hlength, complete_append (w.file.drop _), hmode.lines,
        hmode.pending, List.append_assoc]
    · dsimp only [next]
      rw [List.drop_append_of_le_length hlength, rest_append (w.file.drop _), hmode.pending]

lemma eq_nil_of_caughtUp {done more : List Lib.Bytes} (hshows : List.Forall₂ Shows w.emitted done)
    (hlines : w.lines = done ++ more) (h : CaughtUp w) : more = [] := by
  have hlength := hshows.length_eq
  rw [CaughtUp, hlines, List.length_append] at h
  exact List.eq_nil_of_length_eq_zero (by omega)

lemma Inv.rotate (h : Inv w) (hcaught : CaughtUp w) : Inv (next w .rotate) := by
  obtain ⟨done, hshows, hmode, -⟩ := h
  have hlines : ∃ more, w.lines = done ++ more := by
    rcases hmode with ⟨-, hmode⟩ | ⟨-, hmode⟩
    · exact ⟨_, hmode.lines⟩
    · exact ⟨_, hmode.lines⟩
  obtain ⟨more, hlines⟩ := hlines
  refine ⟨done, hshows, .inl ⟨rfl, rfl, ?_, rfl⟩, fun hpoll => nomatch hpoll⟩
  dsimp only [next]
  rw [hlines, eq_nil_of_caughtUp hshows hlines hcaught]
  rfl

lemma Inv.truncate (h : Inv w) {length : ℕ} (hharmless : Harmless w (.truncate length)) :
    Inv (next w (.truncate length)) := by
  obtain ⟨done, hshows, hmode, -⟩ := h
  simp only [next]
  split
  case isTrue =>
    refine ⟨done, hshows, ?_, fun hpoll => nomatch hpoll⟩
    rcases hmode with ⟨hcut, hmode⟩ | ⟨hcut, hmode⟩
    · exact .inl ⟨hcut, hmode.start, hmode.lines, hmode.pending⟩
    · exact .inr ⟨hcut, hmode.start_le, hmode.le_length, hmode.closed, hmode.lines, hmode.pending⟩
  case isFalse hlt =>
    obtain ⟨hcaught, hleft⟩ := hharmless.resolve_left hlt
    refine ⟨done, hshows, ?_, fun hpoll => nomatch hpoll⟩
    rcases hmode with ⟨hcut, hmode⟩ | ⟨hcut, hmode⟩
    · -- the file was cut before, and has no complete line since
      have hnone := eq_nil_of_caughtUp hshows hmode.lines hcaught
      have hmem : lineFeed ∉ w.file.take length := fun hmem =>
        not_mem_of_complete_eq_nil hnone (List.mem_of_mem_take hmem)
      refine .inl ⟨by simp [hcut], by simp [hmode.start], ?_, ?_⟩
      · dsimp only
        rw [hmode.lines, hnone, complete_of_not_mem hmem]
      · dsimp only
        rw [hmode.start, List.drop_zero]
    · have hnone := eq_nil_of_caughtUp hshows hmode.lines hcaught
      have hunread := not_mem_of_complete_eq_nil hnone
      have hstart := hmode.start_le
      by_cases hposition : w.state.position ≤ length
      · -- only bytes of an incomplete line are gone
        have hmem : lineFeed ∉ (w.file.take length).drop w.state.position := by
          rw [List.drop_take]
          exact fun hmem => hunread (List.mem_of_mem_take hmem)
        have htake : (w.file.take length).take w.state.position = w.file.take w.state.position := by
          rw [List.take_take, Nat.min_eq_left hposition]
        have hmin : min w.start length = w.start := Nat.min_eq_left (by omega)
        refine .inr ⟨by simp [hcut, hposition], ?_, ?_, ?_, ?_, ?_⟩
        · dsimp only
          omega
        · dsimp only
          rw [List.length_take]
          omega
        · dsimp only
          rw [htake, hmin]
          exact hmode.closed
        · dsimp only
          rw [hmode.lines, hnone, complete_of_not_mem hmem]
        · dsimp only
          have hsplit : (w.file.take length).drop w.start =
              (w.file.take w.state.position).drop w.start ++
                (w.file.take length).drop w.state.position := by
            rw [← htake, ← List.drop_append_of_le_length, List.take_append_drop]
            rw [htake, List.length_take]
            omega
          rw [hsplit, rest_append, hmode.closed, List.nil_append]
      · -- the rest of the file is read again, and is an incomplete line
        obtain ⟨hzero, hmem⟩ := hleft.resolve_left hposition
        refine .inl ⟨by simp [Nat.lt_of_not_le hposition], hzero, ?_, ?_⟩
        · dsimp only
          rw [hmode.lines, hnone, complete_of_not_mem hmem]
        · dsimp only
          rcases Nat.min_eq_zero_iff.mp hzero with hstart | hlength
          · rw [hstart, List.drop_zero]
          · rw [hlength, List.take_zero, List.drop_nil]

lemma Inv.poll (h : Inv w) (hharmless : Harmless w .poll) : Inv (next w .poll) := by
  obtain ⟨hnoticed, hreadable⟩ := hharmless
  obtain ⟨done, hshows, hmode, -⟩ := h
  -- where the tailer reads from, and what is written from there on
  generalize hfrom : (if w.file.length < w.state.position then 0 else w.state.position) = base
  have hunread := unread_eq w
  rw [hfrom] at hunread
  rw [hunread] at hreadable
  have hbase : base ≤ w.file.length ∧ w.start ≤ base ∧
      rest ((w.file.take base).drop w.start) = [] ∧
        w.lines = done ++ complete (w.file.drop base) ∧ w.pending = rest (w.file.drop base) := by
    rcases hmode with ⟨hcut, hmode⟩ | ⟨hcut, hmode⟩
    · obtain rfl : 0 = base := by
        rw [← hfrom]
        rcases hnoticed hcut with hshort | hzero
        · rw [if_pos hshort]
        · rw [hzero, ite_self]
      rw [List.drop_zero, hmode.start]
      exact ⟨Nat.zero_le _, Nat.le_refl _, rfl, hmode.lines, hmode.pending⟩
    · obtain rfl : w.state.position = base := by
        rw [← hfrom, if_neg (Nat.not_lt.mpr hmode.le_length)]
      exact ⟨hmode.le_length, hmode.start_le, hmode.closed, hmode.lines, hmode.pending⟩
  obtain ⟨hlength, hstart, hclosed, hlines, hpending⟩ := hbase
  obtain ⟨logLines, hlog, hread⟩ := readLines_chunks
    (if w.file.length < w.state.position then { position := 0 } else w.state) hreadable
  have hposition : (if w.file.length < w.state.position then { position := 0 }
      else w.state).position = base := by
    rw [← hfrom]
    split <;> rfl
  have htail := tailFile_eq w.state w.file
  rw [hfrom, hread, hposition] at htail
  -- behind the lines that are read stands what has no line end yet
  have hdrop : w.file.drop (base + (complete (w.file.drop base)).flatten.length) =
      rest (w.file.drop base) := by
    rw [← List.drop_drop, drop_complete]
  have htake : w.file.take (base + (complete (w.file.drop base)).flatten.length) =
      w.file.take base ++ (complete (w.file.drop base)).flatten := by
    rw [List.take_add, take_complete]
  have hnone := not_mem_rest (w.file.drop base)
  simp only [next, htail]
  refine ⟨done ++ complete (w.file.drop base), List.rel_append hshows hlog, .inr ⟨rfl, ?_⟩,
    fun _ => hlines⟩
  refine ⟨?_, ?_, ?_, ?_, ?_⟩
  · dsimp only
    omega
  · dsimp only
    have htotal := congrArg List.length (flatten_complete (w.file.drop base))
    rw [List.length_append, List.length_drop] at htotal
    omega
  · dsimp only
    rw [htake, List.drop_append_of_le_length (by rw [List.length_take]; omega), rest_append,
      hclosed, List.nil_append, rest_flatten_complete]
  · dsimp only
    rw [hdrop, complete_of_not_mem hnone, List.append_nil, hlines]
  · dsimp only
    rw [hdrop, rest_of_not_mem hnone, hpending]

lemma Inv.next (h : Inv w) {e : Event} (hharmless : Harmless w e) : Inv (next w e) := by
  cases e with
  | append bytes => exact h.append bytes
  | truncate length => exact h.truncate hharmless
  | rotate => exact h.rotate hharmless
  | poll => exact h.poll hharmless

/-- In every run of harmless events the lines emitted are the complete lines written. -/
theorem faithful_of_harmless (tailFromEnd : Bool) (file : Lib.Bytes) (events : List Event)
    (h : Allowed LogTailer.next Harmless (init tailFromEnd file) events) :
    Always LogTailer.next Faithful (init tailFromEnd file) events :=
  h.always (fun _ _ hI hharmless => hI.next hharmless) (fun _ hI => hI.faithful)
    (inv_init tailFromEnd file)

/-- Two lines, a line in two pieces, and, when all are read, a line in the next file. -/
def threeBatches : List Event :=
  [.append (utf8 "a\nb\n"), .poll, .append (utf8 "c"), .append (utf8 "d\n"), .poll, .rotate,
    .append (utf8 "e\n"), .poll]

theorem faithful_threeBatches : Always LogTailer.next Faithful (init true []) threeBatches := by
  refine faithful_of_harmless true [] threeBatches
    ⟨trivial, ⟨fun hcut => (nomatch hcut), ?_⟩, trivial, trivial, ⟨fun hcut => ?_, ?_⟩, ?_, trivial,
      ⟨fun _ => .inl ?_, ?_⟩, trivial⟩
  · exact ⟨by decide +kernel, by decide +kernel⟩
  · exact absurd hcut (by decide +kernel)
  · exact ⟨by decide +kernel, by decide +kernel⟩
  · show List.length _ = List.length _
    decide +kernel
  · decide +kernel
  · exact ⟨by decide +kernel, by decide +kernel⟩

/-- A line is written in two pieces, and the tailer polls after each. -/
def halves : List Event := [.append (utf8 "a"), .poll, .append (utf8 "b\n"), .poll]

theorem not_faithful_halves : ¬ Always LogTailer.next Faithful (init true []) halves := by
  intro h
  have hall := always_iff_forall_prefix.mp h
  have hfirst := hall [.append (utf8 "a"), .poll] (by decide)
  have hlength := (hfirst.2 rfl).length_eq
  exact absurd hlength (by decide +kernel)

end Paryty.Agent.LogTailer

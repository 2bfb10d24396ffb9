import FormulaSheet.Log

/-!
# A log that may fail

While a program runs its log may be attached or not, and the file of the log may fail at any time.
Then people are warned, unless they were warned less than a minute ago. A line that cannot be forced
to the disk is in the file nevertheless. None of that can be foreseen by the program, so it is taken
from the surroundings (`Surroundings`): the times of the events, a clock, and what becomes of each
line.

Recording takes calls. Where there is no room for them in the middle of something, that is cut: the
calls that report a failed write are not guarded themselves.

* `Recorder.recordIn_of_report_le`, `Recorder.recordIn_of_steady`: where an event is recorded, and
  where there is no room for it;
* `Recorder.log_tell`: where no line fails, events are recorded as the log records them;
* `Recorder.tell_of_detached`: nothing is recorded in a log that is not attached;
* `Recorder.journal_tell_of_refused`: once all lines are refused, nothing is added to the file;
* `Recorder.journal_tell_of_not_refused`: lines that are not refused are added, whether they can be
  forced to the disk or not;
* `Recorder.spaced_tell`, `Recorder.Spaced.length_le_one`: warnings are a minute apart, so that
  there is at most one in a minute.
-/

namespace FormulaSheet

/-- What happens around a program while it records events, by the number of events that it has made
before. -/
structure Surroundings where
  /-- the time stamp of an event -/
  stamp : Nat → Text
  /-- the nanoseconds that have passed when an event was not written -/
  clock : Nat → Nat
  /-- what becomes of its line -/
  storing : Nat → Storing
  /-- how many calls it takes to record it -/
  costs : Costs

/-- The event log at work. -/
structure Recorder where
  /-- the log -/
  log : Log
  /-- how many events were made so far -/
  count : Nat
  /-- when people were warned that an event was not written, the latest time first -/
  warnings : List Nat

namespace Recorder

/-- The nanoseconds between two warnings. -/
def interval : Nat :=
  60 * 1000000000

/-- Warns people, unless they were warned less than the interval ago. -/
def warn (r : Recorder) (now : Nat) : Recorder :=
  if now - r.warnings.headD 0 < interval then r else { r with warnings := now :: r.warnings }

/-- Records an event that is made at its time, if the log is attached. People are warned if the
event was not written. -/
def record (w : Surroundings) (r : Recorder) (make : Text → Event) : Recorder :=
  let next := { r with count := r.count + 1 }
  if r.log.attached then
    match r.log.put (w.storing r.count) (make (w.stamp r.count)).capped with
    | (log, true) => { next with log }
    | (log, false) => warn { next with log := { log with warned := true } } (w.clock r.count)
  else next

/-- Records an event where there is room for so many calls, and tells whether there was enough for
it. An event that is not written must still be reported. -/
def recordIn (w : Surroundings) (room : Nat) (r : Recorder) (make : Text → Event) :
    Recorder × Bool :=
  let next := { r with count := r.count + 1 }
  if room < w.costs.event then (r, false)
  else if r.log.attached then
    if room < w.costs.write then (next, false)
    else
      match r.log.put (w.storing r.count) (make (w.stamp r.count)).capped with
      | (log, true) => ({ next with log }, true)
      | (log, false) =>
        if room < w.costs.report then ({ next with log }, false)
        else (warn { next with log := { log with warned := true } } (w.clock r.count), true)
  else (next, true)

/-- Records events, one after the other. -/
def tell (w : Surroundings) (r : Recorder) (events : List (Text → Event)) : Recorder :=
  events.foldl (record w) r

variable {w : Surroundings} {r : Recorder} {make : Text → Event} {events : List (Text → Event)}
  {room : Nat}

theorem tell_append (w : Surroundings) (r : Recorder) (events more : List (Text → Event)) :
    r.tell w (events ++ more) = (r.tell w events).tell w more :=
  List.foldl_append

theorem log_warn (r : Recorder) (now : Nat) : (r.warn now).log = r.log := by
  rw [warn]
  split <;> rfl

theorem count_warn (r : Recorder) (now : Nat) : (r.warn now).count = r.count := by
  rw [warn]
  split <;> rfl

theorem count_record (w : Surroundings) (r : Recorder) (make : Text → Event) :
    (r.record w make).count = r.count + 1 := by
  rw [record]
  split
  · split
    · rfl
    · exact count_warn _ _
  · rfl

/-- To record an event changes nothing of the log but the file and whether people were warned. -/
theorem log_record_fst (w : Surroundings) (r : Recorder) (make : Text → Event) :
    (r.record w make).log = { r.log with
      journal := (r.record w make).log.journal, warned := (r.record w make).log.warned } := by
  rw [record]
  split
  · have hput := r.log.put_fst (w.storing r.count) (make (w.stamp r.count)).capped
    generalize r.log.put (w.storing r.count) (make (w.stamp r.count)).capped = p at hput
    obtain ⟨log, written⟩ := p
    dsimp only at hput
    rw [hput]
    cases written with
    | true => rfl
    | false =>
      dsimp only
      rw [log_warn]
  · rfl

theorem attached_record (w : Surroundings) (r : Recorder) (make : Text → Event) :
    (r.record w make).log.attached = r.log.attached := by
  rw [log_record_fst]

theorem access_record (w : Surroundings) (r : Recorder) (make : Text → Event) :
    (r.record w make).log.access = r.log.access := by
  rw [log_record_fst]

/-! ## Room -/

/-- **Where there is room** to report that an event was not written, it is recorded. -/
theorem recordIn_of_report_le (h : w.costs.report ≤ room) :
    r.recordIn w room make = (r.record w make, true) := by
  have hwrite : ¬ room < w.costs.write := by
    have := w.costs.write_le_report
    omega
  have hevent : ¬ room < w.costs.event := by
    have := w.costs.event_le_write
    omega
  rw [recordIn, record, if_neg hevent, if_neg hwrite]
  split
  · split
    · rfl
    · rw [if_neg (Nat.not_lt.2 h)]
  · rfl

/-- What becomes of events is the same all the time: the log is not attached, all lines are kept, or
all are refused. -/
def Steady (w : Surroundings) (state : LogState) (r : Recorder) : Prop :=
  match state with
  | .detached => r.log.attached = false
  | .works => r.log.attached = true ∧ r.log.journal ≠ .blocked ∧ ∀ k, w.storing k = .kept
  | .fails => r.log.attached = true ∧ ∀ k, w.storing k = .refused

/-- It stays so whatever is recorded. -/
theorem Steady.record {state : LogState} (h : r.Steady w state) (make : Text → Event) :
    (r.record w make).Steady w state := by
  cases state with
  | detached => exact (attached_record w r make).trans h
  | fails => exact ⟨(attached_record w r make).trans h.1, h.2⟩
  | works =>
    obtain ⟨hattached, hblocked, hkept⟩ := h
    refine ⟨(attached_record w r make).trans hattached, ?_, hkept⟩
    rw [Recorder.record, if_pos hattached, hkept, Log.put]
    cases hw : r.log.journal.write r.log.access (make (w.stamp r.count)).capped with
    | error f =>
      dsimp only
      rw [log_warn]
      exact hblocked
    | ok journal => exact Journal.ne_blocked_of_write hw

/-- **An event is recorded** where there is room for the calls that it takes, if it can be written
at all, and only there. -/
theorem recordIn_of_steady {state : LogState} (h : r.Steady w state)
    (he : ∀ now, (make now).capped.refusal? = none) :
    (w.costs.of state ≤ room → r.recordIn w room make = (r.record w make, true)) ∧
      (room < w.costs.of state → (r.recordIn w room make).2 = false) := by
  have hevent := w.costs.event_le_write
  have hwrite := w.costs.write_le_report
  cases state with
  | detached =>
    refine ⟨fun hroom => ?_, fun hroom => ?_⟩
    · rw [recordIn, if_neg (show ¬ room < w.costs.event from Nat.not_lt.2 hroom), record,
        show r.log.attached = false from h]
      rfl
    · rw [recordIn, if_pos (show room < w.costs.event from hroom)]
  | works =>
    obtain ⟨hattached, hblocked, hkept⟩ := h
    obtain ⟨journal, hw⟩ := Journal.exists_write hblocked r.log.access (he (w.stamp r.count))
    refine ⟨fun (hroom : w.costs.write ≤ room) => ?_, fun (hroom : room < w.costs.write) => ?_⟩
    · rw [recordIn, if_neg (Nat.not_lt.2 (Nat.le_trans hevent hroom)), if_pos hattached,
        if_neg (Nat.not_lt.2 hroom), record, if_pos hattached, hkept, Log.put, hw]
    · rw [recordIn, if_pos hattached, if_pos hroom]
      split <;> rfl
  | fails =>
    obtain ⟨hattached, hrefused⟩ := h
    refine ⟨fun hroom => recordIn_of_report_le hroom, fun (hroom : room < w.costs.report) => ?_⟩
    rw [recordIn, if_pos hattached, hrefused, Log.put_refused]
    dsimp only
    rw [if_pos hroom]
    split
    · rfl
    · split <;> rfl

/-! ## What is recorded -/

/-- **Where the line is kept** an event is recorded as the log records it. -/
theorem log_record (h : w.storing r.count = .kept) :
    (r.record w make).log = r.log.emit (make (w.stamp r.count)) := by
  rw [record, Log.emit, h]
  split
  · rcases r.log.put .kept (make (w.stamp r.count)).capped with ⟨log, _ | _⟩
    · exact log_warn _ _
    · rfl
  · rfl

/-- Nothing is recorded in a log that is not attached, and nobody is warned. -/
theorem record_of_detached (h : r.log.attached = false) :
    r.record w make = { r with count := r.count + 1 } := by
  rw [record, h, if_neg Bool.false_ne_true]

/-- Where the line is refused nothing is added to the file. -/
theorem journal_record_of_refused (h : w.storing r.count = .refused) :
    (r.record w make).log.journal = r.log.journal := by
  rw [record, h, Log.put_refused]
  dsimp only
  split
  · rw [log_warn]
  · rfl

/-- Where the line is not refused it is added, whether it can be forced to the disk or not. -/
theorem journal_record_of_not_refused (h : w.storing r.count ≠ .refused) {l : Log}
    (hj : r.log.journal = l.journal) (ha : r.log.attached = l.attached)
    (hc : r.log.access = l.access) :
    (r.record w make).log.journal = (l.emit (make (w.stamp r.count))).journal := by
  rw [record, Log.emit, Log.put, Log.put, ← hj, ← ha, ← hc]
  split
  · cases r.log.journal.write r.log.access (make (w.stamp r.count)).capped with
    | error f =>
      dsimp only
      rw [log_warn]
      exact hj
    | ok journal =>
      cases hs : w.storing r.count with
      | kept => rfl
      | unsynced =>
        dsimp only
        cases r.log.sync with
        | false => rfl
        | true =>
          change ((warn _ _).log.journal = _)
          rw [log_warn]
      | refused => exact absurd hs h
  · exact hj

theorem tell_of_detached (h : r.log.attached = false) :
    r.tell w events = { r with count := r.count + events.length } := by
  induction events generalizing r with
  | nil => rfl
  | cons make events ih =>
    rw [tell, List.foldl_cons, record_of_detached h]
    refine (ih (r := { r with count := r.count + 1 }) h).trans ?_
    simp only [List.length_cons, Nat.add_assoc, Nat.add_comm 1]

/-- The events with their times, if so many were made before. -/
def stamped (w : Surroundings) (count : Nat) (events : List (Text → Event)) : List Event :=
  events.mapIdx fun i make => make (w.stamp (count + i))

theorem stamped_cons (count : Nat) (make : Text → Event) (events : List (Text → Event)) :
    stamped w count (make :: events) =
      make (w.stamp count) :: stamped w (count + 1) events := by
  rw [stamped, List.mapIdx_cons, stamped]
  simp only [Nat.add_zero, Nat.add_assoc, Nat.add_comm 1]

/-- **Where all lines are kept** the log has recorded the events with their times. -/
theorem log_tell (h : ∀ k, w.storing k = .kept) :
    (r.tell w events).log = r.log.emitAll (stamped w r.count events) := by
  induction events generalizing r with
  | nil => rfl
  | cons make events ih =>
    rw [tell, List.foldl_cons, stamped_cons, Log.emitAll, List.foldl_cons, ← log_record (h _),
      ← count_record w r make]
    exact ih

/-- **Once all lines are refused** nothing is added to the file: what is there are the events that
were made before. -/
theorem journal_tell_of_refused {n : Nat} (h : ∀ k, n ≤ k → w.storing k = .refused) :
    (r.tell w events).log.journal = (r.tell w (events.take (n - r.count))).log.journal := by
  induction events generalizing r with
  | nil => rw [List.take_nil]
  | cons make events ih =>
    by_cases hn : n ≤ r.count
    · -- the first event is lost, and so are the others
      have hrest := ih (r := r.record w make)
      rw [count_record, Nat.sub_eq_zero_of_le (by omega), List.take_zero] at hrest
      rw [Nat.sub_eq_zero_of_le hn, List.take_zero, tell, List.foldl_cons]
      exact hrest.trans (journal_record_of_refused (h _ hn))
    · obtain ⟨m, hm⟩ : ∃ m, n - r.count = m + 1 := ⟨n - r.count - 1, by omega⟩
      have hrest := ih (r := r.record w make)
      rw [count_record, show n - (r.count + 1) = m by omega] at hrest
      rw [hm, List.take_succ_cons]
      exact hrest

/-- **Lines that are not refused** are in the file, whether they could be forced to the disk or
not. -/
theorem journal_tell_of_not_refused (h : ∀ k, w.storing k ≠ .refused) {l : Log}
    (hj : r.log.journal = l.journal) (ha : r.log.attached = l.attached)
    (hc : r.log.access = l.access) :
    (r.tell w events).log.journal = (l.emitAll (stamped w r.count events)).journal := by
  induction events generalizing r l with
  | nil => exact hj
  | cons make events ih =>
    rw [tell, List.foldl_cons, stamped_cons, Log.emitAll, List.foldl_cons, ← count_record w r make]
    exact ih (journal_record_of_not_refused (h _) hj ha hc)
      ((attached_record w r make).trans (ha.trans (l.attached_emit _).symm))
      ((access_record w r make).trans (hc.trans (l.access_emit _).symm))

/-! ## Warnings -/

/-- Any two warnings are as far apart as they have to be. -/
def Spaced (r : Recorder) : Prop :=
  r.warnings.Pairwise fun later earlier => earlier + interval ≤ later

theorem Spaced.of_warnings {r' : Recorder} (h : r.Spaced) (hw : r'.warnings = r.warnings) :
    r'.Spaced := by
  rw [Spaced, hw]
  exact h

theorem Spaced.warn (h : r.Spaced) (now : Nat) : (r.warn now).Spaced := by
  rw [Recorder.warn]
  split
  · exact h
  · rename_i hlong
    refine List.pairwise_cons.2 ⟨fun time hm => ?_, h⟩
    have hpos : 0 < interval := by decide
    -- the last warning is the latest one
    cases hw : r.warnings with
    | nil =>
      rw [hw] at hm
      cases hm
    | cons last earlier =>
      rw [hw, List.headD_cons] at hlong
      rw [hw] at hm
      rw [Spaced, hw, List.pairwise_cons] at h
      rcases List.mem_cons.1 hm with rfl | hm
      · omega
      · have := h.1 time hm
        omega

theorem Spaced.record (h : r.Spaced) (w : Surroundings) (make : Text → Event) :
    (r.record w make).Spaced := by
  rw [Recorder.record]
  split
  · split
    · exact h.of_warnings rfl
    · refine Spaced.warn ?_ _
      exact h.of_warnings rfl
  · exact h.of_warnings rfl

/-- **Warnings** stay apart, whatever is recorded. -/
theorem spaced_tell (h : r.Spaced) (w : Surroundings) (events : List (Text → Event)) :
    (r.tell w events).Spaced := by
  induction events generalizing r with
  | nil => exact h
  | cons make events ih => exact ih (h.record w make)

/-- In no window that is as long as the interval there are two warnings. -/
theorem Spaced.length_le_one (h : r.Spaced) (start : Nat) :
    (r.warnings.filter fun time => start ≤ time && time < start + interval).length ≤ 1 := by
  have hfilter := h.filter fun time => start ≤ time && time < start + interval
  match hw : r.warnings.filter fun time => start ≤ time && time < start + interval with
  | [] => exact Nat.zero_le 1
  | [_] => exact Nat.le_refl 1
  | later :: earlier :: rest =>
    rw [hw] at hfilter
    have hapart := (List.pairwise_cons.1 hfilter).1 earlier (by simp)
    have hlater : later ∈ r.warnings.filter _ := hw ▸ List.mem_cons_self
    have hearlier : earlier ∈ r.warnings.filter _ :=
      hw ▸ List.mem_cons_of_mem _ List.mem_cons_self
    simp only [List.mem_filter, Bool.and_eq_true, decide_eq_true_eq] at hlater hearlier
    omega

end Recorder

end FormulaSheet

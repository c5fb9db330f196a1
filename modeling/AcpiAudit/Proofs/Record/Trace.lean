import AcpiAudit.Proofs.Record.Exhaustion
import AcpiAudit.Proofs.Record.Visitor
import Mathlib

set_option autoImplicit false

namespace AcpiAudit

def Visitor.Silent {σ : Type} (visit : Visitor σ) : Prop :=
  ∀ record state, ((visit record).run state).log = []

namespace Visitor

variable {σ : Type}

theorem run_bind {α β : Type} {first : StateT σ Logged α} {state after : σ} {value : α}
    {own : List LogEntry} (ran : first.run state = ⟨own, (value, after)⟩)
    (rest : α → StateT σ Logged β) :
    (first >>= rest).run state =
      ⟨own ++ ((rest value).run after).log, ((rest value).run after).value⟩ := by
  rw [StateT.run_bind, ran]
  rfl

variable {visit : Visitor σ} {record : Record} {state after : σ} {own : List LogEntry}
  (ending : Except WalkError Nat) (visited : Nat) (rest : List Record)

theorem visit_from_stop {reason : String}
    (ran : (visit record).run state = ⟨own, (.stop reason, after)⟩) :
    (Course.visitFrom visit ending visited (record :: rest)).run state =
      ⟨record.entry :: (own ++ [Course.stoppedEntry record.offset reason]),
        (.error (.stopped record.offset reason), after)⟩ := by
  have shown : (LogWriter.write record.entry : StateT σ Logged Unit).run state =
      ⟨[record.entry], ((), state)⟩ := rfl
  rw [Course.visitFrom, run_bind shown, run_bind ran]
  rfl

theorem visit_from_proceed {log : List LogEntry} {outcome : Except WalkError Extent} {last : σ}
    (ran : (visit record).run state = ⟨own, (.proceed, after)⟩)
    (onward : (Course.visitFrom visit ending (visited + 1) rest).run after =
      ⟨log, (outcome, last)⟩) :
    (Course.visitFrom visit ending visited (record :: rest)).run state =
      ⟨record.entry :: (own ++ log), (outcome, last)⟩ := by
  have shown : (LogWriter.write record.entry : StateT σ Logged Unit).run state =
      ⟨[record.entry], ((), state)⟩ := rfl
  rw [Course.visitFrom, run_bind shown, run_bind ran]
  simp only [onward]
  rfl

end Visitor

def Course.lastEntry? : Except WalkError Extent → Option LogEntry
  | .ok extent => some (doneEntry extent.endOffset extent.records)
  | .error (.stopped offset reason) => some (stoppedEntry offset reason)
  | .error _ => none

theorem fault_unlogged {layout : Layout} {data : Bytes} {limit offset : Nat} {error : WalkError}
    (fault : Fault layout data limit offset error) :
    Course.lastEntry? (.error error) = none := by
  cases fault <;> rfl

namespace RecordStream

def lines (stream : RecordStream) : Option (Except WalkError Record) → List LogEntry
  | some (.ok record) => [record.entry]
  | some (.error _) => []
  | none => [Course.doneEntry stream.offset stream.index]

theorem next_log {stream : RecordStream} (running : stream.finished = false) :
    stream.next.log = stream.lines stream.next.value.1 := by
  by_cases done : stream.reader.limit ≤ stream.offset
  · rw [next_done running done, next, if_neg (Bool.not_eq_true _ ▸ running), if_pos done]
    rfl
  · have more : stream.offset < stream.reader.limit := Nat.lt_of_not_le done
    cases found : stream.front with
    | ok record =>
        rw [next_record running more found]
        rw [front] at found
        rw [next, if_neg (Bool.not_eq_true _ ▸ running), if_neg done]
        simp only [found]
        rfl
    | error error =>
        rw [next_error running more found]
        rw [front] at found
        rw [next, if_neg (Bool.not_eq_true _ ▸ running), if_neg done]
        simp only [found]
        rfl

section Loop

variable {σ : Type}

-- A loop that calls the stream and hands each record to the visitor, until one of them ends it. It
-- begins with a number of records already visited; of interest are the records that are handed on,
-- all that is written, the outcome, and the state that the visitor is left in.
inductive Walks (visit : Visitor σ) :
    RecordStream → σ → Nat → List Record → List LogEntry → Except WalkError Extent → σ → Prop where
  | done {stream last : RecordStream} {state : σ} {visited : Nat}
      (answered : stream.next.value = (none, last)) :
      Walks visit stream state visited [] stream.next.log (.ok ⟨visited, last.offset⟩) state
  | broken {stream last : RecordStream} {state : σ} {visited : Nat} {error : WalkError}
      (answered : stream.next.value = (some (.error error), last)) :
      Walks visit stream state visited [] stream.next.log (.error error) state
  | stops {stream next : RecordStream} {state last : σ} {visited : Nat} {record : Record}
      {reason : String} (answered : stream.next.value = (some (.ok record), next))
      (decided : ((visit record).run state).value = (.stop reason, last)) :
      Walks visit stream state visited [record]
        (stream.next.log ++ (((visit record).run state).log ++
          [Course.stoppedEntry record.offset reason]))
        (.error (.stopped record.offset reason)) last
  | proceeds {stream next : RecordStream} {state after last : σ} {visited : Nat} {record : Record}
      {handed : List Record} {log : List LogEntry} {outcome : Except WalkError Extent}
      (answered : stream.next.value = (some (.ok record), next))
      (decided : ((visit record).run state).value = (.proceed, after))
      (onward : Walks visit next after (visited + 1) handed log outcome last) :
      Walks visit stream state visited (record :: handed)
        (stream.next.log ++ (((visit record).run state).log ++ log)) outcome last

variable {visit : Visitor σ} {stream : RecordStream} {state last : σ} {visited : Nat}
  {handed : List Record} {log : List LogEntry} {outcome : Except WalkError Extent}

theorem record_passed {next : RecordStream} {record : Record}
    (answered : stream.next.value = (some (.ok record), next)) :
    stream.finished = false ∧ next = stream.past record := by
  have turn := stream.turn_of_next
  rw [answered] at turn
  cases turn with
  | record running more found => exact ⟨running, rfl⟩

theorem error_fault {next : RecordStream} {error : WalkError}
    (answered : stream.next.value = (some (.error error), next)) :
    Fault stream.layout stream.reader.bytes stream.reader.limit error.offset error :=
  (stream.reader.record_at_error_iff _ _ _).mp (next_shows answered).1

theorem walks_trace (silent : visit.Silent) (running : stream.finished = false)
    (counted : stream.index = visited)
    (walks : stream.Walks visit state visited handed log outcome last) :
    log = handed.map Record.entry ++ (Course.lastEntry? outcome).toList := by
  induction walks with
  | @done stream next state visited answered =>
      have stays : next.offset = stream.offset := by
        have turn := stream.turn_of_next
        rw [answered] at turn
        exact (turn_last turn (by simp)).2
      rw [next_log running, answered, stays, ← counted]
      rfl
  | broken answered =>
      rw [next_log running, answered, fault_unlogged (error_fault answered)]
      rfl
  | stops answered decided =>
      rw [next_log running, answered, silent]
      rfl
  | proceeds answered decided onward ih =>
      obtain ⟨-, rfl⟩ := record_passed answered
      rw [next_log running, answered, silent, ih running (congrArg (· + 1) counted)]
      rfl

theorem walks_fault (walks : stream.Walks visit state visited handed log outcome last)
    (unlogged : Course.lastEntry? outcome = none) :
    ∃ error, outcome = .error error ∧
      Fault stream.layout stream.reader.bytes stream.reader.limit error.offset error := by
  induction walks with
  | done answered => cases unlogged
  | broken answered => exact ⟨_, rfl, error_fault answered⟩
  | stops answered decided => cases unlogged
  | proceeds answered decided onward ih =>
      obtain ⟨-, rfl⟩ := record_passed answered
      exact ih unlogged

theorem walks_course (visit : Visitor σ) (stream : RecordStream) (state : σ)
    (running : stream.finished = false) (told : stream.reader.limit ≤ greatestOffset) :
    let course := Course.ofStream stream
    ∃ handed log outcome last,
      stream.Walks visit state stream.index handed log outcome last ∧
        (Course.visitFrom visit course.ending stream.index course.records).run state =
          ⟨log, (outcome, last)⟩ := by
  intro course
  have written := next_log running
  by_cases done : stream.reader.limit ≤ stream.offset
  · have ended : course = ⟨[], .ok stream.offset⟩ := Course.of_stream_done done
    have answered := next_done running done
    rw [answered] at written
    refine ⟨_, _, _, _, .done answered, ?_⟩
    rw [ended, written]
    rfl
  · have more : stream.offset < stream.reader.limit := Nat.lt_of_not_le done
    cases found : stream.front with
    | error error =>
        have ended : course = ⟨[], .error error⟩ := Course.of_stream_fault more found
        have answered := next_error running more found
        rw [answered] at written
        refine ⟨_, _, _, _, .broken answered, ?_⟩
        rw [ended, written]
        rfl
    | ok record =>
        have first := Course.of_stream_record told more found
        have answered := next_record running more found
        have nearer := turn_nearer told (answered ▸ stream.turn_of_next)
        rw [answered] at written
        simp only [course, first]
        cases ran : (visit record).run state with
        | mk own value =>
            obtain ⟨decision, after⟩ := value
            have decided := congrArg Logged.value ran
            have log : ((visit record).run state).log = own := congrArg Logged.log ran
            cases decision with
            | stop reason =>
                refine ⟨_, _, _, _, .stops answered decided, ?_⟩
                rw [Visitor.visit_from_stop _ _ _ ran, written, log]
                rfl
            | proceed =>
                obtain ⟨handed, lines, outcome, last, onward, same⟩ :=
                  walks_course visit (stream.past record) after running told
                refine ⟨_, _, _, _, .proceeds answered decided onward, ?_⟩
                rw [Visitor.visit_from_proceed _ _ _ ran same, written, log]
                rfl
termination_by stream.reader.limit - stream.offset
decreasing_by exact nearer.2

end Loop

end RecordStream

theorem walk_trace_misses_only_faults {σ : Type} (reader : Reader) (layout : Layout)
    (advance : Advance) (start : Nat) (told : reader.limit ≤ greatestOffset) (visit : Visitor σ)
    (silent : visit.Silent) (state : σ) :
    let stream := reader.stream layout advance start
    let walk := ((reader.course layout advance start).visit visit).run state
    ∃ handed outcome last,
      stream.Walks visit state 0 handed walk.log outcome last ∧ walk.value = (outcome, last) ∧
        walk.log = handed.map Record.entry ++ (Course.lastEntry? outcome).toList ∧
        (Course.lastEntry? outcome = none ↔ ∃ error, outcome = .error error ∧
          Fault layout reader.bytes reader.limit error.offset error) := by
  intro stream walk
  obtain ⟨handed, log, outcome, last, walks, same⟩ := stream.walks_course visit state rfl told
  have ran : walk = ⟨log, (outcome, last)⟩ := same
  rw [ran]
  refine ⟨handed, outcome, last, walks, rfl, RecordStream.walks_trace silent rfl rfl walks, ?_⟩
  constructor
  · exact RecordStream.walks_fault walks
  · rintro ⟨error, rfl, fault⟩
    exact fault_unlogged fault

-- The record at which the visitor stops has its line before that of the stop.
theorem walk_trace_misses_only_faults_stop_before_fault :
    let reader : Reader := ⟨[1, 2, 7, 3, 9, 5, 0], 0⟩
    let walk := ((reader.course .kind8Length8 .declared 0).visit untilSeven).run 0
    let records : List Record := [⟨1, 0, 0, [1, 2]⟩, ⟨7, 2, 1, [7, 3, 9]⟩]
    reader.limit ≤ greatestOffset ∧ untilSeven.Silent ∧
      walk.log = records.map Record.entry ++ [Course.stoppedEntry 2 "seven"] ∧
      ∃ handed outcome last,
        (reader.stream .kind8Length8 .declared 0).Walks untilSeven 0 0 handed walk.log
          outcome last ∧
        walk.value = (outcome, last) ∧
        walk.log = handed.map Record.entry ++ (Course.lastEntry? outcome).toList := by
  intro reader walk records
  have told : reader.limit ≤ greatestOffset := by decide
  have silent : untilSeven.Silent := fun _ _ => rfl
  obtain ⟨handed, outcome, last, walks, value, log, -⟩ :=
    walk_trace_misses_only_faults reader .kind8Length8 .declared 0 told untilSeven silent 0
  have shown : walk.log = records.map Record.entry ++ [Course.stoppedEntry 2 "seven"] := by
    simp only [walk, reader]
    cbv
  exact ⟨told, silent, shown, handed, outcome, last, walks, value, log⟩

-- The second record has no length: the walk ends there, and nothing is written about it.
theorem zero_length_ends_without_line :
    let reader : Reader := ⟨[1, 2, 5, 0], 0⟩
    let visit : Visitor Unit := fun _ => return .proceed
    let walk := ((reader.course .kind8Length8 .declared 0).visit visit).run ()
    let handed : List Record := [⟨1, 0, 0, [1, 2]⟩]
    visit.Silent ∧ walk.value = (.error (.zeroLength 2), ()) ∧
      (reader.stream .kind8Length8 .declared 0).Walks visit () 0 handed walk.log
        (.error (.zeroLength 2)) () ∧
      ¬ ∃ line, walk.log = handed.map Record.entry ++ [line] := by
  intro reader visit walk handed
  have first : (reader.stream .kind8Length8 .declared 0).next.value =
      (some (.ok ⟨1, 0, 0, [1, 2]⟩), ⟨reader, .kind8Length8, .declared, 2, 1, false⟩) := rfl
  have second : (⟨reader, .kind8Length8, .declared, 2, 1, false⟩ : RecordStream).next.value =
      (some (.error (.zeroLength 2)), ⟨reader, .kind8Length8, .declared, 2, 1, true⟩) := rfl
  have ran : walk = ⟨handed.map Record.entry, (.error (.zeroLength 2), ())⟩ := by
    simp only [walk, reader]
    cbv
  have log : walk.log = handed.map Record.entry := congrArg Logged.log ran
  refine ⟨fun _ _ => rfl, congrArg Logged.value ran, ?_, ?_⟩
  · rw [log]
    exact .proceeds first rfl (.broken second)
  · rintro ⟨line, complete⟩
    rw [log] at complete
    have lengths := congrArg List.length complete
    simp at lengths

end AcpiAudit

import AcpiAudit.Proofs.Record.Stream
import AcpiAudit.Proofs.Record.Tiling

set_option autoImplicit false

namespace AcpiAudit

abbrev Visitor (σ : Type) := Record → StateT σ Logged Decision

namespace Visitor

variable {σ : Type}

inductive Hands (visit : Visitor σ) :
    σ → List Record → List Record → Option (Record × String) → σ → Prop where
  | nothing {state : σ} : Hands visit state [] [] none state
  | stops {state last : σ} {record : Record} {rest : List Record} {reason : String}
      (decided : ((visit record).run state).value = (.stop reason, last)) :
      Hands visit state (record :: rest) [record] (some (record, reason)) last
  | proceeds {state next last : σ} {record : Record} {rest handed : List Record}
      {stop : Option (Record × String)}
      (decided : ((visit record).run state).value = (.proceed, next))
      (onward : Hands visit next rest handed stop last) :
      Hands visit state (record :: rest) (record :: handed) stop last

def noting (visit : Visitor σ) : Visitor (σ × List Record) := fun record =>
  fun (state, noted) => do
    let (decision, next) ← (visit record).run state
    return (decision, (next, noted ++ [record]))

theorem hands_some (visit : Visitor σ) (state : σ) (records : List Record) :
    ∃ handed stop last, Hands visit state records handed stop last := by
  induction records generalizing state with
  | nil => exact ⟨[], none, state, .nothing⟩
  | cons record rest ih =>
      cases decided : ((visit record).run state).value with
      | mk decision next =>
          cases decision with
          | stop reason => exact ⟨_, _, next, .stops decided⟩
          | proceed =>
              obtain ⟨handed, stop, last, onward⟩ := ih next
              exact ⟨_, stop, last, .proceeds decided onward⟩

theorem noting_value {visit : Visitor σ} {state next : σ} {record : Record} {decision : Decision}
    (noted : List Record) (decided : ((visit record).run state).value = (decision, next)) :
    ((noting visit record).run (state, noted)).value =
      (decision, (next, noted ++ [record])) := by
  change (((visit record).run state).value.1, (((visit record).run state).value.2, _)) = _
  rw [decided]

theorem hands_noting {visit : Visitor σ} {state last : σ} {records handed : List Record}
    {stop : Option (Record × String)} (noted : List Record)
    (hands : Hands visit state records handed stop last) :
    Hands (noting visit) (state, noted) records handed stop (last, noted ++ handed) := by
  induction hands generalizing noted with
  | nothing =>
      rw [List.append_nil]
      exact .nothing
  | stops decided => exact .stops (noting_value noted decided)
  | @proceeds state next last record rest handed stop decided onward ih =>
      have later := ih (noted ++ [record])
      rw [List.append_assoc, List.singleton_append] at later
      exact .proceeds (noting_value noted decided) later

-- A stop comes before what breaks the run off behind it.
def answer (stop : Option (Record × String)) (ending : Except WalkError Extent) :
    Except WalkError Extent :=
  match stop with
  | some (record, reason) => .error (.stopped record.offset reason)
  | none => ending

theorem value_bind {α β : Type} (first : StateT σ Logged α) (next : α → StateT σ Logged β)
    (state : σ) :
    ((first >>= next).run state).value =
      ((next (first.run state).value.1).run (first.run state).value.2).value := rfl

theorem value_write (entry : LogEntry) (state : σ) :
    ((LogWriter.write entry : StateT σ Logged Unit).run state).value = ((), state) := rfl

theorem visit_from_hands {visit : Visitor σ} {state last : σ} {records handed : List Record}
    {stop : Option (Record × String)} (ending : Except WalkError Nat) (visited : Nat)
    (hands : Hands visit state records handed stop last) :
    ((Course.visitFrom visit ending visited records).run state).value =
      (answer stop (ending.map fun offset => ⟨visited + records.length, offset⟩), last) := by
  induction hands generalizing visited with
  | nothing => cases ending <;> rfl
  | stops decided =>
      rw [Course.visitFrom, value_bind, value_write, value_bind, decided]
      rfl
  | @proceeds state next last record rest handed stop decided onward ih =>
      have count : visited + (record :: rest).length = visited + 1 + rest.length := by
        rw [List.length_cons]
        omega
      rw [Course.visitFrom, value_bind, value_write, value_bind, decided, count]
      exact ih (visited + 1)

theorem visit_hands {visit : Visitor σ} {state last : σ} {course : Course} {handed : List Record}
    {stop : Option (Record × String)}
    (hands : Hands visit state course.records handed stop last) :
    ((course.visit visit).run state).value = (answer stop course.outcome, last) := by
  rw [Course.visit, visit_from_hands course.ending 0 hands, Nat.zero_add]
  rfl

end Visitor

namespace RecordStream

theorem yields_unique {stream one other : RecordStream}
    {items others : List (Except WalkError Record)} (first : stream.Yields items one)
    (second : stream.Yields others other) : items = others ∧ one = other := by
  induction first generalizing others with
  | nothing ended =>
      cases second with
      | nothing ended' =>
          rw [ended] at ended'
          cases ended'
          exact ⟨rfl, rfl⟩
      | item given _ =>
          rw [ended] at given
          cases given
  | item given _ ih =>
      cases second with
      | nothing ended =>
          rw [given] at ended
          cases ended
      | item given' onward' =>
          rw [given] at given'
          cases given'
          obtain ⟨rfl, rfl⟩ := ih onward'
          exact ⟨rfl, rfl⟩

end RecordStream

def streamEnding (failure : Option WalkError) (extent : Extent) : Except WalkError Extent :=
  match failure with
  | some error => .error error
  | none => .ok extent

theorem outcome_of_stream {course : Course} {endOffset : Nat}
    (reached : ∀ stop, course.ending = .ok stop → endOffset = stop) :
    course.outcome = streamEnding course.failure? ⟨course.records.length, endOffset⟩ := by
  cases ended : course.ending with
  | ok stop =>
      rw [reached stop ended]
      simp [Course.outcome, Course.failure?, streamEnding, ended, Except.map]
  | error error => simp [Course.outcome, Course.failure?, streamEnding, ended, Except.map]

theorem walk_agrees_with_stream (reader : Reader) (layout : Layout) (advance : Advance)
    (start : Nat) (told : reader.limit ≤ greatestOffset) :
    let stream := reader.stream layout advance start
    let course := reader.course layout advance start
    (∃ items last, stream.Yields items last) ∧
      ∀ items last, stream.Yields items last →
        items = (gained items).map .ok ++ (breach? items).toList.map .error ∧
        (∀ item ∈ items, reader.Shows layout item) ∧
        ∀ (σ : Type) (visit : Visitor σ) (state : σ),
          (∃ handed stop final, visit.Hands state (gained items) handed stop final) ∧
          ∀ handed stop final, visit.Hands state (gained items) handed stop final →
            let ending := Visitor.answer stop
              (streamEnding (breach? items) ⟨(gained items).length, last.offset⟩)
            ((course.visit visit).run state).value = (ending, final) ∧
              ((course.visit visit.noting).run (state, [])).value = (ending, (final, handed)) := by
  intro stream course
  obtain ⟨drained, yields, reached⟩ := stream.yields_course rfl told
  have same : Course.ofStream stream = course := rfl
  rw [same] at yields reached
  refine ⟨⟨course.items, drained, yields⟩, ?_⟩
  intro items last given
  obtain ⟨rfl, rfl⟩ := RecordStream.yields_unique given yields
  have gains : gained course.items = course.records := course.gained_items
  have breaks : breach? course.items = course.failure? := course.breach_items
  rw [gains, breaks]
  refine ⟨rfl, RecordStream.yields_shows given, ?_⟩
  intro σ visit state
  refine ⟨visit.hands_some state course.records, ?_⟩
  intro handed stop final hands
  rw [← outcome_of_stream reached]
  exact ⟨Visitor.visit_hands hands, Visitor.visit_hands (Visitor.hands_noting [] hands)⟩

def untilSeven : Visitor Nat := fun record count =>
  return (if record.kind = 7 then .stop "seven" else .proceed, count + 1)

-- The visitor stops at the second record, and the fault behind it is not met.
theorem walk_agrees_with_stream_stop_before_fault :
    let reader : Reader := ⟨[1, 2, 7, 3, 9, 5, 0], 0⟩
    let course := reader.course .kind8Length8 .declared 0
    let items : List (Except WalkError Record) :=
      [.ok ⟨1, 0, 0, [1, 2]⟩, .ok ⟨7, 2, 1, [7, 3, 9]⟩, .error (.zeroLength 5)]
    reader.limit ≤ greatestOffset ∧
      (∃ last, (reader.stream .kind8Length8 .declared 0).Yields items last) ∧
      (∀ item ∈ items, reader.Shows .kind8Length8 item) ∧
      ((course.visit untilSeven.noting).run (0, [])).value =
        (.error (.stopped 2 "seven"), (2, [⟨1, 0, 0, [1, 2]⟩, ⟨7, 2, 1, [7, 3, 9]⟩])) := by
  intro reader course items
  have told : reader.limit ≤ greatestOffset := by decide
  let stream (offset index : Nat) (finished : Bool) : RecordStream :=
    ⟨reader, .kind8Length8, .declared, offset, index, finished⟩
  have one : (stream 0 0 false).next.value = (some (.ok ⟨1, 0, 0, [1, 2]⟩), stream 2 1 false) := rfl
  have two : (stream 2 1 false).next.value =
      (some (.ok ⟨7, 2, 1, [7, 3, 9]⟩), stream 5 2 false) := rfl
  have fault : (stream 5 2 false).next.value =
      (some (.error (.zeroLength 5)), stream 5 2 true) := rfl
  have yields : (stream 0 0 false).Yields items (stream 5 2 true) :=
    .item one (.item two (.item fault (.nothing rfl)))
  obtain ⟨-, agrees⟩ := walk_agrees_with_stream reader .kind8Length8 .declared 0 told
  obtain ⟨-, shows, visits⟩ := agrees _ _ yields
  have hands : untilSeven.Hands 0 (gained items) [⟨1, 0, 0, [1, 2]⟩, ⟨7, 2, 1, [7, 3, 9]⟩]
      (some (⟨7, 2, 1, [7, 3, 9]⟩, "seven")) 2 := .proceeds rfl (.stops rfl)
  exact ⟨told, ⟨_, yields⟩, shows, ((visits Nat untilSeven 0).2 _ _ _ hands).2⟩

end AcpiAudit

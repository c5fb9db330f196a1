import AcpiAudit.Proofs.Record.Stream
import Mathlib.Algebra.Order.Floor.Div

set_option autoImplicit false

namespace AcpiAudit

namespace Advance

def least (layout : Layout) : Advance → Nat
  | .declared => layout.headerSize
  | .stride step _ => step

theorem least_pos (advance : Advance) (layout : Layout) : 0 < advance.least layout := by
  cases advance with
  | declared => exact layout.headerSize_pos
  | stride step positive => exact positive

theorem least_le_step (advance : Advance) {layout : Layout} {offset index : Nat} {rest : Bytes}
    {record : Record} (found : Record.ofBytes layout offset index rest = .ok record) :
    advance.least layout ≤ advance.step record := by
  cases advance with
  | stride step positive => exact Nat.le_refl step
  | declared =>
      obtain ⟨header, within, rfl⟩ := of_bytes_ok_iff.mp found
      simpa only [least, step, Record.length, List.length_take, Nat.min_eq_left within] using header

end Advance

namespace RecordStream

def after (stream : RecordStream) : Nat → RecordStream
  | 0 => stream
  | calls + 1 => (stream.after calls).next.value.2

def answer (stream : RecordStream) (calls : Nat) : Option (Except WalkError Record) :=
  (stream.after calls).next.value.1

def given (stream : RecordStream) (calls : Nat) : List (Except WalkError Record) :=
  (List.range calls).filterMap stream.answer

inductive Turn (stream : RecordStream) :
    Option (Except WalkError Record) → RecordStream → Prop where
  | record {record : Record} (running : stream.finished = false)
      (more : stream.offset < stream.reader.limit) (found : stream.front = .ok record) :
      Turn stream (some (.ok record)) (stream.past record)
  | fault {error : WalkError} (running : stream.finished = false)
      (more : stream.offset < stream.reader.limit) (failed : stream.front = .error error) :
      Turn stream (some (.error error)) stream.stopped
  | done (running : stream.finished = false) (done : stream.reader.limit ≤ stream.offset) :
      Turn stream none stream.stopped
  | ended (finished : stream.finished = true) : Turn stream none stream

theorem turn_of_next (stream : RecordStream) :
    stream.Turn stream.next.value.1 stream.next.value.2 := by
  cases running : stream.finished with
  | true =>
      rw [next_stopped running]
      exact .ended running
  | false =>
      by_cases done : stream.reader.limit ≤ stream.offset
      · rw [next_done running done]
        exact .done running done
      · have more : stream.offset < stream.reader.limit := Nat.lt_of_not_le done
        cases found : stream.front with
        | ok record =>
            rw [next_record running more found]
            exact .record running more found
        | error error =>
            rw [next_error running more found]
            exact .fault running more found

theorem turn_after (stream : RecordStream) (calls : Nat) :
    (stream.after calls).Turn (stream.answer calls) (stream.after (calls + 1)) :=
  turn_of_next (stream.after calls)

def room (stream : RecordStream) : Nat :=
  if stream.finished then 0
  else (stream.reader.limit - stream.offset) ⌈/⌉ stream.advance.least stream.layout

def chance (stream : RecordStream) : Nat := if stream.finished then 0 else 1

section Turn

variable {stream next : RecordStream} {answer : Option (Except WalkError Record)}

theorem turn_reader (turn : stream.Turn answer next) : next.reader = stream.reader := by
  cases turn <;> rfl

theorem past_nearer {record : Record} (told : stream.reader.limit ≤ greatestOffset)
    (found : stream.front = .ok record) :
    stream.reader.limit - (stream.past record).offset ≤
      stream.reader.limit - stream.offset - stream.advance.least stream.layout := by
  have least := stream.advance.least_le_step found
  simp only [past]
  omega

theorem room_running (running : stream.finished = false) :
    stream.room =
      (stream.reader.limit - stream.offset) ⌈/⌉ stream.advance.least stream.layout :=
  if_neg (by rw [running]; decide)

theorem room_past {record : Record} (told : stream.reader.limit ≤ greatestOffset)
    (running : stream.finished = false) (more : stream.offset < stream.reader.limit)
    (found : stream.front = .ok record) : (stream.past record).room < stream.room := by
  have positive := stream.advance.least_pos stream.layout
  have nearer := past_nearer told found
  have enough := (ceilDiv_le_iff_le_mul positive).mp (Nat.le_of_eq (room_running running).symm)
  have there : (stream.past record).room = (stream.reader.limit - (stream.past record).offset) ⌈/⌉
      stream.advance.least stream.layout := room_running running
  cases left : stream.room with
  | zero =>
      rw [left, Nat.mul_zero] at enough
      omega
  | succ fewer =>
      rw [left, Nat.mul_succ] at enough
      rw [there, Nat.lt_succ_iff, ceilDiv_le_iff_le_mul positive]
      omega

theorem turn_takes_room (told : stream.reader.limit ≤ greatestOffset)
    (turn : stream.Turn answer next) : answer.toList.length + next.room ≤ stream.room := by
  cases turn with
  | record running more found =>
      have fewer := room_past told running more found
      simp only [Option.toList_some, List.length_singleton]
      omega
  | fault running more failed =>
      have positive := stream.advance.least_pos stream.layout
      have here : ¬ stream.room ≤ 0 := by
        rw [room_running running, ceilDiv_le_iff_le_mul positive]
        omega
      have none_left : stream.stopped.room = 0 := rfl
      simp only [Option.toList_some, List.length_singleton]
      omega
  | done running done => simp [room, stopped]
  | ended finished => simp

theorem turn_takes_chance (turn : stream.Turn answer next) :
    answer.toList.countP (fun item => !item.isOk) + next.chance ≤ stream.chance := by
  cases turn with
  | record running more found => simp [chance, past, running, Except.isOk, Except.toBool]
  | fault running more failed => simp [chance, stopped, running, Except.isOk, Except.toBool]
  | done running done => simp [chance, stopped]
  | ended finished => simp

theorem turn_last (turn : stream.Turn answer next)
    (other : ∀ record, answer ≠ some (.ok record)) :
    next.finished = true ∧ next.offset = stream.offset := by
  cases turn with
  | record running more found => exact absurd rfl (other _)
  | fault running more failed => exact ⟨rfl, rfl⟩
  | done running done => exact ⟨rfl, rfl⟩
  | ended finished => exact ⟨finished, rfl⟩

theorem turn_running {item : Except WalkError Record} (turn : stream.Turn (some item) next) :
    stream.finished = false := by
  cases turn <;> assumption

theorem turn_error {error : WalkError} (turn : stream.Turn (some (.error error)) next) :
    error.offset = stream.offset := by
  cases turn with
  | fault running more failed =>
      have whole : stream.reader.bytes.take stream.reader.limit = stream.reader.bytes :=
        List.take_length
      rw [front, ← whole] at failed
      exact fault_offset (fault_of_error (Nat.le_refl _) failed)

theorem turn_nearer {record : Record} (told : stream.reader.limit ≤ greatestOffset)
    (turn : stream.Turn (some (.ok record)) next) :
    stream.offset < stream.reader.limit ∧
      stream.reader.limit - next.offset < stream.reader.limit - stream.offset := by
  cases turn with
  | record running more found =>
      have positive := stream.advance.least_pos stream.layout
      have nearer := past_nearer told found
      exact ⟨more, by omega⟩

end Turn

section Calls

variable {stream : RecordStream}

theorem reader_after (stream : RecordStream) (calls : Nat) :
    (stream.after calls).reader = stream.reader := by
  induction calls with
  | zero => rfl
  | succ calls ih => rw [turn_reader (stream.turn_after calls), ih]

theorem given_succ (stream : RecordStream) (calls : Nat) :
    stream.given (calls + 1) = stream.given calls ++ (stream.answer calls).toList := by
  rw [given, List.range_succ, List.filterMap_append]
  cases answered : stream.answer calls <;> simp [given, answered]

-- Where every call pays for the items that count, the calls together spend what there was.
theorem given_within {counted : Except WalkError Record → Bool} {left : RecordStream → Nat}
    (pays : ∀ calls, (stream.answer calls).toList.countP counted + left (stream.after (calls + 1)) ≤
      left (stream.after calls)) (calls : Nat) :
    (stream.given calls).countP counted + left (stream.after calls) ≤ left stream := by
  induction calls with
  | zero => simp [given, after]
  | succ calls ih =>
      have paid := pays calls
      rw [given_succ, List.countP_append]
      omega

theorem given_within_room (told : stream.reader.limit ≤ greatestOffset) (calls : Nat) :
    (stream.given calls).length + (stream.after calls).room ≤ stream.room := by
  have pays : ∀ earlier, (stream.answer earlier).toList.countP (fun _ => true) +
      (stream.after (earlier + 1)).room ≤ (stream.after earlier).room := by
    intro earlier
    rw [List.countP_true]
    exact turn_takes_room (by rwa [stream.reader_after earlier]) (stream.turn_after earlier)
  have within := given_within pays calls
  rwa [List.countP_true] at within

theorem given_one_error (stream : RecordStream) (calls : Nat) :
    (stream.given calls).countP (fun item => !item.isOk) ≤ 1 := by
  have within := given_within (fun calls => turn_takes_chance (stream.turn_after calls)) calls
  have single : stream.chance ≤ 1 := by
    rw [chance]
    split <;> decide
  omega

theorem given_all {calls : Nat} (running : (stream.after calls).finished = false) :
    (stream.given calls).length = calls := by
  induction calls with
  | zero => rfl
  | succ calls ih =>
      have turn := stream.turn_after calls
      rw [given_succ, List.length_append]
      cases answered : stream.answer calls with
      | none =>
          rw [answered] at turn
          have ended := (turn_last turn (by simp)).1
          rw [running] at ended
          cases ended
      | some item =>
          rw [answered] at turn
          rw [ih (turn_running turn)]
          rfl

theorem after_finished {calls : Nat} (finished : (stream.after calls).finished = true)
    (more : Nat) :
    stream.after (calls + more) = stream.after calls ∧ stream.answer (calls + more) = none := by
  have same : stream.after (calls + more) = stream.after calls := by
    induction more with
    | zero => rfl
    | succ more ih =>
        rw [← Nat.add_assoc, after, ih, next_stopped finished]
  rw [answer, same, next_stopped finished]
  exact ⟨rfl, rfl⟩

theorem answer_past_room (told : stream.reader.limit ≤ greatestOffset) {calls : Nat}
    (spent : stream.room ≤ calls) : stream.answer calls = none := by
  cases answered : stream.answer calls with
  | none => rfl
  | some item =>
      have turn := stream.turn_after calls
      rw [answered] at turn
      have room := turn_takes_room (by rwa [stream.reader_after calls]) turn
      have within := given_within_room told calls
      rw [given_all (turn_running turn)] at within
      rw [Option.toList_some, List.length_singleton] at room
      omega

theorem answer_nearer (told : stream.reader.limit ≤ greatestOffset) {calls : Nat}
    {record : Record} (answered : stream.answer calls = some (.ok record)) :
    (stream.after calls).offset < stream.reader.limit ∧
      stream.reader.limit - (stream.after (calls + 1)).offset <
        stream.reader.limit - (stream.after calls).offset := by
  have turn := stream.turn_after calls
  have reader := stream.reader_after calls
  rw [answered] at turn
  have nearer := turn_nearer (by rwa [reader]) turn
  rwa [reader] at nearer

theorem answer_stays {calls later : Nat}
    (other : ∀ record, stream.answer calls ≠ some (.ok record)) (behind : calls < later) :
    stream.answer later = none ∧ (stream.after later).offset = (stream.after calls).offset := by
  obtain ⟨finished, kept⟩ := turn_last (stream.turn_after calls) other
  obtain ⟨more, rfl⟩ := Nat.exists_eq_add_of_le (Nat.succ_le_of_lt behind)
  obtain ⟨same, answered⟩ := after_finished finished more
  exact ⟨answered, by rw [same, kept]⟩

theorem answer_error {calls : Nat} {error : WalkError}
    (answered : stream.answer calls = some (.error error)) :
    error.offset = (stream.after calls).offset ∧
      error.offset = (stream.after (calls + 1)).offset := by
  have turn := stream.turn_after calls
  have other : ∀ record, stream.answer calls ≠ some (.ok record) := by simp [answered]
  rw [(answer_stays other (Nat.lt_succ_self calls)).2]
  rw [answered] at turn
  exact ⟨turn_error turn, turn_error turn⟩

end Calls

end RecordStream

theorem stream_ends_for_good (layout : Layout) (advance : Advance) (data : Bytes)
    (limit start : Nat) (small : data.length < 2 ^ 63) :
    let bound := min limit data.length
    let stream := (Reader.upTo limit data).stream layout advance start
    let most := (bound - start) ⌈/⌉ advance.least layout
    (∀ calls record, stream.answer calls = some (.ok record) →
      (stream.after calls).offset < bound ∧
        bound - (stream.after (calls + 1)).offset < bound - (stream.after calls).offset) ∧
      (∀ calls, (stream.given calls).countP Except.isOk ≤ most) ∧
      (bound ≤ start → ∀ calls, stream.given calls = []) ∧
      (∀ calls, (stream.given calls).countP (fun item => !item.isOk) ≤ 1) ∧
      (∀ calls, (∀ record, stream.answer calls ≠ some (.ok record)) → ∀ later > calls,
        stream.answer later = none ∧
          (stream.after later).offset = (stream.after calls).offset) ∧
      (∀ calls error, stream.answer calls = some (.error error) →
        error.offset = (stream.after calls).offset ∧
          error.offset = (stream.after (calls + 1)).offset) ∧
      ∀ calls, most ≤ calls → stream.answer calls = none := by
  intro bound stream most
  have size : stream.reader.limit = bound := List.length_take
  have told : stream.reader.limit ≤ greatestOffset := by
    rw [size]
    simp only [bound, greatestOffset]
    omega
  have room : stream.room = most := by
    change (stream.reader.limit - start) ⌈/⌉ advance.least layout = most
    rw [size]
  have items (calls : Nat) : (stream.given calls).length ≤ most := by
    have within := RecordStream.given_within_room told calls
    omega
  refine ⟨?_, ?_, ?_, stream.given_one_error, ?_, ?_, ?_⟩
  · intro calls record answered
    have nearer := RecordStream.answer_nearer told answered
    rwa [size] at nearer
  · intro calls
    exact Nat.le_trans List.countP_le_length (items calls)
  · intro past calls
    have nothing : most = 0 := by
      simp only [most, Nat.sub_eq_zero_of_le past, zero_ceilDiv]
    exact List.eq_nil_of_length_eq_zero (Nat.le_zero.mp (nothing ▸ items calls))
  · intro calls other later behind
    exact RecordStream.answer_stays other behind
  · intro calls error answered
    exact RecordStream.answer_error answered
  · intro calls spent
    exact RecordStream.answer_past_room told (room ▸ spent)

-- The stream gives a record and the fault behind it. It has room for three items, and one is not
-- used.
theorem stream_ends_for_good_after_fault :
    let stream := (Reader.upTo 6 [1, 2, 3, 0, 5, 2, 7, 2]).stream .kind8Length8 .declared 0
    [1, 2, 3, 0, 5, 2, 7, 2].length < 2 ^ 63 ∧ stream.answer 0 = some (.ok ⟨1, 0, 0, [1, 2]⟩) ∧
      6 - (stream.after 1).offset < 6 - (stream.after 0).offset ∧
      stream.answer 1 = some (.error (.zeroLength 2)) ∧ 2 = (stream.after 2).offset ∧
      stream.answer 5 = none ∧ (stream.after 5).offset = (stream.after 1).offset ∧
      (stream.given 9).countP Except.isOk ≤ 3 := by
  intro stream
  have small : [1, 2, 3, 0, 5, 2, 7, 2].length < 2 ^ 63 := by decide
  have record : stream.answer 0 = some (.ok ⟨1, 0, 0, [1, 2]⟩) := rfl
  have fault : stream.answer 1 = some (.error (.zeroLength 2)) := rfl
  obtain ⟨nearer, most, -, -, stays, errors, -⟩ := stream_ends_for_good .kind8Length8 .declared
    [1, 2, 3, 0, 5, 2, 7, 2] 6 0 small
  obtain ⟨ended, kept⟩ := stays 1 (by rw [fault]; simp) 5 (by decide)
  exact ⟨small, record, (nearer 0 _ record).2, fault, (errors 1 _ fault).2, ended, kept, most 9⟩

end AcpiAudit

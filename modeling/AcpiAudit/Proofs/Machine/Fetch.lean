import AcpiAudit.Proofs.Bytes.Fetch
import AcpiAudit.Proofs.Machine.Cursor

set_option autoImplicit false

namespace AcpiAudit

namespace Cursor

open Run Audit

def fetch (cursor : Cursor) : Fetch → Run Fetched
  | .bytes offset length => do return .bytes (← cursor.read offset length)
  | .block offset size => do return .bytes (← cursor.block offset size).val
  | .u8 offset => do return .number (← cursor.u8 offset)
  | .u16 offset => do return .number (← cursor.u16 offset)
  | .u32 offset => do return .number (← cursor.u32 offset)
  | .u64 offset => do return .number (← cursor.u64 offset)
  | .number offset width => do return .number (← cursor.number offset width.bytes)

theorem read_then {α β : Type} (read : Except ReadError α) (change : α → β) :
    (finished (liftM read) >>= fun value => pure (change value) : Run β) =
      finished (liftM (read.map change)) := by
  cases read <;> rfl

theorem number_then (cursor : Cursor) (offset width : Nat) :
    (do return Fetched.number (← cursor.number offset width)) =
      finished (liftM ((cursor.reader.number offset width).map Fetched.number)) := by
  rw [number_eq]
  exact read_then _ _

theorem fetch_eq (cursor : Cursor) (fetch : Fetch) :
    cursor.fetch fetch = finished (liftM (cursor.reader.fetch fetch)) := by
  cases fetch with
  | bytes offset length =>
      rw [Cursor.fetch, read_eq]
      exact read_then _ _
  | block offset size =>
      rw [Cursor.fetch, block_eq]
      exact read_then _ _
  | u8 offset => exact cursor.number_then offset 1
  | u16 offset => exact cursor.number_then offset 2
  | u32 offset => exact cursor.number_then offset 4
  | u64 offset => exact cursor.number_then offset 8
  | number offset width => exact cursor.number_then offset width.bytes

theorem reader_fetch (cursor : Cursor) (fetch : Fetch) :
    cursor.reader.fetch fetch =
      if fetch.offset + fetch.size ≤ cursor.limit then
        .ok (fetch.value (cursor.data.slice fetch.offset fetch.size))
      else .error (.truncated fetch.offset fetch.size (cursor.limit - fetch.offset)) := by
  rw [Reader.fetch_eq, reader_limit]
  by_cases fits : fetch.offset + fetch.size ≤ cursor.limit
  · rw [if_pos fits, if_pos fits, reader, Bytes.slice_take fits]
  · rw [if_neg fits, if_neg fits]

theorem get_of_stop {cursor : Cursor} {offset needed stop : Nat}
    (found : cursor.stop offset needed = .ok stop) :
    get? cursor.data offset stop = some (cursor.data.slice offset needed) := by
  have bounded := cursor.bounded
  obtain ⟨within, rfl⟩ := stop_placed found
  rw [get?, if_pos (by omega), Nat.add_sub_cancel_left]

def descend (cursor : Cursor) : List (Nat × Nat) → Except ReadError Cursor
  | [] => .ok cursor
  | (offset, length) :: chain => do (← cursor.window offset length).descend chain

theorem window_shows {cursor inner : Cursor} {offset length : Nat}
    (opened : cursor.window offset length = .ok inner) :
    offset + length ≤ cursor.limit ∧ inner.limit = length ∧
      inner.reader.bytes = cursor.reader.bytes.slice offset length := by
  have shown := cursor.window_eq offset length
  rw [opened] at shown
  obtain ⟨fits, same⟩ := (cursor.reader.window_ok_iff _ _ _).mp shown.symm
  have bytes : inner.reader.bytes = cursor.reader.bytes.slice offset length := by rw [← same]
  have size : inner.reader.limit = length := by
    rw [Reader.limit, bytes]
    exact Bytes.length_slice_of_fits fits
  rw [reader_limit] at fits size
  exact ⟨fits, size, bytes⟩

theorem descend_shows {cursor inner : Cursor} {chain : List (Nat × Nat)}
    (descended : cursor.descend chain = .ok inner) :
    let start := (chain.map Prod.fst).sum
    inner.limit = (chain.getLast?.map Prod.snd).getD cursor.limit ∧
      start + inner.limit ≤ cursor.limit ∧
      inner.reader.bytes = cursor.reader.bytes.slice start inner.limit := by
  induction chain generalizing cursor with
  | nil =>
      obtain rfl : cursor = inner := Except.ok.inj descended
      have whole : cursor.reader.bytes.slice 0 cursor.limit = cursor.reader.bytes := by
        rw [Bytes.slice, List.drop_zero, ← reader_limit]
        exact List.take_length
      exact ⟨rfl, by simp, whole.symm⟩
  | cons window chain ih =>
      obtain ⟨offset, length⟩ := window
      intro start
      cases opened : cursor.window offset length with
      | error error =>
          rw [descend, opened] at descended
          cases descended
      | ok next =>
          rw [descend, opened] at descended
          obtain ⟨fits, limit, bytes⟩ := window_shows opened
          obtain ⟨last, within, shown⟩ := ih descended
          have further : start = offset + (chain.map Prod.fst).sum := List.sum_cons
          rw [limit] at last within
          refine ⟨?_, by omega, ?_⟩
          · rw [last, List.getLast?_cons]
            cases chain.getLast? <;> rfl
          · rw [shown, bytes, Bytes.slice_slice within, further]

theorem fetch_through {cursor inner : Cursor} {chain : List (Nat × Nat)}
    (descended : cursor.descend chain = .ok inner) {fetch : Fetch}
    (fits : fetch.offset + fetch.size ≤ inner.limit) :
    inner.fetch fetch = cursor.fetch (fetch.moved (chain.map Prod.fst).sum) := by
  obtain ⟨-, within, shown⟩ := descend_shows descended
  have inside : fetch.offset + fetch.size ≤ inner.reader.limit := inner.reader_limit ▸ fits
  have outer : (chain.map Prod.fst).sum + fetch.offset + fetch.size ≤ cursor.reader.limit := by
    rw [reader_limit]
    omega
  rw [fetch_eq, fetch_eq, Reader.fetch_eq, Reader.fetch_eq, if_pos inside, Fetch.moved_offset,
    Fetch.moved_size, Fetch.moved_value, if_pos outer, shown, Bytes.slice_slice fits]

theorem fetch_succeeds_iff (cursor : Cursor) (fetch : Fetch) :
    (∃ value, cursor.fetch fetch = pure value) ↔ fetch.offset + fetch.size ≤ cursor.limit := by
  rw [fetch_eq, reader_fetch]
  by_cases fits : fetch.offset + fetch.size ≤ cursor.limit
  · rw [if_pos fits]
    exact ⟨fun _ => fits, fun _ => ⟨_, rfl⟩⟩
  · rw [if_neg fits]
    refine ⟨?_, fun inside => absurd inside fits⟩
    rintro ⟨value, given⟩
    cases given

end Cursor

theorem reads_keep_to_their_windows (cursor : Cursor) :
    (∀ fetch : Fetch,
      let answer : Except ReadError Fetched :=
        if fetch.offset + fetch.size ≤ cursor.limit then
          .ok (fetch.value (cursor.data.slice fetch.offset fetch.size))
        else .error (.truncated fetch.offset fetch.size (cursor.limit - fetch.offset))
      cursor.fetch fetch = .finished (liftM answer) ∧ cursor.reader.fetch fetch = answer) ∧
    (∀ offset needed stop : Nat, cursor.stop offset needed = .ok stop →
      Cursor.get? cursor.data offset stop = some (cursor.data.slice offset needed)) ∧
    ∀ (chain : List (Nat × Nat)) (inner : Cursor), cursor.descend chain = .ok inner →
      let start := (chain.map Prod.fst).sum
      inner.limit = (chain.getLast?.map Prod.snd).getD cursor.limit ∧
        start + inner.limit ≤ cursor.limit ∧
        ∀ fetch : Fetch,
          ((∃ value, inner.fetch fetch = pure value) ↔
            fetch.offset + fetch.size ≤ inner.limit) ∧
          (fetch.offset + fetch.size ≤ inner.limit →
            inner.fetch fetch = cursor.fetch (fetch.moved start)) := by
  refine ⟨?_, fun _ _ _ => Cursor.get_of_stop, ?_⟩
  · intro fetch answer
    have same : cursor.reader.fetch fetch = answer := cursor.reader_fetch fetch
    exact ⟨same ▸ cursor.fetch_eq fetch, same⟩
  · intro chain inner descended start
    obtain ⟨limit, within, -⟩ := Cursor.descend_shows descended
    exact ⟨limit, within, fun fetch =>
      ⟨inner.fetch_succeeds_iff fetch, Cursor.fetch_through descended⟩⟩

-- The bytes that the second window leaves out are still in the first one and below the limit.
theorem reads_keep_to_their_windows_two_deep :
    let cursor := Cursor.upTo 7 [1, 2, 3, 4, 5, 6, 7, 8] (by decide)
    let inner := Cursor.ofBytes [4, 5] (by decide)
    cursor.descend [(1, 5), (2, 2)] = .ok inner ∧ inner.limit = 2 ∧ 3 + 2 ≤ cursor.limit ∧
      (Fetch.u16 0).offset + (Fetch.u16 0).size ≤ inner.limit ∧
      inner.fetch (.u16 0) = cursor.fetch (.u16 3) ∧
      cursor.fetch (.u16 3) = pure (.number 0x0504) ∧
      ¬ (∃ value, inner.fetch (.u16 1) = pure value) ∧
      cursor.fetch (.u16 4) = pure (.number 0x0605) := by
  intro cursor inner
  have descended : cursor.descend [(1, 5), (2, 2)] = .ok inner := rfl
  have fits : (Fetch.u16 0).offset + (Fetch.u16 0).size ≤ inner.limit := by decide
  obtain ⟨reads, -, chains⟩ := reads_keep_to_their_windows cursor
  obtain ⟨limit, within, through⟩ := chains [(1, 5), (2, 2)] inner descended
  refine ⟨descended, limit, within, fits, (through (.u16 0)).2 fits, (reads (.u16 3)).1, ?_,
    (reads (.u16 4)).1⟩
  rw [(through (.u16 1)).1]
  decide

end AcpiAudit

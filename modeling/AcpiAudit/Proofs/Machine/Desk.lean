import AcpiAudit.Proofs.Bytes.Desk
import AcpiAudit.Proofs.Machine.Fetch

set_option autoImplicit false

namespace AcpiAudit

namespace Cursor

open Run Audit

def answer (cursor : Cursor) : Request → Run (Reply Cursor)
  | .fetch fetch => do return .fetched (← cursor.fetch fetch)
  | .whole => return .fetched (.bytes cursor.shown)
  | .text offset length => do return .text (← cursor.text offset length)
  | .window offset length => do return .opened (← cursor.window offset length)
  | .advance count => do
    let _ ← cursor.advance count
    return .moved
  | .seek offset => do
    let _ ← cursor.seek offset
    return .moved

instance : Attendant Cursor where
  after cursor request :=
    match request with
    | .advance count => (cursor.advance count).toOption.getD cursor
    | .seek offset => (cursor.seek offset).toOption.getD cursor
    | _ => cursor
  opens cursor request :=
    match request with
    | .window offset length => (cursor.window offset length).toOption.toList
    | _ => []

theorem answer_eq (cursor : Cursor) (request : Request) :
    (do return (← cursor.answer request).map reader) =
      finished (liftM (cursor.reader.answer request)) := by
  cases request with
  | fetch fetch =>
      rw [answer, fetch_eq, read_then, read_then, Reader.answer]
      cases cursor.reader.fetch fetch <;> rfl
  | whole =>
      rw [answer, shown_eq]
      rfl
  | text offset length =>
      rw [answer, text_eq, Reader.answer]
      cases cursor.reader.text offset length <;> rfl
  | window offset length =>
      rw [answer, Reader.answer, ← window_eq]
      cases cursor.window offset length <;> rfl
  | advance count =>
      rw [answer, Reader.answer, ← advance_eq]
      cases cursor.advance count <;> rfl
  | seek offset =>
      rw [answer, Reader.answer, ← seek_eq]
      cases cursor.seek offset <;> rfl

theorem after_reader (cursor : Cursor) (request : Request) :
    (Attendant.after cursor request).reader = Attendant.after cursor.reader request := by
  cases request with
  | fetch fetch => rfl
  | whole => rfl
  | text offset length => rfl
  | window offset length => rfl
  | advance count =>
      simp only [Attendant.after, ← advance_eq]
      cases cursor.advance count <;> rfl
  | seek offset =>
      simp only [Attendant.after, ← seek_eq]
      cases cursor.seek offset <;> rfl

theorem opens_reader (cursor : Cursor) (request : Request) :
    (Attendant.opens cursor request).map reader = Attendant.opens cursor.reader request := by
  cases request with
  | window offset length =>
      simp only [Attendant.opens, ← window_eq]
      cases cursor.window offset length <;> rfl
  | fetch fetch => rfl
  | whole => rfl
  | text offset length => rfl
  | advance count => rfl
  | seek offset => rfl

def room (cursor : Cursor) : Bytes × Nat := (cursor.data, cursor.limit)

theorem advance_keeps {cursor moved : Cursor} {count : Nat}
    (given : cursor.advance count = .ok moved) : moved.room = cursor.room := by
  unfold advance at given
  split at given
  · cases given
    rfl
  · cases given

theorem seek_keeps {cursor moved : Cursor} {offset : Nat}
    (given : cursor.seek offset = .ok moved) : moved.room = cursor.room := by
  unfold seek at given
  split at given
  · cases given
    rfl
  · cases given

theorem after_keeps (cursor : Cursor) (request : Request) :
    (Attendant.after cursor request).room = cursor.room := by
  cases request with
  | fetch fetch => rfl
  | whole => rfl
  | text offset length => rfl
  | window offset length => rfl
  | advance count =>
      obtain kept | given := Reader.kept_or_given (cursor.advance count) cursor
      · exact congrArg room kept
      · exact advance_keeps given
  | seek offset =>
      obtain kept | given := Reader.kept_or_given (cursor.seek offset) cursor
      · exact congrArg room kept
      · exact seek_keeps given

end Cursor

theorem within_of_desk {data : Bytes} {limit : Nat} {script : List (Nat × Request)} :
    ∀ reader ∈ Desk.run [Reader.upTo limit data] script,
      reader.Within data (Reader.upTo limit data).limit := by
  refine Desk.run_forall (fun _ request within => Reader.within_after within request)
    (fun _ request within => Reader.within_opens within request) ?_ script
  intro reader member
  obtain rfl := List.mem_singleton.mp member
  refine ⟨⟨0, by omega, ?_⟩, Nat.zero_le _⟩
  simp only [Reader.upTo, Reader.limit, List.length_take, Bytes.slice, List.drop_zero]
  rw [← take_limit]

theorem cursors_keep_their_bounds (data : Bytes) (limit : Nat)
    (script more : List (Nat × Request)) :
    let first := Reader.upTo limit data
    let desk := Desk.run [first] script
    (first.limit = min limit data.length ∧ Reader.upTo data.length data = ⟨data, 0⟩ ∧
      ∃ position, desk[0]? = some ⟨data.take limit, position⟩) ∧
    (∀ (which : Nat) (reader : Reader), desk[which]? = some reader →
      reader.Within data first.limit ∧
        Word.subtract reader.limit reader.position = .ok reader.remaining ∧
        reader.MovesInside ∧
        (∀ request inner, inner ∈ Attendant.opens reader request ↔
          reader.answer request = .ok (.opened inner)) ∧
        (∀ request,
          let next := Desk.serve desk (which, request)
          next[which]? = some (Attendant.after reader request) ∧
            ∀ other unasked, which ≠ other → desk[other]? = some unasked →
              next[other]? = some unasked) ∧
        ∃ later, (Desk.run desk more)[which]? = some later ∧ later.bytes = reader.bytes) ∧
    ∀ addressable : data.length < 2 ^ 63,
      let machine := Desk.run [Cursor.upTo limit data addressable] script
      machine.map Cursor.reader = desk ∧
        ∀ (which : Nat) (cursor : Cursor), machine[which]? = some cursor →
          cursor.remaining = .ok (cursor.limit - cursor.position) ∧
            (∀ request, (do return (← cursor.answer request).map Cursor.reader) =
              Run.finished (liftM (cursor.reader.answer request))) ∧
            ∃ later, (Desk.run machine more)[which]? = some later ∧
              later.data = cursor.data ∧ later.limit = cursor.limit := by
  intro first desk
  refine ⟨⟨?_, ?_, ?_⟩, ?_, ?_⟩
  · exact List.length_take
  · exact congrArg (Reader.mk · 0) List.take_length
  · have started : [first][0]? = some first := rfl
    obtain ⟨later, found, same⟩ := Desk.run_keeps Reader.bytes_after started script
    have shown : data.take limit = later.bytes := same.symm
    exact ⟨later.position, by rw [shown]; exact found⟩
  · intro which reader present
    have within := within_of_desk reader (List.mem_of_getElem? present)
    exact ⟨within, Word.subtract_fits within.placed, Reader.moves_inside within.placed,
      fun request inner => reader.opens_iff inner request,
      fun request => ⟨Desk.serve_here request present, fun other unasked different there =>
        Desk.serve_elsewhere request different there⟩,
      Desk.run_keeps Reader.bytes_after present more⟩
  · intro addressable machine
    refine ⟨?_, ?_⟩
    · rw [Desk.run_map Cursor.after_reader Cursor.opens_reader, List.map_singleton,
        Cursor.up_to_reader]
    · intro which cursor present
      obtain ⟨later, found, same⟩ := Desk.run_keeps Cursor.after_keeps present more
      exact ⟨Word.subtract_fits cursor.placed, cursor.answer_eq, later, found,
        congrArg Prod.fst same, congrArg Prod.snd same⟩

def deskData : Bytes := [1, 2, 3, 4, 5, 6, 7, 8]

-- Two requests go past a limit and one is put to nobody; the others move a cursor and a window.
def deskScript : List (Nat × Request) :=
  [(0, .advance 2), (0, .window 1 4), (1, .seek 3), (1, .advance 2), (0, .seek 7), (5, .whole)]

theorem cursors_keep_their_bounds_beside_window :
    let window : Reader := ⟨[2, 3, 4, 5], 3⟩
    let desk := Desk.run [Reader.upTo 6 deskData] deskScript
    desk = [⟨[1, 2, 3, 4, 5, 6], 2⟩, window] ∧ desk[1]? = some window ∧
      window.Within deskData 6 ∧ Word.subtract 4 3 = .ok window.remaining ∧
      window.answer (.advance 2) = .error (.truncated 3 2 1) ∧
      Attendant.after window (.advance 2) = window ∧
      window.answer (.seek 5) = .error (.truncated 5 0 0) ∧
      (∃ addressable : deskData.length < 2 ^ 63,
        (Desk.run [Cursor.upTo 6 deskData addressable] deskScript).map Cursor.reader = desk) ∧
      ∃ later, (Desk.run desk [(0, .seek 6), (1, .seek 0)])[1]? = some later ∧
        later.bytes = [2, 3, 4, 5] := by
  intro window desk
  have reached : desk = [⟨[1, 2, 3, 4, 5, 6], 2⟩, window] := by decide
  have present : desk[1]? = some window := by rw [reached]; rfl
  have addressable : deskData.length < 2 ^ 63 := by decide
  obtain ⟨-, readers, machines⟩ :=
    cursors_keep_their_bounds deskData 6 deskScript [(0, .seek 6), (1, .seek 0)]
  obtain ⟨within, remaining, moves, -, -, later⟩ := readers 1 window present
  have beyond : window.remaining < 2 := by decide
  obtain ⟨refused, unmoved⟩ := moves.holdsBack 2 beyond
  exact ⟨reached, present, within, remaining, refused, unmoved, (moves.refuses 5 (by decide)).1,
    ⟨addressable, (machines addressable).1⟩, later⟩

end AcpiAudit

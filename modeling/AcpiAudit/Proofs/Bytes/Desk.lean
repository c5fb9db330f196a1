import AcpiAudit.Proofs.Bytes.Fetch

set_option autoImplicit false

namespace AcpiAudit

inductive Request where
  | fetch (fetch : Fetch)
  | whole
  | text (offset length : Nat)
  | window (offset length : Nat)
  | advance (count : Nat)
  | seek (offset : Nat)
deriving Repr, DecidableEq

def Request.Moves : Request → Prop
  | .advance _ | .seek _ => True
  | .fetch _ | .whole | .text _ _ | .window _ _ => False

inductive Reply (ρ : Type) where
  | fetched (value : Fetched)
  | text (content : String)
  | opened (inner : ρ)
  | moved

def Reply.map {ρ τ : Type} (view : ρ → τ) : Reply ρ → Reply τ
  | .fetched value => .fetched value
  | .text content => .text content
  | .opened inner => .opened (view inner)
  | .moved => .moved

-- What takes requests: what is left of it after one, and what the request opens.
class Attendant (ρ : Type) where
  after : ρ → Request → ρ
  opens : ρ → Request → List ρ

namespace Reader

def answer (reader : Reader) : Request → Except ReadError (Reply Reader)
  | .fetch fetch => (reader.fetch fetch).map .fetched
  | .whole => .ok (.fetched (.bytes reader.bytes))
  | .text offset length => (reader.text offset length).map .text
  | .window offset length => (reader.window offset length).map .opened
  | .advance count => (reader.advance count).map fun _ => .moved
  | .seek offset => (reader.seek offset).map fun _ => .moved

instance : Attendant Reader where
  after reader request :=
    match request with
    | .advance count => (reader.advance count).toOption.getD reader
    | .seek offset => (reader.seek offset).toOption.getD reader
    | _ => reader
  opens reader request :=
    match request with
    | .window offset length => (reader.window offset length).toOption.toList
    | _ => []

end Reader

namespace Desk

section Serve

variable {ρ : Type} [Attendant ρ]

-- A request that is put to nobody changes nothing.
def serve (desk : List ρ) (turn : Nat × Request) : List ρ :=
  match desk[turn.1]? with
  | none => desk
  | some reader => desk.set turn.1 (Attendant.after reader turn.2) ++ Attendant.opens reader turn.2

def run (desk : List ρ) (script : List (Nat × Request)) : List ρ := script.foldl serve desk

theorem serve_present {desk : List ρ} {which : Nat} {reader : ρ} (request : Request)
    (present : desk[which]? = some reader) :
    serve desk (which, request) =
      desk.set which (Attendant.after reader request) ++ Attendant.opens reader request := by
  simp only [serve, present]

theorem serve_absent {desk : List ρ} {which : Nat} (request : Request)
    (absent : desk[which]? = none) : serve desk (which, request) = desk := by
  simp only [serve, absent]

theorem serve_here {desk : List ρ} {which : Nat} {reader : ρ} (request : Request)
    (present : desk[which]? = some reader) :
    (serve desk (which, request))[which]? = some (Attendant.after reader request) := by
  have inside := (List.getElem?_eq_some_iff.mp present).1
  rw [serve_present request present, List.getElem?_append_left (by rwa [List.length_set]),
    List.getElem?_set_self inside]

theorem serve_elsewhere {desk : List ρ} {which other : Nat} {reader : ρ} (request : Request)
    (different : which ≠ other) (present : desk[other]? = some reader) :
    (serve desk (which, request))[other]? = some reader := by
  have inside := (List.getElem?_eq_some_iff.mp present).1
  cases taken : desk[which]? with
  | none => rwa [serve_absent request taken]
  | some asked =>
      rwa [serve_present request taken, List.getElem?_append_left (by rwa [List.length_set]),
        List.getElem?_set_ne different]

theorem run_keeps {κ : Type} {view : ρ → κ}
    (kept : ∀ reader request, view (Attendant.after reader request) = view reader)
    {desk : List ρ} {which : Nat} {reader : ρ} (present : desk[which]? = some reader)
    (script : List (Nat × Request)) :
    ∃ later, (run desk script)[which]? = some later ∧ view later = view reader := by
  induction script generalizing desk reader with
  | nil => exact ⟨reader, present, rfl⟩
  | cons turn rest ih =>
      obtain ⟨asked, request⟩ := turn
      by_cases here : asked = which
      · subst here
        obtain ⟨later, found, same⟩ := ih (serve_here request present)
        exact ⟨later, found, same.trans (kept reader request)⟩
      · exact ih (serve_elsewhere request here present)

theorem serve_forall {holds : ρ → Prop}
    (after : ∀ reader request, holds reader → holds (Attendant.after reader request))
    (opens : ∀ reader request, holds reader → ∀ inner ∈ Attendant.opens reader request, holds inner)
    {desk : List ρ} (all : ∀ reader ∈ desk, holds reader) (turn : Nat × Request) :
    ∀ reader ∈ serve desk turn, holds reader := by
  obtain ⟨which, request⟩ := turn
  cases taken : desk[which]? with
  | none => rwa [serve_absent request taken]
  | some asked =>
      have good := all asked (List.mem_of_getElem? taken)
      rw [serve_present request taken]
      intro reader member
      cases List.mem_append.mp member with
      | inl stayed =>
          cases List.mem_or_eq_of_mem_set stayed with
          | inl other => exact all reader other
          | inr same => exact same ▸ after asked request good
      | inr opened => exact opens asked request good reader opened

theorem run_forall {holds : ρ → Prop}
    (after : ∀ reader request, holds reader → holds (Attendant.after reader request))
    (opens : ∀ reader request, holds reader → ∀ inner ∈ Attendant.opens reader request, holds inner)
    {desk : List ρ} (all : ∀ reader ∈ desk, holds reader) (script : List (Nat × Request)) :
    ∀ reader ∈ run desk script, holds reader := by
  induction script generalizing desk with
  | nil => exact all
  | cons turn rest ih => exact ih (serve_forall after opens all turn)

end Serve

section Map

variable {ρ τ : Type} [Attendant ρ] [Attendant τ] {view : ρ → τ}

theorem serve_map
    (after : ∀ reader request,
      view (Attendant.after reader request) = Attendant.after (view reader) request)
    (opens : ∀ reader request,
      (Attendant.opens reader request).map view = Attendant.opens (view reader) request)
    (desk : List ρ) (turn : Nat × Request) :
    (serve desk turn).map view = serve (desk.map view) turn := by
  obtain ⟨which, request⟩ := turn
  cases taken : desk[which]? with
  | none =>
      have absent : (desk.map view)[which]? = none := by rw [List.getElem?_map, taken]; rfl
      rw [serve_absent request taken, serve_absent request absent]
  | some reader =>
      have present : (desk.map view)[which]? = some (view reader) := by
        rw [List.getElem?_map, taken]
        rfl
      rw [serve_present request taken, serve_present request present, List.map_append,
        List.map_set, after, opens]

theorem run_map
    (after : ∀ reader request,
      view (Attendant.after reader request) = Attendant.after (view reader) request)
    (opens : ∀ reader request,
      (Attendant.opens reader request).map view = Attendant.opens (view reader) request)
    (desk : List ρ) (script : List (Nat × Request)) :
    (run desk script).map view = run (desk.map view) script := by
  induction script generalizing desk with
  | nil => rfl
  | cons turn rest ih =>
      rw [run, List.foldl_cons, ← run, ih, serve_map after opens]
      rfl

end Map

end Desk

namespace Reader

structure Within (reader : Reader) (data : Bytes) (bound : Nat) : Prop where
  piece : ∃ start, start + reader.limit ≤ bound ∧ reader.bytes = data.slice start reader.limit
  placed : reader.position ≤ reader.limit

theorem advance_ok_iff (reader moved : Reader) (count : Nat) :
    reader.advance count = .ok moved ↔ reader.position + count ≤ reader.limit ∧
      ⟨reader.bytes, reader.position + count⟩ = moved := by
  by_cases fits : reader.position + count ≤ reader.limit <;> simp [advance, fits]

theorem seek_ok_iff (reader moved : Reader) (offset : Nat) :
    reader.seek offset = .ok moved ↔ offset ≤ reader.limit ∧ ⟨reader.bytes, offset⟩ = moved := by
  by_cases fits : offset ≤ reader.limit <;> simp [seek, fits]

theorem kept_or_given {ρ : Type} (found : Except ReadError ρ) (before : ρ) :
    found.toOption.getD before = before ∨ found = .ok (found.toOption.getD before) := by
  cases found with
  | error error => exact .inl rfl
  | ok moved => exact .inr rfl

theorem after_moves (reader : Reader) (request : Request) :
    Attendant.after reader request = reader ∨
      ∃ position, position ≤ reader.limit ∧
        Attendant.after reader request = ⟨reader.bytes, position⟩ := by
  cases request with
  | fetch fetch => exact .inl rfl
  | whole => exact .inl rfl
  | text offset length => exact .inl rfl
  | window offset length => exact .inl rfl
  | advance count =>
      obtain kept | given := kept_or_given (reader.advance count) reader
      · exact .inl kept
      · obtain ⟨fits, moved⟩ := (reader.advance_ok_iff _ count).mp given
        exact .inr ⟨_, fits, moved.symm⟩
  | seek offset =>
      obtain kept | given := kept_or_given (reader.seek offset) reader
      · exact .inl kept
      · obtain ⟨fits, moved⟩ := (reader.seek_ok_iff _ offset).mp given
        exact .inr ⟨_, fits, moved.symm⟩

theorem bytes_after (reader : Reader) (request : Request) :
    (Attendant.after reader request).bytes = reader.bytes := by
  obtain same | ⟨position, -, same⟩ := reader.after_moves request
  · rw [same]
  · rw [same]

theorem mem_opened_iff (found : Except ReadError Reader) (inner : Reader) :
    inner ∈ found.toOption.toList ↔ found = .ok inner := by
  cases found <;> simp [Except.toOption, eq_comm]

theorem opens_iff (reader inner : Reader) (request : Request) :
    inner ∈ Attendant.opens reader request ↔ reader.answer request = .ok (.opened inner) := by
  cases request with
  | fetch fetch =>
      cases found : reader.fetch fetch <;> simp [Attendant.opens, answer, found, Except.map]
  | whole => simp [Attendant.opens, answer]
  | text offset length =>
      cases found : reader.text offset length <;>
        simp [Attendant.opens, answer, found, Except.map]
  | window offset length =>
      refine (mem_opened_iff (reader.window offset length) inner).trans ?_
      rw [answer]
      cases reader.window offset length <;> simp [Except.map]
  | advance count =>
      cases found : reader.advance count <;> simp [Attendant.opens, answer, found, Except.map]
  | seek offset =>
      cases found : reader.seek offset <;> simp [Attendant.opens, answer, found, Except.map]

section Within

variable {reader : Reader} {data : Bytes} {bound : Nat}

theorem within_after (within : reader.Within data bound) (request : Request) :
    (Attendant.after reader request).Within data bound := by
  obtain same | ⟨position, placed, same⟩ := reader.after_moves request
  · rwa [same]
  · rw [same]
    exact ⟨within.piece, placed⟩

theorem within_window {inner : Reader} {offset length : Nat} (within : reader.Within data bound)
    (opened : reader.window offset length = .ok inner) : inner.Within data bound := by
  obtain ⟨start, inside, bytes⟩ := within.piece
  obtain ⟨fits, rfl⟩ := (reader.window_ok_iff inner offset length).mp opened
  have size : (reader.bytes.slice offset length).length = length :=
    Bytes.length_slice_of_fits fits
  refine ⟨⟨start + offset, ?_, ?_⟩, Nat.zero_le _⟩
  · rw [limit, size]
    omega
  · rw [limit, size, bytes, Bytes.slice_slice fits]

theorem within_opens (within : reader.Within data bound) (request : Request) :
    ∀ inner ∈ Attendant.opens reader request, inner.Within data bound := by
  intro inner member
  cases request with
  | window offset length => exact within_window within ((mem_opened_iff _ inner).mp member)
  | fetch fetch => cases member
  | whole => cases member
  | text offset length => cases member
  | advance count => cases member
  | seek offset => cases member

end Within

structure MovesInside (reader : Reader) : Prop where
  advances : ∀ count, count ≤ reader.remaining →
    reader.answer (.advance count) = .ok .moved ∧
      Attendant.after reader (.advance count) = ⟨reader.bytes, reader.position + count⟩
  holdsBack : ∀ count, reader.remaining < count →
    reader.answer (.advance count) =
        .error (.truncated reader.position count reader.remaining) ∧
      Attendant.after reader (.advance count) = reader
  seeks : ∀ offset, offset ≤ reader.limit →
    reader.answer (.seek offset) = .ok .moved ∧
      Attendant.after reader (.seek offset) = ⟨reader.bytes, offset⟩
  refuses : ∀ offset, reader.limit < offset →
    reader.answer (.seek offset) = .error (.truncated offset 0 0) ∧
      Attendant.after reader (.seek offset) = reader
  stays : ∀ request : Request, ¬ request.Moves →
    Attendant.after reader request = reader ∧
      ∀ position, Reader.answer ⟨reader.bytes, position⟩ request = reader.answer request

theorem moves_inside {reader : Reader} (placed : reader.position ≤ reader.limit) :
    reader.MovesInside := by
  constructor
  · intro count fits
    have inside : reader.position + count ≤ reader.limit := by
      simp only [remaining] at fits
      omega
    simp [answer, Attendant.after, advance, inside, Except.map, Except.toOption]
  · intro count beyond
    have outside : ¬ reader.position + count ≤ reader.limit := by
      simp only [remaining] at beyond
      omega
    simp [answer, Attendant.after, advance, outside, Except.map, Except.toOption, remaining]
  · intro offset fits
    simp [answer, Attendant.after, seek, fits, Except.map, Except.toOption]
  · intro offset beyond
    have outside : ¬ offset ≤ reader.limit := by omega
    have nothing : reader.limit - offset = 0 := by omega
    simp [answer, Attendant.after, seek, outside, nothing, Except.map, Except.toOption]
  · intro request quiet
    cases request with
    | fetch fetch =>
        refine ⟨rfl, fun position => ?_⟩
        rw [answer, answer, fetch_eq, fetch_eq]
        rfl
    | whole => exact ⟨rfl, fun _ => rfl⟩
    | text offset length => exact ⟨rfl, fun _ => rfl⟩
    | window offset length => exact ⟨rfl, fun _ => rfl⟩
    | advance count => exact absurd trivial quiet
    | seek offset => exact absurd trivial quiet

end Reader

end AcpiAudit

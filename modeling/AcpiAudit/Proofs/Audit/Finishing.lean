import AcpiAudit.Proofs.Audit.Collecting
import AcpiAudit.Proofs.Audit.Grading
import AcpiAudit.Proofs.Table.Loading

set_option autoImplicit false

namespace AcpiAudit

namespace Reader

variable {reader : Reader} {offset : Nat}

theorem read_of_fits {count : Nat} (fits : offset + count ≤ reader.limit) :
    reader.read offset count = .ok (reader.bytes.slice offset count) :=
  (read_ok_iff _ _ _ _).mpr ⟨fits, rfl⟩

theorem number_of_fits {width : Nat} (fits : offset + width ≤ reader.limit) :
    reader.number offset width = .ok (reader.bytes.number offset width) :=
  (number_ok_iff _ _ _ _).mpr ⟨fits, rfl⟩

theorem block_of_read {size : Nat} {bytes : Bytes} (found : reader.read offset size = .ok bytes) :
    reader.block offset size = .ok ⟨bytes, length_of_read found⟩ :=
  (block_ok_iff _ _ _ _).mpr ((read_ok_iff _ _ _ _).mp found)

theorem block_of_error {size : Nat} {error : ReadError}
    (failed : reader.read offset size = .error error) :
    reader.block offset size = .error error := by
  unfold block
  split
  · next bytes found =>
      rw [failed] at found
      cases found
  · next other found =>
      rw [failed] at found
      cases found
      rfl

theorem number_bound {width value : Nat} (read : reader.number offset width = .ok value) :
    value < 256 ^ width := by
  rw [← ((number_ok_iff _ _ _ _).mp read).2]
  exact Bytes.number_lt _ _ _

theorem read_beyond {count : Nat} (beyond : reader.limit < offset + count) :
    reader.read offset count = .error (.truncated offset count (reader.limit - offset)) :=
  if_neg (Nat.not_le.mpr beyond)

theorem number_beyond {width : Nat} (beyond : reader.limit < offset + width) :
    reader.number offset width = .error (.truncated offset width (reader.limit - offset)) := by
  rw [number, read_beyond beyond]
  rfl

theorem window_of_fits {length : Nat} (fits : offset + length ≤ reader.limit) :
    reader.window offset length = .ok ⟨reader.bytes.slice offset length, 0⟩ :=
  (window_ok_iff _ _ _ _).mpr ⟨fits, rfl⟩

theorem register_of_fits (fits : offset + 12 ≤ reader.limit) :
    reader.register offset = .ok (registerOf reader.bytes offset) :=
  (register_ok_iff _ _ _).mpr ⟨fits, rfl⟩

theorem guid_of_fits (fits : offset + 16 ≤ reader.limit) :
    reader.guid offset = .ok ⟨⟨reader.bytes.slice offset 16, Bytes.length_slice_of_fits fits⟩⟩ :=
  (guid_ok_iff _ _ _).mpr ⟨fits, rfl⟩

theorem read_agrees {one other : Reader} {length : Nat} (limit : one.limit = other.limit)
    (same : offset + length ≤ one.limit →
      one.bytes.slice offset length = other.bytes.slice offset length) :
    one.read offset length = other.read offset length := by
  by_cases fits : offset + length ≤ one.limit
  · rw [read_of_fits fits, read_of_fits (limit ▸ fits), same fits]
  · rw [read, read, limit, if_neg (limit ▸ fits), if_neg (limit ▸ fits)]

theorem window_agrees {one other : Reader} {length : Nat} (limit : one.limit = other.limit)
    (same : offset + length ≤ one.limit →
      one.bytes.slice offset length = other.bytes.slice offset length) :
    one.window offset length = other.window offset length := by
  rw [window, window, read_agrees limit same]

end Reader

namespace Audit

variable {α : Type}

@[simp]
theorem result_ite (condition : Prop) [Decidable condition] (one other : Audit α) :
    (if condition then one else other).result =
      if condition then one.result else other.result := apply_ite _ _ _ _

@[simp]
theorem result_require (outcome : Outcome) (severity : Severity) (problem field : String) :
    (require outcome severity problem field).result = .ok outcome.isPassed := rfl

@[simp]
theorem error_bind {β : Type} (error : ReadError) (next : α → Except ReadError β) :
    ((.error error : Except ReadError α) >>= next) = .error error := rfl

@[simp]
theorem result_note (detail : String) : (note detail).result = .ok () := rfl

@[simp]
theorem result_fail_if (broken : Prop) [Decidable broken] (severity : Severity)
    (problem detail : String) : (failIf broken severity problem detail).result = .ok () :=
  (gives_fail_if broken severity problem detail).result

theorem result_for_each {items : List α} {audit : α → Audit Unit}
    (each : ∀ item ∈ items, (audit item).result = .ok ()) : (items.forM audit).result = .ok () := by
  induction items with
  | nil => rfl
  | cons item rest ih =>
      have first := each item (by simp)
      have others := ih fun other member => each other (by simp [member])
      rw [List.forM_eq_forM] at others ⊢
      rw [List.forM_cons, result_bind, first]
      exact others

theorem findings_bind {β : Type} {first : Audit α} {next : α → Audit β} {value : α}
    (reached : first.result = .ok value) :
    (first >>= next).findings = first.findings ++ (next value).findings := by
  simp only [bind, reached]

theorem contain_finished {audit : Audit Unit} (finished : audit.result = .ok ()) :
    contain audit = audit := by
  rw [contain, finished]

theorem passed_iff {outcome : Outcome} {condition : Prop} (decided : outcome.Decides condition) :
    outcome.isPassed = true ↔ condition := by
  rcases decided with ⟨holds, rfl⟩ | ⟨fails, failed⟩
  · simp [holds, Outcome.isPassed]
  · cases outcome <;> simp_all [Outcome.isFailed, Outcome.isPassed]

section Rule

variable {outcome : Outcome} {condition : Prop}

theorem passed_findings (decided : outcome.Decides condition) (holds : condition)
    (severity : Severity) (problem field : String) :
    outcome.findings severity problem field = [] := by
  obtain ⟨-, rfl⟩ | ⟨fails, -⟩ := decided
  · rfl
  · exact absurd holds fails

theorem failed_findings (decided : outcome.Decides condition) (fails : ¬ condition)
    (severity : Severity) (problem field : String) :
    ∃ detail, outcome.findings severity problem field = [.failure severity problem detail] := by
  obtain ⟨holds, -⟩ | ⟨-, failed⟩ := decided
  · exact absurd holds fails
  · cases outcome with
    | failed _ _ message => exact ⟨field ++ ": " ++ message, rfl⟩
    | passed => cases failed
    | warning message => cases failed
    | info message => cases failed

theorem gives_passed (decided : outcome.Decides condition) (holds : condition)
    (severity : Severity) (problem field : String) :
    (require outcome severity problem field).Gives [] true :=
  ⟨passed_findings decided holds severity problem field,
    congrArg Except.ok ((passed_iff decided).mpr holds)⟩

theorem gives_failed (decided : outcome.Decides condition) (fails : ¬ condition)
    (severity : Severity) (problem field : String) :
    ∃ detail, (require outcome severity problem field).Gives [.failure severity problem detail]
      false := by
  obtain ⟨detail, found⟩ := failed_findings decided fails severity problem field
  have refused : outcome.isPassed = false :=
    Bool.eq_false_iff.mpr fun passed => fails ((passed_iff decided).mp passed)
  exact ⟨detail, found, congrArg Except.ok refused⟩

end Rule

end Audit

end AcpiAudit

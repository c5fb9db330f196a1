import AcpiAudit.Checks.Registry
import AcpiAudit.Proofs.Audit.Passing
import AcpiAudit.Proofs.Table.Loading

set_option autoImplicit false

namespace AcpiAudit

-- The part of a loaded table that is looked at: its length field counts it and it is there.
def seen (data : Bytes) : Bytes := data.take (data.number 4 4)

def SumsToZero (bytes : Bytes) : Prop := (bytes.map UInt8.toNat).sum % 256 = 0

instance (bytes : Bytes) : Decidable (SumsToZero bytes) :=
  inferInstanceAs (Decidable ((bytes.map UInt8.toNat).sum % 256 = 0))

-- The sum is not looked at unless all declared bytes are there and no others.
structure Intact (data : Bytes) (minimum : Nat) : Prop where
  fits : minimum ≤ (seen data).length
  sum : data.number 4 4 ≠ data.length ∨ SumsToZero data

theorem seen_length (data : Bytes) : (seen data).length = min (data.number 4 4) data.length :=
  List.length_take

theorem seen_told (data : Bytes) : (seen data).length ≤ greatestOffset := by
  have bound := Bytes.number_lt data 4 4
  rw [seen_length]
  simp only [greatestOffset]
  omega

theorem seen_number {data : Bytes} {offset width : Nat}
    (inside : offset + width ≤ (seen data).length) :
    (seen data).number offset width = data.number offset width := by
  rw [seen_length] at inside
  exact Bytes.number_take (by omega)

theorem seen_reads {data : Bytes} {offset width : Nat}
    (inside : offset + width ≤ (seen data).length) :
    Reader.number ⟨seen data, 0⟩ offset width = .ok (data.number offset width) :=
  (Reader.number_ok_iff _ _ _ _).mpr ⟨inside, seen_number inside⟩

theorem seen_slice {data : Bytes} {offset count : Nat}
    (inside : offset + count ≤ (seen data).length) :
    (seen data).slice offset count = data.slice offset count := by
  rw [seen_length] at inside
  exact Bytes.slice_take (by omega)

theorem reader_of_loaded {image : Image} {data : Bytes} (loaded : image.LoadedFrom data) :
    image.reader = ⟨seen data, 0⟩ := by
  rw [Image.reader, Reader.upTo, loaded.bytes, loaded.length]
  rfl

theorem header_of_loaded {image : Image} {data : Bytes} (loaded : image.LoadedFrom data)
    (room : Header.size ≤ (seen data).length) :
    ∃ header, image.header = .ok header ∧ header.signature = image.signature ∧
      header.length = data.number 4 4 ∧ header.revision = image.revision := by
  have enough : 36 ≤ (seen data).length := room
  have read := Reader.header_of_fits ⟨seen data, 0⟩ room
  have heads := (Reader.header_ok_iff _ _).mp read
  generalize Reader.headerOf (seen data) room = header at read heads
  refine ⟨header, ?_, ?_, ?_, ?_⟩
  · rw [Image.header, reader_of_loaded loaded, read]
  · apply signature_eq_of_bytes
    exact heads.signature.trans ((seen_slice (by omega)).trans loaded.signature.symm)
  · exact heads.length.trans (seen_number (by omega))
  · exact heads.revision.trans ((seen_number (by omega)).trans loaded.revision.symm)

namespace Audit

theorem passes_completeness {image : Image} {data : Bytes} (loaded : image.LoadedFrom data)
    (header : Header) (value : Unit) :
    (Admission.completeness image header).Passes value ↔
      data.number 4 4 ≠ data.length ∨ SumsToZero data := by
  by_cases same : data.number 4 4 = data.length
  · have whole : seen data = data := by
      rw [seen, same, List.take_length]
    have matching : image.lengthMatches = true := by
      simp [Image.lengthMatches, loaded.length, loaded.bytes, same]
    rw [Admission.completeness, if_pos matching, passes_expect (Rule.zero_sum_decides _),
      reader_of_loaded loaded, whole]
    simp [same, SumsToZero]
  · have differing : ¬ image.lengthMatches = true := by
      simpa [Image.lengthMatches, loaded.length, loaded.bytes] using same
    rw [Admission.completeness, if_neg differing]
    simp [same]

theorem passes_admission (image : Image) (label : String) (signature : Signature) (minimum : Nat)
    (admitted : Option Admitted) :
    (Image.admission image label signature minimum).Passes admitted ↔
      ∃ header, image.header = .ok header ∧ header.signature = signature ∧
        minimum ≤ header.length ∧ minimum ≤ image.reader.limit ∧
        (Admission.completeness image header).Passes () ∧
        admitted = some ⟨header, image.reader⟩ := by
  rw [Image.admission]
  cases read : image.header with
  | error error => simp
  | ok header =>
      by_cases named : header.signature = signature
      · by_cases short : header.length < minimum ∨ image.reader.limit < minimum
        · simp [named, short]
          intro declared present
          omega
        · have declared : minimum ≤ header.length := by omega
          have present : minimum ≤ image.reader.limit := by omega
          simp [named, short, declared, present, eq_comm]
      · simp [named]

theorem passes_audit (check : Check) (image : Image) :
    (check.audit image).Passes () ↔
      ∃ header, image.header = .ok header ∧ header.signature = check.signature ∧
        check.fixedSize image.revision ≤ header.length ∧
        check.fixedSize image.revision ≤ image.reader.limit ∧
        (Admission.completeness image header).Passes () ∧
        (check.body (check.fixedSize image.revision) ⟨header, image.reader⟩).Passes () := by
  rw [Check.audit, passes_bind]
  constructor
  · intro holds
    obtain ⟨admitted, admission, body⟩ := holds
    obtain ⟨header, read, named, declared, present, complete, rfl⟩ :=
      (passes_admission _ _ _ _ _).mp admission
    exact ⟨header, read, named, declared, present, complete, body⟩
  · intro holds
    obtain ⟨header, read, named, declared, present, complete, body⟩ := holds
    have admission := (passes_admission image check.label check.signature
      (check.fixedSize image.revision) _).mpr
      ⟨header, read, named, declared, present, complete, rfl⟩
    exact ⟨_, admission, body⟩

end Audit

def Report.Clean (report : Report) : Prop :=
  ∀ outcome ∈ report.outcomes, outcome.isFailed = false

theorem contained_clean_iff (audit : Audit Unit) :
    (∀ finding ∈ audit.contain.findings, finding.isFailure = false) ↔ audit.Passes () := by
  rw [← Audit.passes_contain audit (), Audit.Passes]
  have finished : audit.contain.result = .ok () := by
    unfold Audit.contain
    split
    · next reached => exact reached
    · rfl
  simp [finished]

theorem conclude_clean_iff (report : Report) (label : String) :
    (report.conclude label).Clean ↔ report.Clean := by
  rw [Report.conclude]
  split
  · simp [Report.Clean, Report.extend, or_imp, forall_and, Outcome.isFailed]
  · rfl

theorem apply_clean_iff (check : Check) (image : Image) :
    (check.apply image .empty).value.Clean ↔ (check.audit image).Passes () := by
  rw [← contained_clean_iff, Check.apply, conclude_clean_iff]
  simp [Report.Clean, Report.addFindings, Report.extend, Report.empty, outcome_is_failed]

theorem registered_report {image : Image} {check : Check}
    (registered : Registry.find? image.signature = some check) :
    (Registry.report? image).value = some (check.apply image .empty).value := by
  simp [Registry.report?, registered, bind, pure]

theorem registered_clean_iff {data : Bytes} {address ordinal : Nat} {image : Image} {check : Check}
    {accepted : Prop} (loaded : Image.ofBytes data address ordinal = .ok image)
    (registered : Registry.find? image.signature = some check)
    (room : Header.size ≤ check.fixedSize image.revision)
    (body : ∀ header, header.revision = image.revision →
      check.fixedSize image.revision ≤ (seen data).length →
      ((check.body (check.fixedSize image.revision) ⟨header, ⟨seen data, 0⟩⟩).Passes () ↔
        accepted)) :
    ∃ report, (Registry.report? image).value = some report ∧
      (report.Clean ↔ Intact data (check.fixedSize image.revision) ∧ accepted) := by
  have fields := loaded_of_bytes loaded
  have named : check.signature = image.signature := by
    simpa using List.find?_some registered
  refine ⟨_, registered_report registered, ?_⟩
  rw [apply_clean_iff, Audit.passes_audit]
  constructor
  · intro holds
    obtain ⟨header, read, -, -, present, complete, passes⟩ := holds
    rw [reader_of_loaded fields] at present passes
    rw [Image.header, reader_of_loaded fields, Reader.header_ok_iff] at read
    have revision : header.revision = image.revision := by
      have fits : 36 ≤ (seen data).length := read.fits
      rw [read.revision, fields.revision]
      exact seen_number (by omega)
    exact ⟨⟨present, (Audit.passes_completeness fields header ()).mp complete⟩,
      (body header revision present).mp passes⟩
  · intro holds
    obtain ⟨⟨present, complete⟩, accepts⟩ := holds
    obtain ⟨header, read, signature, length, revision⟩ :=
      header_of_loaded fields (Nat.le_trans room present)
    have counted := seen_length data
    refine ⟨header, read, signature.trans named.symm, ?_, ?_,
      (Audit.passes_completeness fields _ ()).mpr complete, ?_⟩
    · omega
    · rw [reader_of_loaded fields]
      exact present
    · rw [reader_of_loaded fields]
      exact (body header revision present).mpr accepts

end AcpiAudit

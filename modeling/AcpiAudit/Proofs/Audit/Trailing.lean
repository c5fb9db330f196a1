import AcpiAudit.Proofs.Audit.Verdict

set_option autoImplicit false

namespace AcpiAudit

open Audit

structure Image.SameView (one other : Image) : Prop where
  signature : one.signature = other.signature
  length : one.length = other.length
  revision : one.revision = other.revision
  reader : one.reader = other.reader

-- All that a report depends on.
structure Image.Alike (one other : Image) : Prop extends one.SameView other where
  size : one.data.length = other.data.length

theorem admission_alike {one other : Image} (alike : one.Alike other) (label : String)
    (signature : Signature) (minimum : Nat) :
    Image.admission one label signature minimum =
      Image.admission other label signature minimum := by
  have matching : one.lengthMatches = other.lengthMatches := by
    rw [Image.lengthMatches, Image.lengthMatches, alike.length, alike.size]
  have complete (header : Header) :
      Admission.completeness one header = Admission.completeness other header := by
    rw [Admission.completeness, Admission.completeness, matching, alike.size, alike.reader]
  rw [Image.admission, Image.admission, Image.header, Image.header, alike.reader]
  simp only [complete]

theorem report_alike {one other : Image} (alike : one.Alike other) :
    Registry.report? one = Registry.report? other := by
  have applied (check : Check) : check.apply one .empty = check.apply other .empty := by
    simp only [Check.apply, Check.audit, admission_alike alike, alike.revision]
  simp only [Registry.report?, alike.signature, applied]

theorem slice_agrees {one other : Bytes} {count offset width : Nat}
    (same : one.take count = other.take count) (inside : offset + width ≤ count) :
    one.slice offset width = other.slice offset width := by
  rw [← Bytes.slice_take inside, same, Bytes.slice_take inside]

theorem number_agrees {one other : Bytes} {count offset width : Nat}
    (same : one.take count = other.take count) (inside : offset + width ≤ count) :
    one.number offset width = other.number offset width := by
  simp only [Bytes.number, slice_agrees same inside]

theorem alike_of_agreement {one other : Bytes} {address ordinal : Nat} {first second : Image}
    (loaded : Image.ofBytes one address ordinal = .ok first)
    (loadedToo : Image.ofBytes other address ordinal = .ok second)
    (size : one.length = other.length)
    (same : one.take (max (one.number 4 4) 9) = other.take (max (one.number 4 4) 9)) :
    first.Alike second := by
  have fields := loaded_of_bytes loaded
  have fieldsToo := loaded_of_bytes loadedToo
  have declared : one.number 4 4 = other.number 4 4 := number_agrees same (by omega)
  have visible : seen one = seen other := by
    have shorter := congrArg (List.take (one.number 4 4)) same
    rw [List.take_take, List.take_take, Nat.min_eq_left (Nat.le_max_left _ _)] at shorter
    rw [seen, seen, ← declared, shorter]
  refine ⟨⟨?_, ?_, ?_, ?_⟩, ?_⟩
  · apply signature_eq_of_bytes
    rw [fields.signature, fieldsToo.signature, slice_agrees same (by omega)]
  · rw [fields.length, fieldsToo.length, declared]
  · rw [fields.revision, fieldsToo.revision, number_agrees same (by omega)]
  · rw [reader_of_loaded fields, reader_of_loaded fieldsToo, visible]
  · rw [fields.bytes, fieldsToo.bytes, size]

def reportOf (data : Bytes) (address ordinal : Nat) :
    Except ReadError (Logged (Option Report)) :=
  (Image.ofBytes data address ordinal).map Registry.report?

theorem report_of_agreement (address ordinal : Nat) {one other : Bytes}
    (size : one.length = other.length)
    (same : one.take (max (one.number 4 4) 9) = other.take (max (one.number 4 4) 9)) :
    reportOf one address ordinal = reportOf other address ordinal := by
  by_cases room : 9 ≤ one.length
  · obtain ⟨first, loaded⟩ := loads_of_room room address ordinal
    obtain ⟨second, loadedToo⟩ := loads_of_room (size ▸ room) address ordinal
    have alike := alike_of_agreement loaded loadedToo size same
    simp only [reportOf, loaded, loadedToo, Except.map, report_alike alike]
  · have whole : one = other := by
      rwa [List.take_of_length_le (by omega), List.take_of_length_le (by omega)] at same
    rw [whole]

section Cut

def Check.content (check : Check) (least : Nat) (admitted : Admitted) : List Outcome :=
  (contain (check.body least admitted)).findings.map (Finding.outcome check.label)

def lengthWarning (label : String) (declared loaded : Nat) : Outcome :=
  let detail := s!"declared length {declared} differs from the {loaded} bytes loaded; " ++
    s!"checking the first {declared}"
  .warning (label ++ " " ++ detail)

def sumFailures (label : String) (bytes : Bytes) : List Outcome :=
  let sum := Hex.byteText bytes.byteSum.toNat
  let detail := "Checksum: " ++ s!"checksum over {bytes.length} bytes is {sum}, expected 0x00"
  if SumsToZero bytes then []
  else [.failed .medium (label ++ "BadChecksum") (label ++ " " ++ detail)]

def visibleSize (data : Bytes) : Nat := min (data.number 4 4) data.length

def Admission.completenessFindings (data : Bytes) (told : Nat) : List Finding :=
  let loaded := data.length
  let size := visibleSize data
  let sum := Hex.byteText data.byteSum.toNat
  if data.number 4 4 ≠ loaded then
    [.warning (s!"declared length {told} differs from the {loaded} bytes loaded; " ++
      s!"checking the first {size}")]
  else if SumsToZero data then []
  else
    [.failure .medium "BadChecksum"
      ("Checksum: " ++ s!"checksum over {loaded} bytes is {sum}, expected 0x00")]

variable {data : Bytes} {image : Image} {check : Check} {admitted : Admitted}

theorem passed_not_content (check : Check) (least : Nat) (admitted : Admitted) :
    .passed ∉ check.content least admitted := passed_not_finding _ _

theorem accepted_outcomes {found : List Finding}
    (gives : (Image.admission image check.label check.signature
      (check.fixedSize image.revision)).Gives found (some admitted)) :
    check.outcomes image = found.map (Finding.outcome check.label) ++
      check.content (check.fixedSize image.revision) admitted := by
  rw [Check.outcomes, Check.audit, contain_bind gives, List.map_append]
  rfl

theorem visible_limit (loaded : image.LoadedFrom data) :
    image.reader.limit = visibleSize data := by
  rw [reader_of_loaded loaded]
  exact seen_length data

theorem completeness_findings (loaded : image.LoadedFrom data) (header : Header) :
    (Admission.completeness image header).findings =
      Admission.completenessFindings data header.length := by
  by_cases same : data.number 4 4 = data.length
  · have matching : image.lengthMatches = true := by
      simp [Image.lengthMatches, loaded.length, loaded.bytes, same]
    have whole : seen data = data := by rw [seen, same, List.take_length]
    rw [Admission.completeness, if_pos matching, reader_of_loaded loaded, whole,
      Admission.completenessFindings, if_neg (not_not.mpr same)]
    by_cases zero : SumsToZero data
    · have sum : data.byteSum = 0 := (Bytes.byte_sum_zero_iff data).mpr zero
      rw [if_pos zero, expect, Rule.zeroSum, if_pos sum]
      rfl
    · have sum : ¬ data.byteSum = 0 := fun sum => zero ((Bytes.byte_sum_zero_iff data).mp sum)
      rw [if_neg zero, expect, Rule.zeroSum, if_neg sum]
      rfl
  · have differing : ¬ image.lengthMatches = true := by
      simpa [Image.lengthMatches, loaded.length, loaded.bytes] using same
    rw [Admission.completeness, if_neg differing, visible_limit loaded, loaded.bytes,
      Admission.completenessFindings, if_pos same]
    rfl

theorem longer_completeness (loaded : image.LoadedFrom data) {header : Header}
    (length : header.length = data.number 4 4) (longer : data.number 4 4 < data.length)
    (label : String) :
    (Admission.completeness image header).findings.map (Finding.outcome label) =
      [lengthWarning label (data.number 4 4) data.length] := by
  have visible : visibleSize data = data.number 4 4 := Nat.min_eq_left (Nat.le_of_lt longer)
  rw [completeness_findings loaded, length, Admission.completenessFindings,
    if_pos (Nat.ne_of_lt longer), visible]
  rfl

theorem whole_completeness (loaded : image.LoadedFrom data) (header : Header)
    (whole : data.number 4 4 = data.length) (label : String) :
    (Admission.completeness image header).findings.map (Finding.outcome label) =
      sumFailures label data := by
  rw [completeness_findings loaded, Admission.completenessFindings, if_neg (not_not.mpr whole),
    sumFailures]
  split
  · rfl
  · rfl

theorem cut_view {cut : Image} (loaded : image.LoadedFrom data)
    (reloaded : cut.LoadedFrom (seen data)) (headed : 9 ≤ data.number 4 4) :
    image.SameView cut := by
  have declared : (seen data).number 4 4 = data.number 4 4 := Bytes.number_take (by omega)
  refine ⟨?_, ?_, ?_, ?_⟩
  · apply signature_eq_of_bytes
    rw [loaded.signature, reloaded.signature]
    exact (Bytes.slice_take (by omega)).symm
  · rw [loaded.length, reloaded.length, declared]
  · rw [loaded.revision, reloaded.revision]
    exact (Bytes.number_take (by omega)).symm
  · rw [reader_of_loaded loaded, reader_of_loaded reloaded, seen, seen, ← seen, declared, seen,
      List.take_take, Nat.min_self]

theorem accepts_view {other : Image} {signature : Signature} {minimum : Nat}
    (view : image.SameView other) (accepts : Admission.Accepts image signature minimum admitted) :
    Admission.Accepts other signature minimum admitted := by
  obtain ⟨read, named, declared, present, whole⟩ := accepts
  rw [Image.header, view.reader] at read
  rw [view.reader] at present whole
  exact ⟨read, named, declared, present, whole⟩

theorem accepted_report (registered : Registry.find? image.signature = some check)
    (accepts : Admission.Accepts image check.signature (check.fixedSize image.revision) admitted)
    {first : List Outcome} (complete : (Admission.completeness image admitted.header).findings.map
      (Finding.outcome check.label) = first) :
    let outcomes := first ++ check.content (check.fixedSize image.revision) admitted
    (Registry.report? image).value = some ⟨outcomes ++ verdict check.label outcomes⟩ := by
  have outcomes := accepted_outcomes (admission_gives check.label accepts)
  have applied := apply_outcomes check image
  rw [outcomes, complete] at applied
  simp only [report_value, registered, Option.map_some, ← applied]

theorem header_length (loaded : image.LoadedFrom data) {header : Header}
    (read : image.header = .ok header) :
    36 ≤ (seen data).length ∧ header.length = data.number 4 4 := by
  rw [Image.header, reader_of_loaded loaded, Reader.header_ok_iff] at read
  have fits : 36 ≤ (seen data).length := read.fits
  exact ⟨fits, read.length.trans (seen_number (by omega))⟩

end Cut

theorem report_ignores_trailing_bytes (data : Bytes) (address ordinal : Nat) :
    (∀ other : Bytes, data.length = other.length →
      data.take (max (data.number 4 4) 9) = other.take (max (data.number 4 4) 9) →
      reportOf data address ordinal = reportOf other address ordinal) ∧
    ∀ image check admitted, Image.ofBytes data address ordinal = .ok image →
      Registry.find? image.signature = some check →
      (Image.admission image check.label check.signature (check.fixedSize image.revision)).result =
        .ok (some admitted) →
      data.number 4 4 < data.length →
      ∃ cut content, Image.ofBytes (data.take (data.number 4 4)) address ordinal = .ok cut ∧
        .passed ∉ content ∧
        (let warning := lengthWarning check.label (data.number 4 4) data.length
         (Registry.report? image).value =
          some ⟨warning :: content ++ verdict check.label content⟩) ∧
        (let sum := sumFailures check.label (data.take (data.number 4 4))
         (Registry.report? cut).value =
          some ⟨sum ++ content ++ verdict check.label (sum ++ content)⟩) := by
  refine ⟨fun other => report_of_agreement address ordinal, ?_⟩
  intro image check admitted loaded registered accepted longer
  have fields := loaded_of_bytes loaded
  have accepts := accepts_of_admission accepted
  obtain ⟨headed, length⟩ := header_length fields accepts.read
  have size : (seen data).length = data.number 4 4 :=
    (seen_length data).trans (Nat.min_eq_left (by omega))
  obtain ⟨cut, reloaded⟩ := loads_of_room (show 9 ≤ (seen data).length by omega) address ordinal
  have cutFields := loaded_of_bytes reloaded
  have view := cut_view fields cutFields (by omega)
  let content := check.content (check.fixedSize image.revision) admitted
  refine ⟨cut, content, reloaded, passed_not_content check _ admitted, ?_, ?_⟩
  · rw [accepted_report registered accepts (longer_completeness fields length longer check.label)]
    rfl
  · have whole : (seen data).number 4 4 = (seen data).length :=
      (Bytes.number_take (by omega)).trans size.symm
    have cutAccepts := accepts_view view accepts
    rw [view.signature] at registered
    rw [view.revision] at cutAccepts
    simp only [content, view.revision]
    exact accepted_report registered cutAccepts
      (whole_completeness cutFields admitted.header whole check.label)

def paddedApmt (padding : UInt8) : Bytes :=
  [0x41, 0x50, 0x4D, 0x54, 36] ++ List.replicate 31 0 ++ [padding]

-- The sum of this table is wrong, which is told only when nothing follows its declared length.
theorem report_ignores_trailing_bytes_padded_apmt :
    let data := paddedApmt 1
    reportOf data 0 0 = reportOf (paddedApmt 2) 0 0 ∧
      ∃ image cut content, Image.ofBytes data 0 0 = .ok image ∧
        Image.ofBytes (data.take 36) 0 0 = .ok cut ∧
        (Registry.report? image).value =
          some ⟨lengthWarning "APMT" 36 37 :: content ++ verdict "APMT" content⟩ ∧
        (Registry.report? cut).value = some ⟨[.failed .medium "APMTBadChecksum"
          "APMT Checksum: checksum over 36 bytes is 0x56, expected 0x00"] ++ content⟩ := by
  intro data
  obtain ⟨agree, shorten⟩ := report_ignores_trailing_bytes data 0 0
  have registered : Registry.find? Signature.apmt = some Apmt.check := rfl
  have accepted : (Image.admission ⟨.apmt, 36, 0, data, 0, 0⟩ Apmt.check.label Apmt.check.signature
      36).result = .ok (some ⟨Reader.headerOf (seen data) (by decide), ⟨seen data, 0⟩⟩) := by cbv
  obtain ⟨cut, content, reloaded, -, longer, shorter⟩ :=
    shorten _ _ _ rfl registered accepted (by decide)
  have sum : sumFailures Apmt.check.label (data.take (data.number 4 4)) =
      [.failed .medium "APMTBadChecksum"
        "APMT Checksum: checksum over 36 bytes is 0x56, expected 0x00"] := by
    rw [sumFailures, if_neg (by decide)]
    cbv
  simp only [sum] at shorter
  refine ⟨agree _ rfl rfl, _, cut, content, rfl, reloaded, longer, ?_⟩
  simpa [verdict, Outcome.isFailed] using shorter

end AcpiAudit

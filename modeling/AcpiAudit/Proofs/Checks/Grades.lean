import AcpiAudit.Checks.Registry
import AcpiAudit.Proofs.Audit.Grading

set_option autoImplicit false

namespace AcpiAudit

open Audit

def Admission.grades : Grades :=
  [(.high, "TooShort"), (.high, "BadSignature"), (.medium, "BadChecksum")]

theorem admission_reports (image : Image) (label : String) (signature : Signature)
    (minimum : Nat) : (Image.admission image label signature minimum).Reports Admission.grades := by
  rw [Image.admission]
  cases image.header with
  | error error => simp [Admission.grades]
  | ok header => simp [Admission.completeness, Admission.grades]

namespace Apmt

def grades : Grades :=
  [(.high, "BadNodeLength"), (.high, "InvalidNodeType"),
    (.medium, "ReservedNonZero"), (.low, "BadBaseAddress"), (.medium, "ReservedBitsSet")]

theorem node_reports (node : Record) : (auditNode node).Reports grades := by
  simp [auditNode, auditBases, grades]

end Apmt

namespace Gtdt

def grades : Grades :=
  [(.medium, "ReservedNonZero"), (.high, "BadGtBlockLength"),
    (.high, "GtBlockTimerCount"), (.high, "BadGtBlockTimerOffset"),
    (.high, "BadGtBlockFrameNumber"), (.medium, "ReservedBitsSet"),
    (.high, "BadWatchdogLength"), (.high, "InvalidPlatformTimerType")]

theorem fixed_part_reports (reader : Reader) (revision : Nat) :
    (auditFixedPart reader revision).Reports grades := by
  simp [auditFixedPart, auditVirtualTimer, auditTimerFlags, grades]

theorem entry_reports (index : Nat) (entry : Reader) :
    (auditEntry index entry).Reports grades := by
  simp [auditEntry, grades]

theorem entries_report (block : Record) (count start : Nat) :
    (auditEntries block count start).Reports grades := by
  unfold auditEntries
  split
  · apply reports_for_each
    intro index _
    simp [entry_reports]
  · simp [grades]

theorem timer_reports (timer : Record) : (auditTimer timer).Reports grades := by
  have length : (Severity.high, "BadGtBlockLength") ∈ grades := by decide
  have reserved : (Severity.medium, "ReservedNonZero") ∈ grades := by decide
  have count : (Severity.high, "GtBlockTimerCount") ∈ grades := by decide
  have block : (auditBlock timer).Reports grades := by
    simp [auditBlock, entries_report, length, reserved, count]
  unfold auditTimer
  split
  · exact block
  · simp [auditWatchdog, grades]
  · simp [grades]

end Gtdt

namespace Ibft

def grades : Grades :=
  walkGrades ++ [(.medium, "ReservedNonZero"), (.high, "BadControlId"),
    (.high, "BadControlLength"), (.medium, "BadControlVersion"), (.medium, "BadControlIndex"),
    (.medium, "ReservedBitsSet"), (.low, "UnalignedStructure"), (.high, "BadStructureId"),
    (.high, "BadStructureLength"), (.medium, "BadStructureVersion"),
    (.medium, "BadStructureIndex"), (.medium, "BadSubnetPrefix"), (.medium, "BadChapType"),
    (.medium, "BadNicAssociation"), (.high, "BadStringOffset"), (.low, "NonAsciiString")]

theorem defect_reports (error : WalkError) : (reportDefect error).Reports grades :=
  reports_more (reports_defect error) (List.subset_append_left _ _)

theorem control_reports (control : Record) : (auditControl control).Reports grades := by
  simp [auditControl, grades]

theorem string_reports (table : Reader) (record : Record) (place : Nat) (name : String) :
    (auditString table record place name).Reports grades := by
  simp only [auditString, reports_bind, reports_lift, true_and]
  intro length _ offset _
  split
  · exact reports_pure ()
  · split <;> simp [grades]

theorem content_reports (table : Reader) (record : Record) (slot : Slot) :
    (auditContent table record slot).Reports grades := by
  have subnet : (Severity.medium, "BadSubnetPrefix") ∈ grades := by decide
  have chapType : (Severity.medium, "BadChapType") ∈ grades := by decide
  have association : (Severity.medium, "BadNicAssociation") ∈ grades := by decide
  cases slot with
  | initiator => exact string_reports _ _ _ _
  | nic _ => simp [auditContent, auditNic, string_reports, subnet]
  | target _ => simp [auditContent, auditTarget, string_reports, chapType, association]

theorem record_reports (table : Reader) (slot : Slot) (record : Record) :
    (auditRecord table slot record).Reports grades := by
  have number : (auditNumber slot record).Reports grades := by
    unfold auditNumber
    split <;> simp [grades]
  have id : (Severity.high, "BadStructureId") ∈ grades := by decide
  have length : (Severity.high, "BadStructureLength") ∈ grades := by decide
  have version : (Severity.medium, "BadStructureVersion") ∈ grades := by decide
  have flags : (Severity.medium, "ReservedBitsSet") ∈ grades := by decide
  simp [auditRecord, auditFields, number, content_reports, id, length, version, flags]

theorem slot_reports (table : Reader) (slot : Slot) (pointer : Nat) :
    (auditSlot table slot pointer).Reports grades := by
  have unaligned : (Severity.low, "UnalignedStructure") ∈ grades := by decide
  unfold auditSlot
  split
  · simp
  · simp only [reports_bind, reports_fail_if, reports_locate, unaligned, implies_true, true_and]
    intro _ _ found _
    cases found with
    | ok record => exact record_reports table slot record
    | error error => exact defect_reports error

theorem body_reports (admitted : Admitted) : (body admitted).Reports grades := by
  have reserved : (Severity.medium, "ReservedNonZero") ∈ grades := by decide
  simp only [body, reports_bind, reports_lift, reports_expect, reports_locate, reserved, true_and]
  intro _ _ _ _ found _
  cases found with
  | error error => exact defect_reports error
  | ok control =>
      simp only [reports_bind, control_reports, reports_ite, reports_pure, true_and]
      intro _ _
      refine ⟨fun _ => reports_for_each fun entry _ => ?_, fun _ => trivial⟩
      exact slot_reports admitted.reader entry.1 entry.2

end Ibft

namespace Nfit

def grades : Grades :=
  [(.medium, "ReservedNonZero"), (.high, "BadLength"), (.medium, "BadLength"),
    (.medium, "BadRangeTypeGuid"), (.high, "BadRangeIndexZero"), (.medium, "ReservedBitsSet"),
    (.high, "BadSubtableType")]

theorem fixed_part_reports (reader : Reader) : (auditFixedPart reader).Reports grades := by
  simp [auditFixedPart, grades]

theorem structure_reports (entry : Record) : (auditStructure entry).Reports grades := by
  unfold auditStructure
  split <;>
    simp [auditRange, auditRangeType, auditMapping, auditInterleave, auditManagement,
      auditFlushHints, auditCapabilities, auditLength, lengthIs, lengthAtLeast, grades]

end Nfit

namespace Pcct

def grades : Grades :=
  [(.medium, "ReservedNonZero"), (.high, "BadSubspaceType"),
    (.high, "BadSubspaceLength"), (.high, "BadAddressSpaceId"), (.medium, "BadAccessSize")]

theorem fixed_part_reports (reader : Reader) : (auditFixedPart reader).Reports grades := by
  simp [auditFixedPart, grades]

theorem subspace_reports (subspace : Record) : (auditSubspace subspace).Reports grades := by
  unfold auditSubspace
  split <;>
    simp [auditStart, auditDoorbell, auditAcknowledge, auditRegister, grades]

end Pcct

namespace Viot

def grades : Grades :=
  [(.medium, "ReservedNonZero"), (.high, "BadNodeType"), (.high, "BadNodeLength"),
    (.medium, "BadRange"), (.low, "BadBaseAddress")]

theorem fixed_part_reports (reader : Reader) : (auditFixedPart reader).Reports grades := by
  simp [auditFixedPart, grades]

theorem content_reports (node : Record) (type : NodeType) :
    (auditContent node type).Reports grades := by
  cases type <;>
    simp [auditContent, auditPciRange, auditMmioEndpoint, auditVirtioPciIommu,
      auditVirtioMmioIommu, grades]

theorem node_reports (node : Record) : (auditNode node).Reports grades := by
  have reserved : (Severity.medium, "ReservedNonZero") ∈ grades := by decide
  have unknown : (Severity.high, "BadNodeType") ∈ grades := by decide
  have length : (Severity.high, "BadNodeLength") ∈ grades := by decide
  unfold auditNode
  cases NodeType.ofKind? node.kind <;> simp [content_reports, reserved, unknown, length]

end Viot

end AcpiAudit

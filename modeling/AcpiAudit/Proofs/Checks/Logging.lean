import AcpiAudit.Proofs.Audit.Logging
import AcpiAudit.Proofs.Audit.Verdict
import AcpiAudit.Proofs.Checks.Gathering

set_option autoImplicit false

namespace AcpiAudit

open Audit

def Registry.targets : List String :=
  [Registry.target, Admission.target, walkTarget, Apmt.target, Gtdt.target, Ibft.target,
    Nfit.target, Pcct.target, Viot.target]

open Registry

theorem walk_target_listed : walkTarget ∈ targets := by
  simp [targets]

theorem admission_logs (image : Image) (label : String) (signature : Signature) (minimum : Nat) :
    (Image.admission image label signature minimum).LogsTo targets := by
  rw [Image.admission]
  cases image.header with
  | error error => simp
  | ok header =>
      simp [Admission.completeness, Admission.headerEntry, Admission.acceptedEntry, targets]

namespace Apmt

theorem node_logs (node : Record) : (auditNode node).LogsTo targets := by
  simp [auditNode, auditBases]

theorem body_logs (admitted : Admitted) : (body admitted).LogsTo targets := by
  rw [body, logs_bind]
  refine ⟨logs_each_record walk_target_listed node_logs, fun ending _ => ?_⟩
  cases ending <;> simp [targets]

end Apmt

namespace Gtdt

theorem flags_log (reader : Reader) (offset : Nat) (timer : String) :
    (auditTimerFlags reader offset timer).LogsTo targets := by
  simp [auditTimerFlags, targets]

theorem entries_log (block : Record) (count start : Nat) :
    (auditEntries block count start).LogsTo targets := by
  unfold auditEntries
  split
  · apply logs_for_each
    intro index _
    simp [auditEntry]
  · exact logs_fail _ _ _

theorem timer_logs (timer : Record) : (auditTimer timer).LogsTo targets := by
  unfold auditTimer
  split
  · simp [auditBlock, entries_log]
  · simp [auditWatchdog]
  · exact logs_fail _ _ _

theorem body_logs (least : Nat) (admitted : Admitted) :
    (body least admitted).LogsTo targets := by
  have listed : target ∈ targets := by simp [targets]
  have timers (reader : Reader) (run : TimerRun) : (auditTimers reader run).LogsTo targets := by
    rw [auditTimers, logs_bind]
    refine ⟨logs_each_record walk_target_listed timer_logs, fun ending _ => ?_⟩
    cases ending <;> simp
  simp [body, auditFixedPart, auditVirtualTimer, flags_log, timers, listed]

end Gtdt

namespace Ibft

theorem control_logs (control : Record) : (auditControl control).LogsTo targets := by
  simp [auditControl, targets]

theorem string_logs (table : Reader) (record : Record) (place : Nat) (name : String) :
    (auditString table record place name).LogsTo targets := by
  have listed : target ∈ targets := by simp [targets]
  simp only [auditString, logs_bind, logs_lift, true_and]
  intro length _ offset _
  split
  · exact logs_pure ()
  · split <;> simp [listed]

theorem record_logs (table : Reader) (slot : Slot) (record : Record) :
    (auditRecord table slot record).LogsTo targets := by
  have number : (auditNumber slot record).LogsTo targets := by
    unfold auditNumber
    split <;> simp
  have content : (auditContent table record slot).LogsTo targets := by
    cases slot with
    | initiator => exact string_logs _ _ _ _
    | nic _ => simp [auditContent, auditNic, string_logs]
    | target _ => simp [auditContent, auditTarget, string_logs]
  simp [auditRecord, auditFields, number, content]

theorem slot_logs (table : Reader) (slot : Slot) (pointer : Nat) :
    (auditSlot table slot pointer).LogsTo targets := by
  unfold auditSlot
  split
  · simp [targets]
  · simp only [logs_bind, logs_fail_if, logs_locate walk_target_listed, true_and]
    intro _ _ found _
    cases found with
    | ok record => exact record_logs table slot record
    | error error => exact logs_defect error

theorem body_logs (admitted : Admitted) : (body admitted).LogsTo targets := by
  simp only [body, logs_bind, logs_lift, logs_expect, logs_locate walk_target_listed, true_and]
  intro _ _ _ _ found _
  cases found with
  | error error => exact logs_defect error
  | ok control =>
      simp only [logs_bind, control_logs, logs_ite, logs_pure, true_and]
      intro _ _
      refine ⟨fun _ => logs_for_each fun entry _ => ?_, fun _ => trivial⟩
      exact slot_logs admitted.reader entry.1 entry.2

end Ibft

namespace Nfit

theorem structure_logs (entry : Record) : (auditStructure entry).LogsTo targets := by
  unfold auditStructure
  split <;>
    simp [auditRange, auditRangeType, auditMapping, auditInterleave, auditManagement,
      auditFlushHints, auditCapabilities, auditLength, lengthIs, lengthAtLeast]

theorem body_logs (admitted : Admitted) : (body admitted).LogsTo targets := by
  rw [body, logs_bind, logs_contain]
  refine ⟨by simp [auditFixedPart], fun _ _ => ?_⟩
  rw [logs_bind]
  refine ⟨logs_each_record walk_target_listed structure_logs, fun ending _ => ?_⟩
  cases ending <;> simp [targets]

end Nfit

namespace Pcct

theorem subspace_logs (subspace : Record) : (auditSubspace subspace).LogsTo targets := by
  unfold auditSubspace
  split <;> simp [auditStart, auditDoorbell, auditAcknowledge, auditRegister]

theorem body_logs (admitted : Admitted) : (body admitted).LogsTo targets := by
  rw [body, logs_bind, logs_contain]
  refine ⟨by simp [auditFixedPart, targets], fun _ _ => ?_⟩
  rw [logs_bind]
  refine ⟨logs_each_record walk_target_listed subspace_logs, fun ending _ => ?_⟩
  cases ending <;> simp [targets]

end Pcct

namespace Viot

theorem node_logs (node : Record) : (auditNode node).LogsTo targets := by
  have content (type : NodeType) : (auditContent node type).LogsTo targets := by
    cases type <;>
      simp [auditContent, auditPciRange, auditMmioEndpoint, auditVirtioPciIommu,
        auditVirtioMmioIommu]
  unfold auditNode
  cases NodeType.ofKind? node.kind <;> simp [content]

theorem output_logs (iommus : List Nat) (ending : Except WalkError Extent) (output : Output) :
    (auditOutput iommus ending output).LogsTo targets := by
  simp [auditOutput, targets]

theorem nodes_log (reader : Reader) (run : NodeRun) : (auditNodes reader run).LogsTo targets := by
  have listed : target ∈ targets := by simp [targets]
  have ends (ending : Except WalkError Extent) : (auditEnding run ending).LogsTo targets := by
    cases ending <;> simp [auditEnding, listed]
  simp only [audit_nodes_eq, logs_bind, ends, true_and]
  refine ⟨logs_each_record walk_target_listed node_logs, fun ending _ _ _ => ?_⟩
  exact logs_for_each fun output _ => output_logs _ _ output

theorem body_logs (admitted : Admitted) : (body admitted).LogsTo targets := by
  simp [body, auditFixedPart, nodes_log]

end Viot

theorem registered_body_logs {check : Check} (listed : check ∈ checks) (least : Nat)
    (admitted : Admitted) : (check.body least admitted).LogsTo targets := by
  simp only [checks, List.mem_cons, List.not_mem_nil, or_false] at listed
  rcases listed with rfl | rfl | rfl | rfl | rfl | rfl
  · exact Apmt.body_logs admitted
  · exact Gtdt.body_logs least admitted
  · exact Ibft.body_logs admitted
  · exact Nfit.body_logs admitted
  · exact Pcct.body_logs admitted
  · exact Viot.body_logs admitted

theorem report_logs (image : Image) : ∀ entry ∈ (report? image).log, entry.target ∈ targets := by
  unfold report?
  cases registered : find? image.signature with
  | none => simp [bind, pure, LogWriter.write, targets]
  | some check =>
      have audits : (check.audit image).LogsTo targets := by
        rw [Check.audit, logs_bind]
        refine ⟨admission_logs _ _ _ _, fun admitted _ => ?_⟩
        cases admitted with
        | none => exact logs_pure ()
        | some admitted => exact registered_body_logs (find_signature registered).1 _ admitted
      intro entry member
      exact audits entry (by simpa [bind, pure, Check.apply] using member)

end AcpiAudit

import AcpiAudit.Checks.Viot
import AcpiAudit.Proofs.Audit.Collecting

set_option autoImplicit false

namespace AcpiAudit

namespace Audit

section Gather

variable {σ : Type} (audit : Record → Audit Unit) (gather : σ → Record → σ)

def gatherRecord (record : Record) : StateT σ Audit Unit := do
  StateT.lift (contain (audit record))
  modify fun gathered => gather gathered record

theorem run_write (entry : LogEntry) (gathered : σ) :
    (LogWriter.write entry : StateT σ Audit Unit).run gathered =
      LogWriter.write entry >>= fun _ => pure ((), gathered) := rfl

theorem run_present (record : Record) (gathered : σ) :
    (Course.present (gatherRecord audit gather) record).run gathered =
      (Course.present (fun record => contain (audit record)) record >>= fun _ =>
        pure ((), gather gathered record)) := by
  simp [Course.present, gatherRecord, run_write]

theorem run_records (records : List Record) (gathered : σ) :
    (forM records (Course.present (gatherRecord audit gather))).run gathered =
      (forM records (Course.present fun record => contain (audit record)) >>= fun _ =>
        pure ((), records.foldl gather gathered)) := by
  induction records generalizing gathered with
  | nil => simp
  | cons record rest ih => simp [run_present, ih]

-- What a walk finds does not depend on what it gathers, and all its records are gathered.
theorem gather_records_eq (course : Course) (start : σ) :
    gatherRecords course audit gather start =
      (eachRecord course audit >>= fun ending =>
        pure (ending, course.records.foldl gather start)) := by
  have visited : gatherRecords course audit gather start =
      (course.visit fun record => do gatherRecord audit gather record; return .proceed).run
        start := by
    simp [gatherRecords, gatherRecord]
  have closed (gathered : σ) : (course.close : StateT σ Audit _).run gathered =
      (course.close >>= fun ending => pure (ending, gathered)) := by
    unfold Course.close
    cases course.outcome <;> simp [run_write]
  rw [visited, eachRecord, Course.visit_proceed, Course.visit_proceed]
  simp [run_records, closed]

end Gather

end Audit

namespace Viot

open Audit

theorem sound_type_some {node : Record} (type : NodeType) :
    soundType? node = some type ↔
      NodeType.ofKind? node.kind = some type ∧ node.length = type.length := by
  rw [soundType?, Option.filter_eq_some_iff, beq_iff_eq]

def isSoundIommu (node : Record) : Bool := (soundType? node).any NodeType.isIommu

def isSoundEndpoint (node : Record) : Bool := (soundType? node).any fun type => !type.isIommu

def output (node : Record) : Output := ⟨node.offset, outputNode node⟩

theorem meet_eq (gathered : Gathered) (node : Record) :
    gathered.meet node =
      ⟨gathered.iommus ++ if isSoundIommu node then [node.offset] else [],
        gathered.outputs ++ if isSoundEndpoint node then [output node] else []⟩ := by
  unfold Gathered.meet isSoundIommu isSoundEndpoint
  cases soundType? node with
  | none => simp
  | some type =>
      cases kind : type.isIommu <;>
        simp [kind, Gathered.addIommu, Gathered.addOutput, output]

-- Each vector holds what the nodes of its kind have put there, in the order of the walk.
theorem gathered_records (gathered : Gathered) (records : List Record) :
    records.foldl Gathered.meet gathered =
      ⟨gathered.iommus ++ (records.filter isSoundIommu).map Record.offset,
        gathered.outputs ++ (records.filter isSoundEndpoint).map output⟩ := by
  induction records generalizing gathered with
  | nil => simp
  | cons node rest ih =>
      rw [List.foldl_cons, ih, meet_eq]
      by_cases iommu : isSoundIommu node <;> by_cases endpoint : isSoundEndpoint node <;>
        simp [iommu, endpoint]

def gathered (course : Course) : Gathered := course.records.foldl Gathered.meet {}

theorem gathered_eq (course : Course) :
    gathered course = ⟨(course.records.filter isSoundIommu).map Record.offset,
      (course.records.filter isSoundEndpoint).map output⟩ :=
  gathered_records {} course.records

theorem output_gives (iommus : List Nat) (ending : Except WalkError Extent) (output : Output) :
    (auditOutput iommus ending output).Gives (auditOutput iommus ending output).findings () := by
  refine ⟨rfl, ?_⟩
  simp only [auditOutput]
  split
  · rfl
  · exact (gives_fail_if _ _ _ _).result

theorem audit_nodes_eq (reader : Reader) (run : NodeRun) :
    auditNodes reader run = (do
      let course := reader.course .kind8Gap8Length16 .declared run.start
      let ending ← eachRecord course auditNode
      auditEnding run ending
      (gathered course).outputs.forM (auditOutput (gathered course).iommus ending)) := by
  simp only [auditNodes, gather_records_eq, bind_assoc, pure_bind]
  rfl

end Viot

end AcpiAudit

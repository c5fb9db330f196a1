import AcpiAudit.Proofs.Checks.Faults
import AcpiAudit.Proofs.Checks.Viot

set_option autoImplicit false

namespace AcpiAudit

open Audit

def Report.failuresWith (report : Report) (code : String) : List Outcome :=
  report.outcomes.filter fun outcome => outcome.code? = some code

namespace Viot

-- A node of another length than that of its type is neither an endpoint nor an IOMMU.
def IsEndpointNode (node : Record) : Prop := (node.kind = 1 ∨ node.kind = 2) ∧ node.length = 24

instance (node : Record) : Decidable (IsEndpointNode node) :=
  inferInstanceAs (Decidable ((node.kind = 1 ∨ node.kind = 2) ∧ node.length = 24))

def IsIommuNode (node : Record) : Prop := (node.kind = 3 ∨ node.kind = 4) ∧ node.length = 16

instance (node : Record) : Decidable (IsIommuNode node) :=
  inferInstanceAs (Decidable ((node.kind = 3 ∨ node.kind = 4) ∧ node.length = 16))

def Sees (course : Course) (offset : Nat) : Prop :=
  ∀ error, course.outcome = .error error → offset < error.offset

structure Unresolved (course : Course) (node : Record) : Prop where
  endpoint : IsEndpointNode node
  missing : ∀ iommu ∈ course.records, IsIommuNode iommu → iommu.offset ≠ outputNode node
  seen : Sees course (outputNode node)

def badOutput (node : Record) : Finding :=
  let place := Hex.text node.offset
  let wanted := Hex.text (outputNode node)
  .failure .high "BadOutputNode"
    s!"node at {place} has Output Node {wanted}, which is not an IOMMU node"

theorem exists_type_iff (holds : NodeType → Prop) :
    (∃ type, holds type) ↔ (holds .pciRange ∨ holds .mmioEndpoint) ∨
      holds .virtioPciIommu ∨ holds .virtioMmioIommu := by
  constructor
  · intro found
    obtain ⟨type, held⟩ := found
    cases type <;> simp [held]
  · intro found
    obtain (held | held) | held | held := found <;> exact ⟨_, held⟩

section Node

variable {node : Record}

theorem sound_type_iff (type : NodeType) :
    soundType? node = some type ↔ node.kind = type.kind ∧ node.length = type.length := by
  rw [sound_type_some, of_kind_iff]

theorem endpoint_node_iff : isSoundEndpoint node = true ↔ IsEndpointNode node := by
  simp [isSoundEndpoint, Option.any_eq_true, sound_type_iff, exists_type_iff, NodeType.isIommu,
    NodeType.kind, NodeType.length, IsEndpointNode, or_and_right]

theorem iommu_node_iff : isSoundIommu node = true ↔ IsIommuNode node := by
  simp [isSoundIommu, Option.any_eq_true, sound_type_iff, exists_type_iff, NodeType.isIommu,
    NodeType.kind, NodeType.length, IsIommuNode, or_and_right]

end Node

section Course

variable {course : Course}

theorem unseen_iff (offset : Nat) :
    isUnseen course.outcome offset = true ↔ ¬ Sees course offset := by
  cases ended : course.outcome with
  | ok extent => simp [isUnseen, Sees, ended]
  | error error => simp [isUnseen, Sees, ended]

instance (offset : Nat) : Decidable (Sees course offset) :=
  decidable_of_iff (¬ isUnseen course.outcome offset = true)
    (not_iff_comm.mp (unseen_iff offset).symm)

instance (node : Record) : Decidable (Unresolved course node) :=
  decidable_of_iff (IsEndpointNode node ∧
      (∀ iommu ∈ course.records, IsIommuNode iommu → iommu.offset ≠ outputNode node) ∧
      Sees course (outputNode node))
    ⟨fun holds => ⟨holds.1, holds.2.1, holds.2.2⟩,
      fun holds => ⟨holds.endpoint, holds.missing, holds.seen⟩⟩

theorem missing_iff (node : Record) :
    outputNode node ∉ (gathered course).iommus ↔
      ∀ iommu ∈ course.records, IsIommuNode iommu → iommu.offset ≠ outputNode node := by
  simp only [gathered_eq, List.mem_map, List.mem_filter, iommu_node_iff, not_exists, not_and,
    and_imp, ne_eq]

theorem output_findings {node : Record} (endpoint : IsEndpointNode node) :
    (auditOutput (gathered course).iommus course.outcome (output node)).findings =
      if Unresolved course node then [badOutput node] else [] := by
  by_cases seen : Sees course (outputNode node)
  · have met : ¬ isUnseen course.outcome (outputNode node) = true := by
      rwa [unseen_iff, not_not]
    simp only [auditOutput, output, if_neg met, (gives_fail_if _ _ _ _).findings, missing_iff]
    refine if_congr ?_ rfl rfl
    constructor
    · intro missing
      exact ⟨endpoint, missing, seen⟩
    · intro unresolved
      exact unresolved.missing
  · have resolved : ¬ Unresolved course node := fun unresolved => seen unresolved.seen
    have unseen : isUnseen course.outcome (output node).target = true := (unseen_iff _).mpr seen
    simp only [auditOutput, if_pos unseen, if_neg resolved]
    rfl

end Course

theorem flat_map_if {α β : Type} (wanted : α → Prop) [DecidablePred wanted] (make : α → β)
    (items : List α) :
    (items.flatMap fun item => if wanted item then [make item] else []) =
      (items.filter fun item => wanted item).map make := by
  induction items with
  | nil => rfl
  | cons item rest ih =>
      by_cases holds : wanted item <;> simp [holds, ih]

theorem endpoint_findings (course : Course) :
    WalkedTable.endpointFindings course =
      (course.records.filter fun node => Unresolved course node).map badOutput := by
  have each : WalkedTable.endpointFindings course =
      (course.records.filter isSoundEndpoint).flatMap fun node =>
        if Unresolved course node then [badOutput node] else [] := by
    have outputs := congrArg Gathered.outputs (gathered_eq course)
    simp only [WalkedTable.endpointFindings, outputs, List.flatMap_map]
    refine List.flatMap_congr fun node member => ?_
    exact output_findings (endpoint_node_iff.mp (List.mem_filter.mp member).2)
  have both (node : Record) : (decide (Unresolved course node) && isSoundEndpoint node) =
      decide (Unresolved course node) := by
    rw [Bool.and_eq_left_iff_imp]
    intro unresolved
    exact endpoint_node_iff.mpr (of_decide_eq_true unresolved).endpoint
  rw [each, flat_map_if, List.filter_filter]
  simp only [both]

end Viot

section Report

variable {check : Check} {image : Image} {data : Bytes}

theorem failures_within {findings : List Finding} {grades : Grades} {problem : String}
    (within : Within findings grades) (apart : ∀ grade ∈ grades, grade.2 ≠ problem)
    (label : String) :
    (findings.map (Finding.outcome label)).filter
      (fun outcome => outcome.code? = some (label ++ problem)) = [] := by
  rw [List.filter_eq_nil_iff]
  intro outcome member coded
  obtain ⟨finding, found, rfl⟩ := List.mem_map.mp member
  rw [decide_eq_true_iff, outcome_code] at coded
  cases finding with
  | failure severity other detail =>
      have same : other = problem := label_cancel label (Option.some.inj coded)
      exact apart _ (within _ _ _ found) same
  | warning detail => cases coded
  | note detail => cases coded

theorem apply_failures_with (check : Check) (image : Image) (problem : String) :
    (check.apply image .empty).value.failuresWith (check.label ++ problem) =
      (check.outcomes image).filter
        fun outcome => outcome.code? = some (check.label ++ problem) := by
  have closed : (verdict check.label (check.outcomes image)).filter
      (fun outcome => outcome.code? = some (check.label ++ problem)) = [] := by
    unfold verdict
    split
    · rfl
    · rfl
  rw [Report.failuresWith, apply_outcomes, List.filter_append, closed, List.append_nil]

end Report

namespace Viot

section Report

variable {image : Image} {data : Bytes}

structure Walked (data : Bytes) : Prop where
  fits : 48 ≤ (seen data).length
  start : 48 ≤ data.number 38 2

def course (data : Bytes) : Course :=
  Reader.course ⟨seen data, 0⟩ .kind8Gap8Length16 .declared (data.number 38 2)

theorem course_follows_nodes (data : Bytes) :
    (course data).Follows .kind8Gap8Length16 (seen data) (seen data).length (data.number 38 2) 0 :=
  reader_course_follows _ _ (seen_told data)

def badOutputs (image : Image) : List Outcome :=
  (check.apply image .empty).value.failuresWith "VIOTBadOutputNode"

theorem bad_outputs_staged {outputs : List Finding}
    (staged : WalkedTable.viot.Staged (contain (check.audit image)).findings outputs)
    (listed : ∀ finding ∈ outputs, ∃ detail, finding = .failure .high "BadOutputNode" detail) :
    badOutputs image = outputs.map (Finding.outcome "VIOT") := by
  obtain ⟨front, fault, order, minor, structural, -⟩ := staged
  have label : check.label = "VIOT" := by rfl
  have apart : ∀ grade ∈ WalkedTable.viot.minorGrades, grade.2 ≠ "BadOutputNode" := by decide
  have before := failures_within minor apart "VIOT"
  have apartToo : ∀ grade ∈ walkGrades, grade.2 ≠ "BadOutputNode" := by decide
  have walk := failures_within structural apartToo "VIOT"
  have all : (outputs.map (Finding.outcome "VIOT")).filter
      (fun outcome => outcome.code? = some ("VIOT" ++ "BadOutputNode")) =
        outputs.map (Finding.outcome "VIOT") := by
    rw [List.filter_eq_self]
    intro outcome member
    obtain ⟨finding, found, rfl⟩ := List.mem_map.mp member
    obtain ⟨detail, rfl⟩ := listed finding found
    rfl
  have failures := apply_failures_with check image "BadOutputNode"
  rw [Check.outcomes, order, label, List.map_append, List.map_append, List.filter_append,
    List.filter_append, before, walk, all] at failures
  exact failures

theorem bad_outputs_walked (loaded : image.LoadedFrom data) (named : image.signature = .viot)
    (walked : Walked data) :
    badOutputs image =
      ((course data).records.filter fun node => Unresolved (course data) node).map
        fun node => (badOutput node).outcome "VIOT" := by
  have room : Header.size ≤ check.fixedSize image.revision := Nat.le_add_right Header.size 12
  obtain ⟨admitted, accepted⟩ := admission_of_room loaded named room walked.fits
  have staged : WalkedTable.viot.Staged (contain (check.audit image)).findings
      (WalkedTable.endpointFindings (course data)) :=
    WalkedTable.viot.reached_staged loaded accepted walked.start
  have listed : ∀ finding ∈ WalkedTable.endpointFindings (course data),
      ∃ detail, finding = .failure .high "BadOutputNode" detail :=
    fun finding => WalkedTable.viot.output_failure
  rw [bad_outputs_staged staged listed, endpoint_findings, List.map_map]
  simp only [Function.comp_def]

theorem bad_outputs_unwalked (loaded : image.LoadedFrom data) (unwalked : ¬ Walked data) :
    badOutputs image = [] := by
  have staged : WalkedTable.viot.Staged (contain (check.audit image)).findings [] := by
    cases admission_refuses_or_accepts check image with
    | inl refused => exact WalkedTable.refused_staged refused
    | inr accepts =>
        obtain ⟨admitted, accepted⟩ := accepts
        obtain ⟨-, -, fits⟩ := accepted_table loaded accepted
        exact WalkedTable.unreached_staged loaded accepted fun start => unwalked ⟨fits, start⟩
  exact bad_outputs_staged staged fun finding found => absurd found List.not_mem_nil

theorem mem_bad_outputs_iff (loaded : image.LoadedFrom data) (named : image.signature = .viot)
    (outcome : Outcome) :
    outcome ∈ badOutputs image ↔
      Walked data ∧ ∃ node ∈ (course data).records, Unresolved (course data) node ∧
        (badOutput node).outcome "VIOT" = outcome := by
  by_cases walked : Walked data
  · rw [bad_outputs_walked loaded named walked, List.mem_map, and_iff_right walked]
    refine exists_congr fun node => ?_
    rw [List.mem_filter, decide_eq_true_iff, and_assoc]
  · rw [bad_outputs_unwalked loaded walked]
    exact iff_of_false List.not_mem_nil fun found => walked found.1

theorem viot_report (named : image.signature = .viot) :
    (Registry.report? image).value = some (check.apply image .empty).value := by
  have registered : Registry.find? image.signature = some check := by
    rw [named]
    rfl
  exact registered_report registered

end Report

end Viot

end AcpiAudit

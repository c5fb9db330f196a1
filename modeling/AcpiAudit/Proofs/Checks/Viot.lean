import AcpiAudit.Proofs.Audit.Acceptance
import AcpiAudit.Proofs.Checks.Gathering

set_option autoImplicit false

namespace AcpiAudit.Viot

open Audit

inductive SoundNode (node : Bytes) : Prop where
  | pciRange (kind : node.number 0 1 = 1) (reserved : node.number 1 1 = 0)
      (length : node.length = 24) (segments : node.number 8 2 ≤ node.number 10 2)
      (functions : node.number 12 2 ≤ node.number 14 2) (zeros : (node.slice 18 6).AllZero)
  | mmioEndpoint (kind : node.number 0 1 = 2) (reserved : node.number 1 1 = 0)
      (length : node.length = 24) (base : node.number 8 8 ≠ 0)
      (zeros : (node.slice 18 6).AllZero)
  | virtioPciIommu (kind : node.number 0 1 = 3) (reserved : node.number 1 1 = 0)
      (length : node.length = 16) (zeros : (node.slice 8 8).AllZero)
  | virtioMmioIommu (kind : node.number 0 1 = 4) (reserved : node.number 1 1 = 0)
      (length : node.length = 16) (zero : node.number 4 4 = 0) (base : node.number 8 8 ≠ 0)

def IsEndpoint (node : Bytes) : Prop := node.number 0 1 = 1 ∨ node.number 0 1 = 2

instance (node : Bytes) : Decidable (IsEndpoint node) :=
  inferInstanceAs (Decidable (node.number 0 1 = 1 ∨ node.number 0 1 = 2))

def IsIommu (node : Bytes) : Prop := node.number 0 1 = 3 ∨ node.number 0 1 = 4

def IommuAt (start : Nat) (nodes : List Bytes) (offset : Nat) : Prop :=
  ∃ before iommu after, nodes = before ++ iommu :: after ∧ IsIommu iommu ∧
    offset = start + before.flatten.length

structure SoundNodes (start count : Nat) (rest : Bytes) (nodes : List Bytes) : Prop where
  partition : Partition .kind8Gap8Length16 rest nodes
  count : nodes.length = count
  sound : ∀ node ∈ nodes, SoundNode node
  resolved : ∀ endpoint ∈ nodes, IsEndpoint endpoint → IommuAt start nodes (endpoint.number 16 2)

structure SoundBody (data : Bytes) : Prop where
  reserved : (data.slice 40 8).AllZero
  start : 48 ≤ data.number 38 2
  nodes : ∃ nodes,
    SoundNodes (data.number 38 2) (data.number 36 2) ((seen data).drop (data.number 38 2)) nodes

def NodeType.kind : NodeType → Nat
  | pciRange => 1
  | mmioEndpoint => 2
  | virtioPciIommu => 3
  | virtioMmioIommu => 4

theorem of_kind_iff (kind : Nat) (type : NodeType) :
    NodeType.ofKind? kind = some type ↔ kind = type.kind := by
  constructor
  · intro known
    unfold NodeType.ofKind? at known
    split at known <;> cases known <;> rfl
  · rintro rfl
    cases type <;> rfl

section Node

variable {node : Record}

theorem pci_range_passes_iff (length : node.bytes.length = 24) :
    (auditPciRange node).Passes () ↔
      node.bytes.number 8 2 ≤ node.bytes.number 10 2 ∧
        node.bytes.number 12 2 ≤ node.bytes.number 14 2 ∧ (node.bytes.slice 18 6).AllZero := by
  simp [auditPciRange, Reader.u16, passes_expect (Rule.zero_bytes_decides _), Record.reader,
    Reader.limit, length]

theorem mmio_endpoint_passes_iff (length : node.bytes.length = 24) :
    (auditMmioEndpoint node).Passes () ↔
      node.bytes.number 8 8 ≠ 0 ∧ (node.bytes.slice 18 6).AllZero := by
  simp [auditMmioEndpoint, Reader.u64, passes_expect (Rule.zero_bytes_decides _), Record.reader,
    Reader.limit, length]

theorem virtio_pci_iommu_passes_iff (length : node.bytes.length = 16) :
    (auditVirtioPciIommu node).Passes () ↔ (node.bytes.slice 8 8).AllZero := by
  simp [auditVirtioPciIommu, passes_expect (Rule.zero_bytes_decides _), Record.reader,
    Reader.limit, length]

theorem virtio_mmio_iommu_passes_iff (length : node.bytes.length = 16) :
    (auditVirtioMmioIommu node).Passes () ↔
      node.bytes.number 4 4 = 0 ∧ node.bytes.number 8 8 ≠ 0 := by
  simp [auditVirtioMmioIommu, Reader.u32, Reader.u64, passes_expect (Rule.zero_decides _),
    Record.reader, Reader.limit, length]

theorem known_node_passes_iff {type : NodeType} (known : NodeType.ofKind? node.kind = some type) :
    (auditNode node).Passes () ↔
      node.bytes.number 1 1 = 0 ∧ node.bytes.length = type.length ∧
        (auditContent node type).Passes () := by
  have header : node.bytes.length = type.length → 2 ≤ node.bytes.length := by
    intro length
    rw [length]
    cases type <;> decide
  have read : (auditNode node).Passes () ↔
      2 ≤ node.bytes.length ∧ node.bytes.number 1 1 = 0 ∧ node.bytes.length = type.length ∧
        (auditContent node type).Passes () := by
    simp [auditNode, known, Reader.u8, passes_expect (Rule.zero_decides _),
      passes_require (Rule.equals_decides _ _), Record.reader, Reader.limit, Record.length]
  rw [read]
  constructor
  · intro holds
    obtain ⟨-, sound⟩ := holds
    exact sound
  · intro sound
    exact ⟨header sound.2.1, sound⟩

theorem audit_node_passes_iff (kind : node.kind = node.bytes.number 0 1) :
    (auditNode node).Passes () ↔ SoundNode node.bytes := by
  constructor
  · intro passes
    cases known : NodeType.ofKind? node.kind with
    | none => simp [auditNode, known] at passes
    | some type =>
        obtain ⟨reserved, length, content⟩ := (known_node_passes_iff known).mp passes
        have number := kind.symm.trans ((of_kind_iff _ _).mp known)
        cases type with
        | pciRange =>
            obtain ⟨segments, functions, zeros⟩ := (pci_range_passes_iff length).mp content
            exact .pciRange number reserved length segments functions zeros
        | mmioEndpoint =>
            obtain ⟨base, zeros⟩ := (mmio_endpoint_passes_iff length).mp content
            exact .mmioEndpoint number reserved length base zeros
        | virtioPciIommu =>
            have zeros := (virtio_pci_iommu_passes_iff length).mp content
            exact .virtioPciIommu number reserved length zeros
        | virtioMmioIommu =>
            obtain ⟨zero, base⟩ := (virtio_mmio_iommu_passes_iff length).mp content
            exact .virtioMmioIommu number reserved length zero base
  · intro sound
    have known (type : NodeType) (number : node.bytes.number 0 1 = type.kind) :
        NodeType.ofKind? node.kind = some type := (of_kind_iff _ _).mpr (kind.trans number)
    cases sound with
    | pciRange number reserved length segments functions zeros =>
        rw [known_node_passes_iff (known .pciRange number)]
        exact ⟨reserved, length, (pci_range_passes_iff length).mpr ⟨segments, functions, zeros⟩⟩
    | mmioEndpoint number reserved length base zeros =>
        rw [known_node_passes_iff (known .mmioEndpoint number)]
        exact ⟨reserved, length, (mmio_endpoint_passes_iff length).mpr ⟨base, zeros⟩⟩
    | virtioPciIommu number reserved length zeros =>
        rw [known_node_passes_iff (known .virtioPciIommu number)]
        exact ⟨reserved, length, (virtio_pci_iommu_passes_iff length).mpr zeros⟩
    | virtioMmioIommu number reserved length zero base =>
        rw [known_node_passes_iff (known .virtioMmioIommu number)]
        exact ⟨reserved, length, (virtio_mmio_iommu_passes_iff length).mpr ⟨zero, base⟩⟩

theorem sound_type (kind : node.kind = node.bytes.number 0 1) (sound : SoundNode node.bytes) :
    ∃ type, soundType? node = some type ∧ node.bytes.number 0 1 = type.kind := by
  have typed (type : NodeType) (number : node.bytes.number 0 1 = type.kind)
      (length : node.bytes.length = type.length) :
      ∃ type, soundType? node = some type ∧ node.bytes.number 0 1 = type.kind := by
    have known := (of_kind_iff _ _).mpr (kind.trans number)
    exact ⟨type, by simp [soundType?, known, Record.length, length], number⟩
  cases sound with
  | pciRange number reserved length segments functions zeros => exact typed .pciRange number length
  | mmioEndpoint number reserved length base zeros => exact typed .mmioEndpoint number length
  | virtioPciIommu number reserved length zeros => exact typed .virtioPciIommu number length
  | virtioMmioIommu number reserved length zero base => exact typed .virtioMmioIommu number length

theorem sound_endpoint_iff (kind : node.kind = node.bytes.number 0 1)
    (sound : SoundNode node.bytes) : isSoundEndpoint node = true ↔ IsEndpoint node.bytes := by
  obtain ⟨type, typed, number⟩ := sound_type kind sound
  rw [isSoundEndpoint, typed, IsEndpoint, number]
  cases type <;> simp [NodeType.isIommu, NodeType.kind]

theorem sound_iommu_iff (kind : node.kind = node.bytes.number 0 1)
    (sound : SoundNode node.bytes) : isSoundIommu node = true ↔ IsIommu node.bytes := by
  obtain ⟨type, typed, number⟩ := sound_type kind sound
  rw [isSoundIommu, typed, IsIommu, number]
  cases type <;> simp [NodeType.isIommu, NodeType.kind]

end Node

theorem mem_iommu_offsets_iff {start : Nat} {nodes : List Bytes}
    (sound : ∀ node ∈ nodes, SoundNode node) (offset : Nat) :
    offset ∈ ((lay .kind8Gap8Length16 start 0 nodes).filter isSoundIommu).map Record.offset ↔
      IommuAt start nodes offset := by
  simp only [List.mem_map, List.mem_filter, mem_lay]
  constructor
  · intro holds
    obtain ⟨_, ⟨⟨before, iommu, after, split, rfl⟩, found⟩, rfl⟩ := holds
    have known := sound iommu (by simp [split])
    exact ⟨before, iommu, after, split, (sound_iommu_iff rfl known).mp found, rfl⟩
  · intro holds
    obtain ⟨before, iommu, after, split, found, rfl⟩ := holds
    have known := sound iommu (by simp [split])
    exact ⟨_, ⟨⟨before, iommu, after, split, rfl⟩, (sound_iommu_iff rfl known).mpr found⟩, rfl⟩

theorem output_passes_iff (iommus : List Nat) (extent : Extent) (output : Output) :
    (auditOutput iommus (.ok extent) output).Passes () ↔ output.target ∈ iommus := by
  have resolvable : ¬ isUnseen (.ok extent) output.target = true := by simp [isUnseen]
  simp only [auditOutput]
  rw [if_neg resolvable, passes_fail_if, Decidable.not_not]

-- A walk that went through has seen every node, so an output can only be wrong, never unseen.
theorem outputs_pass_iff {start : Nat} {nodes : List Bytes} (extent : Extent)
    {course : Course} (laid : course.records = lay .kind8Gap8Length16 start 0 nodes)
    (sound : ∀ node ∈ nodes, SoundNode node) :
    (∀ output ∈ (gathered course).outputs,
        (auditOutput (gathered course).iommus (.ok extent) output).Passes ()) ↔
      ∀ endpoint ∈ nodes, IsEndpoint endpoint → IommuAt start nodes (endpoint.number 16 2) := by
  simp only [gathered_eq, laid, List.forall_mem_map, List.mem_filter, and_imp]
  apply forall_lay_iff
  intro endpoint kind member
  rw [sound_endpoint_iff kind (sound _ member), output_passes_iff, mem_iommu_offsets_iff sound,
    output, outputNode]

theorem nodes_pass_iff {start : Nat} {nodes : List Bytes} :
    (∀ node ∈ lay .kind8Gap8Length16 start 0 nodes, (auditNode node).Passes ()) ↔
      ∀ node ∈ nodes, SoundNode node := by
  apply forall_lay_iff
  intro node kind member
  exact audit_node_passes_iff kind

theorem audit_nodes_passes_iff {reader : Reader} (told : reader.limit ≤ greatestOffset)
    (run : NodeRun) :
    (auditNodes reader run).Passes () ↔
      ∃ nodes, SoundNodes run.start run.count (reader.bytes.drop run.start) nodes := by
  simp only [audit_nodes_eq]
  rw [passes_walk _ _ _ _ _ told]
  · refine exists_congr fun nodes => ?_
    constructor
    · intro holds
      obtain ⟨partition, passed, concluded⟩ := holds
      have sound := nodes_pass_iff.mp passed
      have laid := congrArg Course.records (course_of_partition told partition)
      rw [passes_then, passes_for_each, outputs_pass_iff _ laid sound] at concluded
      exact ⟨partition, by simpa [auditEnding] using concluded.1, sound, concluded.2⟩
    · intro holds
      obtain ⟨partition, count, sound, resolved⟩ := holds
      refine ⟨partition, ?_, ?_⟩
      · exact nodes_pass_iff.mpr sound
      · have laid := congrArg Course.records (course_of_partition told partition)
        rw [passes_then, passes_for_each, outputs_pass_iff _ laid sound]
        exact ⟨by simp [auditEnding, count], resolved⟩
  · intro error passes
    exact ((passes_then _ _ _).mp passes).1

theorem body_passes_iff {data : Bytes} (header : Header) (fits : 48 ≤ (seen data).length) :
    (body ⟨header, ⟨seen data, 0⟩⟩).Passes () ↔ SoundBody data := by
  have read : (body ⟨header, ⟨seen data, 0⟩⟩).Passes () ↔
      ((seen data).slice 40 8).AllZero ∧ fixedSize ≤ (seen data).number 38 2 ∧
        (auditNodes ⟨seen data, 0⟩
          ⟨(seen data).number 36 2, (seen data).number 38 2⟩).Passes () := by
    have count : 38 ≤ (seen data).length := by omega
    have start : 40 ≤ (seen data).length := by omega
    simp [body, auditFixedPart, Reader.u16, Reader.limit,
      passes_expect (Rule.zero_bytes_decides _), count, start, fits]
  rw [read, audit_nodes_passes_iff (by exact seen_told data), seen_number (by omega),
    seen_number (by omega), seen_slice (by omega)]
  constructor
  · intro holds
    obtain ⟨reserved, start, nodes⟩ := holds
    exact ⟨reserved, start, nodes⟩
  · intro holds
    obtain ⟨reserved, start, nodes⟩ := holds
    exact ⟨reserved, start, nodes⟩

theorem viot_report_clean_iff {data : Bytes} {address ordinal : Nat} {image : Image}
    (loaded : Image.ofBytes data address ordinal = .ok image) (named : image.signature = .viot) :
    ∃ report, (Registry.report? image).value = some report ∧
      (report.Clean ↔ Intact data 48 ∧ SoundBody data) := by
  have registered : Registry.find? image.signature = some check := by
    rw [named]
    rfl
  refine registered_clean_iff loaded registered (Nat.le_add_right Header.size 12) ?_
  intro header _ fits
  exact body_passes_iff header fits

def endpointFirst : Bytes := [
  0x56, 0x49, 0x4F, 0x54, 88, 0, 0, 0, 0, 190, 0, 0, 0, 0, 0, 0, 0, 0, 0, 0, 0, 0, 0, 0,
  0, 0, 0, 0, 0, 0, 0, 0, 0, 0, 0, 0, 2, 0, 48, 0, 0, 0, 0, 0, 0, 0, 0, 0,
  2, 0, 24, 0, 0, 0, 0, 0, 1, 0, 0, 0, 0, 0, 0, 0, 72, 0, 0, 0, 0, 0, 0, 0,
  3, 0, 16, 0, 0, 0, 0, 0, 0, 0, 0, 0, 0, 0, 0, 0]

-- The IOMMU is found although it stands after its endpoint.
theorem viot_report_clean_iff_endpoint_first :
    ∃ image, Image.ofBytes endpointFirst 0 0 = .ok image ∧ image.signature = .viot ∧
      ∃ report, (Registry.report? image).value = some report ∧ report.Clean := by
  have loaded : Image.ofBytes endpointFirst 0 0 = .ok ⟨.viot, 88, 0, endpointFirst, 0, 0⟩ := rfl
  have endpoint : SoundNode (endpointFirst.slice 48 24) :=
    .mmioEndpoint (by decide) (by decide) (by decide) (by decide) (by decide)
  have iommu : SoundNode (endpointFirst.slice 72 16) :=
    .virtioPciIommu (by decide) (by decide) (by decide) (by decide)
  have found : IommuAt 48 [endpointFirst.slice 48 24, endpointFirst.slice 72 16] 72 :=
    ⟨[endpointFirst.slice 48 24], _, [], rfl, .inl (by decide), by decide⟩
  have partition : Partition .kind8Gap8Length16 ((seen endpointFirst).drop 48)
      [endpointFirst.slice 48 24, endpointFirst.slice 72 16] := ⟨by decide, by decide⟩
  have nodes : SoundNodes 48 2 ((seen endpointFirst).drop 48)
      [endpointFirst.slice 48 24, endpointFirst.slice 72 16] := by
    refine ⟨partition, rfl, by simp [endpoint, iommu], ?_⟩
    intro node member kind
    simp only [List.mem_cons, List.not_mem_nil, or_false] at member
    rcases member with rfl | rfl
    · exact found
    · exact absurd kind (by decide)
  have body : SoundBody endpointFirst := ⟨by decide, by decide, _, nodes⟩
  obtain ⟨report, reported, clean⟩ := viot_report_clean_iff loaded rfl
  exact ⟨_, loaded, rfl, report, reported, clean.mpr ⟨⟨by decide, .inr (by decide)⟩, body⟩⟩

end AcpiAudit.Viot

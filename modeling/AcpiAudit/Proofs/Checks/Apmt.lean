import AcpiAudit.Proofs.Audit.Acceptance
import AcpiAudit.Proofs.Audit.Walking
import AcpiAudit.Proofs.Record.Grid

set_option autoImplicit false

namespace AcpiAudit.Apmt

open Audit

structure SoundNode (node : Bytes) : Prop where
  length : node.number 0 2 = 56
  type : node.number 3 1 ≤ 4
  flags : ClearBits (node.number 2 1) 3 7
  firstBase : node.number 20 8 ≠ 0
  secondBase : (node.number 2 1).testBit 0 = true → node.number 28 8 ≠ 0
  reserved : node.number 40 4 = 0
  interrupt : ClearBits (node.number 44 4) 1 31

structure SoundBody (data : Bytes) : Prop where
  whole : 56 ∣ (seen data).length - 36
  nodes : ∀ position, 36 + 56 * position < (seen data).length →
    SoundNode (data.slice (36 + 56 * position) 56)

section Node

variable {node : Record}

theorem bases_pass_iff (flags : NodeFlags) (length : node.bytes.length = 56) :
    (auditBases node flags).Passes () ↔
      node.bytes.number 20 8 ≠ 0 ∧ (flags.dualPage = true → node.bytes.number 28 8 ≠ 0) := by
  cases paged : flags.dualPage <;>
    simp [auditBases, paged, Reader.u64, Record.reader, Reader.limit, length]

theorem node_passes_iff (kind : node.kind = node.bytes.number 3 1)
    (measured : node.bytes.number 0 2 = node.bytes.length) :
    (auditNode node).Passes () ↔ node.bytes.length = 56 ∧ SoundNode node.bytes := by
  by_cases length : node.bytes.length = 56
  · have read : (auditNode node).Passes () ↔
        node.bytes.number 3 1 ≤ 4 ∧ ClearBits (node.bytes.number 2 1) 3 7 ∧
          (node.bytes.number 20 8 ≠ 0 ∧
            ((node.bytes.number 2 1).testBit 0 = true → node.bytes.number 28 8 ≠ 0)) ∧
          node.bytes.number 40 4 = 0 ∧ ClearBits (node.bytes.number 44 4) 1 31 := by
      simp [auditNode, nodeSize, greatestNodeType, passes_require (Rule.equals_decides _ _),
        passes_expect (Rule.within_decides _ _ _), passes_expect (Rule.zero_decides _),
        passes_expect (Rule.clear_bits_decides _ _ _), bases_pass_iff _ length, NodeFlags.ofBits,
        field_shifted_zero_iff, Reader.u8, Reader.u32, Record.reader, Reader.limit, Record.length,
        length, kind]
    rw [read]
    constructor
    · rintro ⟨type, flags, ⟨firstBase, secondBase⟩, reserved, interrupt⟩
      exact ⟨length, measured.trans length, type, flags, firstBase, secondBase, reserved, interrupt⟩
    · rintro ⟨-, sound⟩
      exact ⟨sound.type, sound.flags, ⟨sound.firstBase, sound.secondBase⟩, sound.reserved,
        sound.interrupt⟩
  · simp [auditNode, nodeSize, passes_require (Rule.equals_decides _ _), Record.length, length]

end Node

theorem nodes_pass_iff {bytes : Bytes} {start : Nat} {nodes : List Bytes}
    (partition : Partition .length16Gap8Kind8 bytes nodes) :
    (∀ node ∈ lay .length16Gap8Kind8 start 0 nodes, (auditNode node).Passes ()) ↔
      ∀ node ∈ nodes, node.length = 56 ∧ SoundNode node := by
  apply forall_lay_iff
  intro node kind member
  exact node_passes_iff kind (partition.measured _ member).2

theorem body_passes_iff {data : Bytes} (header : Header) :
    (body ⟨header, ⟨seen data, 0⟩⟩).Passes () ↔ SoundBody data := by
  have read : (body ⟨header, ⟨seen data, 0⟩⟩).Passes () ↔
      ∃ nodes, Partition .length16Gap8Kind8 ((seen data).drop 36) nodes ∧
        ∀ node ∈ nodes, node.length = 56 ∧ SoundNode node := by
    rw [body, passes_walk _ _ _ _ _ (by exact seen_told data)]
    · simp only [passes_write, and_true]
      exact exists_congr fun nodes => and_congr_right fun partition => nodes_pass_iff partition
    · intro error passes
      exact passes
  have measured (node : Bytes) (sound : SoundNode node) :
      Layout.length16Gap8Kind8.length.value node = 56 := sound.length
  rw [read, partition_grid_iff (by decide) measured, List.length_drop]
  have grid (position : Nat) (whole : 56 ∣ (seen data).length - 36)
      (inside : 36 + 56 * position < (seen data).length) :
      Bytes.slice ((seen data).drop 36) (56 * position) 56 =
        data.slice (36 + 56 * position) 56 := by
    rw [Bytes.slice_drop, seen_slice (by omega)]
  constructor
  · rintro ⟨whole, nodes⟩
    refine ⟨whole, ?_⟩
    intro position inside
    rw [← grid position whole inside]
    exact nodes position (by omega)
  · intro sound
    refine ⟨sound.whole, ?_⟩
    intro position inside
    have within : 36 + 56 * position < (seen data).length := by omega
    rw [grid position sound.whole within]
    exact sound.nodes position within

theorem apmt_report_clean_iff {data : Bytes} {address ordinal : Nat} {image : Image}
    (loaded : Image.ofBytes data address ordinal = .ok image) (named : image.signature = .apmt) :
    ∃ report, (Registry.report? image).value = some report ∧
      (report.Clean ↔ Intact data 36 ∧ SoundBody data) := by
  have registered : Registry.find? image.signature = some check := by
    rw [named]
    rfl
  refine registered_clean_iff loaded registered (Nat.le_refl Header.size) ?_
  intro header _ _
  exact body_passes_iff header

-- A node with one page and a node with two.
def oneAndTwoPages : Bytes :=
  [0x41, 0x50, 0x4D, 0x54, 148, 0, 0, 0, 1, 190] ++ List.replicate 26 0 ++
    [56, 0, 0, 0] ++ List.replicate 16 0 ++ [0, 0, 0, 1] ++ List.replicate 32 0 ++
    [56, 0, 1, 4] ++ List.replicate 16 0 ++ [0, 0, 0, 2] ++ List.replicate 4 0 ++ [0, 0, 0, 3] ++
      List.replicate 24 0

-- Long enough that evaluating it needs more depth than the default.
set_option maxRecDepth 2000 in
theorem apmt_report_clean_iff_one_and_two_pages :
    ∃ image, Image.ofBytes oneAndTwoPages 0 0 = .ok image ∧ image.signature = .apmt ∧
      ∃ report, (Registry.report? image).value = some report ∧ report.Clean := by
  have loaded : Image.ofBytes oneAndTwoPages 0 0 =
      .ok ⟨.apmt, 148, 1, oneAndTwoPages, 0, 0⟩ := rfl
  have onePage : SoundNode (oneAndTwoPages.slice 36 56) :=
    ⟨by decide, by decide, by decide, by decide, by decide, by decide, by decide⟩
  have twoPages : SoundNode (oneAndTwoPages.slice 92 56) :=
    ⟨by decide, by decide, by decide, by decide, by decide, by decide, by decide⟩
  have body : SoundBody oneAndTwoPages := by
    refine ⟨by decide, ?_⟩
    intro position inside
    have size : (seen oneAndTwoPages).length = 148 := by decide
    have place : position = 0 ∨ position = 1 := by omega
    rcases place with rfl | rfl
    · exact onePage
    · exact twoPages
  obtain ⟨report, reported, clean⟩ := apmt_report_clean_iff loaded rfl
  exact ⟨_, loaded, rfl, report, reported, clean.mpr ⟨⟨by decide, .inr (by decide)⟩, body⟩⟩

end AcpiAudit.Apmt

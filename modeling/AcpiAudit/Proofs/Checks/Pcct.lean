import AcpiAudit.Proofs.Audit.Acceptance
import AcpiAudit.Proofs.Audit.Walking

set_option autoImplicit false

namespace AcpiAudit.Pcct

open Audit

structure SoundRegister (subspace : Bytes) (offset : Nat) : Prop where
  space : subspace.number offset 1 = 0 ∨ subspace.number offset 1 = 1
  access : subspace.number (offset + 3) 1 ≤ 4

structure SoundInterrupt (subspace : Bytes) : Prop where
  flags : ClearBits (subspace.number 6 1) 2 7
  reserved : subspace.number 7 1 = 0

inductive SoundSubspace (subspace : Bytes) : Prop where
  | generic (kind : subspace.number 0 1 = 0) (length : subspace.length = 62)
      (zeros : (subspace.slice 2 6).AllZero) (doorbell : SoundRegister subspace 24)
  | reduced (kind : subspace.number 0 1 = 1) (length : subspace.length = 62)
      (interrupt : SoundInterrupt subspace) (doorbell : SoundRegister subspace 24)
  | acknowledged (kind : subspace.number 0 1 = 2) (length : subspace.length = 90)
      (interrupt : SoundInterrupt subspace) (doorbell : SoundRegister subspace 24)
      (acknowledge : SoundRegister subspace 62)
  | extended (kind : subspace.number 0 1 = 3 ∨ subspace.number 0 1 = 4)
      (length : subspace.length = 164) (interrupt : SoundInterrupt subspace)
  | registers (kind : subspace.number 0 1 = 5) (length : subspace.length = 96)

structure SoundSubspaces (rest : Bytes) (subspaces : List Bytes) : Prop where
  partition : Partition .kind8Length8 rest subspaces
  count : subspaces.length ≤ 256
  sound : ∀ subspace ∈ subspaces, SoundSubspace subspace

structure SoundBody (data : Bytes) : Prop where
  flags : ClearBits (data.number 36 4) 1 31
  reserved : data.number 40 8 = 0
  subspaces : ∃ subspaces, SoundSubspaces ((seen data).drop 48) subspaces

theorem passes_register (reader : Reader) (offset : Nat) (next : Register → Audit Unit) :
    ((liftM (reader.register offset) : Audit Register) >>= next).Passes () ↔
      offset + 12 ≤ reader.limit ∧ (next (Reader.registerOf reader.bytes offset)).Passes () := by
  simp only [passes_bind, passes_lift, Reader.register_ok_iff, and_assoc, exists_and_left,
    exists_eq_left']

theorem register_passes_iff (bytes : Bytes) (offset : Nat) (name : String) :
    (auditRegister (Reader.registerOf bytes offset) name).Passes () ↔
      SoundRegister bytes offset := by
  have spaces : doorbellSpaces = [0, 1] := rfl
  rw [auditRegister, passes_then, passes_expect (Rule.address_space_decides _ _),
    Register.accessSizeRule, passes_expect (Rule.within_decides _ _ _), spaces]
  constructor
  · rintro ⟨space, -, access⟩
    exact ⟨by simpa [Reader.registerOf] using space, access⟩
  · intro sound
    exact ⟨by simpa [Reader.registerOf] using sound.space, Nat.zero_le _, sound.access⟩

section Subspace

variable {subspace : Record}

theorem start_of_generic_passes_iff (kind : subspace.kind = 0)
    (length : 62 ≤ subspace.bytes.length) :
    (auditStart subspace).Passes () ↔ (subspace.bytes.slice 2 6).AllZero := by
  have room : 8 ≤ subspace.bytes.length := by omega
  simp [auditStart, kind, passes_expect (Rule.zero_bytes_decides _), Record.reader, Reader.limit,
    room]

theorem start_of_interrupt_passes_iff (least : 1 ≤ subspace.kind) (greatest : subspace.kind ≤ 4)
    (length : 62 ≤ subspace.bytes.length) :
    (auditStart subspace).Passes () ↔ SoundInterrupt subspace.bytes := by
  have specific : ¬ subspace.kind = 0 := by omega
  have flags : 7 ≤ subspace.bytes.length := by omega
  have reserved : 8 ≤ subspace.bytes.length := by omega
  have read : (auditStart subspace).Passes () ↔
      ClearBits (subspace.bytes.number 6 1) 2 7 ∧ subspace.bytes.number 7 1 = 0 := by
    simp [auditStart, specific, greatest, InterruptFlags.ofBits, field_shifted_zero_iff,
      Reader.u8, passes_expect (Rule.zero_decides _), Record.reader, Reader.limit, flags, reserved]
  rw [read]
  constructor
  · rintro ⟨clear, zero⟩
    exact ⟨clear, zero⟩
  · intro sound
    exact ⟨sound.flags, sound.reserved⟩

theorem doorbell_passes_iff (length : 62 ≤ subspace.bytes.length) :
    (auditDoorbell subspace).Passes () ↔
      (subspace.kind ≤ 2 → SoundRegister subspace.bytes 24) := by
  have room : 24 + 12 ≤ subspace.reader.limit := by
    simp only [Record.reader, Reader.limit]
    omega
  by_cases low : subspace.kind ≤ 2
  · rw [auditDoorbell, if_pos low, passes_register, register_passes_iff, and_iff_right room]
    exact ⟨fun sound _ => sound, fun sound => sound low⟩
  · simp [auditDoorbell, low]

theorem acknowledge_passes_iff (length : subspace.kind = 2 → subspace.bytes.length = 90) :
    (auditAcknowledge subspace).Passes () ↔
      (subspace.kind = 2 → SoundRegister subspace.bytes 62) := by
  by_cases second : subspace.kind = 2
  · have room : 62 + 12 ≤ subspace.reader.limit := by
      simp only [Record.reader, Reader.limit]
      have long := length second
      omega
    rw [auditAcknowledge, if_pos second, passes_register, register_passes_iff, and_iff_right room]
    exact ⟨fun sound _ => sound, fun sound => sound second⟩
  · simp [auditAcknowledge, second]

theorem known_subspace_passes_iff {expected : Nat}
    (known : subspaceLength? subspace.kind = some expected) :
    (auditSubspace subspace).Passes () ↔
      subspace.bytes.length = expected ∧ (auditStart subspace).Passes () ∧
        (auditDoorbell subspace).Passes () ∧ (auditAcknowledge subspace).Passes () := by
  simp [auditSubspace, known, passes_require (Rule.equals_decides _ _), Record.length]

theorem known_kind {expected : Nat} (kind : Nat) (known : subspaceLength? kind = some expected) :
    (kind = 0 ∧ expected = 62) ∨ (kind = 1 ∧ expected = 62) ∨ (kind = 2 ∧ expected = 90) ∨
      ((kind = 3 ∨ kind = 4) ∧ expected = 164) ∨ (kind = 5 ∧ expected = 96) := by
  unfold subspaceLength? at known
  split at known <;> simp at known <;> omega

theorem audit_subspace_passes_iff (kind : subspace.kind = subspace.bytes.number 0 1) :
    (auditSubspace subspace).Passes () ↔ SoundSubspace subspace.bytes := by
  constructor
  · intro passes
    cases known : subspaceLength? subspace.kind with
    | none => simp [auditSubspace, known] at passes
    | some expected =>
        obtain ⟨length, start, doorbell, acknowledge⟩ :=
          (known_subspace_passes_iff known).mp passes
        have kinds := known_kind _ known
        have least : 62 ≤ subspace.bytes.length := by omega
        have bell := (doorbell_passes_iff least).mp doorbell
        have reply := (acknowledge_passes_iff (by omega)).mp acknowledge
        rcases kinds with ⟨found, size⟩ | ⟨found, size⟩ | ⟨found, size⟩ | ⟨found, size⟩ |
          ⟨found, size⟩
        · have zeros := (start_of_generic_passes_iff found least).mp start
          exact .generic (kind.symm.trans found) (length.trans size) zeros (bell (by omega))
        · have interrupt := (start_of_interrupt_passes_iff (by omega) (by omega) least).mp start
          exact .reduced (kind.symm.trans found) (length.trans size) interrupt (bell (by omega))
        · have interrupt := (start_of_interrupt_passes_iff (by omega) (by omega) least).mp start
          exact .acknowledged (kind.symm.trans found) (length.trans size) interrupt
            (bell (by omega)) (reply found)
        · have interrupt := (start_of_interrupt_passes_iff (by omega) (by omega) least).mp start
          exact .extended (kind ▸ found) (length.trans size) interrupt
        · exact .registers (kind.symm.trans found) (length.trans size)
  · intro sound
    have passes (number expected : Nat) (same : subspace.bytes.number 0 1 = number)
        (size : subspaceLength? number = some expected)
        (length : subspace.bytes.length = expected) (start : (auditStart subspace).Passes ())
        (bell : number ≤ 2 → SoundRegister subspace.bytes 24)
        (reply : number = 2 → SoundRegister subspace.bytes 62) :
        (auditSubspace subspace).Passes () := by
      have found := kind.trans same
      have known : subspaceLength? subspace.kind = some expected := found ▸ size
      have kinds := known_kind _ known
      refine (known_subspace_passes_iff known).mpr ⟨length, start, ?_, ?_⟩
      · exact (doorbell_passes_iff (by omega)).mpr (found ▸ bell)
      · exact (acknowledge_passes_iff (by omega)).mpr (found ▸ reply)
    cases sound with
    | generic number length zeros doorbell =>
        have start := (start_of_generic_passes_iff (kind.trans number) (by omega)).mpr zeros
        exact passes 0 62 number rfl length start (fun _ => doorbell) (by omega)
    | reduced number length interrupt doorbell =>
        have start := (start_of_interrupt_passes_iff (by omega) (by omega) (by omega)).mpr interrupt
        exact passes 1 62 number rfl length start (fun _ => doorbell) (by omega)
    | acknowledged number length interrupt doorbell acknowledge =>
        have start := (start_of_interrupt_passes_iff (by omega) (by omega) (by omega)).mpr interrupt
        exact passes 2 90 number rfl length start (fun _ => doorbell) (fun _ => acknowledge)
    | extended number length interrupt =>
        have start := (start_of_interrupt_passes_iff (by omega) (by omega) (by omega)).mpr interrupt
        rcases number with number | number
        · exact passes 3 164 number rfl length start (by omega) (by omega)
        · exact passes 4 164 number rfl length start (by omega) (by omega)
    | registers number length =>
        have start : (auditStart subspace).Passes () := by
          simp [auditStart, kind.trans number]
        exact passes 5 96 number rfl length start (by omega) (by omega)

end Subspace

theorem subspaces_pass_iff {start : Nat} {subspaces : List Bytes} :
    (∀ subspace ∈ lay .kind8Length8 start 0 subspaces, (auditSubspace subspace).Passes ()) ↔
      ∀ subspace ∈ subspaces, SoundSubspace subspace := by
  apply forall_lay_iff
  intro subspace kind member
  exact audit_subspace_passes_iff kind

theorem fixed_part_passes_iff {data : Bytes} (fits : 48 ≤ (seen data).length) :
    (auditFixedPart ⟨seen data, 0⟩).Passes () ↔
      ClearBits (data.number 36 4) 1 31 ∧ data.number 40 8 = 0 := by
  have room : 40 ≤ (seen data).length := by omega
  have flags : (seen data).number 36 4 = data.number 36 4 := seen_number (by omega)
  have reserved : (seen data).number 40 8 = data.number 40 8 := seen_number (by omega)
  rw [← flags, ← reserved]
  simp [auditFixedPart, ChannelFlags.ofBits, field_shifted_zero_iff, Reader.u32, Reader.u64,
    passes_expect (Rule.zero_decides _), Reader.limit, fits, room]

theorem body_passes_iff {data : Bytes} (header : Header) (fits : 48 ≤ (seen data).length) :
    (body ⟨header, ⟨seen data, 0⟩⟩).Passes () ↔ SoundBody data := by
  rw [body, passes_then, passes_contain, fixed_part_passes_iff fits,
    passes_walk _ _ _ _ _ (by exact seen_told data)]
  · have limit : greatestSubspaceCount = 256 := rfl
    simp only [subspaces_pass_iff, passes_then, passes_write, true_and, passes_fail_if, limit,
      Nat.not_lt]
    constructor
    · rintro ⟨⟨flags, reserved⟩, subspaces, partition, sound, count⟩
      exact ⟨flags, reserved, subspaces, partition, count, sound⟩
    · rintro ⟨flags, reserved, subspaces, partition, count, sound⟩
      exact ⟨⟨flags, reserved⟩, subspaces, partition, sound, count⟩
  · intro error passes
    exact passes

theorem pcct_report_clean_iff {data : Bytes} {address ordinal : Nat} {image : Image}
    (loaded : Image.ofBytes data address ordinal = .ok image) (named : image.signature = .pcct) :
    ∃ report, (Registry.report? image).value = some report ∧
      (report.Clean ↔ Intact data 48 ∧ SoundBody data) := by
  have registered : Registry.find? image.signature = some check := by
    rw [named]
    rfl
  refine registered_clean_iff loaded registered (Nat.le_add_right Header.size 12) ?_
  intro header _ fits
  exact body_passes_iff header fits

def twoDoorbells : Bytes :=
  [0x50, 0x43, 0x43, 0x54, 200, 0, 0, 0, 2, 55] ++ List.replicate 26 0 ++
    [1] ++ List.replicate 11 0 ++
    [0, 62] ++ List.replicate 22 0 ++ [1, 8, 0, 1] ++ List.replicate 34 0 ++
    [2, 90, 0, 0, 0, 0, 3, 0] ++ List.replicate 16 0 ++ [0, 32, 0, 3] ++ List.replicate 34 0 ++
      [1, 8, 0, 1] ++ List.replicate 24 0

-- Long enough that evaluating it needs more depth than the default.
set_option maxRecDepth 2000 in
theorem pcct_report_clean_iff_two_doorbells :
    ∃ image, Image.ofBytes twoDoorbells 0 0 = .ok image ∧ image.signature = .pcct ∧
      ∃ report, (Registry.report? image).value = some report ∧ report.Clean := by
  have loaded : Image.ofBytes twoDoorbells 0 0 = .ok ⟨.pcct, 200, 2, twoDoorbells, 0, 0⟩ := rfl
  have generic : SoundSubspace (twoDoorbells.slice 48 62) :=
    .generic (by decide) (by decide) (by decide) ⟨by decide, by decide⟩
  have acknowledged : SoundSubspace (twoDoorbells.slice 110 90) :=
    .acknowledged (by decide) (by decide) ⟨by decide, by decide⟩ ⟨by decide, by decide⟩
      ⟨by decide, by decide⟩
  have partition : Partition .kind8Length8 ((seen twoDoorbells).drop 48)
      [twoDoorbells.slice 48 62, twoDoorbells.slice 110 90] := ⟨rfl, by decide⟩
  have subspaces : SoundSubspaces ((seen twoDoorbells).drop 48)
      [twoDoorbells.slice 48 62, twoDoorbells.slice 110 90] := by
    refine ⟨partition, by decide, ?_⟩
    simp [generic, acknowledged]
  have body : SoundBody twoDoorbells := ⟨by decide, by decide, _, subspaces⟩
  obtain ⟨report, reported, clean⟩ := pcct_report_clean_iff loaded rfl
  exact ⟨_, loaded, rfl, report, reported, clean.mpr ⟨⟨by decide, .inr (by decide)⟩, body⟩⟩

end AcpiAudit.Pcct

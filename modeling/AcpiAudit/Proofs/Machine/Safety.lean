import AcpiAudit.Checks.Registry
import AcpiAudit.Proofs.Machine.Gtdt
import AcpiAudit.Proofs.Machine.Ibft
import AcpiAudit.Proofs.Machine.Nfit
import AcpiAudit.Proofs.Machine.Nodes
import AcpiAudit.Proofs.Machine.Viot

set_option autoImplicit false

namespace AcpiAudit

def Image.load (data : Bytes) (small : data.length < 2 ^ 63) (address ordinal : Nat) :
    Run Image := do
  let cursor := Cursor.ofBytes data small
  return {
    signature := ← cursor.signature 0
    length := ← cursor.u32 4
    revision := ← cursor.u8 8
    data, address, ordinal }

-- A check as a machine runs it, with a report that is handed from step to step.
structure Program where
  check : Check
  label : String
  steps : Image → Cursor → Recorder Unit Unit

namespace Program

def apply (program : Program) (image : Image) (cursor : Cursor) (report : Report) :
    Checked (Logged Report) := (program.steps image cursor).apply program.label report

def run (program : Program) (data : Bytes) (small : data.length < 2 ^ 63)
    (address ordinal : Nat) (report : Report) : Checked (Except ReadError (Logged Report)) :=
  match Image.load data small address ordinal with
  | .panicked panic => .error panic
  | .finished loading =>
    match loading.result with
    | .error error => .ok (.error error)
    | .ok image => (program.apply image (.upTo image.length data small) report).map .ok

end Program

def Registry.programs : List Program :=
  [⟨Apmt.check, "APMT", Apmt.run⟩, ⟨Gtdt.check, "GTDT", Gtdt.run⟩, ⟨Ibft.check, "iBFT", Ibft.run⟩,
    ⟨Nfit.check, "NFIT", Nfit.run⟩, ⟨Pcct.check, "PCCT", Pcct.run⟩, ⟨Viot.check, "VIOT", Viot.run⟩]

theorem load_finishes (data : Bytes) (small : data.length < 2 ^ 63) (address ordinal : Nat) :
    Image.load data small address ordinal =
      .finished (liftM (Image.ofBytes data address ordinal)) := by
  simp [Image.load, Image.ofBytes, Cursor.of_bytes_reader]

section Registered

variable {program : Program}

theorem program_label (registered : program ∈ Registry.programs) :
    program.label = program.check.label := by
  have named : ∀ program ∈ Registry.programs, program.label = program.check.label := by
    simp only [Registry.programs, List.forall_mem_cons]
    decide
  exact named program registered

theorem steps_conclude (registered : program ∈ Registry.programs) {image : Image} {cursor : Cursor}
    (same : cursor.reader = image.reader) :
    program.steps image cursor program.check.label =
      Recorder.concluding (program.check.audit image) program.check.label := by
  simp only [Registry.programs, List.mem_cons, List.not_mem_nil, or_false] at registered
  rcases registered with rfl | rfl | rfl | rfl | rfl | rfl
  · exact Apmt.run_concludes same
  · exact Gtdt.run_concludes same
  · exact Ibft.run_concludes same
  · exact Nfit.run_concludes same
  · exact Pcct.run_concludes same
  · exact Viot.run_concludes same

theorem apply_finishes (registered : program ∈ Registry.programs) {image : Image} {cursor : Cursor}
    (same : cursor.reader = image.reader) (report : Report) :
    program.apply image cursor report = .ok (program.check.apply image report) := by
  rw [Program.apply, Recorder.apply, program_label registered, steps_conclude registered same]
  rfl

theorem run_finishes (registered : program ∈ Registry.programs)
    (data : Bytes) (small : data.length < 2 ^ 63) (address ordinal : Nat) (report : Report) :
    program.run data small address ordinal report =
      .ok ((Image.ofBytes data address ordinal).map fun image =>
        program.check.apply image report) := by
  rw [Program.run, load_finishes]
  cases loaded : Image.ofBytes data address ordinal with
  | error error => rfl
  | ok image =>
      have same : (Cursor.upTo image.length data small).reader = image.reader := by
        rw [Cursor.up_to_reader, Image.reader, (loaded_of_bytes loaded).bytes]
      simp only [Audit.lift_pure, pure, apply_finishes registered same]
      rfl

theorem run_of_loaded (registered : program ∈ Registry.programs) {data : Bytes}
    {address ordinal : Nat} {image : Image}
    (loaded : Image.ofBytes data address ordinal = .ok image) (small : data.length < 2 ^ 63)
    (report : Report) :
    program.run data small address ordinal report =
      .ok (.ok (program.check.apply image report)) := by
  rw [run_finishes registered, loaded]
  rfl

end Registered

theorem checks_never_panic {data : Bytes} {address ordinal : Nat} {image : Image}
    (small : data.length < 2 ^ 63) (loaded : Image.ofBytes data address ordinal = .ok image) :
    Registry.programs.map Program.check = Registry.checks ∧
      ∀ program ∈ Registry.programs, ∀ report,
        program.run data small address ordinal report =
          .ok (.ok (program.check.apply image report)) :=
  ⟨rfl, fun _ registered => run_of_loaded registered loaded small⟩

-- A block of eight entries at the greatest offset that its field can hold.
def distantEntries : Bytes :=
  [0x47, 0x54, 0x44, 0x54, 116, 0, 0, 0, 2, 0] ++ List.replicate 78 0 ++
    [1, 0, 0, 0, 96, 0, 0, 0] ++ [0, 20, 0, 0] ++ List.replicate 8 0 ++
    [8, 0, 0, 0, 0xFF, 0xFF, 0xFF, 0xFF]

theorem checks_never_panic_distant_entries :
    let image : Image := ⟨.gtdt, 116, 2, distantEntries, 0, 0⟩
    let program : Program := ⟨Gtdt.check, "GTDT", Gtdt.run⟩
    ∃ small : distantEntries.length < 2 ^ 63,
      Image.ofBytes distantEntries 0 0 = .ok image ∧ program ∈ Registry.programs ∧
        program.run distantEntries small 0 0 .empty =
          .ok (.ok (Gtdt.check.apply image .empty)) := by
  intro image program
  have small : distantEntries.length < 2 ^ 63 := by decide
  have loaded : Image.ofBytes distantEntries 0 0 = .ok image := rfl
  have registered : program ∈ Registry.programs := by simp [Registry.programs, program]
  obtain ⟨-, finishes⟩ := checks_never_panic small loaded
  exact ⟨small, loaded, registered, finishes program registered .empty⟩

end AcpiAudit

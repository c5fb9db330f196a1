import AcpiAudit.Proofs.Audit.Trailing
import AcpiAudit.Proofs.Checks.Outputs
import AcpiAudit.Proofs.Record.Extension

set_option autoImplicit false

namespace AcpiAudit.Viot

open Audit

structure Cuts (data : Bytes) (count : Nat) : Prop where
  declared : data.number 4 4 = data.length
  within : count ≤ data.length
  enough : 48 ≤ count

structure NamesBeyond (load : Bytes) (endpoint : Record) : Prop where
  walked : Walked load
  through : ∃ extent, (course load).outcome = .ok extent
  member : endpoint ∈ (course load).records
  kind : IsEndpointNode endpoint
  beyond : load.length ≤ outputNode endpoint

section Courses

variable {short long : Course} {stop : Nat} {node : Record}

theorem unresolved_further
    (further : ∀ record ∈ long.records, record.offset < stop → record ∈ short.records)
    (later : ∀ error, long.outcome = .error error → stop ≤ error.offset)
    (unresolved : Unresolved short node) (before : outputNode node < stop) :
    Unresolved long node := by
  refine ⟨unresolved.endpoint, ?_, ?_⟩
  · intro iommu member sort same
    have met : iommu ∈ short.records := further iommu member (same ▸ before)
    exact unresolved.missing iommu met sort same
  · intro error failed
    exact Nat.lt_of_lt_of_le before (later error failed)

-- A walk that broke off judges no output from that place on. One that came to the end of what was
-- loaded judges them all.
theorem unresolved_before {layout : Layout} {data : Bytes} {limit start first : Nat}
    (follows : short.Follows layout data limit start first) (unresolved : Unresolved short node) :
    outputNode node < start + span short.records ∨
      limit ≤ outputNode node ∧ ∃ extent, short.outcome = .ok extent := by
  cases ended : short.outcome with
  | error error =>
      have failed := (course_outcome_error_iff short error).mp ended
      have place := fault_offset (follows.failed error failed).2
      exact .inl (place ▸ unresolved.seen error ended)
  | ok extent =>
      have reached := ((course_outcome_ok_iff short extent).mp ended).1
      have whole := (follows.reached _ reached).1
      by_cases beyond : limit ≤ outputNode node
      · exact .inr ⟨beyond, extent, rfl⟩
      · exact .inl (by omega)

end Courses

section Load

variable {data : Bytes} {count : Nat}

theorem cut_number_take (cuts : Cuts data count) {offset width : Nat}
    (inside : offset + width ≤ 48) :
    Bytes.number (data.take count) offset width = data.number offset width :=
  Bytes.number_take (Nat.le_trans inside cuts.enough)

theorem cut_start (cuts : Cuts data count) :
    Bytes.number (data.take count) 38 2 = data.number 38 2 := cut_number_take cuts (by decide)

theorem cut_length (cuts : Cuts data count) : (data.take count).length = count := by
  rw [List.length_take, Nat.min_eq_left cuts.within]

theorem seen_whole (cuts : Cuts data count) : seen data = data := by
  rw [seen, cuts.declared, List.take_length]

theorem seen_cut (cuts : Cuts data count) : seen (data.take count) = data.take count := by
  rw [seen, cut_number_take cuts (by decide), cuts.declared, List.take_take,
    Nat.min_eq_right cuts.within]

theorem walked_whole (cuts : Cuts data count) (walked : Walked (data.take count)) :
    Walked data := by
  have within := cuts.within
  have enough := cuts.enough
  refine ⟨?_, cut_start cuts ▸ walked.start⟩
  rw [seen_whole cuts]
  omega

theorem cut_follows (cuts : Cuts data count) :
    (course (data.take count)).Follows .kind8Gap8Length16 (data.take count) count
      (data.number 38 2) 0 := by
  have follows := course_follows_nodes (data.take count)
  rwa [seen_cut cuts, cut_length cuts, cut_start cuts] at follows

theorem course_whole (cuts : Cuts data count) :
    let stop := data.number 38 2 + span (course (data.take count)).records
    (course (data.take count)).records ⊆ (course data).records ∧
      (∀ record ∈ (course data).records, record.offset < stop →
        record ∈ (course (data.take count)).records) ∧
      ∀ error, (course data).outcome = .error error → stop ≤ error.offset := by
  have told : Reader.limit ⟨seen data, 0⟩ ≤ greatestOffset := seen_told data
  have beginning : Reader.bytes ⟨seen (data.take count), 0⟩ <+: Reader.bytes ⟨seen data, 0⟩ := by
    rw [seen_cut cuts, seen_whole cuts]
    exact List.take_prefix count data
  have short : course (data.take count) = Reader.course ⟨seen (data.take count), 0⟩
      .kind8Gap8Length16 .declared (data.number 38 2) := by rw [course, cut_start cuts]
  rw [short]
  exact course_further beginning told .kind8Gap8Length16 (data.number 38 2)

theorem beyond_unresolved (cuts : Cuts data count) {endpoint : Record}
    (beyond : NamesBeyond (data.take count) endpoint) :
    Unresolved (course (data.take count)) endpoint := by
  obtain ⟨-, through, -, kind, behind⟩ := beyond
  obtain ⟨extent, ended⟩ := through
  refine ⟨kind, ?_, ?_⟩
  · intro iommu member _ same
    have cut := (cut_follows cuts).tiling.cut iommu member
    have header : 4 ≤ iommu.length := cut.header
    have inside := cut.inside
    rw [cut_length cuts] at behind
    omega
  · intro error failed
    rw [ended] at failed
    cases failed

end Load

theorem bad_outputs_of_cut {data : Bytes} {address ordinal count : Nat} {image : Image}
    (loaded : Image.ofBytes data address ordinal = .ok image) (named : image.signature = .viot)
    (cuts : Cuts data count) :
    ∃ part whole report, Image.ofBytes (data.take count) address ordinal = .ok part ∧
      (Registry.report? image).value = some whole ∧
      (Registry.report? part).value = some report ∧
      (∀ outcome ∈ report.failuresWith "VIOTBadOutputNode",
        outcome ∈ whole.failuresWith "VIOTBadOutputNode" ∨
          ∃ endpoint, NamesBeyond (data.take count) endpoint ∧
            outcome = (badOutput endpoint).outcome "VIOT") ∧
      ∀ endpoint, NamesBeyond (data.take count) endpoint →
        (badOutput endpoint).outcome "VIOT" ∈ report.failuresWith "VIOTBadOutputNode" := by
  have enough := cuts.enough
  obtain ⟨met, further, later⟩ := course_whole cuts
  have fields := loaded_of_bytes loaded
  have room : 9 ≤ (data.take count).length := by
    rw [cut_length cuts]
    omega
  obtain ⟨part, reloaded⟩ := loads_of_room room address ordinal
  have partFields := loaded_of_bytes reloaded
  have partNamed : part.signature = .viot := by
    rw [← named]
    apply signature_eq_of_bytes
    rw [fields.signature, partFields.signature]
    exact Bytes.slice_take (by omega)
  refine ⟨part, _, _, reloaded, viot_report named, viot_report partNamed, ?_, ?_⟩
  · intro outcome reported
    obtain ⟨walked, endpoint, member, unresolved, rfl⟩ :=
      (mem_bad_outputs_iff partFields partNamed outcome).mp reported
    cases unresolved_before (cut_follows cuts) unresolved with
    | inl before =>
        have kept := unresolved_further further later unresolved before
        refine .inl ((mem_bad_outputs_iff fields named _).mpr ?_)
        exact ⟨walked_whole cuts walked, endpoint, met member, kept, rfl⟩
    | inr beyond =>
        obtain ⟨behind, through⟩ := beyond
        rw [← cut_length cuts] at behind
        exact .inr ⟨endpoint, ⟨walked, through, member, unresolved.endpoint, behind⟩, rfl⟩
  · intro endpoint beyond
    have unresolved := beyond_unresolved cuts beyond
    exact (mem_bad_outputs_iff partFields partNamed _).mpr
      ⟨beyond.walked, endpoint, beyond.member, unresolved, rfl⟩

-- The last byte that is lost belongs to no node, and the walk breaks off in front of it.
theorem bad_outputs_of_cut_strays_behind_endpoint :
    let outcome : Outcome := .failed .high "VIOTBadOutputNode"
      "VIOT node at 0x30 has Output Node 0x10, which is not an IOMMU node"
    ∃ image part whole report, Image.ofBytes straysBehindEndpoint 0 0 = .ok image ∧
      image.signature = .viot ∧ Cuts straysBehindEndpoint 73 ∧
      Image.ofBytes (straysBehindEndpoint.take 73) 0 0 = .ok part ∧
      (Registry.report? image).value = some whole ∧
      (Registry.report? part).value = some report ∧
      outcome ∈ report.failuresWith "VIOTBadOutputNode" ∧
      outcome ∈ whole.failuresWith "VIOTBadOutputNode" := by
  intro outcome
  have loaded : Image.ofBytes straysBehindEndpoint 0 0 =
      .ok ⟨.viot, 74, 0, straysBehindEndpoint, 0, 0⟩ := rfl
  have cutLoaded : Image.ofBytes (straysBehindEndpoint.take 73) 0 0 =
      .ok ⟨.viot, 74, 0, straysBehindEndpoint.take 73, 0, 0⟩ := rfl
  have cuts : Cuts straysBehindEndpoint 73 := ⟨by decide, by decide, by decide⟩
  have walked : Walked (straysBehindEndpoint.take 73) := ⟨by decide, by decide⟩
  have failed : (course (straysBehindEndpoint.take 73)).outcome =
      .error (.headerTruncated 72 (.truncated 72 4 1)) := by cbv
  have accused : ((course (straysBehindEndpoint.take 73)).records.filter
      fun node => Unresolved (course (straysBehindEndpoint.take 73)) node).map
        (fun node => (badOutput node).outcome "VIOT") = [outcome] := by cbv
  obtain ⟨part, whole, report, reloaded, reported, cutReported, kept, -⟩ :=
    bad_outputs_of_cut loaded rfl cuts
  cases cutLoaded.symm.trans reloaded
  cases (viot_report rfl).symm.trans cutReported
  have listed := (bad_outputs_walked (loaded_of_bytes cutLoaded) rfl walked).trans accused
  have found : outcome ∈ badOutputs ⟨.viot, 74, 0, straysBehindEndpoint.take 73, 0, 0⟩ := by
    rw [listed]
    exact List.mem_singleton_self outcome
  refine ⟨_, _, whole, _, loaded, rfl, cuts, cutLoaded, reported, cutReported, found, ?_⟩
  cases kept outcome found with
  | inl same => exact same
  | inr beyond =>
      obtain ⟨endpoint, names, -⟩ := beyond
      obtain ⟨extent, ended⟩ := names.through
      rw [failed] at ended
      cases ended

-- Cut off behind its endpoint, a table without failures is told that its IOMMU is none.
theorem cut_behind_endpoint_accuses :
    ∃ image part whole report, Image.ofBytes endpointFirst 0 0 = .ok image ∧
      image.signature = .viot ∧ Cuts endpointFirst 72 ∧
      Image.ofBytes (endpointFirst.take 72) 0 0 = .ok part ∧
      (Registry.report? image).value = some whole ∧
      (Registry.report? part).value = some report ∧
      whole.failuresWith "VIOTBadOutputNode" = [] ∧
      report.failuresWith "VIOTBadOutputNode" = [.failed .high "VIOTBadOutputNode"
        "VIOT node at 0x30 has Output Node 0x48, which is not an IOMMU node"] := by
  have loaded : Image.ofBytes endpointFirst 0 0 = .ok ⟨.viot, 88, 0, endpointFirst, 0, 0⟩ := rfl
  have cutLoaded : Image.ofBytes (endpointFirst.take 72) 0 0 =
      .ok ⟨.viot, 88, 0, endpointFirst.take 72, 0, 0⟩ := rfl
  have cuts : Cuts endpointFirst 72 := ⟨by decide, by decide, by decide⟩
  have walked : Walked endpointFirst := ⟨by decide, by decide⟩
  have cutWalked : Walked (endpointFirst.take 72) := ⟨by decide, by decide⟩
  have resolved : ((course endpointFirst).records.filter
      fun node => Unresolved (course endpointFirst) node).map
        (fun node => (badOutput node).outcome "VIOT") = [] := by cbv
  have accused : ((course (endpointFirst.take 72)).records.filter
      fun node => Unresolved (course (endpointFirst.take 72)) node).map
        (fun node => (badOutput node).outcome "VIOT") = [.failed .high "VIOTBadOutputNode"
          "VIOT node at 0x30 has Output Node 0x48, which is not an IOMMU node"] := by cbv
  refine ⟨_, _, _, _, loaded, rfl, cuts, cutLoaded, viot_report rfl, viot_report rfl, ?_, ?_⟩
  · exact (bad_outputs_walked (loaded_of_bytes loaded) rfl walked).trans resolved
  · exact (bad_outputs_walked (loaded_of_bytes cutLoaded) rfl cutWalked).trans accused

end AcpiAudit.Viot

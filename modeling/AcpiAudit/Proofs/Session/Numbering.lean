import AcpiAudit.Proofs.Session.Verdict

set_option autoImplicit false

namespace AcpiAudit

open Session

section Names

def Session.suffix (ordinal : Nat) : String := if ordinal = 0 then "" else "#" ++ toString ordinal

theorem name_eq (signature : Signature) (ordinal : Nat) :
    reportName signature ordinal = signature.text ++ suffix ordinal := by
  by_cases first : ordinal = 0
  · simp [reportName, suffix, first]
  · simp [reportName, suffix, first, toString, String.append_assoc]

theorem digits_injective {one other : Nat} (same : toString one = toString other) :
    one = other := by
  have digits : Nat.toDigits 10 one = Nat.toDigits 10 other := String.ofList_injective same
  calc
    one = Nat.ofDigitChars 10 (Nat.toDigits 10 one) 0 := Nat.ofDigitChars_ten_toDigits.symm
    _ = Nat.ofDigitChars 10 (Nat.toDigits 10 other) 0 := by rw [digits]
    _ = other := Nat.ofDigitChars_ten_toDigits

theorem suffix_injective {one other : Nat} (same : suffix one = suffix other) : one = other := by
  by_cases first : one = 0
  · by_cases firstToo : other = 0
    · exact first.trans firstToo.symm
    · simp [suffix, first, firstToo] at same
  · by_cases firstToo : other = 0
    · simp [suffix, first, firstToo] at same
    · rw [suffix, suffix, if_neg first, if_neg firstToo] at same
      exact digits_injective ((String.append_right_inj "#").mp same)

-- Signatures with hidden bytes can share a text, which no registered ones do.
theorem registered_texts : ∀ one ∈ Registry.checks, ∀ other ∈ Registry.checks,
    one.signature.text = other.signature.text → one.signature = other.signature := by
  decide

theorem names_injective {one other : Check} {first second : Nat}
    (listed : one ∈ Registry.checks) (listedToo : other ∈ Registry.checks)
    (same : reportName one.signature first = reportName other.signature second) :
    one.signature = other.signature ∧ first = second := by
  have characters := congrArg String.toList same
  rw [name_eq, name_eq, String.toList_append, String.toList_append] at characters
  have lengths := (text_length one.signature).trans (text_length other.signature).symm
  obtain ⟨texts, suffixes⟩ := List.append_inj characters lengths
  exact ⟨registered_texts one listed other listedToo (String.toList_inj.mp texts),
    suffix_injective (String.toList_inj.mp suffixes)⟩

end Names

variable (only : List Signature)

theorem report_of_table {file : TableFile} {image : Image}
    (table : file.table? only = some image) :
    file.report? only =
      (Registry.find? image.signature).map fun check => (check.apply image .empty).value := by
  simp only [TableFile.report?, kind_of_table only table, report_value]

theorem registered_of_report {file : TableFile} {image : Image} {report : Report}
    (table : file.table? only = some image) (reported : file.report? only = some report) :
    ∃ check ∈ Registry.checks, check.signature = image.signature := by
  rw [report_of_table only table] at reported
  obtain ⟨check, registered, -⟩ := Option.map_eq_some_iff.mp reported
  exact ⟨check, find_signature registered⟩

def Session.Fits (session : Session) (files : Nat) : Prop :=
  ∀ signature, (session.counters.next signature).toNat + files < 2 ^ 32

theorem next_after_file {session : Session} {rest : Nat} (fits : session.Fits (rest + 1))
    (file : TableFile) (signature : Signature) :
    ((addFile only session file).value.counters.next signature).toNat =
      (session.counters.next signature).toNat +
        if file.holds only signature then 1 else 0 := by
  have room := fits signature
  have moved := next_after only session [file] signature
  rw [value_after_cons, List.countP_singleton] at moved
  rw [show (addFile only session file).value.counters.next signature = _ from moved]
  by_cases held : file.holds only signature = true
  · simp only [if_pos held, UInt32.toNat_add, UInt32.reduceOfNat, UInt32.reduceToNat]
    omega
  · simp [if_neg held]

theorem fits_after {session : Session} {rest : Nat} (fits : session.Fits (rest + 1))
    (file : TableFile) : (addFile only session file).value.Fits rest := by
  intro signature
  have room := fits signature
  rw [next_after_file only fits]
  split <;> omega

theorem named_from {session : Session} {files : List TableFile} {file : TableFile}
    {found : NamedReport} {image : Image} (fits : session.Fits files.length)
    (member : (file, found) ∈ emissions only session files)
    (table : file.table? only = some image) :
    (∃ check ∈ Registry.checks, check.signature = image.signature) ∧
      ∃ ordinal, (session.counters.next image.signature).toNat ≤ ordinal ∧
        found.name = reportName image.signature ordinal := by
  induction files generalizing session with
  | nil => cases member
  | cons head rest ih =>
      have adds := adds_file only session head
      rw [emissions, List.mem_append, adds.emission] at member
      cases member with
      | inl member =>
          simp only [Option.map_map, Option.mem_toList, Option.map_eq_some_iff,
            Function.comp_apply, Prod.mk.injEq] at member
          obtain ⟨report, reported, rfl, rfl⟩ := member
          refine ⟨registered_of_report only table reported, _, Nat.le_refl _, ?_⟩
          simp only [TableFile.label, table]
      | inr member =>
          obtain ⟨registered, ordinal, bound, name⟩ := ih (fits_after only fits head) member
          refine ⟨registered, ordinal, Nat.le_trans ?_ bound, name⟩
          rw [next_after_file only fits]
          exact Nat.le_add_right _ _

-- The counter has moved past the number of a table when the next one like it comes.
theorem label_not_repeated {session : Session} {rest : List TableFile} {file other : TableFile}
    {image another : Image} {report : Report} {found : NamedReport}
    (fits : session.Fits (rest.length + 1))
    (table : file.table? only = some image) (reported : file.report? only = some report)
    (tableToo : other.table? only = some another)
    (later : (other, found) ∈ emissions only (addFile only session file).value rest) :
    file.label only session.counters ≠ found.name := by
  obtain ⟨check, listed, signed⟩ := registered_of_report only table reported
  obtain ⟨⟨checkToo, listedToo, signedToo⟩, ordinal, bound, name⟩ :=
    named_from only (fits_after only fits file) later tableToo
  intro same
  simp only [TableFile.label, table, name, ← signed, ← signedToo] at same
  obtain ⟨alike, numbered⟩ := names_injective listed listedToo same
  have held : file.holds only another.signature = true := by
    simp [TableFile.holds, table, ← signedToo, ← alike, signed]
  rw [next_after_file only fits, if_pos held, ← signedToo, ← alike, numbered] at bound
  exact Nat.not_succ_le_self _ bound

theorem names_apart {session : Session} {files : List TableFile}
    (fits : session.Fits files.length) :
    (emissions only session files).Pairwise fun (one, found) (other, foundToo) =>
      (one.table? only).isSome → (other.table? only).isSome → found.name ≠ foundToo.name := by
  induction files generalizing session with
  | nil => exact .nil
  | cons file rest ih =>
      have adds := adds_file only session file
      have later := ih (fits_after only fits file)
      cases reported : file.report? only with
      | none => simpa [emissions, adds.emission, reported] using later
      | some report =>
          rw [emissions, adds.emission, reported]
          refine .cons ?_ later
          rintro ⟨other, found⟩ member counts countsToo
          obtain ⟨image, table⟩ := Option.isSome_iff_exists.mp counts
          obtain ⟨another, tableToo⟩ := Option.isSome_iff_exists.mp countsToo
          exact label_not_repeated only fits table reported tableToo member

def Session.tableNames (files : List TableFile) : List String :=
  ((emissions only {} files).filter fun (file, _) => (file.table? only).isSome).map
    fun (_, found) => found.name

theorem table_names_distinct {files : List TableFile} (fewer : files.length < 2 ^ 32) :
    (tableNames only files).Nodup := by
  have fits : Session.Fits {} files.length := fun signature => by
    simpa [Counters.next] using fewer
  rw [tableNames, List.Nodup, List.pairwise_map, List.pairwise_filter]
  exact names_apart only fits

structure SameOutcome (only : List Signature) (failOn : Severity) (files other : List TableFile) :
    Prop where
  reports : ((emissions only {} files).map fun (file, found) => (file, found.report)).Perm
    ((emissions only {} other).map fun (file, found) => (file, found.report))
  total : (addFiles only {} files).value.total = (addFiles only {} other).value.total
  checked : (addFiles only {} files).value.checked = (addFiles only {} other).value.checked
  status : (run only failOn files).value = (run only failOn other).value

theorem same_outcome {failOn : Severity} {files other : List TableFile}
    (moved : files.Perm other) : SameOutcome only failOn files other := by
  have reports : ((emissions only {} files).map fun (file, found) => (file, found.report)).Perm
      ((emissions only {} other).map fun (file, found) => (file, found.report)) := by
    rw [reports_after, reports_after]
    exact moved.filterMap _
  have total : (addFiles only {} files).value.total = (addFiles only {} other).value.total := by
    rw [total_of_files, total_of_files, (moved.map (TableFile.counts only)).sum_eq]
  refine ⟨reports, total, ?_, ?_⟩
  · rw [checked_after, checked_after]
    simpa using reports.length_eq
  · rw [status_eq, status_eq, total]

def Session.ordinal (only : List Signature) (before : List TableFile) (image : Image) : Nat :=
  before.countP (TableFile.holds only image.signature)

structure Numbered (only : List Signature) (before after : List TableFile) (file : TableFile)
    (image : Image) : Prop where
  counted : ((addFiles only {} before).value.counters.next image.signature).toNat =
    ordinal only before image
  fits : ordinal only before image + 1 < 2 ^ 32
  shown : ∀ check, Registry.find? image.signature = some check →
    emissions only {} (before ++ file :: after) =
      emissions only {} before ++
        (file, ⟨if ordinal only before image = 0 then image.signature.text
            else image.signature.text ++ "#" ++ toString (ordinal only before image),
          (check.apply image .empty).value⟩) ::
        emissions only (addFiles only {} (before ++ [file])).value after

theorem numbered_table {before after : List TableFile} {file : TableFile} {image : Image}
    (table : file.table? only = some image)
    (fewer : (before ++ file :: after).length < 2 ^ 32) :
    Numbered only before after file image := by
  have fits : ordinal only before image + 1 < 2 ^ 32 := by
    have bound : ordinal only before image ≤ before.length := List.countP_le_length
    simp only [List.length_append, List.length_cons] at fewer
    omega
  have counted : ((addFiles only {} before).value.counters.next image.signature).toNat =
      ordinal only before image := by
    have start : Counters.next [] image.signature = 0 := rfl
    rw [next_after, start, UInt32.zero_add]
    exact UInt32.toNat_ofNat_of_lt' (Nat.lt_of_succ_lt fits)
  refine ⟨counted, fits, ?_⟩
  · intro check registered
    have report : file.report? only = some (check.apply image .empty).value := by
      rw [report_of_table only table, registered, Option.map_some]
    have adds := adds_file only (addFiles only {} before).value file
    rw [emissions_append, emissions, adds.emission, report, value_after_append]
    simp only [TableFile.label, table, counted]
    rfl

theorem session_order_and_labels (failOn : Severity) (files : List TableFile)
    (fewer : files.length < 2 ^ 32) :
    shownIn (run only failOn files).log =
        (emissions only {} files).flatMap (fun (_, found) => found.entries) ∧
      (∀ other, files.Perm other → SameOutcome only failOn files other) ∧
      (∀ before file after image, files = before ++ file :: after →
        file.table? only = some image → Numbered only before after file image) ∧
      (∀ session file, file.table? only = none →
        (addFile only session file).value.counters = session.counters) ∧
      (tableNames only files).Nodup := by
  refine ⟨shown_run only failOn files, fun other moved => same_outcome only moved, ?_, ?_,
    table_names_distinct only fewer⟩
  · intro before file after image split table
    exact numbered_table only table (split ▸ fewer)
  · intro session file uncounted
    rw [(adds_file only session file).counters, TableFile.advance, uncounted]

-- Two tables of one kind with files between them that do not count.
def interleaved : List TableFile :=
  [⟨"first", .ok bareApmt⟩, ⟨"lost", .error "No such file or directory"⟩,
    ⟨"short", .ok [0x41, 0x50]⟩, ⟨"other", .ok ([0x56] ++ bareApmt)⟩,
    ⟨"second", .ok (paddedApmt 1)⟩]

theorem session_order_and_labels_interleaved :
    interleaved.length < 2 ^ 32 ∧
      SameOutcome [.apmt] .low interleaved interleaved.reverse ∧
      Numbered [.apmt] (interleaved.take 4) [] ⟨"second", .ok (paddedApmt 1)⟩
        ⟨.apmt, 36, 0, paddedApmt 1, 0, 0⟩ ∧
      tableNames [.apmt] interleaved = ["APMT", "APMT#1"] ∧
      (tableNames [.apmt] interleaved).Nodup := by
  have fewer : interleaved.length < 2 ^ 32 := by decide
  have names : tableNames [.apmt] interleaved = ["APMT", "APMT#1"] := by cbv
  obtain ⟨-, same, numbered, -, distinct⟩ :=
    session_order_and_labels [.apmt] .low interleaved fewer
  exact ⟨fewer, same _ (List.reverse_perm interleaved).symm, numbered _ _ _ _ rfl rfl, names,
    distinct⟩

end AcpiAudit

import AcpiAudit.Proofs.Audit.Trailing
import AcpiAudit.Proofs.Checks.Logging
import AcpiAudit.Proofs.Report.Summary
import AcpiAudit.Session

set_option autoImplicit false

namespace AcpiAudit

namespace TableFile

inductive Kind where
  | unreadable
  | tooShort (error : ReadError)
  | excluded
  | table (image : Image)

def kind (only : List Signature) (file : TableFile) : Kind :=
  match file.content with
  | .error _ => .unreadable
  | .ok data =>
    match Image.ofBytes data 0 0 with
    | .error error => .tooShort error
    | .ok image => if only = [] ∨ image.signature ∈ only then .table image else .excluded

def isUnreadable (file : TableFile) : Bool := !file.content.isOk

def table? (only : List Signature) (file : TableFile) : Option Image :=
  match file.kind only with
  | .table image => some image
  | _ => none

def holds (only : List Signature) (signature : Signature) (file : TableFile) : Bool :=
  (file.table? only).any fun image => image.signature = signature

def report? (only : List Signature) (file : TableFile) : Option Report :=
  match file.kind only with
  | .tooShort error => some (Session.tooShort file.name error)
  | .table image => (Registry.report? image).value
  | _ => none

def counts (only : List Signature) (file : TableFile) : Summary :=
  if file.isUnreadable then Session.unreadable else (file.report? only).elim 0 Report.summary

def label (only : List Signature) (counters : Session.Counters) (file : TableFile) : String :=
  match file.table? only with
  | some image => Session.reportName image.signature (counters.next image.signature).toNat
  | none => file.name

def advance (only : List Signature) (counters : Session.Counters) (file : TableFile) :
    Session.Counters :=
  match file.table? only with
  | some image => counters.advance image.signature
  | none => counters

end TableFile

def NamedReport.entries (found : NamedReport) : List LogEntry := found.report.entries found.name

def shownIn (log : List LogEntry) : List LogEntry :=
  log.filter fun entry => entry.target = reportTarget

@[simp]
theorem shown_append (one other : List LogEntry) :
    shownIn (one ++ other) = shownIn one ++ shownIn other :=
  List.filter_append _ _

@[simp]
theorem shown_entries (found : NamedReport) : shownIn found.entries = found.entries := by
  rw [shownIn, List.filter_eq_self]
  intro entry member
  rw [NamedReport.entries, Report.entries, List.mem_append, List.mem_singleton,
    List.mem_map] at member
  rcases member with ⟨outcome, -, rfl⟩ | rfl <;> rfl

theorem shown_registry (image : Image) : shownIn (Registry.report? image).log = [] := by
  have hidden : reportTarget ∉ Registry.targets := by decide
  simp only [shownIn, List.filter_eq_nil_iff, decide_eq_true_eq]
  exact fun entry member same => hidden (same ▸ report_logs image entry member)

theorem shown_session (level : Level) (message : String) :
    shownIn [⟨level, Session.target, message⟩] = [] := rfl

namespace Session

theorem next_cons (head other : Signature) (number : UInt32) (rest : Counters) :
    Counters.next ((head, number) :: rest) other =
      if other = head then number else rest.next other := by
  by_cases here : other = head
  · simp [Counters.next, here]
  · simp [Counters.next, List.lookup_cons, beq_false_of_ne here, here]

theorem next_advance (counters : Counters) (signature other : Signature) :
    (counters.advance signature).next other =
      counters.next other + if other = signature then 1 else 0 := by
  induction counters with
  | nil =>
      rw [Counters.advance, next_cons]
      simp [Counters.next]
  | cons entry rest ih =>
      obtain ⟨head, number⟩ := entry
      rw [Counters.advance]
      by_cases found : head = signature
      · rw [if_pos found, next_cons, next_cons, found]
        by_cases same : other = signature <;> simp [same]
      · rw [if_neg found, next_cons, next_cons, ih]
        by_cases here : other = head
        · simp [here, found]
        · simp [here]

def emission? (only : List Signature) (session : Session) (file : TableFile) :
    Option NamedReport :=
  match file.content with
  | .error _ => none
  | .ok data => (checkFile only session.counters file.name data).value.1

def emissions (only : List Signature) (session : Session) :
    List TableFile → List (TableFile × NamedReport)
  | [] => []
  | file :: rest =>
    ((emission? only session file).map (Prod.mk file)).toList ++
      emissions only (addFile only session file).value rest

theorem report_numbered (image : Image) (ordinal : Nat) :
    Registry.report? { image with ordinal } = Registry.report? image :=
  report_alike ⟨⟨rfl, rfl, rfl, rfl⟩, rfl⟩

theorem selects_iff (only : List Signature) (signature : Signature) :
    selects only signature = true ↔ only = [] ∨ signature ∈ only := by
  simp [selects]

variable (only : List Signature) {session : Session} {file : TableFile} {data : Bytes}

theorem kind_too_short {error : ReadError} (content : file.content = .ok data)
    (loaded : Image.ofBytes data 0 0 = .error error) : file.kind only = .tooShort error := by
  simp only [TableFile.kind, content, loaded]

theorem kind_table {image : Image} (content : file.content = .ok data)
    (loaded : Image.ofBytes data 0 0 = .ok image)
    (selected : only = [] ∨ image.signature ∈ only) : file.kind only = .table image := by
  simp only [TableFile.kind, content, loaded, if_pos selected]

theorem kind_excluded {image : Image} (content : file.content = .ok data)
    (loaded : Image.ofBytes data 0 0 = .ok image)
    (unselected : ¬ (only = [] ∨ image.signature ∈ only)) : file.kind only = .excluded := by
  simp only [TableFile.kind, content, loaded, if_neg unselected]

theorem kind_of_table {image : Image} (table : file.table? only = some image) :
    file.kind only = .table image := by
  cases kind : file.kind only with
  | table other =>
      simp only [TableFile.table?, kind, Option.some.injEq] at table
      rw [table]
  | _ => simp [TableFile.table?, kind] at table

theorem kind_unreadable_iff (file : TableFile) :
    file.kind only = .unreadable ↔ file.isUnreadable = true := by
  cases content : file.content with
  | error reason =>
      simp [TableFile.kind, TableFile.isUnreadable, content, Except.isOk, Except.toBool]
  | ok data =>
      simp only [TableFile.isUnreadable, content, Except.isOk, Except.toBool]
      cases loaded : Image.ofBytes data 0 0 with
      | error error => simp [kind_too_short only content loaded]
      | ok image =>
          by_cases selected : only = [] ∨ image.signature ∈ only
          · simp [kind_table only content loaded selected]
          · simp [kind_excluded only content loaded selected]

theorem examine_by_value {σ : Type} (take : Signature → σ → Nat × σ) (tables : σ)
    (content : file.content = .ok data) :
    (examineBy take only tables file.name data).value =
      match file.table? only with
      | none => ((file.report? only).map fun report => ⟨file.name, report⟩, tables)
      | some image =>
        let (ordinal, after) := take image.signature tables
        ((file.report? only).map fun report => ⟨reportName image.signature ordinal, report⟩,
          after) := by
  cases loaded : Image.ofBytes data 0 0 with
  | error error =>
      have kind := kind_too_short only content loaded
      simp [examineBy, loaded, pure, TableFile.report?, TableFile.table?, kind]
  | ok image =>
      by_cases selected : only = [] ∨ image.signature ∈ only
      · have kind := kind_table only content loaded selected
        have chosen := (selects_iff only image.signature).mpr selected
        cases reported : (Registry.report? image).value <;>
          simp [examineBy, loaded, chosen, report_numbered, reported, bind, pure,
            TableFile.report?, TableFile.table?, kind]
      · have kind := kind_excluded only content loaded selected
        have passed := mt (selects_iff only image.signature).mp selected
        simp [examineBy, loaded, passed, bind, pure, TableFile.report?, TableFile.table?, kind]

theorem check_file_value (counters : Counters) (content : file.content = .ok data) :
    (checkFile only counters file.name data).value =
      ((file.report? only).map fun report => ⟨file.label only counters, report⟩,
        file.advance only counters) := by
  rw [checkFile, examine_by_value only Counters.take counters content]
  unfold TableFile.label TableFile.advance
  cases file.table? only <;> rfl

-- Counters that agree with a count of the tables number the next table as the count does.
theorem check_file_counts {counters : Counters} {seen : List Signature}
    (content : file.content = .ok data)
    (agree : ∀ signature, counters.next signature = .ofNat (seen.count signature))
    (few : ∀ signature, seen.count signature < 2 ^ 32) :
    let checked := (checkFile only counters file.name data).value
    let examined := (examine only seen file.name data).value
    checked.1 = examined.1 ∧
      ∀ signature, checked.2.next signature = .ofNat (examined.2.count signature) := by
  rw [checkFile, examine, examine_by_value only _ counters content,
    examine_by_value only _ seen content]
  cases file.table? only with
  | none => exact ⟨rfl, agree⟩
  | some image =>
      have number : (counters.next image.signature).toNat = seen.count image.signature := by
        rw [agree]
        exact UInt32.toNat_ofNat_of_lt' (few _)
      refine ⟨by simp only [Counters.take, number], fun signature => ?_⟩
      simp only [Counters.take, next_advance, agree, List.count_cons, UInt32.ofNat_add]
      by_cases same : signature = image.signature
      · simp [same]
      · simp [same, Ne.symm same]

theorem check_file_silent (counters : Counters) (path : String) (data : Bytes) :
    shownIn (checkFile only counters path data).log = [] := by
  unfold checkFile examineBy
  cases Image.ofBytes data 0 0 with
  | error error => rfl
  | ok image =>
      cases chosen : selects only image.signature with
      | false => simp [chosen, bind, pure, LogWriter.write, shown_session]
      | true =>
          cases reported : (Registry.report? image).value <;>
            simp [chosen, report_numbered, reported, bind, pure, LogWriter.write, shown_registry,
              shown_session]

-- All that adding a file does to a session and shows of it.
structure Adds (only : List Signature) (session : Session) (file : TableFile)
    (after : Logged Session) : Prop where
  emission : emission? only session file =
    (file.report? only).map fun report => ⟨file.label only session.counters, report⟩
  counters : after.value.counters = file.advance only session.counters
  total : after.value.total = session.total + file.counts only
  checked : after.value.checked = session.checked + (file.report? only).toList.length
  shown : shownIn after.log = (emission? only session file).toList.flatMap NamedReport.entries

theorem adds_unreadable {reason : String} (content : file.content = .error reason) :
    Adds only session file (addFile only session file) := by
  have kind : file.kind only = .unreadable := by simp only [TableFile.kind, content]
  have report : file.report? only = none := by simp only [TableFile.report?, kind]
  have emission : emission? only session file = none := by simp only [emission?, content]
  constructor
  · rw [emission, report]
    rfl
  · simp [addFile, content, bind, pure, TableFile.advance, TableFile.table?, kind]
  · simp only [addFile, content, bind, pure, TableFile.counts, TableFile.isUnreadable]
    rfl
  · simp [addFile, content, bind, pure, report]
  · simp [addFile, content, bind, pure, emission, LogWriter.write, shown_session]

theorem adds_readable (content : file.content = .ok data) :
    Adds only session file (addFile only session file) := by
  have examined := check_file_value only session.counters content
  have silent := check_file_silent only session.counters file.name data
  have counts : file.counts only = (file.report? only).elim 0 Report.summary := by
    simp [TableFile.counts, TableFile.isUnreadable, content, Except.isOk, Except.toBool]
  have emission : emission? only session file =
      (file.report? only).map fun report => ⟨file.label only session.counters, report⟩ := by
    simp only [emission?, content, examined]
  cases report : file.report? only with
  | none =>
      rw [report] at examined emission counts
      constructor
      · rw [emission, report]
      · simp [addFile, content, bind, pure, examined]
      · simp [addFile, content, bind, pure, examined, counts]
      · simp [addFile, content, bind, pure, examined, report]
      · simp [addFile, content, bind, pure, examined, silent, emission]
  | some found =>
      rw [report] at examined emission counts
      constructor
      · rw [emission, report]
      · simp [addFile, content, bind, examined]
      · simp only [addFile, content, bind, examined, counts]
        rfl
      · simp [addFile, content, bind, examined, report]
      · simp only [addFile, content, bind, examined, shown_append, silent, emission,
          Option.map_some, Option.toList_some, List.flatMap_singleton, List.nil_append]
        exact shown_entries ⟨_, _⟩

theorem adds_file (session : Session) (file : TableFile) :
    Adds only session file (addFile only session file) := by
  cases content : file.content with
  | error reason => exact adds_unreadable only content
  | ok data => exact adds_readable only content

section Run

variable (session : Session) (files : List TableFile)

theorem value_after_cons (file : TableFile) (rest : List TableFile) :
    (addFiles only session (file :: rest)).value =
      (addFiles only (addFile only session file).value rest).value := rfl

theorem value_after_append (before after : List TableFile) :
    (addFiles only session (before ++ after)).value =
      (addFiles only (addFiles only session before).value after).value := by
  induction before generalizing session with
  | nil => rfl
  | cons file rest ih => rw [List.cons_append, value_after_cons, ih, value_after_cons]

theorem total_after :
    (addFiles only session files).value.total =
      session.total + (files.map (TableFile.counts only)).sum := by
  induction files generalizing session with
  | nil => exact (add_zero session.total).symm
  | cons file rest ih =>
      rw [value_after_cons, ih, (adds_file only session file).total, List.map_cons, List.sum_cons,
        add_assoc]

theorem total_of_files :
    (addFiles only {} files).value.total = (files.map (TableFile.counts only)).sum :=
  (total_after only {} files).trans (zero_add _)

theorem reports_after :
    (emissions only session files).map (fun (file, found) => (file, found.report)) =
      files.filterMap fun file => (file.report? only).map (Prod.mk file) := by
  induction files generalizing session with
  | nil => rfl
  | cons file rest ih =>
      rw [emissions, List.map_append, ih, (adds_file only session file).emission]
      cases report : file.report? only <;> simp [report]

theorem checked_after :
    (addFiles only session files).value.checked =
      session.checked + (emissions only session files).length := by
  induction files generalizing session with
  | nil => rfl
  | cons file rest ih =>
      have adds := adds_file only session file
      rw [value_after_cons, ih, adds.checked, emissions, adds.emission]
      cases report : file.report? only <;> simp [Nat.add_assoc, Nat.add_comm 1]

theorem shown_after :
    shownIn (addFiles only session files).log =
      (emissions only session files).flatMap fun (_, found) => found.entries := by
  induction files generalizing session with
  | nil => rfl
  | cons file rest ih =>
      have log : (addFiles only session (file :: rest)).log = (addFile only session file).log ++
          (addFiles only (addFile only session file).value rest).log := rfl
      rw [log, shown_append, ih, (adds_file only session file).shown, emissions,
        List.flatMap_append]
      cases emission? only session file <;> simp

theorem next_after (signature : Signature) :
    (addFiles only session files).value.counters.next signature =
      session.counters.next signature +
        .ofNat (files.countP (TableFile.holds only signature)) := by
  induction files generalizing session with
  | nil => exact (UInt32.add_zero _).symm
  | cons file rest ih =>
      rw [value_after_cons, ih, (adds_file only session file).counters, List.countP_cons]
      cases table : file.table? only with
      | none => simp [TableFile.holds, TableFile.advance, table]
      | some image =>
          by_cases same : image.signature = signature
          · simp [TableFile.holds, TableFile.advance, table, next_advance, same, UInt32.ofNat_add,
              UInt32.add_assoc, UInt32.add_comm 1]
          · simp [TableFile.holds, TableFile.advance, table, next_advance, same, Ne.symm same]

theorem emissions_append (before after : List TableFile) :
    emissions only session (before ++ after) =
      emissions only session before ++
        emissions only (addFiles only session before).value after := by
  induction before generalizing session with
  | nil => rfl
  | cons file rest ih =>
      rw [List.cons_append, emissions, ih, emissions, List.append_assoc, value_after_cons]

end Run

end Session

end AcpiAudit

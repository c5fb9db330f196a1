import AcpiAudit.Audit.Check
import AcpiAudit.Proofs.Audit.Walking

set_option autoImplicit false

namespace AcpiAudit

namespace Audit

variable {α β : Type}

structure Gives (audit : Audit α) (findings : List Finding) (value : α) : Prop where
  findings : audit.findings = findings
  result : audit.result = .ok value

theorem gives_pure (value : α) : (pure value : Audit α).Gives [] value := ⟨rfl, rfl⟩

theorem gives_write (level : Level) (target message : String) :
    (write level target message).Gives [] () := ⟨rfl, rfl⟩

theorem gives_log (entry : LogEntry) : (LogWriter.write entry : Audit Unit).Gives [] () :=
  ⟨rfl, rfl⟩

theorem gives_find (found : List Finding) : (find found).Gives found () := ⟨rfl, rfl⟩

theorem gives_fail_if (broken : Prop) [Decidable broken] (severity : Severity)
    (problem detail : String) :
    (failIf broken severity problem detail).Gives
      (if broken then [.failure severity problem detail] else []) () := by
  by_cases holds : broken
  · rw [failIf, if_pos holds, if_pos holds]
    exact gives_find _
  · rw [failIf, if_neg holds, if_neg holds]
    exact gives_pure ()

theorem gives_lift {read : Except ReadError α} {value : α} (found : read = .ok value) :
    (liftM read : Audit α).Gives [] value := ⟨rfl, found⟩

theorem gives_contain (audit : Audit Unit) :
    (contain audit).Gives (contain audit).findings () := by
  refine ⟨rfl, ?_⟩
  unfold contain
  split
  · next reached => exact reached
  · rfl

theorem contain_of_gives {audit : Audit Unit} {found : List Finding}
    (gives : audit.Gives found ()) : (contain audit).findings = found := by
  rw [contain, gives.result]
  exact gives.findings

theorem gives_bind {first : Audit α} {next : α → Audit β} {found more : List Finding} {middle : α}
    {value : β} (head : first.Gives found middle) (tail : (next middle).Gives more value) :
    (first >>= next).Gives (found ++ more) value := by
  constructor
  · simp only [bind, head.result, head.findings, tail.findings]
  · simp only [bind, head.result, tail.result]

theorem gives_map {audit : Audit α} {found : List Finding} {value : α} (change : α → β)
    (gives : audit.Gives found value) : (change <$> audit).Gives found (change value) := by
  rw [← List.append_nil found]
  exact gives_bind gives (gives_pure (change value))

theorem gives_after {first : Audit α} {next : α → Audit β} {found : List Finding} {middle : α}
    {value : β} (head : first.Gives [] middle) (tail : (next middle).Gives found value) :
    (first >>= next).Gives found value :=
  gives_bind head tail

theorem bind_agrees {first : Audit α} {next other : α → Audit β}
    (agree : ∀ value, first.result = .ok value → next value = other value) :
    (first >>= next) = (first >>= other) := by
  cases reached : first.result with
  | error error => simp only [bind, reached]
  | ok value => simp only [bind, reached, agree value reached]

theorem contain_bind {first : Audit α} {next : α → Audit Unit} {found : List Finding} {middle : α}
    (gives : first.Gives found middle) :
    (contain (first >>= next)).findings = found ++ (contain (next middle)).findings := by
  cases reached : (next middle).result with
  | ok _ => simp [contain, bind, gives.result, gives.findings, reached]
  | error error => simp [contain, bind, gives.result, gives.findings, reached]

-- An audit that breaks off does not get to what follows it, so that matters to nothing.
theorem contain_broken {first : Audit α} {error : ReadError} (failed : first.result = .error error)
    (next other : α → Audit Unit) : contain (first >>= next) = contain (first >>= other) := by
  simp [contain, bind, failed]

theorem gives_locate (reader : Reader) (layout : Layout) (offset : Nat) :
    (reader.locate layout offset : Audit (Except WalkError Record)).Gives []
      (reader.recordAt layout offset) := by
  rw [Reader.locate]
  cases reader.recordAt layout offset with
  | error error => exact gives_pure _
  | ok record => exact gives_bind (gives_log _) (gives_pure _)

@[simp]
theorem result_bind (first : Audit α) (next : α → Audit β) :
    (first >>= next).result = first.result >>= fun value => (next value).result := by
  cases reached : first.result <;> simp [bind, Except.bind, reached]

@[simp]
theorem result_pure (value : α) : (pure value : Audit α).result = .ok value := rfl

@[simp]
theorem ok_bind (value : α) (next : α → Except ReadError β) :
    (Except.ok value >>= next) = next value := rfl

@[simp]
theorem result_map (change : α → β) (audit : Audit α) :
    (change <$> audit).result = audit.result >>= fun value => .ok (change value) :=
  result_bind audit fun value => pure (change value)

@[simp]
theorem result_lift (read : Except ReadError α) : (liftM read : Audit α).result = read := rfl

@[simp]
theorem result_log (entry : LogEntry) : (LogWriter.write entry : Audit Unit).result = .ok () := rfl

@[simp]
theorem result_fail (severity : Severity) (problem detail : String) :
    (fail severity problem detail).result = .ok () := rfl

@[simp]
theorem result_warn (detail : String) : (warn detail).result = .ok () := rfl

@[simp]
theorem result_expect (outcome : Outcome) (severity : Severity) (problem field : String) :
    (expect outcome severity problem field).result = .ok () := rfl

@[simp]
theorem result_write (level : Level) (target message : String) :
    (write level target message).result = .ok () := rfl

theorem gives_for_members {items : List α} {audit : α → Audit Unit} {found : α → List Finding}
    (each : ∀ item ∈ items, (audit item).Gives (found item) ()) :
    (items.forM audit).Gives (items.flatMap found) () := by
  induction items with
  | nil => exact gives_pure ()
  | cons item rest ih =>
      have others := ih fun other member => each other (by simp [member])
      rw [List.forM_eq_forM] at others ⊢
      rw [List.forM_cons, List.flatMap_cons]
      exact gives_bind (each item (by simp)) others

theorem gives_for_each {items : List α} {audit : α → Audit Unit} {found : α → List Finding}
    (each : ∀ item, (audit item).Gives (found item) ()) :
    (items.forM audit).Gives (items.flatMap found) () :=
  gives_for_members fun item _ => each item

theorem gives_close (course : Course) :
    (course.close : Audit (Except WalkError Extent)).Gives [] course.outcome := by
  rw [Course.close]
  cases course.outcome with
  | error error => exact gives_pure _
  | ok extent => exact gives_bind (gives_log _) (gives_pure _)

theorem gives_each_record (course : Course) (audit : Record → Audit Unit) :
    (eachRecord course audit).Gives
      (course.records.flatMap fun record => (contain (audit record)).findings) course.outcome := by
  rw [eachRecord, Course.visit_proceed course fun record => contain (audit record),
    ← List.append_nil (course.records.flatMap _)]
  refine gives_bind (gives_for_each fun record => ?_) (gives_close course)
  exact gives_bind (gives_log record.entry) (gives_contain (audit record))

end Audit

end AcpiAudit

import SqlRecord.Query.Statement

/-! # What becomes of a statement

Each statement that a query makes, with the reasons to refuse it in the order in which they count: the error
of a call comes first, then missing parameters, then a missing condition.
-/

namespace SqlRecord

/-! ## Results -/

theorem ok_of_bind {ε α β : Type} {x : Except ε α} {f : α → Except ε β} {b : β} (h : x >>= f = .ok b) :
    ∃ a, x = .ok a ∧ f a = .ok b := by
  cases x with
  | error e => cases h
  | ok a => exact ⟨a, rfl, h⟩

theorem ok_of_map {ε α β : Type} {x : Except ε α} {f : α → β} {b : β} (h : x.map f = .ok b) :
    ∃ a, x = .ok a ∧ f a = b := by
  cases x with
  | error e => cases h
  | ok a => exact ⟨a, rfl, Except.ok.inj h⟩

/-! ## Rules that a dialect keeps -/

/-- A dialect that writes joins and clauses of conditions as every dialect does that does not replace these
rules. -/
structure Dialect.KeepsClauses (d : Dialect) : Prop where
  joinList : d.joinList = Join.compileAll d.toSpelling
  whereClause : d.whereClause = Expression.clause d.toSpelling "where"
  havingClause : d.havingClause = Expression.clause d.toSpelling "having"

/-- A dialect that writes insertions and updates as every dialect does that does not replace these rules. -/
structure Dialect.KeepsAssignments (d : Dialect) : Prop where
  insertStatement : d.insertStatement = d.toSpelling.insertStatement
  updateStatement : d.updateStatement = d.toSpelling.updateStatement

/-! ## Statements -/

namespace Query

variable (q : Query)

theorem selectStatement_eq :
    q.selectStatement = q.check >>= fun _ => .ok (" ".intercalate (q.segments.filter (· ≠ ""))) := rfl

theorem insertStatement_eq (p : Params) :
    q.insertStatement p = q.check >>= fun _ =>
      if p.isEmpty then .error (.emptyInsert q.table) else .ok (q.dialect.insertStatement q.table p) := by
  unfold insertStatement
  cases p.isEmpty <;> rfl

theorem updateStatement_eq (p : Params) :
    q.updateStatement p = q.check >>= fun _ =>
      if p.isEmpty then .error (.emptyUpdate q.table)
      else if q.strict && q.filters.isEmpty then .error (.unconditionalUpdate q.table)
      else .ok (q.dialect.updateStatement q.table p (q.dialect.whereClause q.filters)) := by
  unfold updateStatement
  cases p.isEmpty <;> cases q.strict && q.filters.isEmpty <;> rfl

theorem deleteStatement_eq :
    q.deleteStatement = q.check >>= fun _ =>
      .ok (q.dialect.deleteStatement q.table (q.dialect.whereClause q.filters)) := rfl

/-- The statement that inserts, with what to do on a conflict behind it. -/
def upsertText (insert update : Params) (keys : List String) : String :=
  "insert into " ++ q.dialect.quoteName q.table ++ " (" ++
    ", ".intercalate (insert.columns.map q.dialect.quoteName) ++ ") values (" ++
    ", ".intercalate (q.dialect.literals insert) ++ ") on conflict (" ++
    ", ".intercalate (keys.map q.dialect.quoteName) ++ ") " ++ conflictAction q.dialect.toSpelling update

theorem upsertStatement_eq (insert update : Params) (keys : List String) :
    q.upsertStatement insert update keys = q.check >>= fun _ =>
      if insert.isEmpty then .error (.emptyInsert q.table) else .ok (q.upsertText insert update keys) := by
  unfold upsertStatement
  cases insert.isEmpty <;> rfl

/-! ## Statements that are not refused -/

variable {q} {p : Params} {sql : String}

theorem insertStatement_eq_ok (h : q.insertStatement p = .ok sql) :
    q.check = .ok () ∧ p.isEmpty = false ∧ sql = q.dialect.insertStatement q.table p := by
  rw [q.insertStatement_eq] at h
  obtain ⟨u, hcheck, h⟩ := ok_of_bind h
  split at h
  · cases h
  · rename_i hempty
    cases h
    exact ⟨hcheck, eq_false_of_ne_true hempty, rfl⟩

theorem updateStatement_eq_ok (h : q.updateStatement p = .ok sql) :
    q.check = .ok () ∧ sql = q.dialect.updateStatement q.table p (q.dialect.whereClause q.filters) := by
  rw [q.updateStatement_eq] at h
  obtain ⟨u, hcheck, h⟩ := ok_of_bind h
  split at h
  · cases h
  split at h
  · cases h
  · cases h
    exact ⟨hcheck, rfl⟩

theorem deleteStatement_eq_ok (h : q.deleteStatement = .ok sql) :
    q.check = .ok () ∧ sql = q.dialect.deleteStatement q.table (q.dialect.whereClause q.filters) := by
  rw [q.deleteStatement_eq] at h
  obtain ⟨u, hcheck, h⟩ := ok_of_bind h
  cases h
  exact ⟨hcheck, rfl⟩

theorem upsertStatement_eq_ok {insert update : Params} {keys : List String}
    (h : q.upsertStatement insert update keys = .ok sql) :
    q.check = .ok () ∧ insert.isEmpty = false ∧ sql = q.upsertText insert update keys := by
  rw [q.upsertStatement_eq] at h
  obtain ⟨u, hcheck, h⟩ := ok_of_bind h
  split at h
  · cases h
  · rename_i hempty
    cases h
    exact ⟨hcheck, eq_false_of_ne_true hempty, rfl⟩

end Query

end SqlRecord

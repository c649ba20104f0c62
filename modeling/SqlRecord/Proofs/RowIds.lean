import SqlRecord.Model.Run
import SqlRecord.Proofs.Assignment
import SqlRecord.Proofs.Parameters
import SqlRecord.Proofs.Sessions

/-! # Row ids of inserts

An insert whose statement has run is left with the row id that the connection reports. It fails, though the row
is stored, exactly where the record has no field for the row id, or one that is too short for it.
-/

namespace SqlRecord

variable {σ υ : Type}

/-- A connection on which every statement runs, and which knows the row id of the last insert. -/
structure Connection.Succeeds (c : Connection σ) : Prop where
  execute : ∀ sql memory, (c.execute sql memory).1 = .ok ()
  lastRowId : ∀ memory, ∃ n, (c.lastRowId memory).1 = .ok n

/-- The session after a statement has run. -/
def Session.executed (s : Session σ) (c : Connection σ) (sql : String) : Session σ where
  memory := (c.execute sql s.memory).2
  statements := s.statements ++ [sql]
  events := s.events ++ [.executing sql]

/-- The session after the connection was asked for the last row id. -/
def Session.asked (s : Session σ) (c : Connection σ) : Session σ :=
  { s with memory := (c.lastRowId s.memory).2 }

theorem Query.perform_run_eq (c : Connection σ) (sql : String) (s : Session σ) :
    (Query.run c sql).perform s = ((c.execute sql s.memory).1, s.executed c sql) := by
  simp [Query.run, Connection.run, Session.executed]

theorem Query.perform_run {c : Connection σ} {sql : String} {s : Session σ}
    (h : (c.execute sql s.memory).1 = .ok ()) : (Query.run c sql).perform s = (.ok (), s.executed c sql) := by
  rw [perform_run_eq, h]

namespace Model

variable {m : Model υ} {c : Connection σ} {r : Record υ} {s : Session σ} {p : Params}

/-! ## Inserts step by step -/

/-- The statement that inserts a row with these parameters. -/
def insertText (m : Model υ) (d : Dialect) (p : Params) : String :=
  d.insertStatement m.table p

theorem insertStatement_query (m : Model υ) (d : Dialect) (h : p.isEmpty = false) :
    (m.query d).insertStatement p = .ok (m.insertText d p) := by
  rw [Query.insertStatement_eq, Query.check, m.failure_query, h, m.dialect_query, m.table_query]
  rfl

/-- What an insert leaves of an instance, for how its preparation has ended. -/
def settle (r : Record υ) : Except ModelError (Record υ) → Outcome υ
  | .ok r' => (r', .ok ())
  | .error e => (r, .error e)

theorem run_insert (m : Model υ) (c : Connection σ) (r : Record υ) (s : Session σ) :
    (m.insert c r).run s =
      (settle (m.onInsert r) ((m.insertPrepared c (m.onInsert r)).perform s).1,
        ((m.insertPrepared c (m.onInsert r)).perform s).2) := by
  have hrun : (m.insert c r).run s =
      (match ((m.insertPrepared c (m.onInsert r)).perform s).1 with
        | .ok r' => (pure (r', .ok ()) : StateM (Session σ) (Outcome υ))
        | .error e => pure (m.onInsert r, .error e)).run
          ((m.insertPrepared c (m.onInsert r)).perform s).2 := rfl
  rw [hrun]
  cases ((m.insertPrepared c (m.onInsert r)).perform s).1 <;> rfl

theorem insert_of_error {e : ModelError} (h : m.insertParams (m.onInsert r) = .error e) :
    (m.insert c r).run s = ((m.onInsert r, .error e), s) := by
  rw [run_insert, insertPrepared, h]
  rfl

theorem insert_of_empty (h : m.insertParams (m.onInsert r) = .ok p) (hempty : p.isEmpty = true) :
    (m.insert c r).run s =
      ((m.onInsert r, .ok ()), { s with events := s.events ++ [.nothingToInsert m.typeName] }) := by
  rw [run_insert, insertPrepared, h]
  simp [hempty, Except.map, settle]

theorem perform_insertPrepared (h : m.insertParams r = .ok p) (hne : p.isEmpty = false)
    (hexecute : (c.execute (m.insertText c.dialect p) s.memory).1 = .ok ()) :
    (m.insertPrepared c r).perform s =
      (if m.autoIncrement then m.takeRowId c r else pure r).perform (s.executed c (m.insertText c.dialect p)) := by
  have hinsert : (ofQuery ((m.query c.dialect).insert c p)).perform s =
      (.ok (), s.executed c (m.insertText c.dialect p)) := by
    rw [ofQuery, Action.perform_mapError, Query.insert, Action.perform_bind, Action.perform_ofExcept,
      insertStatement_query m c.dialect hne]
    simp only [Query.perform_run hexecute]
    rfl
  rw [insertPrepared, h, Action.perform_bind, Action.perform_ofExcept]
  simp only [hne, Bool.false_eq_true, if_false]
  rw [Action.perform_bind, hinsert]

theorem perform_takeRowId {n : Int64} (hauto : m.autoIncrement = true)
    (hn : (c.lastRowId s.memory).1 = .ok n) :
    (m.takeRowId c r).perform s = ((r.set rowId (.int n)).mapError .field, s.asked c) := by
  simp [takeRowId, ofQuery, rowIdColumn, hauto, hn, Except.mapError, Session.asked]

theorem insert_plain (hauto : m.autoIncrement = false) (h : m.insertParams (m.onInsert r) = .ok p)
    (hne : p.isEmpty = false) (hexecute : (c.execute (m.insertText c.dialect p) s.memory).1 = .ok ()) :
    (m.insert c r).run s = ((m.onInsert r, .ok ()), s.executed c (m.insertText c.dialect p)) := by
  rw [run_insert, perform_insertPrepared h hne hexecute, hauto]
  rfl

theorem insert_numbered (hauto : m.autoIncrement = true) (h : m.insertParams (m.onInsert r) = .ok p)
    (hne : p.isEmpty = false) (hexecute : (c.execute (m.insertText c.dialect p) s.memory).1 = .ok ())
    {n : Int64} (hn : (c.lastRowId (c.execute (m.insertText c.dialect p) s.memory).2).1 = .ok n) :
    (m.insert c r).run s =
      (settle (m.onInsert r) (((m.onInsert r).set rowId (.int n)).mapError .field),
        (s.executed c (m.insertText c.dialect p)).asked c) := by
  rw [run_insert, perform_insertPrepared h hne hexecute, if_pos hauto,
    perform_takeRowId (s := s.executed c _) hauto hn]

/-! ## The row id -/

/-- How an insert ends whose statement has run, for the row id that the connection reports. -/
structure Inserted (m : Model υ) (r : Record υ) (n : Int64) (out : Outcome υ) : Prop where
  plain : m.autoIncrement = false → out = (r, .ok ())
  unmapped : m.autoIncrement = true → r.column? rowId = none →
    out = (r, .error (.field (.unknownColumn rowId)))
  refused : m.autoIncrement = true → ∀ column, r.column? rowId = some column →
    ¬ column.type.kind.Holds n →
      out = (r, .error (.field (.mismatch rowId column.type.kind (.int n))))
  numbered : m.autoIncrement = true → ∀ column, r.column? rowId = some column →
    column.type.kind.Holds n →
      out.2 = .ok () ∧ out.1.get? rowId = some (column.type.kind.shown n) ∧
        (∀ c ≠ rowId, out.1.get? c = r.get? c) ∧ out.1.columns = r.columns ∧ out.1.unmapped = r.unmapped

theorem inserted_of_plain (h : m.autoIncrement = false) (n : Int64) : Inserted m r n (r, .ok ()) where
  plain _ := rfl
  unmapped hauto := absurd hauto (by simp [h])
  refused hauto := absurd hauto (by simp [h])
  numbered hauto := absurd hauto (by simp [h])

theorem settle_set (r : Record υ) (n : Int64) :
    settle r ((r.set rowId (.int n)).mapError .field) =
      ((r.put rowId (.int n)).1, (r.put rowId (.int n)).2.mapError .field) := by
  rw [Record.put_eq_set]
  cases r.set rowId (.int n) <;> rfl

theorem inserted_of_set (h : m.autoIncrement = true) (n : Int64) :
    Inserted m r n (settle r ((r.set rowId (.int n)).mapError .field)) where
  plain hplain := absurd hplain (by simp [h])
  unmapped _ hcolumn := by
    rw [← Record.map_column_field, Option.map_eq_none_iff] at hcolumn
    rw [settle_set, Record.put_unknown hcolumn]
    rfl
  refused _ column hcolumn hn := by
    obtain ⟨f, hf, rfl⟩ := Record.field_of_column hcolumn
    rw [settle_set, Record.put_mismatch hf (Field.assign_int_refused hn)]
    rfl
  numbered _ column hcolumn hn := by
    obtain ⟨f, hf, rfl⟩ := Record.field_of_column hcolumn
    obtain ⟨g, hg, hshown⟩ := Field.assign_int hn
    obtain ⟨r', hput, hassigned⟩ := Record.put_assign hf hg
    rw [settle_set, hput]
    refine ⟨rfl, ?_, fun c hc => hassigned.get_of_ne hc, hassigned.columns, hassigned.unmapped⟩
    rw [← hshown]
    exact hassigned.get

/-- An insert either hands over nothing, as its parameters are refused or there are none, or it hands over
one statement, and after that only the row id can make it fail. -/
theorem insert_outcome (m : Model υ) {c : Connection σ} (hc : c.Succeeds) (r : Record υ) (s : Session σ) :
    let h := m.onInsert r
    let out := (m.insert c r).run s
    (∃ e, m.insertParams h = .error e ∧ out.1 = (h, .error e) ∧ out.2.statements = s.statements) ∨
    (∃ p, m.insertParams h = .ok p ∧ p.isEmpty = true ∧ out.1 = (h, .ok ()) ∧
      out.2.statements = s.statements) ∨
    ∃ p n, m.insertParams h = .ok p ∧ p.isEmpty = false ∧
      (c.lastRowId (c.execute (m.insertText c.dialect p) s.memory).2).1 = .ok n ∧
      out.2.statements = s.statements ++ [m.insertText c.dialect p] ∧ Inserted m h n out.1 := by
  intro h out
  cases hp : m.insertParams h with
  | error e =>
    have hrun : out = ((h, .error e), s) := insert_of_error hp
    exact Or.inl ⟨e, rfl, congrArg Prod.fst hrun, congrArg (·.2.statements) hrun⟩
  | ok p =>
    cases hempty : p.isEmpty with
    | true =>
      have hrun := insert_of_empty (c := c) (s := s) hp hempty
      exact Or.inr (Or.inl ⟨p, rfl, hempty, congrArg Prod.fst hrun, congrArg (·.2.statements) hrun⟩)
    | false =>
      have hexecute := hc.execute (m.insertText c.dialect p) s.memory
      obtain ⟨n, hn⟩ := hc.lastRowId (c.execute (m.insertText c.dialect p) s.memory).2
      refine Or.inr (Or.inr ⟨p, n, rfl, hempty, hn, ?_⟩)
      cases hauto : m.autoIncrement with
      | false =>
        have hrun : out = ((h, .ok ()), _) := insert_plain hauto hp hempty hexecute
        rw [hrun]
        exact ⟨rfl, inserted_of_plain hauto n⟩
      | true =>
        have hrun : out = (settle h _, _) := insert_numbered hauto hp hempty hexecute hn
        rw [hrun]
        exact ⟨rfl, inserted_of_set hauto n⟩

theorem insert_outcome_ticket :
    let ticket (id : Option Int16) (title : String) : Record Unit :=
      ⟨[⟨⟨"id", "id", .optional .short, true⟩, id⟩, ⟨⟨"title", "title", .required .text, true⟩, title⟩], ()⟩
    let m : Model Unit := { typeName := "Ticket", table := "ticket", initial := ticket none "" }
    let c : Connection Int64 :=
      { dialect := .sqlite, execute := fun _ n => (.ok (), n + 1), fetch := fun _ n => (.ok [], n)
        lastRowId := fun n => (.ok n, n) }
    let out := (m.insert c (ticket none "O'Neil")).run ⟨32766, [], []⟩
    c.Succeeds ∧ out.2.statements = ["insert into `ticket` (`title`) values ('O''Neil')"] ∧
    Inserted m (ticket none "O'Neil") 32767 out.1 ∧ out.1.2 = .ok () ∧
    out.1.1.get? rowId = some (.int 32767) ∧ out.1.1.get? "title" = some (.text "O'Neil") := by
  intro ticket m c out
  have hc : c.Succeeds := ⟨fun _ _ => rfl, fun n => ⟨n, rfl⟩⟩
  have hp : m.insertParams (ticket none "O'Neil") = .ok ⟨[("title", .text "O'Neil")]⟩ := by decide
  rcases insert_outcome m hc (ticket none "O'Neil") ⟨32766, [], []⟩ with
    ⟨e, he, -⟩ | ⟨p, hp', hempty, -⟩ | ⟨p, n, -, -, hn, -, hinserted⟩
  · cases hp.symm.trans he
  · cases hp.symm.trans hp'
    cases hempty
  · have hreported : n = 32767 := (Except.ok.inj hn).symm
    rw [hreported] at hinserted
    have hticket : Inserted m (ticket none "O'Neil") 32767 out.1 := hinserted
    obtain ⟨hok, hid, hother, -⟩ := hticket.numbered rfl _ rfl (by decide)
    exact ⟨hc, by decide +kernel, hticket, hok, hid, hother "title" (by decide)⟩

/-- The row is stored and the insert fails all the same, with no field for the row id or with one that is too
short for it. A field that is no number takes a row id without keeping it. -/
theorem row_id_refused :
    let item (k : FieldKind) (id : k.Content) : Record Unit :=
      ⟨[⟨⟨"id", "id", .required k, true⟩, id⟩, ⟨⟨"name", "name", .required .text, true⟩, "x"⟩], ()⟩
    let unnumbered : Record Unit := ⟨[⟨⟨"name", "name", .required .text, true⟩, "x"⟩], ()⟩
    let m (r : Record Unit) : Model Unit := { typeName := "Item", table := "item", initial := r }
    let c : Connection Unit :=
      { dialect := .generic, execute := fun _ s => (.ok (), s), fetch := fun _ s => (.ok [], s)
        lastRowId := fun s => (.ok 40000, s) }
    let inserted (r : Record Unit) := ((m r).insert c r).run ⟨(), [], []⟩
    c.Succeeds ∧
    (∀ r ∈ [item .short 0, unnumbered, item .bool false],
      (inserted r).2.statements = ["insert into `item` (`name`) values ('x')"]) ∧
    (inserted (item .short 0)).1.2 = .error (.field (.mismatch "id" .short (.int 40000))) ∧
    (inserted unnumbered).1.2 = .error (.field (.unknownColumn "id")) ∧
    (inserted (item .bool false)).1.2 = .ok () ∧
    (inserted (item .bool false)).1.1.get? rowId = some (.bool true) := by
  intro item unnumbered m c inserted
  exact ⟨⟨fun _ _ => rfl, fun _ => ⟨_, rfl⟩⟩, by decide +kernel, by decide +kernel, by decide +kernel,
    by decide +kernel, by decide +kernel⟩

end Model

end SqlRecord

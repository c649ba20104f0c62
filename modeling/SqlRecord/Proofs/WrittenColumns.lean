import SqlRecord.Proofs.Restriction
import SqlRecord.Proofs.RoundTrip

/-! # Columns that models write

A row id that the database numbers is never inserted, but it is updated where it is no primary key of its
model. An upsert inserts a column of its conflict target if an insert may write it, and the row id of a stored
instance in any case.
-/

namespace SqlRecord.WrittenColumns

open Builder WriteBack Restriction

variable {σ υ : Type}

/-! ## Row ids -/

/-- An update takes the row id for a column like any other. -/
def UpdatesRowId (m : Model υ) (r : Record υ) : Prop :=
  Model.rowId ∈ r.tableColumns ∧ m.isAssignable Model.rowId = true ∧ Model.rowId ∉ m.primaryKeys

instance (m : Model υ) (r : Record υ) : Decidable (UpdatesRowId m r) :=
  inferInstanceAs (Decidable (_ ∧ _ ∧ _))

/-- The statement inserts what the instance gives, and nothing for the row id. -/
def InsertsNoRowId (m : Model υ) (d : Dialect) (r : Record υ) (sql : String) : Prop :=
  ∃ p, m.insertParams r = .ok p ∧ sql = d.insertStatement m.table p ∧ p.given Model.rowId = []

/-- The statement updates what the instance gives, and the row id only where it is a column like any other. -/
def UpdatesGiven (m : Model υ) (d : Dialect) (r : Record υ) (sql : String) : Prop :=
  ∃ keys p, m.keyParams r = .ok keys ∧ m.updateParams r = .ok p ∧
    sql = d.updateStatement m.table p (d.whereClause (m.queryWhere d keys).filters) ∧
    p.given Model.rowId = if UpdatesRowId m r then [r.stored Model.rowId] else []

theorem rowId_not_mem_insertColumns {m : Model υ} (hauto : m.autoIncrement = true) (r : Record υ) :
    Model.rowId ∉ m.insertColumns r := by
  simp [Model.insertColumns, hauto]

theorem rowId_mem_updateColumns {m : Model υ} {r : Record υ} :
    Model.rowId ∈ m.updateColumns r ↔ UpdatesRowId m r := by
  simp [Model.updateColumns, UpdatesRowId]

theorem insertsNoRowId_of_mem {m : Model υ} (hauto : m.autoIncrement = true) {d : Dialect} {r : Record υ}
    {sql : String} (h : sql ∈ insertTexts m d r) : InsertsNoRowId m d r sql := by
  obtain ⟨p, hp, hstatement⟩ := of_mem_insertTexts h
  obtain ⟨-, -, htext⟩ := Query.insertStatement_eq_ok hstatement
  rw [m.dialect_query, m.table_query] at htext
  refine ⟨p, hp, htext, ?_⟩
  rw [Model.given_readAll (Model.insertParams_eq_ok hp), if_neg (rowId_not_mem_insertColumns hauto r)]

theorem updatesGiven_of_mem {m : Model υ} {d : Dialect} {r : Record υ} {sql : String}
    (h : sql ∈ updateTexts m d r) : UpdatesGiven m d r sql := by
  obtain ⟨keys, p, hkeys, hp, hstatement⟩ := of_mem_updateTexts h
  obtain ⟨-, htext⟩ := Query.updateStatement_eq_ok hstatement
  rw [dialect_queryWhere, table_queryWhere] at htext
  refine ⟨keys, p, hkeys, hp, htext, ?_⟩
  rw [Model.given_readAll (Model.updateParams_eq_ok hp)]
  simp only [rowId_mem_updateColumns]

/-- Where the database numbers the rows, an insert never writes the row id. An update writes it exactly if it
is an assignable column of the table and no primary key, and a save does as the one of the two that it is. -/
theorem row_ids_written {m : Model υ} (hauto : m.autoIncrement = true) (c : Connection σ) (r : Record υ)
    (s : Session σ) :
    (∃ sqls, ((m.insert c r).run s).2.statements = s.statements ++ sqls ∧
      ∀ sql ∈ sqls, InsertsNoRowId m c.dialect (m.onInsert r) sql) ∧
    (∃ sqls, ((m.update c r).run s).2.statements = s.statements ++ sqls ∧
      ∀ sql ∈ sqls, UpdatesGiven m c.dialect (m.onUpdate r) sql) ∧
    ∃ sqls, ((m.save c r).run s).2.statements = s.statements ++ sqls ∧
      ∀ sql ∈ sqls, if m.isStored r then UpdatesGiven m c.dialect (m.onUpdate r) sql
        else InsertsNoRowId m c.dialect (m.onInsert r) sql := by
  refine ⟨⟨_, statements_insert m c r s, fun _ => insertsNoRowId_of_mem hauto⟩,
    ⟨_, statements_update m c r s, fun _ => updatesGiven_of_mem⟩, ?_⟩
  unfold Model.save
  cases hstored : m.isStored r with
  | true => exact ⟨_, statements_update m c r s, fun _ => updatesGiven_of_mem⟩
  | false => exact ⟨_, statements_insert m c r s, fun _ => insertsNoRowId_of_mem hauto⟩

/-- The default key is the row id itself, which an update then leaves alone. -/
theorem row_ids_written_page :
    let page (id : Int64) : Record Unit :=
      ⟨[⟨⟨"id", "id", .required .long, true⟩, id⟩, ⟨⟨"title", "title", .required .text, true⟩, "O'Neil"⟩], ()⟩
    let m : Model Unit := { typeName := "Page", table := "page", initial := page 0 }
    let c : Connection Unit :=
      { dialect := .sqlite, execute := fun _ s => (.ok (), s), fetch := fun _ s => (.ok [], s)
        lastRowId := fun s => (.ok 7, s) }
    m.autoIncrement = true ∧
    (∀ sql ∈ ((m.save c (page 0)).run ⟨(), [], []⟩).2.statements, InsertsNoRowId m .sqlite (page 0) sql) ∧
    (∀ sql ∈ ((m.save c (page 7)).run ⟨(), [], []⟩).2.statements, UpdatesGiven m .sqlite (page 7) sql) ∧
    ((m.save c (page 0)).run ⟨(), [], []⟩).2.statements = ["insert into `page` (`title`) values ('O''Neil')"] ∧
    ((m.save c (page 7)).run ⟨(), [], []⟩).2.statements =
      ["update `page` set `title` = 'O''Neil' where `id` = '7'"] ∧
    ¬ UpdatesRowId m (page 7) := by
  intro page m c
  obtain ⟨-, -, news, hnews, hnew⟩ := row_ids_written (m := m) rfl c (page 0) ⟨(), [], []⟩
  obtain ⟨-, -, olds, holds, hold⟩ := row_ids_written (m := m) rfl c (page 7) ⟨(), [], []⟩
  rw [List.nil_append] at hnews holds
  exact ⟨rfl, hnews ▸ hnew, holds ▸ hold, by decide +kernel, by decide +kernel, by decide⟩

/-- A model that the database numbers and that has another key overwrites the row id when it is updated or
saved, here with the zero of an instance that never learnt it. -/
theorem row_id_overwritten :
    let item (id : Int64) : Record Unit :=
      ⟨[⟨⟨"id", "id", .required .long, true⟩, id⟩, ⟨⟨"code", "code", .required .text, true⟩, "a"⟩,
        ⟨⟨"title", "title", .required .text, true⟩, "x"⟩], ()⟩
    let m : Model Unit := { typeName := "Item", table := "item", initial := item 0, primaryKeys := ["code"] }
    let c : Connection Unit :=
      { dialect := .generic, execute := fun _ s => (.ok (), s), fetch := fun _ s => (.ok [], s)
        lastRowId := fun s => (.ok 7, s) }
    m.autoIncrement = true ∧ UpdatesRowId m (item 0) ∧
    ((m.update c (item 0)).run ⟨(), [], []⟩).2.statements =
      ["update `item` set `id` = '0', `title` = 'x' where `code` = 'a'"] ∧
    ((m.save c (item 0)).run ⟨(), [], []⟩).2.statements =
      ["update `item` set `id` = '0', `title` = 'x' where `code` = 'a'"] := by
  decide +kernel

/-! ## Conflict targets -/

/-- An upsert inserts the column. The row id that the database numbers is inserted once it is known, any other
column if an insert may write it. -/
def Brings (m : Model υ) (r : Record υ) (column : String) : Prop :=
  if m.autoIncrement = true ∧ column = Model.rowId then m.isStored r = true
  else column ∈ r.tableColumns ∧ m.isAssignable column = true

instance (m : Model υ) (r : Record υ) (column : String) : Decidable (Brings m r column) :=
  inferInstanceAs (Decidable (if m.autoIncrement = true ∧ column = Model.rowId then m.isStored r = true
    else column ∈ r.tableColumns ∧ m.isAssignable column = true))

theorem mem_insertColumns {m : Model υ} {r : Record υ} {column : String} :
    column ∈ m.insertColumns r ↔ (column ∈ r.tableColumns ∧ m.isAssignable column = true) ∧
      ¬(m.autoIncrement = true ∧ column = Model.rowId) := by
  unfold Model.insertColumns
  rw [List.mem_filter, Bool.and_eq_true, Bool.not_eq_true', ← Bool.not_eq_true, Bool.and_eq_true, beq_iff_eq,
    and_assoc]

theorem upsertParams_eq_ok {m : Model υ} {r : Record υ} {p : Params} (h : m.upsertParams r = .ok p) :
    ∃ inserted, m.insertParams r = .ok inserted ∧
      p = if m.autoIncrement = true ∧ m.isStored r = true
        then ⟨(Model.rowId, r.stored Model.rowId) :: inserted.entries⟩ else inserted := by
  unfold Model.upsertParams at h
  obtain ⟨inserted, hinserted, h⟩ := ok_of_bind h
  refine ⟨inserted, hinserted, ?_⟩
  by_cases hnumbered : (m.autoIncrement && m.isStored r) = true
  · rw [if_pos hnumbered] at h
    rw [Bool.and_eq_true] at hnumbered
    have hcolumn : m.rowIdColumn = .ok Model.rowId := if_pos hnumbered.1
    rw [hcolumn] at h
    obtain ⟨v, hv, h⟩ := ok_of_bind (x := m.read r Model.rowId) h
    obtain ⟨f, hf, rfl⟩ := Model.read_eq_ok hv
    cases h
    obtain ⟨hnodup, -, hcolumns⟩ := Model.readAll_empty (Model.insertParams_eq_ok hinserted)
    have hnew : Model.rowId ∉ inserted.columns := fun hid =>
      rowId_not_mem_insertColumns hnumbered.1 r ((hcolumns _).mp hid)
    rw [if_pos hnumbered, Record.stored_of_field hf]
    exact congrArg Params.mk (Params.entries_insertAll (List.nodup_cons.mpr ⟨hnew, hnodup⟩))
  · rw [if_neg hnumbered] at h
    rw [Bool.and_eq_true] at hnumbered
    cases h
    exact (if_neg hnumbered).symm

theorem given_upsertParams {m : Model υ} {r : Record υ} {p : Params} (h : m.upsertParams r = .ok p)
    (column : String) : p.given column = if Brings m r column then [r.stored column] else [] := by
  obtain ⟨inserted, hinserted, rfl⟩ := upsertParams_eq_ok h
  have hgiven := Model.given_readAll (Model.insertParams_eq_ok hinserted) column
  by_cases hid : m.autoIncrement = true ∧ column = Model.rowId
  · obtain ⟨hauto, rfl⟩ := hid
    rw [if_neg (rowId_not_mem_insertColumns hauto r)] at hgiven
    have hbrings : Brings m r Model.rowId ↔ m.isStored r = true := by simp [Brings, hauto]
    simp only [hbrings, hauto, true_and]
    split
    · rw [Params.given_cons, if_pos rfl, hgiven]
    · exact hgiven
  · have hbrings : Brings m r column ↔ column ∈ m.insertColumns r := by simp [Brings, mem_insertColumns, hid]
    simp only [hbrings, ← hgiven]
    split
    · rename_i hnumbered
      have hne : ¬Model.rowId = column := fun heq => hid ⟨hnumbered.1, heq.symm⟩
      rw [Params.given_cons, if_neg hne]
    · rfl

/-- The statements that an upsert hands over, of which there is one at most. -/
def upsertTexts (m : Model υ) (d : Dialect) (r : Record υ) : List String :=
  match m.upsertParams r, m.updateParams r with
  | .ok insert, .ok update => prepared ((m.query d).upsertStatement insert update m.primaryKeys)
  | _, _ => []

theorem statements_upsert (m : Model υ) (c : Connection σ) (r : Record υ) (s : Session σ) :
    ((m.upsert c r).perform s).2.statements = s.statements ++ upsertTexts m c.dialect r := by
  unfold Model.upsert upsertTexts
  rw [Action.perform_bind, Action.perform_ofExcept]
  cases m.upsertParams r with
  | error e => simp
  | ok insert =>
    show (Action.perform (Action.ofExcept (m.updateParams r) >>= _) s).2.statements = _
    rw [Action.perform_bind, Action.perform_ofExcept]
    cases m.updateParams r with
    | error e => simp
    | ok update => exact statements_run c _ s

/-- The statement is the upsert of what the instance gives, with the primary keys for its conflict target. -/
def UpsertsGiven (m : Model υ) (d : Dialect) (r : Record υ) (sql : String) : Prop :=
  ∃ insert update, m.upsertParams r = .ok insert ∧ m.updateParams r = .ok update ∧
    sql = "insert into " ++ d.quoteName m.table ++ " (" ++
      ", ".intercalate (insert.columns.map d.quoteName) ++ ") values (" ++
      ", ".intercalate (d.literals insert) ++ ") on conflict (" ++
      ", ".intercalate (m.primaryKeys.map d.quoteName) ++ ") " ++ Query.conflictAction d.toSpelling update ∧
    (∀ column, insert.given column = if Brings m r column then [r.stored column] else []) ∧
    ((∀ key ∈ m.primaryKeys, insert.given key = [r.stored key]) ↔ ∀ key ∈ m.primaryKeys, Brings m r key)

theorem upsertsGiven_of_mem {m : Model υ} {d : Dialect} {r : Record υ} {sql : String}
    (h : sql ∈ upsertTexts m d r) : UpsertsGiven m d r sql := by
  unfold upsertTexts at h
  split at h
  · rename_i insert update hinsert hupdate
    obtain ⟨-, -, htext⟩ := Query.upsertStatement_eq_ok (eq_ok_of_mem_prepared h)
    unfold Query.upsertText at htext
    rw [m.dialect_query, m.table_query] at htext
    have hgiven := given_upsertParams hinsert
    refine ⟨insert, update, hinsert, hupdate, htext, hgiven, ?_⟩
    simp [hgiven]
  · cases h

/-- An upsert inserts every column of its conflict target, once and with what the instance stores for it,
exactly if every primary key is one that it brings. -/
theorem conflict_target_inserted (m : Model υ) (c : Connection σ) (r : Record υ) (s : Session σ) :
    ∃ sqls, ((m.upsert c r).perform s).2.statements = s.statements ++ sqls ∧
      ∀ sql ∈ sqls, UpsertsGiven m c.dialect r sql :=
  ⟨_, statements_upsert m c r s, fun _ => upsertsGiven_of_mem⟩

/-- A key that no insert may write and a key that the table does not have are missed, though both are in the
conflict target. The row id of a model that the database numbers is not, guarded as it is. -/
theorem conflict_target_missed :
    let page (id : Int64) : Record Unit :=
      ⟨[⟨⟨"id", "id", .required .long, true⟩, id⟩, ⟨⟨"name", "name", .required .text, true⟩, "n"⟩,
        ⟨⟨"rank", "rank", .required .long, false⟩, (3 : Int64)⟩], ()⟩
    let guarded : Model Unit :=
      { typeName := "Page", table := "page", initial := page 0, guarded := some ["id"], autoIncrement := false }
    let ranked : Model Unit :=
      { typeName := "Page", table := "page", initial := page 0, primaryKeys := ["id", "rank"],
        autoIncrement := false }
    let numbered : Model Unit :=
      { typeName := "Page", table := "page", initial := page 0, guarded := some ["id"] }
    let c : Connection Unit :=
      { dialect := .sqlite, execute := fun _ s => (.ok (), s), fetch := fun _ s => (.ok [], s)
        lastRowId := fun s => (.ok 0, s) }
    let upserted (m : Model Unit) := ((m.upsert c (page 7)).perform ⟨(), [], []⟩).2.statements
    (∀ m ∈ [guarded, ranked, numbered], m.isStored (page 7) = true) ∧
    upserted guarded =
      ["insert into `page` (`name`) values ('n') on conflict (`id`) do update set `name` = 'n'"] ∧
    upserted ranked =
      ["insert into `page` (`id`, `name`) values ('7', 'n') on conflict (`id`, `rank`) " ++
        "do update set `name` = 'n'"] ∧
    upserted numbered =
      ["insert into `page` (`id`, `name`) values ('7', 'n') on conflict (`id`) do update set `name` = 'n'"] := by
  intro page guarded ranked numbered c upserted
  refine ⟨?_, by decide +kernel, by decide +kernel, by decide +kernel⟩
  simp only [List.forall_mem_cons]
  decide

end SqlRecord.WrittenColumns

import SqlRecord.Proofs.JoinConditions
import SqlRecord.Proofs.Restriction
import SqlRecord.Proofs.RowIds
import SqlRecord.Proofs.WrittenColumns

/-! # Columns that may be written

The parameters of an insert or an update are the fields that may be written, each once and in their order, with
what is stored for them. The statements that are handed over set these columns and no others.
-/

namespace SqlRecord

namespace PermittedColumns

open Builder JoinConditions Restriction WriteBack WrittenColumns

variable {σ υ : Type}

/-! ## What may be written -/

/-- A model as it is derived: no two fields share a column, and its hooks change nothing but contents. -/
structure Derived (m : Model υ) : Prop where
  distinct : (m.initial.columns.map (·.name)).Nodup
  onInsert : ∀ r, (m.onInsert r).columns = r.columns
  onUpdate : ∀ r, (m.onUpdate r).columns = r.columns

/-- The fields that the table has and that a test on columns picks, in their order, with what is stored for
each. -/
def picked (r : Record υ) (test : String → Bool) : Params :=
  ⟨(r.fields.filter fun f => f.column.inTable && test f.column.name).map fun f => (f.column.name, f.value.stored)⟩

def inserted (m : Model υ) (r : Record υ) : Params :=
  picked r fun column => m.isAssignable column && !(m.autoIncrement && column == Model.rowId)

def updated (m : Model υ) (r : Record υ) : Params :=
  picked r fun column => m.isAssignable column && !m.primaryKeys.contains column

/-! ## Parameters -/

section

variable (m : Model υ) (r : Record υ)

theorem columns_picked (test : String → Bool) : (picked r test).columns = r.tableColumns.filter test := by
  simp only [picked, Params.columns, Record.tableColumns, Record.columns, List.filter_map, List.map_map,
    List.filter_filter, Function.comp_def, Bool.and_comm]

theorem columns_inserted : (inserted m r).columns = m.insertColumns r :=
  columns_picked r _

theorem columns_updated : (updated m r).columns = m.updateColumns r :=
  columns_picked r _

theorem mem_columns_inserted (column : String) :
    column ∈ (inserted m r).columns ↔ column ∈ r.tableColumns ∧ m.isAssignable column = true ∧
      ¬(m.autoIncrement = true ∧ column = Model.rowId) := by
  rw [columns_inserted, mem_insertColumns, and_assoc]

theorem mem_columns_updated (column : String) :
    column ∈ (updated m r).columns ↔ column ∈ r.tableColumns ∧ m.isAssignable column = true ∧
      column ∉ m.primaryKeys := by
  rw [columns_updated, Model.updateColumns]
  simp

end

section

variable {m : Model υ} {r : Record υ} (hr : (r.columns.map (·.name)).Nodup)
include hr

theorem params_picked (test : String → Bool) : r.params (picked r test).columns = picked r test := by
  rw [Record.params, Params.columns, picked, List.map_map, List.map_map]
  refine congrArg Params.mk (List.map_congr_left fun f hf => ?_)
  have hfield := Record.field_of_mem hr (List.mem_filter.mp hf).1
  exact congrArg (Prod.mk f.column.name) (Record.stored_of_field hfield)

theorem readAll_picked (test : String → Bool) :
    m.readAll r (r.tableColumns.filter test) .empty = .ok (picked r test) := by
  have hnodup : (r.tableColumns.filter test).Nodup := (Record.nodup_tableColumns hr).sublist List.filter_sublist
  rw [Model.readAll_params hnodup fun c hc => Record.isSome_get_of_tableColumns (List.mem_filter.mp hc).1,
    ← columns_picked, params_picked hr]

theorem readAll_insertColumns : m.readAll r (m.insertColumns r) .empty = .ok (inserted m r) :=
  readAll_picked hr _

theorem readAll_updateColumns : m.readAll r (m.updateColumns r) .empty = .ok (updated m r) :=
  readAll_picked hr _

theorem insertParams_eq :
    m.insertParams r =
      if m.strict = true ∧ (inserted m r).entries = [] then .error (.emptyInsertParams m.typeName)
      else .ok (inserted m r) := by
  rw [Model.insertParams, readAll_insertColumns hr]
  exact m.strict_eq _ _

theorem updateParams_eq :
    m.updateParams r =
      if m.primaryKeys = [] then .error (.emptyPrimaryKeys m.typeName)
      else if m.strict = true ∧ (updated m r).entries = [] then .error (.emptyUpdateParams m.typeName)
      else .ok (updated m r) := by
  rw [Model.updateParams, readAll_updateColumns hr]
  cases m.primaryKeys with
  | nil => rfl
  | cons key keys => exact m.strict_eq _ _

end

/-! ## Statements -/

/-- The statements that an insert hands over: one that inserts what may be inserted, if there is anything. -/
def insertSent (m : Model υ) (d : Dialect) (r : Record υ) : List String :=
  if (inserted m r).entries = [] then [] else [d.insertStatement m.table (inserted m r)]

/-- The statements that an update hands over: one that sets what may be updated, if there is anything and the
row has its keys. -/
def updateSent (m : Model υ) (d : Dialect) (r : Record υ) : List String :=
  match m.keyParams r with
  | .error _ => []
  | .ok keys =>
    if (updated m r).entries = [] then []
    else (prepared (m.queryWhere d keys).check).map fun _ =>
      d.updateStatement m.table (updated m r) (d.whereClause (m.queryWhere d keys).filters)

theorem filters_ne_nil {m : Model υ} {d : Dialect} {keys : Params} (hne : keys.entries ≠ [])
    (h : (m.queryWhere d keys).check = .ok ()) : (m.queryWhere d keys).filters ≠ [] := by
  rw [queryWhere_eq_query] at h ⊢
  have hnone : (keyEquals keys).flatMap (fun e => refusal (d.accept e)) = [] := by
    unfold Query.check at h
    split at h
    · rename_i hfailure
      exact List.head?_eq_none_iff.mp hfailure
    · cases h
  have hlength := (all_accepted hnone).length_eq
  intro (hnil : acceptedOf d (keyEquals keys) = [])
  rw [hnil, keyEquals, List.length_map, List.length_nil] at hlength
  exact hne (List.length_eq_zero_iff.mp hlength)

theorem updateStatement_queryWhere {m : Model υ} {r : Record υ} {keys : Params} (hkeys : m.keyParams r = .ok keys)
    (d : Dialect) {p : Params} (hp : p.entries ≠ []) :
    prepared ((m.queryWhere d keys).updateStatement p) =
      (prepared (m.queryWhere d keys).check).map fun _ =>
        d.updateStatement m.table p (d.whereClause (m.queryWhere d keys).filters) := by
  have hempty : p.isEmpty = false := by
    simpa [Params.isEmpty] using hp
  rw [Query.updateStatement_eq, hempty, dialect_queryWhere, table_queryWhere, strict_queryWhere]
  cases hcheck : (m.queryWhere d keys).check with
  | error e => rfl
  | ok =>
    have hguard : (m.strict && (m.queryWhere d keys).filters.isEmpty) = false := by
      cases hstrict : m.strict with
      | false => rfl
      | true => simpa using filters_ne_nil (ne_nil_of_strict hkeys hstrict) hcheck
    rw [hguard]
    rfl

section

variable {m : Model υ} {r : Record υ} (hr : (r.columns.map (·.name)).Nodup) (d : Dialect)
include hr

theorem insertTexts_eq : insertTexts m d r = insertSent m d r := by
  rw [insertTexts, insertSent, insertParams_eq hr]
  by_cases hnone : (inserted m r).entries = []
  · cases m.strict <;> simp [hnone, Params.isEmpty]
  · have hempty : (inserted m r).isEmpty = false := by
      simpa [Params.isEmpty] using hnone
    simp only [hnone, and_false, if_false, hempty, Bool.false_eq_true, Model.insertStatement_query m d hempty]
    rfl

theorem updateTexts_eq : updateTexts m d r = updateSent m d r := by
  rw [updateTexts, updateSent]
  cases hkeys : m.keyParams r with
  | error e => rfl
  | ok keys =>
    have hprimary : m.primaryKeys ≠ [] := by
      intro hnil
      rw [Model.keyParams, hnil] at hkeys
      cases hkeys
    rw [updateParams_eq hr, if_neg hprimary]
    by_cases hnone : (updated m r).entries = []
    · cases m.strict <;> simp [hnone, Params.isEmpty]
    · have hempty : (updated m r).isEmpty = false := by
        simpa [Params.isEmpty] using hnone
      simp only [hnone, and_false, if_false, hempty, Bool.false_eq_true]
      exact updateStatement_queryWhere hkeys d hnone

end

/-! ## The main result -/

/-- What an insert writes is every field that the table has and that is assignable, without a row id that the
database gives. What an update writes is without the primary keys. Both are in the order of the fields, with
what is stored for each, and refused where there is nothing and the model is strict. No statement of an insert,
an update or a save sets anything else. -/
theorem permitted_columns_written {m : Model υ} (hm : Derived m) {r : Record υ}
    (hr : r.columns = m.initial.columns) (c : Connection σ) :
    (m.insertParams r =
        if m.strict = true ∧ (inserted m r).entries = [] then .error (.emptyInsertParams m.typeName)
        else .ok (inserted m r)) ∧
    (m.updateParams r =
        if m.primaryKeys = [] then .error (.emptyPrimaryKeys m.typeName)
        else if m.strict = true ∧ (updated m r).entries = [] then .error (.emptyUpdateParams m.typeName)
        else .ok (updated m r)) ∧
    (∀ column, column ∈ (inserted m r).columns ↔ column ∈ r.tableColumns ∧ m.isAssignable column = true ∧
      ¬(m.autoIncrement = true ∧ column = Model.rowId)) ∧
    (∀ column, column ∈ (updated m r).columns ↔ column ∈ r.tableColumns ∧ m.isAssignable column = true ∧
      column ∉ m.primaryKeys) ∧
    (∀ fillable, m.fillable = some fillable → ∀ column, m.isAssignable column = true ↔ column ∈ fillable) ∧
    (m.fillable = none → ∀ column, m.isAssignable column = true ↔ ∀ guarded ∈ m.guarded, column ∉ guarded) ∧
    (∀ s, ((m.insert c r).run s).2.statements = s.statements ++ insertSent m c.dialect (m.onInsert r)) ∧
    (∀ s, ((m.update c r).run s).2.statements = s.statements ++ updateSent m c.dialect (m.onUpdate r)) ∧
    ∀ s, ((m.save c r).run s).2.statements = s.statements ++
      if m.isStored r then updateSent m c.dialect (m.onUpdate r) else insertSent m c.dialect (m.onInsert r) := by
  have hdistinct : (r.columns.map (·.name)).Nodup := by
    rw [hr]
    exact hm.distinct
  have hinserts : ∀ s, ((m.insert c r).run s).2.statements =
      s.statements ++ insertSent m c.dialect (m.onInsert r) := by
    intro s
    rw [statements_insert, insertTexts_eq]
    rwa [hm.onInsert]
  have hupdates : ∀ s, ((m.update c r).run s).2.statements =
      s.statements ++ updateSent m c.dialect (m.onUpdate r) := by
    intro s
    rw [statements_update, updateTexts_eq]
    rwa [hm.onUpdate]
  refine ⟨insertParams_eq hdistinct, updateParams_eq hdistinct, mem_columns_inserted m r,
    mem_columns_updated m r, ?fillable, ?guarded, hinserts, hupdates, ?save⟩
  case fillable =>
    intro fillable hfillable column
    rw [Model.isAssignable, hfillable]
    exact List.contains_iff_mem
  case guarded =>
    intro hfillable column
    rw [Model.isAssignable, hfillable]
    cases m.guarded <;> simp
  case save =>
    intro s
    unfold Model.save
    split
    · exact hupdates s
    · exact hinserts s

/-- A whitelist counts though a blacklist is given too. It lets neither an alias through nor a primary key. -/
theorem permitted_columns_written_note :
    let note (id : Int64) : Record Unit :=
      ⟨[⟨⟨"id", "id", .required .long, true⟩, id⟩, ⟨⟨"done", "done", .required .bool, true⟩, true⟩,
        ⟨⟨"author", "author", .optional .text, false⟩, some "Ada"⟩,
        ⟨⟨"secret", "secret", .required .text, true⟩, "s"⟩,
        ⟨⟨"title", "title", .required .text, true⟩, "O'Neil"⟩,
        ⟨⟨"part", "part", .required .int, true⟩, (2 : Int32)⟩], ()⟩
    let m : Model Unit :=
      { typeName := "Note", table := "note", initial := note 0, primaryKeys := ["id", "part"]
        fillable := some ["part", "author", "title", "id", "done"], guarded := some ["title"] }
    let c : Connection Unit :=
      { dialect := .sqlite, execute := fun _ s => (.ok (), s), fetch := fun _ s => (.ok [], s)
        lastRowId := fun s => (.ok 7, s) }
    m.insertParams (note 0) = .ok ⟨[("done", .int 1), ("title", .text "O'Neil"), ("part", .int 2)]⟩ ∧
    m.updateParams (note 0) = .ok ⟨[("done", .int 1), ("title", .text "O'Neil")]⟩ ∧
    ((m.save c (note 0)).run ⟨(), [], []⟩).2.statements =
      ["insert into `note` (`done`, `title`, `part`) values ('1', 'O''Neil', '2')"] ∧
    ((m.save c (note 7)).run ⟨(), [], []⟩).2.statements =
      ["update `note` set `done` = '1', `title` = 'O''Neil' where `id` = '7' and `part` = '2'"] := by
  intro note m c
  have hm : Derived m := ⟨by decide, fun _ => rfl, fun _ => rfl⟩
  obtain ⟨hinsert, hupdate, -, -, -, -, -, -, hnew⟩ := permitted_columns_written hm (r := note 0) rfl c
  obtain ⟨-, -, -, -, -, -, -, -, hold⟩ := permitted_columns_written hm (r := note 7) rfl c
  exact ⟨hinsert.trans (by decide), hupdate.trans (by decide), (hnew _).trans (by decide +kernel),
    (hold _).trans (by decide +kernel)⟩

end PermittedColumns

end SqlRecord

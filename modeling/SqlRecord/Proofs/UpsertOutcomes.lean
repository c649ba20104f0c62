import SqlRecord.Proofs.PermittedColumns
import SqlRecord.Proofs.Upserts

/-! # Upserts of what can be inserted

An upsert takes what an insert takes and what an update takes, so it stops where one of them does. Where an
insert has something to write, only a strict model without a column to update stops it.
-/

namespace SqlRecord.UpsertOutcomes

open Builder PermittedColumns WriteBack WrittenColumns

variable {σ υ : Type}

/-! ## Parameters -/

/-- What an upsert inserts. A stored instance that the database has numbered brings its row id first. -/
def brought (m : Model υ) (r : Record υ) : Params :=
  if m.autoIncrement = true ∧ m.isStored r = true
    then ⟨(Model.rowId, r.stored Model.rowId) :: (inserted m r).entries⟩ else inserted m r

theorem isEmpty_brought {m : Model υ} {r : Record υ} (h : (inserted m r).entries ≠ []) :
    (brought m r).isEmpty = false := by
  unfold brought
  split
  · rfl
  · simpa [Params.isEmpty] using h

theorem isSome_get_of_mem_columns {r : Record υ} {column : String} (h : column ∈ r.columns.map (·.name)) :
    (r.get? column).isSome = true := by
  rw [Record.columns, List.map_map, List.mem_map] at h
  obtain ⟨f, hf, hname⟩ := h
  rw [Record.get?, Option.isSome_map, List.find?_isSome]
  exact ⟨f, hf, decide_eq_true hname⟩

section

variable {m : Model υ} {r : Record υ} (hr : (r.columns.map (·.name)).Nodup)
include hr

theorem upsertParams_eq (hid : m.autoIncrement = true → Model.rowId ∈ r.columns.map (·.name))
    (h : (inserted m r).entries ≠ []) : m.upsertParams r = .ok (brought m r) := by
  have hinsert : m.insertParams r = .ok (inserted m r) := by
    rw [insertParams_eq hr, if_neg fun hnone => h hnone.2]
  obtain ⟨p, hp⟩ : ∃ p, m.upsertParams r = .ok p := by
    unfold Model.upsertParams
    rw [hinsert]
    cases hauto : m.autoIncrement with
    | false => exact ⟨_, rfl⟩
    | true =>
      cases m.isStored r with
      | false => exact ⟨_, rfl⟩
      | true =>
        have hcolumn : m.rowIdColumn = .ok Model.rowId := if_pos hauto
        have hread := Model.read_stored (m := m) (isSome_get_of_mem_columns (hid hauto))
        rw [hcolumn]
        show ∃ p, (m.read r Model.rowId >>= fun v => _) = Except.ok p
        rw [hread]
        exact ⟨_, rfl⟩
  obtain ⟨p', hp', rfl⟩ := upsertParams_eq_ok hp
  cases hinsert.symm.trans hp'
  exact hp

end

/-! ## Statements -/

theorem insert_sends_iff {m : Model υ} {r : Record υ} (hr : (r.columns.map (·.name)).Nodup)
    (c : Connection σ) (s : Session σ) :
    ((m.insertPrepared c r).perform s).2.statements ≠ s.statements ↔ (inserted m r).entries ≠ [] := by
  rw [statements_insertPrepared, insertTexts_eq hr, insertSent]
  split <;> simp [*]

theorem upsertText_query (m : Model υ) (d : Dialect) {p : Params} (h : p.isEmpty = false) (update : Params) :
    (m.query d).upsertText p update m.primaryKeys =
      d.toSpelling.insertStatement m.table p ++
        Upserts.conflictClause d.toSpelling update m.primaryKeys := by
  rw [Upserts.upsertText_eq _ h, m.dialect_query, m.table_query]

theorem upsertTexts_eq {m : Model υ} {r : Record υ} {p update : Params} (hp : m.upsertParams r = .ok p)
    (hempty : p.isEmpty = false) (hupdate : m.updateParams r = .ok update) (d : Dialect) :
    upsertTexts m d r =
      [d.toSpelling.insertStatement m.table p ++
        Upserts.conflictClause d.toSpelling update m.primaryKeys] := by
  have hcheck : (m.query d).check = .ok () := by rw [Query.check, m.failure_query]
  rw [upsertTexts, hp, hupdate, ← upsertText_query m d hempty]
  simp only [Query.upsertStatement_eq, hcheck, hempty]
  rfl

theorem upsert_of_updateParams_error {m : Model υ} {r : Record υ} {p : Params} {e : ModelError}
    (hp : m.upsertParams r = .ok p) (he : m.updateParams r = .error e) (c : Connection σ) (s : Session σ) :
    (m.upsert c r).perform s = (.error e, s) := by
  rw [Model.upsert, hp, he]
  rfl

theorem updateParams_of_keys {m : Model υ} {r : Record υ} (hr : (r.columns.map (·.name)).Nodup)
    (hkeys : m.primaryKeys ≠ []) :
    m.updateParams r =
      if m.strict = true ∧ m.updateColumns r = [] then .error (.emptyUpdateParams m.typeName)
      else .ok (r.params (m.updateColumns r)) := by
  have hparams : r.params (m.updateColumns r) = updated m r := by
    rw [← columns_updated]
    exact params_picked hr _
  have hnone : m.updateColumns r = [] ↔ (updated m r).entries = [] := by
    rw [← columns_updated]
    exact List.map_eq_nil_iff
  rw [updateParams_eq hr, if_neg hkeys, hparams]
  simp only [hnone]

/-! ## The main result -/

/-- Where an insert hands over a statement, an upsert hands over that insertion, with the row id of a numbered
instance in it, and says behind it to set the assignable columns that are no keys, or to do nothing where there
are none. Only a strict model refuses to do nothing, and then no statement is handed over. -/
theorem insertable_upserted {m : Model υ} (hm : (m.initial.columns.map (·.name)).Nodup)
    (hkeys : m.primaryKeys ≠ [])
    (hid : m.autoIncrement = true → Model.rowId ∈ m.initial.columns.map (·.name)) {r : Record υ}
    (hr : r.columns = m.initial.columns) (c : Connection σ) (s : Session σ)
    (hinsert : ((m.insertPrepared c r).perform s).2.statements ≠ s.statements) :
    let d := c.dialect
    let columns := r.tableColumns.filter fun column => m.isAssignable column ∧ column ∉ m.primaryKeys
    if m.strict = true ∧ columns = [] then
      (m.upsert c r).perform s = (.error (.emptyUpdateParams m.typeName), s)
    else
      ((m.upsert c r).perform s).2.statements = s.statements ++
        [d.toSpelling.insertStatement m.table (brought m r) ++ " on conflict (" ++
          ", ".intercalate (m.primaryKeys.map d.quoteName) ++ ") " ++
          if columns = [] then "do nothing"
          else "do update set " ++ d.toSpelling.assignments (r.params columns)] := by
  intro d columns
  have hdistinct : (r.columns.map (·.name)).Nodup := hr ▸ hm
  have hcolumns : m.updateColumns r = columns := List.filter_congr fun column _ => by simp
  have hsome : (inserted m r).entries ≠ [] := (insert_sends_iff hdistinct c s).mp hinsert
  have hupsert : m.upsertParams r = .ok (brought m r) := upsertParams_eq hdistinct (hr ▸ hid) hsome
  have hupdate := updateParams_of_keys hdistinct hkeys
  rw [hcolumns] at hupdate
  split
  · rename_i hrefused
    exact upsert_of_updateParams_error hupsert (hupdate.trans (if_pos hrefused)) c s
  · rename_i hallowed
    have hempty : (r.params columns).isEmpty = true ↔ columns = [] := by
      simp [Params.isEmpty, Record.params]
    rw [statements_upsert,
      upsertTexts_eq hupsert (isEmpty_brought hsome) (hupdate.trans (if_neg hallowed))]
    unfold Upserts.conflictClause
    rw [← Upserts.conflictAction_eq]
    unfold Query.conflictAction
    simp only [hempty, String.append_assoc]
    rfl

/-- A guarded column is neither inserted nor set, and the row id of a stored page is inserted with the rest. The
columns of a lenient membership are all keys, so that nothing is left to set. -/
theorem insertable_upserted_membership :
    let page : Record Unit :=
      ⟨[⟨⟨"id", "id", .required .long, true⟩, (7 : Int64)⟩, ⟨⟨"title", "title", .required .text, true⟩, "O'Neil"⟩,
        ⟨⟨"views", "views", .required .int, true⟩, (3 : Int32)⟩, ⟨⟨"live", "live", .required .bool, true⟩, true⟩], ()⟩
    let membership : Record Unit :=
      ⟨[⟨⟨"user_id", "user_id", .required .long, true⟩, (1 : Int64)⟩,
        ⟨⟨"group_id", "group_id", .required .long, true⟩, (2 : Int64)⟩], ()⟩
    let pages : Model Unit := { typeName := "Page", table := "page", initial := page, guarded := some ["views"] }
    let memberships : Model Unit :=
      { typeName := "Membership", table := "membership", initial := membership
        primaryKeys := ["user_id", "group_id"], autoIncrement := false, strict := false }
    let c : Connection Unit :=
      { dialect := .sqlite, execute := fun _ s => (.ok (), s), fetch := fun _ s => (.ok [], s)
        lastRowId := fun s => (.ok 8, s) }
    ((pages.insertPrepared c page).perform ⟨(), [], []⟩).2.statements ≠ [] ∧
    ((memberships.insertPrepared c membership).perform ⟨(), [], []⟩).2.statements ≠ [] ∧
    ((pages.upsert c page).perform ⟨(), [], []⟩).2.statements =
      ["insert into `page` (`id`, `title`, `live`) values ('7', 'O''Neil', '1') on conflict (`id`) " ++
        "do update set `title` = 'O''Neil', `live` = '1'"] ∧
    ((memberships.upsert c membership).perform ⟨(), [], []⟩).2.statements =
      ["insert into `membership` (`user_id`, `group_id`) values ('1', '2') " ++
        "on conflict (`user_id`, `group_id`) do nothing"] := by
  intro page membership pages memberships c
  have hpage : ((pages.insertPrepared c page).perform ⟨(), [], []⟩).2.statements ≠ [] := by decide +kernel
  have hmembership : ((memberships.insertPrepared c membership).perform ⟨(), [], []⟩).2.statements ≠ [] := by
    decide +kernel
  have hset := insertable_upserted (m := pages) (by decide) (by decide) (fun _ => by decide) (r := page) rfl c
    ⟨(), [], []⟩ hpage
  have hnothing := insertable_upserted (m := memberships) (by decide) (by decide) (fun h => by cases h)
    (r := membership) rfl c ⟨(), [], []⟩ hmembership
  rw [if_neg (by decide)] at hset hnothing
  exact ⟨hpage, hmembership, hset.trans (by decide +kernel), hnothing.trans (by decide +kernel)⟩

/-- A strict model whose columns are all keys can be inserted and cannot be upserted. -/
theorem keys_alone_refused :
    let membership : Record Unit :=
      ⟨[⟨⟨"user_id", "user_id", .required .long, true⟩, (1 : Int64)⟩,
        ⟨⟨"group_id", "group_id", .required .long, true⟩, (2 : Int64)⟩], ()⟩
    let m : Model Unit :=
      { typeName := "Membership", table := "membership", initial := membership
        primaryKeys := ["user_id", "group_id"], autoIncrement := false }
    let c : Connection Unit :=
      { dialect := .sqlite, execute := fun _ s => (.ok (), s), fetch := fun _ s => (.ok [], s)
        lastRowId := fun s => (.ok 8, s) }
    m.strict = true ∧
    ((m.insertPrepared c membership).perform ⟨(), [], []⟩).2.statements =
      ["insert into `membership` (`user_id`, `group_id`) values ('1', '2')"] ∧
    ((m.upsert c membership).perform ⟨(), [], []⟩).1 = .error (.emptyUpdateParams "Membership") ∧
    ((m.upsert c membership).perform ⟨(), [], []⟩).2.statements = [] := by
  decide +kernel

end SqlRecord.UpsertOutcomes

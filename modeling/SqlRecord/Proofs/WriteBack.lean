import SqlRecord.Model.Run
import SqlRecord.Proofs.Builder
import SqlRecord.Proofs.Cells
import SqlRecord.Proofs.Parameters

/-! # Records written back

A record that a query of its model has read is written back as it is. Every column goes back as its field was
filled, in the form that is stored, which is what the row holds if the row holds it in that form. What the
select list does not read, as it is hidden, is written with the default of its field.
-/

namespace SqlRecord.WriteBack

variable {σ υ : Type}

/-! ## What is read -/

/-- Whether a select list reads a column. The empty one, which is written as a star, reads all. -/
def covers (items : List Selection) (column : String) : Bool :=
  items.isEmpty || items.contains (.column column)

/-- What a select list shows of a stored row. -/
def shown (items : List Selection) (row : Row) : Row :=
  ⟨row.cells.filter fun e => covers items e.1⟩

theorem get_shown (items : List Selection) (row : Row) (column : String) :
    (shown items row).get? column = if covers items column then row.get? column else none := by
  show (row.cells.filter fun e => covers items e.1).lookup column =
    if covers items column then row.cells.lookup column else none
  induction row.cells with
  | nil => split <;> rfl
  | cons e es ih =>
    rw [Params.lookup_cons_eq_ite, List.filter_cons]
    by_cases he : column = e.1
    · subst he
      rw [if_pos rfl]
      cases hc : covers items e.1 with
      | true => rw [if_pos rfl, if_pos rfl, Params.lookup_cons_eq_ite, if_pos rfl]
      | false =>
        rw [if_neg Bool.false_ne_true, ih, hc]
        rfl
    · rw [if_neg he, ← ih]
      split
      · rw [Params.lookup_cons_eq_ite, if_neg he]
      · rfl

theorem covers_query (m : Model υ) (d : Dialect) (column : String) :
    covers (m.query d).selections column =
      (m.hidden.isEmpty || m.visibleColumns.isEmpty || m.visibleColumns.contains column) := by
  rw [m.selections_query]
  split
  · rename_i h
    simp [covers, h]
  · rename_i h
    have hcontains : (m.visibleColumns.map Selection.column).contains (.column column) =
        m.visibleColumns.contains column := by
      rw [Bool.eq_iff_iff]
      simp
    rw [covers, hcontains, List.isEmpty_map, eq_false_of_ne_true h, Bool.false_or]

/-- A call that leaves the select list alone. -/
def KeepsSelections : Clause → Prop
  | .select _ => False
  | .selectRaw _ _ => False
  | _ => True

theorem selections_add {q : Query} {x : Clause} (h : KeepsSelections x) :
    (q.add x).selections = q.selections := by
  rw [Builder.add_eq]
  cases x with
  | select names => exact h.elim
  | selectRaw sql newName => exact h.elim
  | _ => rfl

theorem selections_addAll {q : Query} {xs : List Clause} (h : ∀ x ∈ xs, KeepsSelections x) :
    (q.addAll xs).selections = q.selections := by
  induction xs generalizing q with
  | nil => rfl
  | cons x xs ih =>
    rw [Builder.addAll_cons, ih fun y hy => h y (List.mem_cons_of_mem _ hy),
      selections_add (h x List.mem_cons_self)]

/-- The connection answers a query with what the select list shows of stored rows. -/
def Serves (c : Connection σ) (s : Session σ) (q : Query) (rows : List Row) : Prop :=
  ∀ sql, q.selectStatement = .ok sql → (c.fetch sql s.memory).1 = .ok (rows.map (shown q.selections))

/-- A record that a query of the model or a search by row id has made of a stored row. -/
inductive Obtained (m : Model υ) (c : Connection σ) (row : Row) (r : Record υ) : Prop
  | records (xs : List Clause) (s s' : Session σ) (rows : List Row) (rs : List (Record υ))
      (keeps : ∀ x ∈ xs, KeepsSelections x)
      (serves : Serves c s ((m.query c.dialect).addAll xs) rows)
      (runs : (((m.query c.dialect).addAll xs).records c m.toRecordType).perform s = (.ok rs, s'))
      (found : (row, r) ∈ rows.zip rs)
  | first (xs : List Clause) (s s' : Session σ) (rows : List Row)
      (keeps : ∀ x ∈ xs, KeepsSelections x)
      (serves : Serves c s (((m.query c.dialect).addAll xs).add (.limit 1)) (row :: rows))
      (runs : (((m.query c.dialect).addAll xs).first c m.toRecordType).perform s = (.ok (some r), s'))
  | find (id : Value) (s s' : Session σ) (rows : List Row)
      (serves : Serves c s
        (((m.query c.dialect).add (.filter (.equals .and Model.rowId id))).add (.limit 1)) (row :: rows))
      (runs : (m.find c id).perform s = (.ok (some r), s'))

theorem of_mem_zip_map {α β : Type} {f : α → β} {xs : List α} {x : α} {y : β}
    (h : (x, y) ∈ xs.zip (xs.map f)) : y = f x := by
  induction xs with
  | nil => cases h
  | cons z zs ih =>
    rcases List.mem_cons.mp h with h | h
    · cases h
      rfl
    · exact ih h

theorem eq_ofRow_of_records {q : Query} {c : Connection σ} {t : RecordType υ} {s s' : Session σ}
    {rows : List Row} {rs : List (Record υ)} (hserves : Serves c s q rows)
    (h : (q.records c t).perform s = (.ok rs, s')) {row : Row} {r : Record υ}
    (hfound : (row, r) ∈ rows.zip rs) : r = (t.ofRow (shown q.selections row)).1 := by
  obtain ⟨sql, shownRows, hsql, hfetch, rfl⟩ := Query.records_eq_ok h
  cases hfetch.symm.trans (hserves sql hsql)
  rw [List.map_map] at hfound
  exact of_mem_zip_map (f := fun row => (t.ofRow (shown q.selections row)).1) hfound

theorem eq_ofRow_of_first {q : Query} {c : Connection σ} {t : RecordType υ} {s s' : Session σ}
    {row : Row} {rows : List Row} (hserves : Serves c s (q.add (.limit 1)) (row :: rows)) {r : Record υ}
    (h : (q.first c t).perform s = (.ok (some r), s')) : r = (t.ofRow (shown q.selections row)).1 := by
  obtain ⟨sql, shownRows, hsql, hfetch, hhead⟩ := Query.first_eq_ok h
  cases hfetch.symm.trans (hserves sql hsql)
  exact (Option.some.inj hhead).symm

theorem eq_ofRow_of_obtained {m : Model υ} {c : Connection σ} {row : Row} {r : Record υ}
    (h : Obtained m c row r) : r = (m.ofRow (shown (m.query c.dialect).selections row)).1 := by
  cases h with
  | records xs s s' rows rs keeps serves runs found =>
    rw [← selections_addAll keeps]
    exact eq_ofRow_of_records serves runs found
  | first xs s s' rows keeps serves runs =>
    rw [← selections_addAll keeps]
    exact eq_ofRow_of_first serves runs
  | find id s s' rows serves runs =>
    unfold Model.find at runs
    rw [Action.perform_bind, Action.perform_ofExcept] at runs
    cases hcolumn : m.rowIdColumn with
    | error e =>
      rw [hcolumn] at runs
      cases runs
    | ok column =>
      obtain rfl : column = Model.rowId := by
        unfold Model.rowIdColumn at hcolumn
        split at hcolumn
        · cases hcolumn
          rfl
        · cases hcolumn
      rw [hcolumn] at runs
      have hkeeps : KeepsSelections (.filter (.equals .and Model.rowId id)) := trivial
      rw [← selections_add hkeeps]
      exact eq_ofRow_of_first serves (Action.ok_of_mapError runs)

/-! ## What is written -/

/-- The cell of a column that a select list shows, if there is one. -/
def cell? (items : List Selection) (row : Row) (column : String) : Option Value :=
  if covers items column then row.get? column else none

/-- The cell is what a field of the column gives when it is stored. -/
def Native (column : Column) (cell : Value) : Prop :=
  ∃ x : column.type.Content, column.type.ReadsBack x ∧ cell = (column.type.toValue x).stored

/-- What is written for a column whose default field is `f` when a row is given back: what the cell that is
shown makes of the field, as it is stored. That is the cell itself if it has been stored by such a field. -/
structure GivesBack (items : List Selection) (row : Row) (f : Field) (v : Value) : Prop where
  written : v =
    (f.column.type.toValue (f.column.type.decided f.content (cell? items row f.column.name))).stored
  unchanged : ∀ cell, cell? items row f.column.name = some cell → Native f.column cell → v = cell

theorem givesBack_fromRow (items : List Selection) (row : Row) (f : Field) :
    GivesBack items row f (f.fromRow (shown items row)).value.stored where
  written := by
    rw [Field.fromRow_eq, get_shown]
    rfl
  unchanged := by
    rintro cell hcell ⟨x, hx, rfl⟩
    have hshown : (shown items row).get? f.column.name = some (f.column.type.toValue x).stored := by
      rw [get_shown]
      exact hcell
    have hfill : f.fromRow (shown items row) = ⟨f.column, x⟩ :=
      Field.fromRow_stored (f := ⟨f.column, x⟩) (g := f) rfl hx hshown rfl
    rw [hfill]
    rfl

/-- All parameters give the row back as the model's query shows it. -/
def Faithful (m : Model υ) (d : Dialect) (row : Row) (p : Params) : Prop :=
  ∀ e ∈ p.entries, ∃ f, m.initial.field? e.1 = some f ∧ GivesBack (m.query d).selections row f e.2

theorem faithful_of_readAll {m : Model υ} (hdistinct : (m.initial.columns.map (·.name)).Nodup) {row : Row}
    {d : Dialect} {r : Record υ} (hr : r.fields = (m.ofRow (shown (m.query d).selections row)).1.fields)
    {cs : List String} {p : Params} (hp : m.readAll r cs .empty = .ok p) : Faithful m d row p := by
  intro e he
  obtain ⟨g, hg, hv⟩ := (Model.readAll_empty hp).2.1 e he
  rw [Record.field?, hr, ← Record.field?, m.toRecordType.field_ofRow _ hdistinct] at hg
  obtain ⟨f, hf, rfl⟩ := Option.map_eq_some_iff.mp hg
  rw [hv]
  exact ⟨f, hf, givesBack_fromRow _ row f⟩

/-! ## What is handed over -/

open Builder in
/-- The statements that an update hands over, of which there is one at most. -/
def updateTexts (m : Model υ) (d : Dialect) (r : Record υ) : List String :=
  match m.keyParams r, m.updateParams r with
  | .ok keys, .ok p => if p.isEmpty then [] else prepared ((m.queryWhere d keys).updateStatement p)
  | _, _ => []

open Builder in
/-- The statements that an insert hands over, of which there is one at most. -/
def insertTexts (m : Model υ) (d : Dialect) (r : Record υ) : List String :=
  match m.insertParams r with
  | .ok p => if p.isEmpty then [] else prepared ((m.query d).insertStatement p)
  | .error _ => []

open Builder in
theorem statements_run (c : Connection σ) (r : Except QueryError String) (s : Session σ) :
    ((Action.ofExcept r >>= Query.run c).perform s).2.statements = s.statements ++ prepared r := by
  cases r with
  | error e => simp [prepared]
  | ok sql => simp [prepared, Query.statements_run]

theorem statements_updatePrepared (m : Model υ) (c : Connection σ) (r : Record υ) (s : Session σ) :
    ((m.updatePrepared c r).perform s).2.statements = s.statements ++ updateTexts m c.dialect r := by
  unfold Model.updatePrepared updateTexts
  rw [Action.perform_bind, Action.perform_ofExcept]
  cases m.keyParams r with
  | error e => simp
  | ok keys =>
    show (Action.perform (Action.ofExcept (m.updateParams r) >>= _) s).2.statements = _
    rw [Action.perform_bind, Action.perform_ofExcept]
    cases m.updateParams r with
    | error e => simp
    | ok p =>
      cases hempty : p.isEmpty with
      | true => simp [hempty]
      | false =>
        simp only [hempty, Bool.false_eq_true, if_false]
        exact statements_run c _ s

theorem statements_takeRowId (m : Model υ) (c : Connection σ) (r : Record υ) (s : Session σ) :
    ((m.takeRowId c r).perform s).2.statements = s.statements := by
  unfold Model.takeRowId
  rw [Action.perform_bind, Model.ofQuery, Action.perform_mapError, Action.perform_ofMemory]
  cases (c.lastRowId s.memory).1 with
  | error e => rfl
  | ok n =>
    show ((Action.ofExcept m.rowIdColumn >>= _).perform _).2.statements = _
    rw [Action.perform_bind, Action.perform_ofExcept]
    cases m.rowIdColumn <;> rfl

theorem statements_insertPrepared (m : Model υ) (c : Connection σ) (r : Record υ) (s : Session σ) :
    ((m.insertPrepared c r).perform s).2.statements = s.statements ++ insertTexts m c.dialect r := by
  unfold Model.insertPrepared insertTexts
  rw [Action.perform_bind, Action.perform_ofExcept]
  cases m.insertParams r with
  | error e => simp
  | ok p =>
    cases hempty : p.isEmpty with
    | true => simp [hempty]
    | false =>
      simp only [hempty, Bool.false_eq_true, if_false]
      rw [Action.statements_bind]
      · exact statements_run c _ s
      · intro u s'
        split
        · exact statements_takeRowId m c r s'
        · rfl

theorem statements_update (m : Model υ) (c : Connection σ) (r : Record υ) (s : Session σ) :
    ((m.update c r).run s).2.statements = s.statements ++ updateTexts m c.dialect (m.onUpdate r) :=
  statements_updatePrepared m c (m.onUpdate r) s

theorem statements_insert (m : Model υ) (c : Connection σ) (r : Record υ) (s : Session σ) :
    ((m.insert c r).run s).2.statements = s.statements ++ insertTexts m c.dialect (m.onInsert r) := by
  rw [← statements_insertPrepared m c (m.onInsert r) s]
  unfold Model.insert
  apply Action.statements_run_bind
  intro outcome s'
  cases outcome <;> rfl

open Builder in
theorem of_mem_updateTexts {m : Model υ} {d : Dialect} {r : Record υ} {sql : String}
    (h : sql ∈ updateTexts m d r) :
    ∃ keys p, m.keyParams r = .ok keys ∧ m.updateParams r = .ok p ∧
      (m.queryWhere d keys).updateStatement p = .ok sql := by
  unfold updateTexts at h
  split at h
  · rename_i keys p hkeys hp
    split at h
    · cases h
    · exact ⟨keys, p, hkeys, hp, eq_ok_of_mem_prepared h⟩
  · cases h

open Builder in
theorem of_mem_insertTexts {m : Model υ} {d : Dialect} {r : Record υ} {sql : String}
    (h : sql ∈ insertTexts m d r) :
    ∃ p, m.insertParams r = .ok p ∧ (m.query d).insertStatement p = .ok sql := by
  unfold insertTexts at h
  split at h
  · rename_i p hp
    split at h
    · cases h
    · exact ⟨p, hp, eq_ok_of_mem_prepared h⟩
  · cases h

/-- Statements that set, insert and compare nothing but faithful parameters. -/
def FaithfulTexts (m : Model υ) (d : Dialect) (row : Row) (r : Record υ) (sqls : List String) : Prop :=
  ∀ sql ∈ sqls,
    (∃ keys p, (m.queryWhere d keys).updateStatement p = .ok sql ∧ Faithful m d row keys ∧
      Faithful m d row p ∧ ∀ c, c ∈ p.columns ↔ c ∈ m.updateColumns r) ∨
    ∃ p, (m.query d).insertStatement p = .ok sql ∧ Faithful m d row p ∧
      ∀ c, c ∈ p.columns ↔ c ∈ m.insertColumns r

section

variable {m : Model υ} (hdistinct : (m.initial.columns.map (·.name)).Nodup) {row : Row} {d : Dialect}
  {r : Record υ} (hr : r.fields = (m.ofRow (shown (m.query d).selections row)).1.fields)
include hdistinct hr

theorem faithful_updateTexts : FaithfulTexts m d row r (updateTexts m d r) := by
  intro sql hsql
  obtain ⟨keys, p, hkeys, hp, hstatement⟩ := of_mem_updateTexts hsql
  obtain ⟨cs, -, hread⟩ := Model.keyParams_eq_ok hkeys
  have hwrite := Model.updateParams_eq_ok hp
  exact Or.inl ⟨keys, p, hstatement, faithful_of_readAll hdistinct hr hread,
    faithful_of_readAll hdistinct hr hwrite, (Model.readAll_empty hwrite).2.2⟩

theorem faithful_insertTexts : FaithfulTexts m d row r (insertTexts m d r) := by
  intro sql hsql
  obtain ⟨p, hp, hstatement⟩ := of_mem_insertTexts hsql
  have hwrite := Model.insertParams_eq_ok hp
  exact Or.inr ⟨p, hstatement, faithful_of_readAll hdistinct hr hwrite, (Model.readAll_empty hwrite).2.2⟩

end

/-! ## The main result -/

theorem covers_updated {m : Model υ} (d : Dialect) {r : Record υ}
    (hcolumns : r.tableColumns = m.initial.tableColumns) :
    (∀ column ∈ m.updateColumns r, covers (m.query d).selections column = true) ↔
      m.visibleColumns = [] ∨ ∀ column ∈ m.updateColumns r, column ∉ m.hidden := by
  have hvisible : ∀ column ∈ m.updateColumns r, column ∈ m.visibleColumns ↔ column ∉ m.hidden := by
    intro column h
    have htable : column ∈ m.initial.tableColumns := hcolumns ▸ (List.mem_filter.mp h).1
    simp [Model.visibleColumns, htable]
  simp only [covers_query, Bool.or_eq_true, List.isEmpty_iff, List.contains_iff_mem]
  constructor
  · intro h
    by_cases hnone : m.visibleColumns = []
    · exact Or.inl hnone
    · refine Or.inr fun column hc => ?_
      rcases h column hc with (hhidden | h) | h
      · rw [hhidden]
        exact List.not_mem_nil
      · exact absurd h hnone
      · exact (hvisible column hc).mp h
  · rintro (h | h) column hc
    · exact Or.inl (Or.inr h)
    · exact Or.inr ((hvisible column hc).mpr (h column hc))

theorem tableColumns_of_fields {r r' : Record υ} (h : r'.fields = r.fields) :
    r'.tableColumns = r.tableColumns := by
  rw [Record.tableColumns, Record.columns, h]
  rfl

theorem faithful_of_fields {m : Model υ} {d : Dialect} {row : Row} {r r' : Record υ}
    (h : r'.fields = r.fields) {sqls : List String} (hsqls : FaithfulTexts m d row r' sqls) :
    FaithfulTexts m d row r sqls := by
  unfold FaithfulTexts Model.updateColumns Model.insertColumns at *
  rw [tableColumns_of_fields h] at hsqls
  exact hsqls

/-- A record that was read with a query of its model and is updated or saved without a change hands over
statements in which every column has what its field made of the cell that the query shows. Where none is shown
that is the default of the field, so an update overwrites exactly what is hidden and assignable. -/
theorem obtained_written_back {m : Model υ} (hdistinct : (m.initial.columns.map (·.name)).Nodup)
    (c : Connection σ) {row : Row} {r : Record υ} (h : Obtained m c row r)
    (hinsert : (m.onInsert r).fields = r.fields) (hupdate : (m.onUpdate r).fields = r.fields) :
    (∀ s, ∃ sqls, ((m.update c r).run s).2.statements = s.statements ++ sqls ∧
      FaithfulTexts m c.dialect row r sqls) ∧
    (∀ s, ∃ sqls, ((m.save c r).run s).2.statements = s.statements ++ sqls ∧
      FaithfulTexts m c.dialect row r sqls) ∧
    ((∀ column ∈ m.updateColumns r, covers (m.query c.dialect).selections column = true) ↔
      m.visibleColumns = [] ∨ ∀ column ∈ m.updateColumns r, column ∉ m.hidden) := by
  have hr := eq_ofRow_of_obtained h
  have hupdated : FaithfulTexts m c.dialect row r (updateTexts m c.dialect (m.onUpdate r)) :=
    faithful_of_fields hupdate (faithful_updateTexts hdistinct (hupdate.trans (congrArg Record.fields hr)))
  have hinserted : FaithfulTexts m c.dialect row r (insertTexts m c.dialect (m.onInsert r)) :=
    faithful_of_fields hinsert (faithful_insertTexts hdistinct (hinsert.trans (congrArg Record.fields hr)))
  have hcolumns : r.tableColumns = m.initial.tableColumns := by
    rw [hr, Record.tableColumns, m.toRecordType.columns_ofRow _ hdistinct]
    rfl
  refine ⟨fun s => ⟨_, statements_update m c r s, hupdated⟩, fun s => ?_, covers_updated c.dialect hcolumns⟩
  unfold Model.save
  split
  · exact ⟨_, statements_update m c r s, hupdated⟩
  · exact ⟨_, statements_insert m c r s, hinserted⟩

/-- What is read is written back, though a column is hidden that is no longer assignable. -/
theorem obtained_written_back_guarded :
    let account (id : Int64) (name : String) (role : Option String) (password : String) : Record Unit :=
      ⟨[⟨⟨"id", "id", .required .long, true⟩, id⟩, ⟨⟨"name", "name", .required .text, true⟩, name⟩,
        ⟨⟨"role", "role", .optional .text, true⟩, role⟩,
        ⟨⟨"password", "password", .required .text, true⟩, password⟩], ()⟩
    let m : Model Unit :=
      { typeName := "Account", table := "account", initial := account 0 "" (some "guest") "",
        hidden := ["password"], guarded := some ["password"] }
    let row : Row := ⟨[("id", .int 9), ("name", .text "O'Neil"), ("role", .null), ("password", .text "secret")]⟩
    let c : Connection Unit :=
      { dialect := .sqlite, execute := fun _ s => (.ok (), s), lastRowId := fun s => (.ok 0, s)
        fetch := fun _ s => (.ok [shown (m.query .sqlite).selections row], s) }
    let r := account 9 "O'Neil" none ""
    Obtained m c row r ∧
    (∀ s, ∃ sqls, ((m.save c r).run s).2.statements = s.statements ++ sqls ∧
      FaithfulTexts m c.dialect row r sqls) ∧
    ((m.save c r).run ⟨(), [], []⟩).2.statements =
      ["update `account` set `name` = 'O''Neil', `role` = null where `id` = '9'"] ∧
    ∀ column ∈ m.updateColumns r, covers (m.query c.dialect).selections column = true := by
  intro account m row c r
  have hobtained : Obtained m c row r := .find (.int 9) ⟨(), [], []⟩ _ [] (fun _ _ => rfl) rfl
  obtain ⟨-, hsave, hcovers⟩ := obtained_written_back (by decide) c hobtained rfl rfl
  exact ⟨hobtained, hsave, by decide +kernel, hcovers.mpr (Or.inr (by decide))⟩

/-- A column that is hidden and still assignable is overwritten. So is null in a column that has to hold
something, and a number that the row holds as a text with blanks around it. -/
theorem hidden_column_overwritten :
    let account (id : Int64) (name : String) (visits : Int64) (password : String) : Record Unit :=
      ⟨[⟨⟨"id", "id", .required .long, true⟩, id⟩, ⟨⟨"name", "name", .required .text, true⟩, name⟩,
        ⟨⟨"visits", "visits", .required .long, true⟩, visits⟩,
        ⟨⟨"password", "password", .required .text, true⟩, password⟩], ()⟩
    let m : Model Unit :=
      { typeName := "Account", table := "account", initial := account 0 "" 0 "", hidden := ["password"] }
    let row : Row :=
      ⟨[("id", .int 9), ("name", .null), ("visits", .text " 12 "), ("password", .text "secret")]⟩
    let c : Connection Unit :=
      { dialect := .sqlite, execute := fun _ s => (.ok (), s), lastRowId := fun s => (.ok 0, s)
        fetch := fun _ s => (.ok [shown (m.query .sqlite).selections row], s) }
    let r := account 9 "" 12 ""
    Obtained m c row r ∧
    ((m.save c r).run ⟨(), [], []⟩).2.statements =
      ["update `account` set `name` = '', `visits` = '12', `password` = '' where `id` = '9'"] ∧
    "password" ∈ m.updateColumns r ∧ covers (m.query c.dialect).selections "password" = false := by
  intro account m row c r
  have hobtained : Obtained m c row r := .find (.int 9) ⟨(), [], []⟩ _ [] (fun _ _ => rfl) rfl
  exact ⟨hobtained, by decide +kernel, by decide, by decide⟩

end SqlRecord.WriteBack

import SqlRecord.Proofs.Names
import SqlRecord.Proofs.WriteBack

/-! # Visible columns

A query on a model that hides columns selects the other ones by name. Where there are no other ones its select
list is empty, and the empty list is written as a star, which selects what was to be hidden.
-/

namespace SqlRecord

variable {σ υ : Type}

/-! ## The statements that are run -/

open Builder in
theorem Query.statements_records (q : Query) (c : Connection σ) (t : RecordType υ) (s : Session σ) :
    ((q.records c t).perform s).2.statements = s.statements ++ prepared q.selectStatement := by
  unfold Query.records
  rw [Action.perform_bind, Action.perform_ofExcept]
  cases q.selectStatement with
  | error e => simp [prepared]
  | ok sql =>
    simp only [Action.perform_bind, Action.perform_report, Connection.records, Connection.rows,
      Action.perform_note, Action.perform_ofMemory]
    cases (c.fetch sql s.memory).1 <;> rfl

open Builder in
theorem Query.statements_first (q : Query) (c : Connection σ) (t : RecordType υ) (s : Session σ) :
    ((q.first c t).perform s).2.statements = s.statements ++ prepared (q.add (.limit 1)).selectStatement := by
  unfold Query.first
  rw [Action.statements_bind fun _ _ => rfl]
  exact (q.add (.limit 1)).statements_records c t s

namespace VisibleColumns

open WriteBack Builder

theorem statements_find (m : Model υ) (c : Connection σ) (id : Value) (s : Session σ) :
    ((m.find c id).perform s).2.statements = s.statements ++
      if m.autoIncrement then
        prepared ((m.query c.dialect).addAll
          [.filter (.equals .and Model.rowId id), .limit 1]).selectStatement
      else [] := by
  unfold Model.find Model.rowIdColumn
  rw [Action.perform_bind, Action.perform_ofExcept]
  cases m.autoIncrement with
  | false => simp
  | true =>
    simp only [if_true, Model.ofQuery, Action.perform_mapError]
    exact Query.statements_first _ c m.toRecordType s

/-! ## The select list -/

/-- The select list of a query that selects these columns. Without any it is a star. -/
def listOf (s : Spelling) (columns : List String) : String :=
  if columns = [] then "*" else ", ".intercalate (columns.map s.quoteName)

theorem list_columns (s : Spelling) (columns : List String) :
    Selection.list s (columns.map .column) = listOf s columns := by
  unfold Selection.list listOf
  simp only [List.isEmpty_map, List.isEmpty_iff, List.map_map]
  rfl

theorem listOf_spelt {s : Spelling} {columns : List String} :
    listOf s columns = ", ".intercalate (columns.map s.quoteName) ↔ columns ≠ [] := by
  unfold listOf
  split
  · rename_i hnone
    simp [hnone]
  · rename_i hsome
    simp [hsome]

theorem listOf_star {s : Spelling} (hs : s.quoteName = Name.quote) {columns : List String} :
    listOf s columns = "*" ↔ columns = [] ∨ columns = ["*"] := by
  match columns with
  | [] => simp [listOf]
  | [column] => simp [listOf, hs, Name.quote_eq_star]
  | column :: next :: rest =>
    simp only [listOf, List.map_cons, reduceCtorEq, if_false, String.intercalate_cons_cons, List.cons.injEq,
      and_false, or_false, iff_false]
    intro h
    have hmem : ',' ∈ ("*" : String).toList := by
      rw [← h]
      simp
    simp at hmem

/-! ## The main result -/

/-- A query on a model that hides columns, with whatever calls are made on it that leave the select list
alone, selects the columns of the table that are not hidden, in the order in which the record declares them.
Its statement, and the one of a search by row id, has them spelt out in its list exactly if there are any. -/
theorem visible_columns_selected (m : Model υ) (c : Connection σ) (hhidden : m.hidden ≠ [])
    (hd : c.dialect.selectList = Selection.list c.dialect.toSpelling) :
    let s := c.dialect.toSpelling
    let visible := m.initial.tableColumns.filter (· ∉ m.hidden)
    let list := if visible = [] then "*" else ", ".intercalate (visible.map s.quoteName)
    (∀ xs, (∀ x ∈ xs, KeepsSelections x) →
      let q := (m.query c.dialect).addAll xs
      q.selections = visible.map .column ∧ (∀ column ∈ m.hidden, .column column ∉ q.selections) ∧
      q.selectStatement = q.check >>= fun _ => .ok (" ".intercalate
        ((["select", c.dialect.distinctWord q.distinct, list, "from"] ++ q.segments.drop 4).filter (· ≠ "")))) ∧
    (∀ id session, ((m.find c id).perform session).2.statements = session.statements ++
      if m.autoIncrement then
        prepared ((m.query c.dialect).addAll
          [.filter (.equals .and Model.rowId id), .limit 1]).selectStatement
      else []) ∧
    (list = ", ".intercalate (visible.map s.quoteName) ↔ visible ≠ []) ∧
    (s.quoteName = Name.quote → (list = "*" ↔ visible = [] ∨ visible = ["*"])) := by
  intro s visible list
  have hvisible : m.visibleColumns = visible := by
    unfold Model.visibleColumns
    exact List.filter_congr fun column _ => by simp
  refine ⟨fun xs hxs => ?_, statements_find m c, listOf_spelt, fun hs => listOf_star hs⟩
  intro q
  have hdialect : q.dialect = c.dialect := (addAll_dialect _ xs).trans (m.dialect_query c.dialect)
  have hselections : q.selections = visible.map .column := by
    rw [selections_addAll hxs, m.selections_query, if_neg (List.isEmpty_iff.not.mpr hhidden), hvisible]
  refine ⟨hselections, fun column hcolumn => ?_, ?_⟩
  · rw [hselections]
    simp [visible, hcolumn]
  · have hlist : q.dialect.selectList q.selections = list := by
      rw [hdialect, hd, hselections]
      exact list_columns s visible
    show q.check >>= (fun _ => .ok (" ".intercalate (q.segments.filter (· ≠ "")))) = _
    unfold Query.segments
    rw [hlist, hdialect]
    rfl

/-- A password is hidden, and an alias is no column of the table. -/
theorem visible_columns_selected_account :
    let account : Record Unit :=
      ⟨[⟨⟨"id", "id", .required .long, true⟩, (0 : Int64)⟩, ⟨⟨"name", "name", .required .text, true⟩, ""⟩,
        ⟨⟨"rank", "rank", .required .long, false⟩, (0 : Int64)⟩,
        ⟨⟨"password", "password", .required .text, true⟩, ""⟩], ()⟩
    let m : Model Unit :=
      { typeName := "Account", table := "account", initial := account, hidden := ["password"] }
    let c : Connection Unit :=
      { dialect := .sqlite, execute := fun _ s => (.ok (), s), fetch := fun _ s => (.ok [], s)
        lastRowId := fun s => (.ok 0, s) }
    let xs : List Clause := [.distinct, .filter (.equals .and "name" (.text "a")), .limit 5]
    m.hidden ≠ [] ∧ c.dialect.selectList = Selection.list c.dialect.toSpelling ∧
    (∀ x ∈ xs, KeepsSelections x) ∧
    ((m.query c.dialect).addAll xs).selectStatement =
      .ok "select distinct `id`, `name` from `account` where `name` = 'a' limit 5" ∧
    ((m.find c (.int 9)).perform ⟨(), [], []⟩).2.statements =
      ["select `id`, `name` from `account` where `id` = '9' limit 1"] := by
  intro account m c xs
  have hhidden : m.hidden ≠ [] := List.cons_ne_nil "password" []
  have hxs : ∀ x ∈ xs, KeepsSelections x := by simp [xs, KeepsSelections]
  obtain ⟨hquery, hfind, -, -⟩ := visible_columns_selected m c hhidden rfl
  exact ⟨hhidden, rfl, hxs, (hquery xs hxs).2.2.trans (by decide +kernel),
    (hfind _ _).trans (by decide +kernel)⟩

/-- With every column hidden the list is a star, and all that was to be hidden is selected. -/
theorem hidden_columns_selected :
    let account : Record Unit :=
      ⟨[⟨⟨"id", "id", .required .long, true⟩, (0 : Int64)⟩,
        ⟨⟨"password", "password", .required .text, true⟩, ""⟩], ()⟩
    let m : Model Unit :=
      { typeName := "Account", table := "account", initial := account, hidden := ["id", "password"] }
    let c : Connection Unit :=
      { dialect := .sqlite, execute := fun _ s => (.ok (), s), fetch := fun _ s => (.ok [], s)
        lastRowId := fun s => (.ok 0, s) }
    m.hidden ≠ [] ∧ c.dialect.selectList = Selection.list c.dialect.toSpelling ∧
    (m.query c.dialect).selectStatement = .ok "select * from `account`" ∧
    ((m.find c (.int 9)).perform ⟨(), [], []⟩).2.statements =
      ["select * from `account` where `id` = '9' limit 1"] ∧
    ∀ column ∈ m.hidden, covers (m.query c.dialect).selections column = true := by
  intro account m c
  exact ⟨List.cons_ne_nil "id" _, rfl, by decide +kernel, by decide +kernel, by decide⟩

end VisibleColumns

end SqlRecord

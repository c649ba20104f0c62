import SqlRecord.Proofs.Restriction
import SqlRecord.Proofs.RowIds

/-! # Runs of saves

An instance that is not numbered yet is inserted by the first of its saves, which numbers it. From then on it
stays the same row, and every save updates that row with what the instance holds.
-/

namespace SqlRecord.Saving

open Restriction Trim

variable {σ υ : Type}

/-- An edit or a hook that leaves the row id as it is. -/
def KeepsId (f : Record υ → Record υ) : Prop :=
  ∀ r, (f r).columns = r.columns ∧ (f r).get? Model.rowId = r.get? Model.rowId

/-- A model whose rows are numbered by the database. Its one primary key is the row id, a whole number. -/
structure Numbered (m : Model υ) : Prop where
  distinct : (m.initial.columns.map (·.name)).Nodup
  auto : m.autoIncrement = true
  key : m.primaryKeys = [Model.rowId]
  id : ∃ column, m.initial.column? Model.rowId = some column ∧ column.type = .required .long ∧
    column.inTable = true
  writes : ∃ c ∈ m.initial.tableColumns, c ≠ Model.rowId ∧ m.isAssignable c = true
  onInsert : KeepsId m.onInsert
  onUpdate : KeepsId m.onUpdate

/-- An instance of a model, with the row id that it has. -/
structure Instance (m : Model υ) (r : Record υ) (n : Int64) : Prop where
  columns : r.columns = m.initial.columns
  id : r.get? Model.rowId = some (.int n)

theorem Instance.edit {m : Model υ} {r : Record υ} {n : Int64} (h : Instance m r n)
    {f : Record υ → Record υ} (hf : KeepsId f) : Instance m (f r) n :=
  ⟨(hf r).1.trans h.columns, (hf r).2.trans h.id⟩

/-- Puts a value into a column, if it fits. -/
def put (column : String) (v : Value) (r : Record υ) : Record υ :=
  (r.put column v).1

theorem keepsId_put {column : String} (h : column ≠ Model.rowId) (v : Value) :
    KeepsId (put (υ := υ) column v) := by
  intro r
  unfold put
  obtain ⟨-, hput⟩ | ⟨f, -, -, hput⟩ | ⟨f, x, r', -, -, hput, hassigned⟩ := r.put_cases column v
  · rw [hput]
    exact ⟨rfl, rfl⟩
  · rw [hput]
    exact ⟨rfl, rfl⟩
  · rw [hput]
    exact ⟨hassigned.columns, hassigned.get_of_ne h.symm⟩

/-! ## What is written -/

/-- The columns that a save writes. -/
def savedColumns (m : Model υ) : List String :=
  m.initial.tableColumns.filter fun c => m.isAssignable c && !(c == Model.rowId)

/-- The insert of an instance. It does not name the row id. -/
def insertText (m : Model υ) (r : Record υ) : String :=
  "insert into " ++ Name.quote m.table ++ " (" ++ ", ".intercalate ((savedColumns m).map Name.quote) ++
    ") values (" ++ ", ".intercalate ((savedColumns m).map fun c => Literal.quote (r.stored c)) ++ ")"

/-- The update of the row `n` with what an instance holds. -/
def updateText (m : Model υ) (n : Int64) (r : Record υ) : String :=
  "update " ++ Name.quote m.table ++ " set " ++
    ", ".intercalate ((savedColumns m).map fun c => Name.quote c ++ " = " ++ Literal.quote (r.stored c)) ++
    " where `id` = '" ++ toString n.toInt ++ "'"

section

variable {m : Model υ} (hm : Numbered m)
include hm

theorem nodup_savedColumns : (savedColumns m).Nodup :=
  (Record.nodup_tableColumns hm.distinct).sublist List.filter_sublist

theorem savedColumns_ne_nil : savedColumns m ≠ [] := by
  obtain ⟨c, hc, hne, hassignable⟩ := hm.writes
  refine List.ne_nil_of_mem (a := c) (List.mem_filter.mpr ⟨hc, ?_⟩)
  simp [hassignable, hne]

theorem isEmpty_params (r : Record υ) : (r.params (savedColumns m)).isEmpty = false := by
  simpa [Params.isEmpty, Record.params] using savedColumns_ne_nil hm

variable {r : Record υ} {n : Int64} (hr : Instance m r n)
include hr

theorem insertColumns_eq : m.insertColumns r = savedColumns m := by
  unfold Model.insertColumns savedColumns Record.tableColumns
  rw [hr.columns, hm.auto]
  rfl

theorem updateColumns_eq : m.updateColumns r = savedColumns m := by
  unfold Model.updateColumns savedColumns Record.tableColumns
  rw [hr.columns, hm.key]
  simp only [List.contains_cons, List.contains_nil, Bool.or_false]

theorem readAll_savedColumns : m.readAll r (savedColumns m) .empty = .ok (r.params (savedColumns m)) := by
  refine Model.readAll_params (nodup_savedColumns hm) fun c hc => ?_
  apply Record.isSome_get_of_tableColumns
  rw [Record.tableColumns, hr.columns]
  exact (List.mem_filter.mp hc).1

theorem insertParams_eq : m.insertParams r = .ok (r.params (savedColumns m)) := by
  refine Model.insertParams_of_readAll ?_ (isEmpty_params hm r)
  rw [insertColumns_eq hm hr]
  exact readAll_savedColumns hm hr

theorem updateParams_eq : m.updateParams r = .ok (r.params (savedColumns m)) := by
  refine Model.updateParams_of_readAll (by rw [hm.key]; rfl) ?_ (isEmpty_params hm r)
  rw [updateColumns_eq hm hr]
  exact readAll_savedColumns hm hr

theorem keyParams_eq : m.keyParams r = .ok ⟨[(Model.rowId, .int n)]⟩ := by
  obtain ⟨column, hcolumn, -, htable⟩ := hm.id
  have hname : column.name = Model.rowId := by simpa using List.find?_some hcolumn
  have hkeys : m.keyColumns r m.primaryKeys = .ok [Model.rowId] := by
    rw [Record.column?, ← hr.columns, ← Record.column?] at hcolumn
    rw [hm.key, Model.keyColumns, hcolumn]
    simp [Model.keyColumns, Except.map, htable, hname]
  have hread : m.readAll r [Model.rowId] .empty = .ok ⟨[(Model.rowId, .int n)]⟩ := by
    simp [Model.readAll, Model.read, hr.id]
    rfl
  exact Model.keyParams_of_readAll (by rw [hm.key]; rfl) hkeys hread rfl

end

/-! ## One save -/

section

variable {d : Dialect} (hd : d = .generic ∨ d = .sqlite)
include hd

theorem keepsConditions_of_provided : d.KeepsConditions := by
  rcases hd with rfl | rfl
  · exact ⟨rfl, rfl, rfl, rfl⟩
  · exact ⟨rfl, rfl, rfl, rfl⟩

theorem quoteName_eq : d.quoteName = Name.quote := by
  rcases hd with rfl | rfl <;> rfl

theorem insertStatement_eq (table : String) {p : Params} (h : p.isEmpty = false) :
    d.insertStatement table p =
      "insert into " ++ Name.quote table ++ " (" ++ ", ".intercalate (p.columns.map Name.quote) ++ ") values (" ++
        ", ".intercalate (p.values.map fun v => Literal.quote v.stored) ++ ")" := by
  have hinsert : d.insertStatement table p = d.toSpelling.insertStatement table p := by
    rcases hd with rfl | rfl <;> rfl
  rw [hinsert, Spelling.insertStatement, h]
  rcases hd with rfl | rfl <;> rfl

theorem assignments_eq (p : Params) :
    d.assignments p =
      ", ".intercalate (p.entries.map fun e => Name.quote e.1 ++ " = " ++ Literal.quote e.2.stored) := by
  rcases hd with rfl | rfl <;> rfl

theorem keyText_rowId (n : Int64) :
    keyText d.toSpelling Model.rowId (.int n) = "`id` = '" ++ toString n.toInt ++ "'" := by
  have hname : Name.quote (Text.trim Model.rowId) ++ " " ++ "=" ++ " " ++ "'" = "`id` = '" := by
    decide +kernel
  have hoperator : d.operator "=" = "=" := by
    rcases hd with rfl | rfl
    · rfl
    · decide
  have hquote : d.quote = Literal.quote := by
    rcases hd with rfl | rfl <;> rfl
  rw [keyText, quoteName_eq hd, hquote, hoperator, ← hname]
  simp only [String.append_assoc]
  rfl

theorem keyClause_rowId (n : Int64) :
    keyClause d.toSpelling ⟨[(Model.rowId, .int n)]⟩ = "where `id` = '" ++ toString n.toInt ++ "'" := by
  have hopens : Opens ("`id` = '" ++ toString n.toInt ++ "'").toList := by
    rw [String.append_assoc]
    exact opens_append ⟨'`', "id` = '".toList, rfl, rfl⟩ _
  have hcloses : Closes ("`id` = '" ++ toString n.toInt ++ "'").toList := closes_append _ ⟨[], '\'', rfl, rfl⟩
  have htrim := trim_of_opens_closes hopens hcloses
  rw [keyClause, List.map_singleton, String.intercalate_singleton, keyText_rowId hd, htrim]
  simp only [String.append_assoc]
  rfl

theorem updateText_eq (m : Model υ) (r : Record υ) (n : Int64) :
    d.toSpelling.updateStatement m.table (r.params (savedColumns m))
      ("where `id` = '" ++ toString n.toInt ++ "'") = updateText m n r := by
  have hset : d.assignments (r.params (savedColumns m)) =
      ", ".intercalate ((savedColumns m).map fun c => Name.quote c ++ " = " ++ Literal.quote (r.stored c)) := by
    rw [assignments_eq hd]
    simp [Record.params, Function.comp_def]
  have htext : "update " ++ d.quoteName m.table ++ " set " ++ d.assignments (r.params (savedColumns m)) ++ " " ++
      ("where `id` = '" ++ toString n.toInt ++ "'") = updateText m n r := by
    unfold updateText
    simp only [hset, quoteName_eq hd, String.append_assoc]
    rfl
  have hopens : Opens (updateText m n r).toList := by
    simp only [updateText, String.append_assoc]
    exact opens_append ⟨'u', "pdate ".toList, rfl, rfl⟩ _
  have hcloses : Closes (updateText m n r).toList := closes_append _ ⟨[], '\'', rfl, rfl⟩
  rw [Spelling.updateStatement, htext]
  exact trim_of_opens_closes hopens hcloses

variable {m : Model υ} (hm : Numbered m)
include hm

theorem insertText_eq (r : Record υ) : m.insertText d (r.params (savedColumns m)) = insertText m r := by
  unfold Model.insertText insertText
  simp only [insertStatement_eq hd m.table (isEmpty_params hm r), Record.columns_params, Record.values_params,
    List.map_map, Function.comp_def, Record.stored_stored]

theorem updateStatement_eq {r : Record υ} {n : Int64} (hr : Instance m r n) :
    (m.queryWhere d ⟨[(Model.rowId, .int n)]⟩).updateStatement (r.params (savedColumns m)) =
      .ok (updateText m n r) := by
  have hkeeps := keepsConditions_of_provided hd
  have hknown : d.isUnknown "=" = false := by
    rcases hd with rfl | rfl <;> decide
  obtain ⟨hfailure, hfilters⟩ := (queryWhere_eq m d ⟨[(Model.rowId, .int n)]⟩ hkeeps.fixNull).1 hknown
  have hcheck : (m.queryWhere d ⟨[(Model.rowId, .int n)]⟩).check = .ok () := by
    rw [Query.check, hfailure]
  have hkeys := (keysOf_keyParams (keyParams_eq hm hr)).1
  have hclause := clause_keys hkeeps hkeys (List.cons_ne_nil _ _) hcheck
  have hguard : ((m.queryWhere d ⟨[(Model.rowId, .int n)]⟩).strict &&
      (m.queryWhere d ⟨[(Model.rowId, .int n)]⟩).filters.isEmpty) = false := by
    rw [hfilters]
    exact Bool.and_false _
  rw [Query.updateStatement_eq, hcheck, isEmpty_params hm r, hguard, dialect_queryWhere, hclause, table_queryWhere, hkeeps.updateStatement,
    keyClause_rowId hd]
  exact congrArg Except.ok (updateText_eq hd m r n)

end

theorem run_update {m : Model υ} {c : Connection σ} {r : Record υ} {s : Session σ} {keys p : Params}
    (hkeys : m.keyParams (m.onUpdate r) = .ok keys) (hp : m.updateParams (m.onUpdate r) = .ok p)
    (hne : p.isEmpty = false) {sql : String}
    (hsql : (m.queryWhere c.dialect keys).updateStatement p = .ok sql)
    (hexecute : (c.execute sql s.memory).1 = .ok ()) :
    (m.update c r).run s = ((m.onUpdate r, .ok ()), s.executed c sql) := by
  have hquery : ((m.queryWhere c.dialect keys).update c p).perform s = (.ok (), s.executed c sql) := by
    rw [Query.update, hsql, Action.perform_bind, Action.perform_ofExcept]
    exact Query.perform_run hexecute
  have hprepared : (m.updatePrepared c (m.onUpdate r)).perform s = (.ok (), s.executed c sql) := by
    rw [Model.updatePrepared, hkeys, hp, Action.perform_bind, Action.perform_ofExcept]
    simp only [hne, Action.perform_bind, Action.perform_ofExcept, Bool.false_eq_true, if_false]
    rw [Model.ofQuery, Action.perform_mapError, hquery]
    rfl
  have hrun : (m.update c r).run s =
      ((m.onUpdate r, ((m.updatePrepared c (m.onUpdate r)).perform s).1),
        ((m.updatePrepared c (m.onUpdate r)).perform s).2) := rfl
  rw [hrun, hprepared]

section

variable {m : Model υ} (hm : Numbered m) {c : Connection σ} (hd : c.dialect = .generic ∨ c.dialect = .sqlite)
  (hexecute : ∀ sql memory, (c.execute sql memory).1 = .ok ()) {r : Record υ} (s : Session σ)
include hm hd hexecute

theorem save_first (hr : Instance m r 0) {n : Int64}
    (hn : (c.lastRowId (c.execute (insertText m (m.onInsert r)) s.memory).2).1 = .ok n) :
    ∃ r', (m.onInsert r).set Model.rowId (.int n) = .ok r' ∧ Instance m r' n ∧
      (m.save c r).run s = ((r', .ok ()), (s.executed c (insertText m (m.onInsert r))).asked c) := by
  have hinserted := hr.edit hm.onInsert
  obtain ⟨column, hcolumn, htype, -⟩ := hm.id
  rw [Record.column?, ← hinserted.columns, ← Record.column?] at hcolumn
  obtain ⟨f, hf, rfl⟩ := Record.field_of_column hcolumn
  have hholds : f.column.type.kind.Holds n := by
    rw [htype]
    trivial
  obtain ⟨g, hg, hvalue⟩ := Field.assign_int hholds
  obtain ⟨r', hset, hassigned⟩ := Record.set_assign hf hg
  have hid : r'.get? Model.rowId = some (.int n) := by
    rw [hassigned.get, hvalue, htype]
    rfl
  have hunsaved : m.isStored r = false := by
    rw [Model.isStored, hm.key, List.all_cons, hr.id]
    rfl
  refine ⟨r', hset, ⟨hassigned.columns.trans hinserted.columns, hid⟩, ?_⟩
  rw [← insertText_eq hd hm] at hn
  rw [Model.save, hunsaved, ← insertText_eq hd hm]
  have hrun := Model.insert_numbered hm.auto (insertParams_eq hm hinserted) (isEmpty_params hm _)
    (hexecute _ s.memory) hn
  rw [hset] at hrun
  exact hrun

theorem save_next {n : Int64} (hr : Instance m r n) (hn : n ≠ 0) :
    (m.save c r).run s = ((m.onUpdate r, .ok ()), s.executed c (updateText m n (m.onUpdate r))) := by
  have hupdated := hr.edit hm.onUpdate
  have hsaved : m.isStored r = true := by
    rw [Model.isStored, hm.key, List.all_cons, hr.id]
    simp [Model.isGiven, hn]
  rw [Model.save, hsaved]
  exact run_update (keyParams_eq hm hupdated) (updateParams_eq hm hupdated) (isEmpty_params hm _)
    (updateStatement_eq hd hm hupdated) (hexecute _ s.memory)

end

/-! ## Runs of saves -/

/-- Saves an instance after each of some edits. Each edit is made to what the save before it has left. -/
def saveAll (m : Model υ) (c : Connection σ) :
    List (Record υ → Record υ) → Record υ → StateM (Session σ) (List (Model.Outcome υ))
  | [], _ => return []
  | edit :: edits, r => do
    let outcome ← m.save c (edit r)
    let outcomes ← saveAll m c edits outcome.1
    return outcome :: outcomes

theorem run_saveAll_cons (m : Model υ) (c : Connection σ) (edit : Record υ → Record υ)
    (edits : List (Record υ → Record υ)) {r : Record υ} {s s' : Session σ} {outcome : Model.Outcome υ}
    (h : (m.save c (edit r)).run s = (outcome, s')) :
    (saveAll m c (edit :: edits) r).run s =
      (outcome :: ((saveAll m c edits outcome.1).run s').1, ((saveAll m c edits outcome.1).run s').2) := by
  have hrun : (saveAll m c (edit :: edits) r).run s =
      (((m.save c (edit r)).run s).1 ::
          ((saveAll m c edits ((m.save c (edit r)).run s).1.1).run ((m.save c (edit r)).run s).2).1,
        ((saveAll m c edits ((m.save c (edit r)).run s).1.1).run ((m.save c (edit r)).run s).2).2) := rfl
  rw [hrun, h]

/-- What an instance is in each of some updates, when the hook has run. -/
def hooked (m : Model υ) : List (Record υ → Record υ) → Record υ → List (Record υ)
  | [], _ => []
  | edit :: edits, r => m.onUpdate (edit r) :: hooked m edits (m.onUpdate (edit r))

theorem length_hooked (m : Model υ) (edits : List (Record υ → Record υ)) (r : Record υ) :
    (hooked m edits r).length = edits.length := by
  induction edits generalizing r with
  | nil => rfl
  | cons edit edits ih => rw [hooked, List.length_cons, ih, List.length_cons]

section

variable {m : Model υ} (hm : Numbered m) {c : Connection σ} (hd : c.dialect = .generic ∨ c.dialect = .sqlite)
  (hexecute : ∀ sql memory, (c.execute sql memory).1 = .ok ())
include hm hd hexecute

/-- Once an instance is numbered, each save is one update of its row. -/
theorem saveAll_numbered {n : Int64} (hn : n ≠ 0) {edits : List (Record υ → Record υ)}
    (hedits : ∀ edit ∈ edits, KeepsId edit) {r : Record υ} (hr : Instance m r n) (s : Session σ) :
    ((saveAll m c edits r).run s).1 = (hooked m edits r).map (·, .ok ()) ∧
    ((saveAll m c edits r).run s).2.statements =
      s.statements ++ (hooked m edits r).map (updateText m n) := by
  -- By induction on the edits: an edit, and the hook after it, leave an instance with the same row id.
  induction edits generalizing r s with
  | nil => exact ⟨rfl, (List.append_nil _).symm⟩
  | cons edit edits ih =>
    obtain ⟨hedit, hedits⟩ := List.forall_mem_cons.mp hedits
    have hsave := save_next hm hd hexecute s (hr.edit hedit) hn
    obtain ⟨houtcomes, hstatements⟩ := ih hedits ((hr.edit hedit).edit hm.onUpdate)
      (s.executed c (updateText m n (m.onUpdate (edit r))))
    rw [run_saveAll_cons m c edit edits hsave]
    refine ⟨congrArg (_ :: ·) houtcomes, ?_⟩
    rw [hstatements]
    exact List.append_assoc _ [_] _

/-- The first save of an instance inserts it, without naming the row id, and every later one updates the row
that was inserted. Each statement has what the instance holds when the hook has run. -/
theorem saves_one_row {r : Record υ} (hr : Instance m r 0) {edit : Record υ → Record υ}
    {edits : List (Record υ → Record υ)} (hedits : ∀ e ∈ edit :: edits, KeepsId e) (s : Session σ) {n : Int64}
    (hn : n ≠ 0)
    (hreported : (c.lastRowId (c.execute (insertText m (m.onInsert (edit r))) s.memory).2).1 = .ok n) :
    ∃ r', (m.onInsert (edit r)).set Model.rowId (.int n) = .ok r' ∧
      ((saveAll m c (edit :: edits) r).run s).1 = (r' :: hooked m edits r').map (·, .ok ()) ∧
      ((saveAll m c (edit :: edits) r).run s).2.statements =
        s.statements ++ insertText m (m.onInsert (edit r)) :: (hooked m edits r').map (updateText m n) ∧
      (hooked m edits r').length = edits.length ∧ Model.rowId ∉ savedColumns m := by
  obtain ⟨hedit, hedits⟩ := List.forall_mem_cons.mp hedits
  obtain ⟨r', hset, hr', hsave⟩ := save_first hm hd hexecute s (hr.edit hedit) hreported
  obtain ⟨houtcomes, hstatements⟩ := saveAll_numbered hm hd hexecute hn hedits hr'
    ((s.executed c (insertText m (m.onInsert (edit r)))).asked c)
  refine ⟨r', hset, ?_, ?_, length_hooked m edits r', ?_⟩
  · rw [run_saveAll_cons m c edit edits hsave]
    exact congrArg (_ :: ·) houtcomes
  · rw [run_saveAll_cons m c edit edits hsave, hstatements]
    exact List.append_assoc _ [_] _
  · simp [savedColumns]

end

theorem saves_one_row_note :
    let note (id : Int64) (title : String) (changed : Bool) : Record Unit :=
      ⟨[⟨⟨"id", "id", .required .long, true⟩, id⟩, ⟨⟨"title", "title", .required .text, true⟩, title⟩,
        ⟨⟨"changed", "changed", .required .bool, true⟩, changed⟩], ()⟩
    let m : Model Unit :=
      { typeName := "Note", table := "note", initial := note 0 "" false
        onUpdate := put "changed" (.bool true) }
    let c : Connection Int64 :=
      { dialect := .sqlite, execute := fun _ n => (.ok (), n + 1), fetch := fun _ n => (.ok [], n)
        lastRowId := fun n => (.ok n, n) }
    let edits := [id, put "title" (.text "it's"), id]
    Numbered m ∧ Instance m (note 0 "new" false) 0 ∧ (∀ e ∈ edits, KeepsId e) ∧
    (∃ r', (note 0 "new" false).set Model.rowId (.int 42) = .ok r' ∧
      ((saveAll m c edits (note 0 "new" false)).run ⟨41, [], []⟩).1 =
        (r' :: hooked m [put "title" (.text "it's"), id] r').map (·, .ok ())) ∧
    ((saveAll m c edits (note 0 "new" false)).run ⟨41, [], []⟩).2.statements =
      ["insert into `note` (`title`, `changed`) values ('new', '0')",
        "update `note` set `title` = 'it''s', `changed` = '1' where `id` = '42'",
        "update `note` set `title` = 'it''s', `changed` = '1' where `id` = '42'"] := by
  intro note m c edits
  have hkept : KeepsId (id : Record Unit → Record Unit) := fun _ => ⟨rfl, rfl⟩
  have hm : Numbered m :=
    ⟨by decide, rfl, rfl, ⟨_, rfl, rfl, rfl⟩, ⟨"title", by decide, by decide, rfl⟩, hkept,
      keepsId_put (by decide) _⟩
  have hr : Instance m (note 0 "new" false) 0 := ⟨rfl, rfl⟩
  have hedits : ∀ e ∈ edits, KeepsId e :=
    List.forall_mem_cons.mpr ⟨hkept, List.forall_mem_cons.mpr ⟨keepsId_put (by decide) _,
      List.forall_mem_cons.mpr ⟨hkept, List.forall_mem_nil _⟩⟩⟩
  obtain ⟨r', hset, houtcomes, -⟩ := saves_one_row hm (c := c) (Or.inr rfl) (fun _ _ => rfl) hr hedits
    ⟨41, [], []⟩ (n := 42) (by decide) rfl
  exact ⟨hm, hr, hedits, ⟨r', hset, houtcomes⟩, by decide +kernel⟩

end SqlRecord.Saving

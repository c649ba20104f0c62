import SqlRecord.Proofs.Statements
import SqlRecord.Proofs.WriteBack

/-! # Rows named by their keys

What a model updates or deletes is the row of its primary keys: every key that the table has is a condition
of the statement, with the value that the instance has for it. A statement without a condition is never
handed over to delete, and to update only where nothing is strict and no key is in the table.
-/

namespace SqlRecord

/-- A dialect that fixes null and writes where clauses, updates and deletions as every dialect does that does
not replace these rules. -/
structure Dialect.KeepsConditions (d : Dialect) : Prop where
  fixNull : d.fixNull = Expression.fixNull
  whereClause : d.whereClause = Expression.clause d.toSpelling "where"
  updateStatement : d.updateStatement = d.toSpelling.updateStatement
  deleteStatement : d.deleteStatement = d.toSpelling.deleteStatement

namespace Restriction

open Builder Outline WriteBack

variable {σ υ : Type}

/-! ## The conditions of the keys -/

/-- The text that asks for a value of a key. -/
def keyText (s : Spelling) (key : String) (v : Value) : String :=
  if v.isNull then s.quoteName (Text.trim key) ++ " " ++ s.operator "is null"
  else s.quoteName (Text.trim key) ++ " " ++ s.operator "=" ++ " " ++ s.quote v

/-- The clause that asks for the values of all keys. -/
def keyClause (s : Spelling) (keys : Params) : String :=
  "where " ++ Text.trim (" and ".intercalate (keys.entries.map fun e => keyText s e.1 e.2))

/-- The primary keys that the table has, with what is stored for them. -/
structure KeysOf (m : Model υ) (r : Record υ) (keys : Params) : Prop where
  distinct : keys.columns.Nodup
  mem : ∀ key, key ∈ keys.columns ↔ key ∈ m.primaryKeys ∧ r.InTable key
  values : ∀ e ∈ keys.entries, e.2 = r.stored e.1

theorem keysOf_keyParams {m : Model υ} {r : Record υ} {keys : Params} (h : m.keyParams r = .ok keys) :
    KeysOf m r keys ∧ ∀ key ∈ m.primaryKeys, ∃ column, r.column? key = some column := by
  obtain ⟨cs, hcs, hread⟩ := Model.keyParams_eq_ok h
  obtain ⟨hmapped, hmem⟩ := Model.keyColumns_eq_ok hcs
  obtain ⟨hdistinct, hvalues, hcolumns⟩ := Model.readAll_empty hread
  refine ⟨⟨hdistinct, fun key => (hcolumns key).trans (hmem key), fun e he => ?_⟩, hmapped⟩
  obtain ⟨f, hf, hv⟩ := hvalues e he
  rw [hv, Record.stored_of_field hf]

theorem ne_nil_of_keysOf {m : Model υ} {r : Record υ} {keys : Params} (h : KeysOf m r keys) {key : String}
    (hkey : key ∈ m.primaryKeys) (htable : r.InTable key) : keys.entries ≠ [] := by
  intro hnil
  have hmem := (h.mem key).mpr ⟨hkey, htable⟩
  rw [Params.columns, hnil] at hmem
  cases hmem

theorem ne_nil_of_strict {m : Model υ} {r : Record υ} {keys : Params} (h : m.keyParams r = .ok keys)
    (hstrict : m.strict = true) : keys.entries ≠ [] := by
  unfold Model.keyParams at h
  split at h
  · cases h
  obtain ⟨cs, -, h⟩ := ok_of_bind h
  obtain ⟨p, -, h⟩ := ok_of_bind h
  split at h
  · cases h
  · rename_i hempty
    cases h
    simpa [hstrict, Params.isEmpty] using hempty

/-! ## The conditions of a query -/

/-- The condition that a query keeps for a key. -/
def keyCondition (e : String × Value) : Condition :=
  if e.2.isNull then .nullCheck false (Text.trim e.1) true else .compare (Text.trim e.1) "=" e.2

theorem accept_equals {d : Dialect} (hd : d.fixNull = Expression.fixNull) (e : String × Value) :
    d.accept (.equals .and e.1 e.2) =
      if d.isUnknown "=" then .error (.invalidOperator "=") else .ok ⟨.and, keyCondition e⟩ := by
  obtain ⟨key, v⟩ := e
  have htrim : Text.trim "=" = "=" := by decide
  have hlist : Dialect.wantsList "=" = false := by decide
  have hcheck : Condition.nullCheckOf? "=" = some false := by decide
  rw [accept_eq, hd]
  simp only [Expression.equals, Expression.compare, Condition.isRaw, Condition.trim, Condition.operator,
    Dialect.lacksList, htrim, hlist, Expression.fixNull, Bool.false_eq_true, if_false, keyCondition]
  cases v <;> simp [Condition.fixNull, hcheck, Value.isNull, Except.map]

section

variable (m : Model υ) (d : Dialect) (keys : Params)

/-- The comparisons that ask for the values of all keys. -/
def keyEquals (keys : Params) : List Expression :=
  keys.entries.map fun e => .equals .and e.1 e.2

theorem queryWhere_eq_query :
    m.queryWhere d keys =
      { m.query d with
        filters := acceptedOf d (keyEquals keys)
        failure := ((keyEquals keys).flatMap fun e => refusal (d.accept e)).head? } := by
  have hcalls : keys.entries.map (fun e => Clause.filter (.equals .and e.1 e.2)) =
      (keyEquals keys).map .filter := by
    rw [keyEquals, List.map_map]
    rfl
  rw [Model.queryWhere, hcalls, addAll_filter_eq]
  simp only [m.dialect_query, m.filters_query, m.failure_query, List.nil_append, Option.none_or]

theorem table_queryWhere : (m.queryWhere d keys).table = m.table := by
  rw [queryWhere_eq_query]
  exact m.table_query d

theorem dialect_queryWhere : (m.queryWhere d keys).dialect = d := by
  rw [queryWhere_eq_query]
  exact m.dialect_query d

theorem strict_queryWhere : (m.queryWhere d keys).strict = m.strict := by
  rw [queryWhere_eq_query]
  exact m.strict_query d

theorem queryWhere_eq (hd : d.fixNull = Expression.fixNull) :
    (d.isUnknown "=" = false → (m.queryWhere d keys).failure = none ∧
      (m.queryWhere d keys).filters = keys.entries.map fun e => ⟨.and, keyCondition e⟩) ∧
    (d.isUnknown "=" = true → keys.entries ≠ [] →
      (m.queryWhere d keys).failure = some (.invalidOperator "=")) := by
  have haccept := accept_equals hd
  rw [queryWhere_eq_query, keyEquals, acceptedOf, List.flatMap_map, List.flatMap_map]
  constructor
  · intro hop
    simp only [hop, Bool.false_eq_true, if_false] at haccept
    simp [prepared, refusal, haccept, List.map_eq_flatMap]
  · intro hop hne
    obtain ⟨e, es, hentries⟩ := List.exists_cons_of_ne_nil hne
    simp only [hop, if_true] at haccept
    simp [hentries, refusal, haccept]

end

theorem filters_queryWhere {m : Model υ} {d : Dialect} (hd : d.fixNull = Expression.fixNull)
    {keys : Params} (h : (m.queryWhere d keys).check = .ok ()) :
    (m.queryWhere d keys).filters = keys.entries.map fun e => ⟨.and, keyCondition e⟩ := by
  obtain ⟨hkept, hrefused⟩ := queryWhere_eq m d keys hd
  -- A dialect that cannot compare refuses every key, so there was none.
  cases hop : d.isUnknown "=" with
  | false => exact (hkept hop).2
  | true =>
    by_cases hne : keys.entries = []
    · rw [Model.queryWhere, hne, List.map_nil]
      exact m.filters_query d
    · rw [Query.check, hrefused hop hne] at h
      cases h

/-! ## The text of the conditions -/

theorem intercalate_and (xs : List String) (x : String) :
    " ".intercalate ((x :: xs).map ("and " ++ ·)) = "and " ++ " and ".intercalate (x :: xs) := by
  induction xs generalizing x with
  | nil => simp
  | cons y ys ih =>
    rw [List.map_cons, List.map_cons, String.intercalate_cons_cons, ← List.map_cons, ih y,
      String.intercalate_cons_cons]
    simp only [String.append_assoc]
    rfl

theorem chain_and (s : Spelling) (cs : List Condition) :
    chain s (cs.map (Expression.mk .and)) = " and ".intercalate (cs.map (Condition.compile s)) := by
  rcases cs with _ | ⟨c, _ | ⟨c', cs⟩⟩
  · rfl
  · simp [chain]
  · have hwords : ((c' :: cs).map (Expression.mk .and)).map (Expression.compile s) =
        ((c' :: cs).map (Condition.compile s)).map ("and " ++ ·) := by
      rw [List.map_map, List.map_map]
      rfl
    show c.compile s ++ " " ++
      " ".intercalate (((c' :: cs).map (Expression.mk .and)).map (Expression.compile s)) = _
    rw [hwords, List.map_cons, intercalate_and, List.map_cons, List.map_cons, String.intercalate_cons_cons]
    simp only [String.append_assoc]
    rfl

theorem compile_keyCondition (s : Spelling) {e : String × Value} (h : e.2.stored = e.2) :
    (keyCondition e).compile s = keyText s e.1 e.2 := by
  unfold keyCondition keyText
  split
  · rfl
  · rw [Condition.compile, h]

theorem clause_keys {m : Model υ} {d : Dialect} (hd : d.KeepsConditions) {r : Record υ} {keys : Params}
    (hkeys : KeysOf m r keys) (hne : keys.entries ≠ []) (h : (m.queryWhere d keys).check = .ok ()) :
    d.whereClause (m.queryWhere d keys).filters = keyClause d.toSpelling keys := by
  have htexts : (keys.entries.map keyCondition).map (Condition.compile d.toSpelling) =
      keys.entries.map fun e => keyText d.toSpelling e.1 e.2 := by
    rw [List.map_map]
    refine List.map_congr_left fun e he => compile_keyCondition _ ?_
    rw [hkeys.values e he, Record.stored_stored]
  have hfilters : (m.queryWhere d keys).filters = (keys.entries.map keyCondition).map (Expression.mk .and) := by
    rw [filters_queryWhere hd.fixNull h, List.map_map]
    rfl
  have hempty : ((keys.entries.map keyCondition).map (Expression.mk .and)).isEmpty = false := by
    simpa using hne
  rw [hd.whereClause, hfilters, Expression.clause, hempty, compileAll_eq_trim, chain_and, htexts]
  rfl

/-! ## What is handed over -/

/-- The statements that a deletion hands over, of which there is one at most. -/
def deleteTexts (m : Model υ) (d : Dialect) (r : Record υ) : List String :=
  match m.keyParams r with
  | .ok keys => if keys.isEmpty then [] else prepared (m.queryWhere d keys).deleteStatement
  | .error _ => []

theorem statements_queryDelete (q : Query) (c : Connection σ) (s : Session σ) :
    ((q.delete c).perform s).2.statements = s.statements ++ prepared q.deleteStatement := by
  unfold Query.delete
  rw [Action.perform_bind, Action.perform_ofExcept]
  cases q.deleteStatement with
  | error e => simp [prepared]
  | ok sql =>
    cases q.filters.isEmpty <;> simp [prepared, Query.statements_run]

theorem statements_delete (m : Model υ) (c : Connection σ) (r : Record υ) (s : Session σ) :
    ((m.delete c r).perform s).2.statements = s.statements ++ deleteTexts m c.dialect r := by
  unfold Model.delete deleteTexts
  rw [Action.perform_bind, Action.perform_ofExcept]
  cases m.keyParams r with
  | error e => simp
  | ok keys =>
    cases hempty : keys.isEmpty with
    | true =>
      simp only [hempty, if_true, List.append_nil]
      rfl
    | false =>
      simp only [hempty, Bool.false_eq_true, if_false]
      exact statements_queryDelete _ c s

/-- All primary keys are columns of the record. -/
def KeysMapped (m : Model υ) (r : Record υ) : Prop :=
  ∀ key ∈ m.primaryKeys, ∃ column, r.column? key = some column

theorem restricted_updateTexts {m : Model υ} {d : Dialect} (hd : d.KeepsConditions) {r : Record υ}
    {sql : String} (hsql : sql ∈ updateTexts m d r) :
    KeysMapped m r ∧
      (m.strict = true ∨ (∃ key ∈ m.primaryKeys, r.InTable key) →
        ∃ keys p, KeysOf m r keys ∧ keys.entries ≠ [] ∧ m.updateParams r = .ok p ∧
          sql = Text.trim ("update " ++ d.quoteName m.table ++ " set " ++ d.assignments p ++ " " ++
            keyClause d.toSpelling keys)) := by
  obtain ⟨keys, p, hkeys, hp, hstatement⟩ := of_mem_updateTexts hsql
  obtain ⟨hof, hmapped⟩ := keysOf_keyParams hkeys
  refine ⟨hmapped, fun h => ⟨keys, p, hof, ?_⟩⟩
  have hne : keys.entries ≠ [] := by
    rcases h with hstrict | ⟨key, hkey, htable⟩
    · exact ne_nil_of_strict hkeys hstrict
    · exact ne_nil_of_keysOf hof hkey htable
  obtain ⟨hcheck, htext⟩ := Query.updateStatement_eq_ok hstatement
  rw [dialect_queryWhere, table_queryWhere, clause_keys hd hof hne hcheck, hd.updateStatement] at htext
  exact ⟨hne, hp, htext⟩

theorem restricted_deleteTexts {m : Model υ} {d : Dialect} (hd : d.KeepsConditions) {r : Record υ}
    {sql : String} (hsql : sql ∈ deleteTexts m d r) :
    KeysMapped m r ∧ ∃ keys, KeysOf m r keys ∧ keys.entries ≠ [] ∧
      sql = Text.trim ("delete from " ++ d.quoteName m.table ++ " " ++ keyClause d.toSpelling keys) := by
  unfold deleteTexts at hsql
  split at hsql
  · rename_i keys hkeys
    split at hsql
    · cases hsql
    rename_i hempty
    obtain ⟨hof, hmapped⟩ := keysOf_keyParams hkeys
    have hne : keys.entries ≠ [] := by simpa [Params.isEmpty] using hempty
    obtain ⟨hcheck, htext⟩ := Query.deleteStatement_eq_ok (eq_ok_of_mem_prepared hsql)
    rw [dialect_queryWhere, table_queryWhere, clause_keys hd hof hne hcheck, hd.deleteStatement] at htext
    exact ⟨hmapped, keys, hof, hne, htext⟩
  · cases hsql

/-! ## The main result -/

/-- A statement that an update or a deletion hands over asks for the value of every primary key that the
table has. -/
theorem rows_identified (m : Model υ) (c : Connection σ) (hd : c.dialect.KeepsConditions) (r : Record υ)
    (s : Session σ) :
    (∃ sqls, ((m.update c r).run s).2.statements = s.statements ++ sqls ∧ ∀ sql ∈ sqls,
      KeysMapped m (m.onUpdate r) ∧
      (m.strict = true ∨ (∃ key ∈ m.primaryKeys, (m.onUpdate r).InTable key) →
        ∃ keys p, KeysOf m (m.onUpdate r) keys ∧ keys.entries ≠ [] ∧ m.updateParams (m.onUpdate r) = .ok p ∧
          sql = Text.trim ("update " ++ c.dialect.quoteName m.table ++ " set " ++
            c.dialect.assignments p ++ " " ++ keyClause c.dialect.toSpelling keys))) ∧
    ∃ sqls, ((m.delete c r).perform s).2.statements = s.statements ++ sqls ∧ ∀ sql ∈ sqls,
      KeysMapped m r ∧ ∃ keys, KeysOf m r keys ∧ keys.entries ≠ [] ∧
        sql = Text.trim ("delete from " ++ c.dialect.quoteName m.table ++ " " ++
          keyClause c.dialect.toSpelling keys) :=
  ⟨⟨_, statements_update m c r s, fun _ => restricted_updateTexts hd⟩,
    ⟨_, statements_delete m c r s, fun _ => restricted_deleteTexts hd⟩⟩

/-- A key that is null is asked for too, and a key that the table does not have is not. -/
theorem rows_identified_page :
    let r : Record Unit :=
      ⟨[⟨⟨"id", "id", .required .long, true⟩, (7 : Int64)⟩,
        ⟨⟨"lang", "lang", .optional .text, true⟩, (none : Option String)⟩,
        ⟨⟨"rank", "rank", .required .long, false⟩, (3 : Int64)⟩,
        ⟨⟨"title", "title", .required .text, true⟩, "O'Neil"⟩], ()⟩
    let m : Model Unit :=
      { typeName := "Page", table := "page", initial := r, primaryKeys := ["id", "lang", "rank"],
        strict := false }
    let c : Connection Unit :=
      { dialect := .sqlite, execute := fun _ s => (.ok (), s), fetch := fun _ s => (.ok [], s)
        lastRowId := fun s => (.ok 0, s) }
    let keys : Params := ⟨[("id", .int 7), ("lang", .null)]⟩
    c.dialect.KeepsConditions ∧ (∃ key ∈ m.primaryKeys, r.InTable key) ∧ KeysOf m r keys ∧
    keyClause c.dialect.toSpelling keys = "where `id` = '7' and `lang` is null" ∧
    ((m.update c r).run ⟨(), [], []⟩).2.statements =
      ["update `page` set `title` = 'O''Neil' where `id` = '7' and `lang` is null"] ∧
    ((m.delete c r).perform ⟨(), [], []⟩).2.statements =
      ["delete from `page` where `id` = '7' and `lang` is null"] ∧
    (∀ sql ∈ ((m.update c r).run ⟨(), [], []⟩).2.statements, ∃ keys p, KeysOf m r keys ∧
      keys.entries ≠ [] ∧ m.updateParams r = .ok p ∧
      sql = Text.trim ("update " ++ c.dialect.quoteName m.table ++ " set " ++ c.dialect.assignments p ++
        " " ++ keyClause c.dialect.toSpelling keys)) ∧
    ∀ sql ∈ ((m.delete c r).perform ⟨(), [], []⟩).2.statements, KeysMapped m r ∧ ∃ keys, KeysOf m r keys ∧
      keys.entries ≠ [] ∧ sql = Text.trim ("delete from " ++ c.dialect.quoteName m.table ++ " " ++
        keyClause c.dialect.toSpelling keys) := by
  intro r m c keys
  have hd : c.dialect.KeepsConditions := ⟨rfl, rfl, rfl, rfl⟩
  have htable : ∃ key ∈ m.primaryKeys, r.InTable key := ⟨"id", by decide, _, rfl, rfl⟩
  have hparams : m.keyParams r = .ok keys := by decide
  obtain ⟨⟨us, hus, hupdate⟩, ds, hds, hdelete⟩ := rows_identified m c hd r ⟨(), [], []⟩
  refine ⟨hd, htable, (keysOf_keyParams hparams).1, by decide +kernel, by decide +kernel, by decide +kernel,
    fun sql hsql => ?_, fun sql hsql => ?_⟩
  · rw [hus] at hsql
    exact (hupdate sql hsql).2 (Or.inr htable)
  · rw [hds] at hsql
    exact hdelete sql hsql

/-- A key that the table does not have is no condition, though the record holds a value for it, and an update
of a model that is not strict and has no other key names no row at all. A dialect with a rule of its own for
where clauses can leave out every condition. -/
theorem alias_key_dropped :
    let r : Record Unit :=
      ⟨[⟨⟨"id", "id", .required .long, true⟩, (7 : Int64)⟩,
        ⟨⟨"rank", "rank", .required .long, false⟩, (3 : Int64)⟩,
        ⟨⟨"title", "title", .required .text, true⟩, "x"⟩], ()⟩
    let m : Model Unit :=
      { typeName := "Page", table := "page", initial := r, primaryKeys := ["id", "rank"] }
    let lenient : Model Unit :=
      { typeName := "Page", table := "page", initial := r, primaryKeys := ["rank"], strict := false }
    let silent : Dialect := { name := "silent", operators := ["="], whereClause := fun _ => "" }
    let c (d : Dialect) : Connection Unit :=
      { dialect := d, execute := fun _ s => (.ok (), s), fetch := fun _ s => (.ok [], s)
        lastRowId := fun s => (.ok 0, s) }
    let updated (m : Model Unit) (d : Dialect) := ((m.update (c d) r).run ⟨(), [], []⟩).2.statements
    let deleted (m : Model Unit) (d : Dialect) := ((m.delete (c d) r).perform ⟨(), [], []⟩).2.statements
    r.get? "rank" = some (.int 3) ∧
    updated m .generic = ["update `page` set `title` = 'x' where `id` = '7'"] ∧
    deleted m .generic = ["delete from `page` where `id` = '7'"] ∧
    updated lenient .generic = ["update `page` set `id` = '7', `title` = 'x'"] ∧
    deleted m silent = ["delete from `page`"] := by
  decide +kernel

end Restriction

end SqlRecord

import SqlRecord.Proofs.Injection
import SqlRecord.Proofs.Outcomes

/-! # Booleans in statements

Wherever a statement has a place for a value it says what is stored for it, so a boolean is written as the
number that stands for it, and a run does not change when some of its booleans are given as numbers.
-/

namespace SqlRecord

namespace Booleans

open Builder Outline

/-! ## Clauses -/

variable (s : Spelling)

@[simp]
theorem compile_condition (c : Condition) : (c.mapValues Value.stored).compile s = c.compile s := by
  cases c with
  | compare name op v => simp [Condition.mapValues, Condition.compile]
  | nullCheck negated name compared => rfl
  | membership negated name vs => simp [Condition.mapValues, Condition.compile, Function.comp_def]
  | raw sql => rfl

@[simp]
theorem compile_expression (e : Expression) : (e.mapValues Value.stored).compile s = e.compile s := by
  simp [Expression.compile, Expression.mapValues]

@[simp]
theorem compileAll_conditions (es : List Expression) :
    Expression.compileAll s (es.map (Expression.mapValues Value.stored)) = Expression.compileAll s es := by
  simp [Expression.compileAll, Function.comp_def]

@[simp]
theorem clause_conditions (keyword : String) (es : List Expression) :
    Expression.clause s keyword (es.map (Expression.mapValues Value.stored)) =
      Expression.clause s keyword es := by
  simp [Expression.clause]

@[simp]
theorem compile_on (on : JoinCondition) : (on.mapValues Value.stored).compile s = on.compile s := by
  cases on with
  | columns first op second => rfl
  | conditions es => exact compileAll_conditions s es

@[simp]
theorem compile_join (j : Join) : (j.mapValues Value.stored).compile s = j.compile s := by
  unfold Join.compile Join.mapValues
  rw [compile_on]

@[simp]
theorem compileAll_joins (js : List Join) :
    Join.compileAll s (js.map (Join.mapValues Value.stored)) = Join.compileAll s js := by
  simp [Join.compileAll, Function.comp_def]

/-! ## Parameters -/

@[simp]
theorem literals_params (p : Params) : s.literals (p.mapValues Value.stored) = s.literals p := by
  simp [Spelling.literals, Params.values, Params.mapValues, Function.comp_def]

@[simp]
theorem assignments_params (p : Params) : s.assignments (p.mapValues Value.stored) = s.assignments p := by
  simp [Spelling.assignments, Params.mapValues, Function.comp_def]

@[simp]
theorem insertStatement_params (table : String) (p : Params) :
    s.insertStatement table (p.mapValues Value.stored) = s.insertStatement table p := by
  simp [Spelling.insertStatement, Params.isEmpty_mapValues, Params.columns_mapValues]

@[simp]
theorem updateStatement_params (table whereClause : String) (p : Params) :
    s.updateStatement table (p.mapValues Value.stored) whereClause = s.updateStatement table p whereClause := by
  simp [Spelling.updateStatement]

/-! ## Statements -/

variable {d : Dialect}

theorem statement_mapValues (hc : d.KeepsClauses) (ha : d.KeepsAssignments) {q : Query} (hq : q.dialect = d)
    (op : Operation) :
    (op.mapValues Value.stored).statement (q.mapValues Value.stored) = op.statement q := by
  subst hq
  have hwhere : q.dialect.whereClause (q.mapValues Value.stored).filters =
      q.dialect.whereClause q.filters := by
    rw [hc.whereClause]
    exact clause_conditions _ _ q.filters
  have hhaving : q.dialect.havingClause (q.mapValues Value.stored).havings =
      q.dialect.havingClause q.havings := by
    rw [hc.havingClause]
    exact clause_conditions _ _ q.havings
  have hjoins : q.dialect.joinList (q.mapValues Value.stored).joins = q.dialect.joinList q.joins := by
    rw [hc.joinList]
    exact compileAll_joins _ q.joins
  cases op with
  | select =>
    have hsegments : (q.mapValues Value.stored).segments = q.segments := by
      unfold Query.segments
      rw [q.dialect_mapValues, hwhere, hhaving, hjoins]
      rfl
    show (q.mapValues Value.stored).selectStatement = q.selectStatement
    rw [Query.selectStatement_eq, q.selectStatement_eq, q.check_mapValues, hsegments]
  | insert p =>
    show q.insertStatement (p.mapValues Value.stored) = q.insertStatement p
    rw [q.insertStatement_eq, q.insertStatement_eq, p.isEmpty_mapValues, ha.insertStatement,
      insertStatement_params]
  | update p =>
    show (q.mapValues Value.stored).updateStatement (p.mapValues Value.stored) = q.updateStatement p
    rw [Query.updateStatement_eq, q.updateStatement_eq, q.check_mapValues, q.dialect_mapValues,
      q.table_mapValues, q.strict_mapValues, q.isEmpty_filters_mapValues, p.isEmpty_mapValues, hwhere,
      ha.updateStatement, updateStatement_params]
  | delete =>
    show (q.mapValues Value.stored).deleteStatement = q.deleteStatement
    rw [Query.deleteStatement_eq, q.deleteStatement_eq, q.check_mapValues, q.dialect_mapValues,
      q.table_mapValues, hwhere]
  | upsert insert update keys =>
    have htext : q.upsertText (insert.mapValues Value.stored) (update.mapValues Value.stored) keys =
        q.upsertText insert update keys := by
      unfold Query.upsertText Query.conflictAction
      rw [literals_params, assignments_params, insert.columns_mapValues, update.isEmpty_mapValues]
    show q.upsertStatement (insert.mapValues Value.stored) (update.mapValues Value.stored) keys =
      q.upsertStatement insert update keys
    rw [q.upsertStatement_eq, q.upsertStatement_eq, htext, insert.isEmpty_mapValues]

theorem statement_stored (hc : d.KeepsClauses) (ha : d.KeepsAssignments) (hf : d.FixesAlike Value.stored)
    (r : Run) : (r.mapValues Value.stored).statement d = r.statement d := by
  have hquery := addAll_mapValues (q := fresh d r.table) hf r.calls
  have hdialect : ((fresh d r.table).addAll r.calls).dialect = d := addAll_dialect _ _
  show (r.operation.mapValues Value.stored).statement
    (((fresh d r.table).mapValues Value.stored).addAll (r.calls.map (Clause.mapValues Value.stored))) = _
  rw [hquery]
  exact statement_mapValues hc ha hdialect r.operation

/-! ## The main result -/

/-- Two runs that are the same once their booleans are stored make the same statement, or are refused with
the same error. So it does not matter which booleans of a run are given as the numbers that stand for them. -/
theorem same_statement_once_stored (hc : d.KeepsClauses) (ha : d.KeepsAssignments)
    (hf : d.FixesAlike Value.stored) {r r' : Run}
    (h : r.mapValues Value.stored = r'.mapValues Value.stored) : r.statement d = r'.statement d := by
  rw [← statement_stored hc ha hf r, h, statement_stored hc ha hf r']

/-- Some of the booleans are given as numbers, in conditions of all three kinds and in a list. -/
theorem same_statement_once_stored_note :
    let run (tagged seen : Value) (flags : List Value) : Run := ⟨"note",
      [.joinWith .left "tag" [.equals .and "tag.shown" tagged], .filter (.isIn .and "done" flags),
        .filter (.compare .or "seen" "!=" seen), .having (.compare .and "pinned" ">" (.bool false))],
      .select⟩
    let r := run (.bool true) (.bool false) [.bool true, .null, .bool false]
    let r' := run (.int 1) (.bool false) [.bool true, .null, .int 0]
    Dialect.sqlite.KeepsClauses ∧ Dialect.sqlite.KeepsAssignments ∧ Dialect.sqlite.FixesAlike Value.stored ∧
    r.mapValues Value.stored = r'.mapValues Value.stored ∧ r.statement .sqlite = r'.statement .sqlite ∧
    r'.statement .sqlite = .ok ("select * from `note` left join `tag` on `tag`.`shown` = '1' " ++
      "where `done` in ('1', null, '0') or `seen` != '0' having `pinned` > '0'") := by
  intro run r r'
  have hc : Dialect.sqlite.KeepsClauses := ⟨rfl, rfl, rfl⟩
  have ha : Dialect.sqlite.KeepsAssignments := ⟨rfl, rfl⟩
  have hf : Dialect.sqlite.FixesAlike Value.stored := fixesAlike_of_provided Value.isNull_stored rfl
  exact ⟨hc, ha, hf, rfl, same_statement_once_stored hc ha hf rfl, by decide +kernel⟩

/-- A dialect that keeps all that builds clauses and statements, and refuses a boolean where it fixes null, tells
it from the number that stands for it. -/
theorem boolean_refused_number_taken :
    let d : Dialect :=
      { name := "unsigned", operators := ["="]
        fixNull := fun e => if e.condition = .compare "done" "=" (.bool true)
          then .error (.invalidOperand "done" "=") else e.fixNull }
    let run (v : Value) : Run := ⟨"note", [.filter (.equals .and "done" v)], .delete⟩
    d.KeepsClauses ∧ d.KeepsAssignments ∧
    (run (.bool true)).mapValues Value.stored = (run (.int 1)).mapValues Value.stored ∧
    (run (.bool true)).statement d = .error (.invalidOperand "done" "=") ∧
    (run (.int 1)).statement d = .ok "delete from `note` where `done` = '1'" := by
  intro d run
  exact ⟨⟨rfl, rfl, rfl⟩, ⟨rfl, rfl⟩, rfl, by decide +kernel, by decide +kernel⟩

end Booleans

end SqlRecord

import SqlRecord.Proofs.Builder

/-! # Values in queries

What is added to a query and what is refused depends on the values only so far as they are null.
-/

namespace SqlRecord

def Condition.isRaw : Condition → Bool
  | raw _ => true
  | _ => false

/-! ## Other values in the same places -/

section

variable (f : Value → Value)

def Condition.mapValues : Condition → Condition
  | compare name op v => compare name op (f v)
  | nullCheck negated name compared => nullCheck negated name compared
  | membership negated name vs => membership negated name (vs.map f)
  | raw sql => raw sql

def Expression.mapValues (e : Expression) : Expression :=
  ⟨e.logic, e.condition.mapValues f⟩

def JoinCondition.mapValues : JoinCondition → JoinCondition
  | columns first op second => columns first op second
  | conditions es => conditions (es.map (Expression.mapValues f))

def Join.mapValues (j : Join) : Join :=
  ⟨j.type, j.table, j.condition.mapValues f⟩

def Params.mapValues (p : Params) : Params :=
  ⟨p.entries.map fun e => (e.1, f e.2)⟩

def Clause.mapValues : Clause → Clause
  | .joinWith type joined on => .joinWith type joined (on.map (Expression.mapValues f))
  | .filter e => .filter (e.mapValues f)
  | .having e => .having (e.mapValues f)
  | c => c

def Query.mapValues (q : Query) : Query :=
  { q with
    joins := q.joins.map (Join.mapValues f)
    filters := q.filters.map (Expression.mapValues f)
    havings := q.havings.map (Expression.mapValues f) }

end

@[simp]
theorem Query.dialect_mapValues (f : Value → Value) (q : Query) : (q.mapValues f).dialect = q.dialect := rfl

@[simp]
theorem Query.table_mapValues (f : Value → Value) (q : Query) : (q.mapValues f).table = q.table := rfl

@[simp]
theorem Query.strict_mapValues (f : Value → Value) (q : Query) : (q.mapValues f).strict = q.strict := rfl

@[simp]
theorem Query.check_mapValues (f : Value → Value) (q : Query) : (q.mapValues f).check = q.check := rfl

theorem Query.isEmpty_filters_mapValues (f : Value → Value) (q : Query) :
    (q.mapValues f).filters.isEmpty = q.filters.isEmpty :=
  List.isEmpty_map

theorem Params.isEmpty_mapValues (f : Value → Value) (p : Params) :
    (p.mapValues f).isEmpty = p.isEmpty := by
  simp [Params.mapValues, Params.isEmpty]

theorem Params.columns_mapValues (f : Value → Value) (p : Params) :
    (p.mapValues f).columns = p.columns := by
  simp [Params.mapValues, Params.columns, Function.comp_def]

/-- Null is fixed in the same way whether other values are put in place of the given ones before or after. -/
def Dialect.FixesAlike (d : Dialect) (f : Value → Value) : Prop :=
  ∀ e : Expression, d.fixNull (e.mapValues f) = (d.fixNull e).map (Expression.mapValues f)

/-! ## Building -/

namespace Builder

theorem accept_eq (d : Dialect) (e : Expression) :
    d.accept e =
      if e.condition.isRaw then .ok ⟨e.logic, e.condition.trim⟩
      else if d.isUnknown e.condition.trim.operator then .error (.invalidOperator e.condition.trim.operator)
      else if Dialect.lacksList e.condition.trim then
        .error (.invalidOperand e.condition.trim.name e.condition.trim.operator)
      else d.fixNull ⟨e.logic, e.condition.trim⟩ := by
  obtain ⟨logic, c⟩ := e
  cases c <;> rfl

theorem accept_compare (d : Dialect) (logic : Logic) (name op : String) (v : Value) :
    d.accept (.compare logic name op v) =
      if d.isUnknown (Text.trim op) then .error (.invalidOperator (Text.trim op))
      else if Dialect.wantsList (Text.trim op) then .error (.invalidOperand (Text.trim name) (Text.trim op))
      else d.fixNull (.compare logic (Text.trim name) (Text.trim op) v) := rfl

theorem eq_null_of_isNull {v : Value} (h : v.isNull = true) : v = .null := by
  cases v with
  | null => rfl
  | _ => cases h

theorem fixNull_of_not_null (name op : String) {v : Value} (h : v.isNull = false) :
    (Condition.compare name op v).fixNull = .ok (.compare name op v) := by
  cases v with
  | null => cases h
  | _ => rfl

variable {f : Value → Value}

theorem fixNull_mapValues (hf : ∀ v, (f v).isNull = v.isNull) (c : Condition) :
    (c.mapValues f).fixNull = c.fixNull.map (Condition.mapValues f) := by
  cases c with
  | compare name op v =>
    cases hv : v.isNull with
    | true =>
      have hfv : f v = .null := eq_null_of_isNull ((hf v).trans hv)
      rw [eq_null_of_isNull hv] at hfv ⊢
      rw [Condition.mapValues, hfv, Condition.fixNull]
      cases Condition.nullCheckOf? op <;> rfl
    | false =>
      rw [Condition.mapValues, fixNull_of_not_null _ _ ((hf v).trans hv), fixNull_of_not_null _ _ hv]
      rfl
  | _ => rfl

theorem fixesAlike_of_provided (hf : ∀ v, (f v).isNull = v.isNull) {d : Dialect}
    (hd : d.fixNull = Expression.fixNull) : d.FixesAlike f := by
  intro e
  simp only [hd, Expression.fixNull, Expression.mapValues, fixNull_mapValues hf]
  cases e.condition.fixNull <;> rfl

theorem isRaw_mapValues (c : Condition) : (c.mapValues f).isRaw = c.isRaw := by
  cases c <;> rfl

theorem trim_mapValues (c : Condition) : (c.mapValues f).trim = c.trim.mapValues f := by
  cases c <;> rfl

theorem operator_mapValues (c : Condition) : (c.mapValues f).operator = c.operator := by
  cases c <;> rfl

theorem name_mapValues (c : Condition) : (c.mapValues f).name = c.name := by
  cases c <;> rfl

theorem lacksList_mapValues (c : Condition) :
    Dialect.lacksList (c.mapValues f) = Dialect.lacksList c := by
  cases c <;> rfl

theorem accept_mapValues {d : Dialect} (hd : d.FixesAlike f) (e : Expression) :
    d.accept (e.mapValues f) = (d.accept e).map (Expression.mapValues f) := by
  rw [accept_eq, accept_eq]
  simp only [Expression.mapValues, isRaw_mapValues, trim_mapValues, operator_mapValues, name_mapValues,
    lacksList_mapValues]
  by_cases hraw : e.condition.isRaw = true
  · rw [if_pos hraw, if_pos hraw]
    rfl
  rw [if_neg hraw, if_neg hraw]
  by_cases hop : d.isUnknown e.condition.trim.operator = true
  · rw [if_pos hop, if_pos hop]
    rfl
  rw [if_neg hop, if_neg hop]
  by_cases hlist : Dialect.lacksList e.condition.trim = true
  · rw [if_pos hlist, if_pos hlist]
    rfl
  rw [if_neg hlist, if_neg hlist]
  exact hd ⟨e.logic, e.condition.trim⟩

theorem acceptAll_mapValues {d : Dialect} (hd : d.FixesAlike f) (es : List Expression) :
    d.acceptAll (es.map (Expression.mapValues f)) =
      ((d.acceptAll es).1.map (Expression.mapValues f), (d.acceptAll es).2) := by
  induction es with
  | nil => rfl
  | cons e es ih =>
    simp only [List.map_cons, Dialect.acceptAll, ih, accept_mapValues hd]
    cases d.accept e <;> rfl

theorem add_mapValues {q : Query} (hq : q.dialect.FixesAlike f) (c : Clause) :
    (q.mapValues f).add (c.mapValues f) = (q.add c).mapValues f := by
  cases c with
  | filter e =>
    simp only [Clause.mapValues, Query.add, Query.addFilter]
    rw [q.dialect_mapValues, accept_mapValues hq]
    cases q.dialect.accept e <;> simp [Except.map, Query.mapValues, Query.fail]
  | having e =>
    simp only [Clause.mapValues, Query.add, Query.addHaving]
    rw [q.dialect_mapValues, accept_mapValues hq]
    cases q.dialect.accept e <;> simp [Except.map, Query.mapValues, Query.fail]
  | join type table first op second =>
    simp only [Clause.mapValues, Query.add, Query.addJoin]
    rw [q.dialect_mapValues]
    split
    · rfl
    · simp [Query.mapValues, Join.mapValues, JoinCondition.mapValues]
  | joinWith type table on =>
    simp only [Clause.mapValues, Query.add, Query.addJoinWith]
    rw [q.dialect_mapValues, acceptAll_mapValues hq]
    simp [failAll_eq, Query.mapValues, Join.mapValues, JoinCondition.mapValues]
  | _ => rfl

theorem addAll_mapValues {q : Query} (hq : q.dialect.FixesAlike f) (cs : List Clause) :
    (q.mapValues f).addAll (cs.map (Clause.mapValues f)) = (q.addAll cs).mapValues f := by
  induction cs generalizing q with
  | nil => rfl
  | cons c cs ih =>
    rw [List.map_cons, addAll_cons, addAll_cons, add_mapValues hq]
    exact ih (by rwa [(add_step q c).dialect])

end Builder

end SqlRecord

import SqlRecord.Proofs.Outcomes
import SqlRecord.Proofs.Sessions

/-! # Runs of builder calls

What a call stores and which errors it raises depends on the call and the dialect alone, so a run
stores what its calls store one by one and keeps the first error of them all.
-/

namespace SqlRecord.Builder

/-! ## One call -/

/-- The error of a registration that was refused. -/
def refusal {α : Type} : Except QueryError α → List QueryError
  | .ok _ => []
  | .error e => [e]

/-- The prepared form of a registration that was accepted. -/
def prepared {α : Type} : Except QueryError α → List α
  | .ok a => [a]
  | .error _ => []

theorem eq_ok_of_mem_prepared {α : Type} {r : Except QueryError α} {a : α} (h : a ∈ prepared r) :
    r = .ok a := by
  cases r with
  | ok b => rw [List.mem_singleton.mp h]
  | error e => cases h

theorem refusal_map {α β : Type} (f : α → β) (r : Except QueryError α) : refusal (r.map f) = refusal r := by
  cases r <;> rfl

theorem prepared_map {α β : Type} (f : α → β) (r : Except QueryError α) :
    prepared (r.map f) = (prepared r).map f := by
  cases r <;> rfl

def acceptedOf (d : Dialect) (es : List Expression) : List Expression :=
  es.flatMap fun e => prepared (d.accept e)

def joinOf (d : Dialect) (type : JoinType) (table first operator second : String) :
    Except QueryError Join :=
  if d.isUnknown (Text.trim operator) then .error (.invalidOperator (Text.trim operator))
  else .ok ⟨type, table, .columns (Text.trim first) (Text.trim operator) (Text.trim second)⟩

theorem mem_joinOf {d : Dialect} {type : JoinType} {table first op second : String} {j : Join} :
    j ∈ prepared (joinOf d type table first op second) ↔ d.isUnknown (Text.trim op) = false ∧
      j = ⟨type, table, .columns (Text.trim first) (Text.trim op) (Text.trim second)⟩ := by
  unfold joinOf
  cases d.isUnknown (Text.trim op) <;> simp [prepared]

def filtersOf (d : Dialect) : Clause → List Expression
  | .filter e => acceptedOf d [e]
  | _ => []

def havingsOf (d : Dialect) : Clause → List Expression
  | .having e => acceptedOf d [e]
  | _ => []

/-- The joins that a call stores. One on conditions is stored whatever becomes of its conditions. -/
def joinsOf (d : Dialect) : Clause → List Join
  | .join type table first op second => prepared (joinOf d type table first op second)
  | .joinWith type table on => [⟨type, table, .conditions (acceptedOf d on)⟩]
  | _ => []

/-- The errors that a call raises, the first one first. -/
def errorsOf (d : Dialect) : Clause → List QueryError
  | .filter e => refusal (d.accept e)
  | .having e => refusal (d.accept e)
  | .join type table first op second => refusal (joinOf d type table first op second)
  | .joinWith _ _ on => on.flatMap fun e => refusal (d.accept e)
  | _ => []

theorem acceptAll_fst (d : Dialect) (es : List Expression) :
    (d.acceptAll es).1 = acceptedOf d es := by
  induction es with
  | nil => rfl
  | cons e es ih =>
    simp only [Dialect.acceptAll, acceptedOf, List.flatMap_cons] at ih ⊢
    cases d.accept e <;> simp [prepared, ih]

theorem acceptAll_snd (d : Dialect) (es : List Expression) :
    (d.acceptAll es).2 = es.flatMap fun e => refusal (d.accept e) := by
  induction es with
  | nil => rfl
  | cons e es ih =>
    simp only [Dialect.acceptAll, List.flatMap_cons]
    cases d.accept e <;> simp [refusal, ih]

theorem failAll_eq (q : Query) (es : List QueryError) :
    q.failAll es = { q with failure := q.failure.or es.head? } := by
  induction es generalizing q with
  | nil => simp [Query.failAll]
  | cons e es ih =>
    have step : q.failAll (e :: es) = (q.fail e).failAll es := rfl
    rw [step, ih]
    cases h : q.failure <;> simp [Query.fail, h]

/-- The query with what a call stores unchecked. -/
def addUnchecked (q : Query) : Clause → Query
  | .join .. | .joinWith .. | .filter _ | .having _ => q
  | c => q.add c

theorem add_eq (q : Query) (c : Clause) :
    q.add c =
      { addUnchecked q c with
        filters := q.filters ++ filtersOf q.dialect c
        havings := q.havings ++ havingsOf q.dialect c
        joins := q.joins ++ joinsOf q.dialect c
        failure := q.failure.or (errorsOf q.dialect c).head? } := by
  cases c with
  | filter e =>
    rw [Query.add, Query.addFilter]
    cases h : q.dialect.accept e <;>
      simp [Query.fail, addUnchecked, filtersOf, havingsOf, joinsOf, errorsOf, acceptedOf, prepared, refusal, h]
  | having e =>
    rw [Query.add, Query.addHaving]
    cases h : q.dialect.accept e <;>
      simp [Query.fail, addUnchecked, filtersOf, havingsOf, joinsOf, errorsOf, acceptedOf, prepared, refusal, h]
  | join type table first op second =>
    rw [Query.add, Query.addJoin]
    by_cases h : q.dialect.isUnknown (Text.trim op) <;>
      simp [Query.fail, addUnchecked, filtersOf, havingsOf, joinsOf, errorsOf, joinOf, prepared, refusal, h]
  | joinWith type table on =>
    -- The errors of the conditions come first, and then the join is stored all the same.
    rw [Query.add, Query.addJoinWith]
    simp [failAll_eq, acceptAll_fst, acceptAll_snd, addUnchecked, filtersOf, havingsOf, joinsOf, errorsOf]
  | _ => simp [Query.add, addUnchecked, filtersOf, havingsOf, joinsOf, errorsOf]

/-- What a call leaves of a query, for the parts that registrations touch. -/
structure Step (q q' : Query) (c : Clause) : Prop where
  dialect : q'.dialect = q.dialect
  filters : q'.filters = q.filters ++ filtersOf q.dialect c
  havings : q'.havings = q.havings ++ havingsOf q.dialect c
  joins : q'.joins = q.joins ++ joinsOf q.dialect c
  failure : q'.failure = q.failure.or (errorsOf q.dialect c).head?

theorem add_step (q : Query) (c : Clause) : Step q (q.add c) c := by
  rw [add_eq]
  constructor
  case dialect => cases c <;> rfl
  all_goals rfl

/-! ## A run of calls -/

theorem addAll_dialect (q : Query) (cs : List Clause) : (q.addAll cs).dialect = q.dialect := by
  induction cs generalizing q with
  | nil => rfl
  | cons c cs ih => exact (ih (q.add c)).trans (add_step q c).dialect

theorem addAll_cons (q : Query) (c : Clause) (cs : List Clause) :
    q.addAll (c :: cs) = (q.add c).addAll cs := rfl

theorem addAll_append (q : Query) (cs ds : List Clause) :
    q.addAll (cs ++ ds) = (q.addAll cs).addAll ds :=
  List.foldl_append

theorem addAll_appended {α : Type} {part : Query → List α} {added : Clause → List α} {q : Query}
    (h : ∀ q' c, q'.dialect = q.dialect → part (q'.add c) = part q' ++ added c) (cs : List Clause) :
    part (q.addAll cs) = part q ++ cs.flatMap added := by
  induction cs generalizing q with
  | nil => exact (List.append_nil _).symm
  | cons c cs ih =>
    have hd : (q.add c).dialect = q.dialect := (add_step q c).dialect
    rw [addAll_cons, ih fun q' c' hq' => h q' c' (hq'.trans hd), h q c rfl, List.flatMap_cons,
      List.append_assoc]

theorem addAll_filters (q : Query) (cs : List Clause) :
    (q.addAll cs).filters = q.filters ++ cs.flatMap (filtersOf q.dialect) :=
  addAll_appended (fun q' c hd => hd ▸ (add_step q' c).filters) cs

theorem addAll_havings (q : Query) (cs : List Clause) :
    (q.addAll cs).havings = q.havings ++ cs.flatMap (havingsOf q.dialect) :=
  addAll_appended (fun q' c hd => hd ▸ (add_step q' c).havings) cs

theorem addAll_joins (q : Query) (cs : List Clause) :
    (q.addAll cs).joins = q.joins ++ cs.flatMap (joinsOf q.dialect) :=
  addAll_appended (fun q' c hd => hd ▸ (add_step q' c).joins) cs

theorem addAll_failure (q : Query) (cs : List Clause) :
    (q.addAll cs).failure = q.failure.or (cs.flatMap (errorsOf q.dialect)).head? := by
  induction cs generalizing q with
  | nil => simp [Query.addAll]
  | cons c cs ih =>
    have step := add_step q c
    rw [addAll_cons, ih, step.failure, step.dialect, List.flatMap_cons, List.head?_append,
      Option.or_assoc]

theorem addAll_filter_eq (q : Query) (es : List Expression) :
    q.addAll (es.map .filter) =
      { q with
        filters := q.filters ++ acceptedOf q.dialect es
        failure := q.failure.or (es.flatMap fun e => refusal (q.dialect.accept e)).head? } := by
  induction es generalizing q with
  | nil => simp [Query.addAll, acceptedOf]
  | cons e es ih =>
    rw [List.map_cons, addAll_cons, ih, Query.add, Query.addFilter]
    cases h : q.dialect.accept e <;>
      simp [Query.fail, acceptedOf, prepared, refusal, h]

/-- How a run that raised these errors is judged: by the first one. -/
def verdict : List QueryError → Except QueryError Unit
  | [] => .ok ()
  | e :: _ => .error e

theorem check_eq_verdict (q : Query) (es : List QueryError) (h : q.failure = es.head?) :
    q.check = verdict es := by
  rw [Query.check, h]
  cases es <;> rfl

def fresh (d : Dialect) (table : String) : Query where
  dialect := d
  table := table

theorem check_fresh_addAll (d : Dialect) (table : String) (cs : List Clause) :
    ((fresh d table).addAll cs).check = verdict (cs.flatMap (errorsOf d)) :=
  check_eq_verdict _ _ (by simp [addAll_failure, fresh])

theorem check_fresh_iff {d : Dialect} {table : String} {cs : List Clause} :
    ((fresh d table).addAll cs).check = .ok () ↔ ∀ c ∈ cs, errorsOf d c = [] := by
  rw [check_fresh_addAll, ← List.flatMap_eq_nil_iff]
  cases cs.flatMap (errorsOf d) <;> simp [verdict]

theorem check_addAll_of_error {q : Query} {e : QueryError} (h : q.check = .error e)
    (cs : List Clause) : (q.addAll cs).check = .error e := by
  have hf : q.failure = some e := by
    unfold Query.check at h
    cases hq : q.failure with
    | none => simp [hq] at h
    | some e' => simpa [hq] using h
  rw [Query.check, addAll_failure, hf]
  rfl

/-! ## What a refused query does -/

/-- The query is good for nothing but its error: no statement comes out of it, and whatever is run on a
connection leaves the session as it was. -/
structure Refuses (q : Query) (e : QueryError) : Prop where
  selectStatement : q.selectStatement = .error e
  insertStatement : ∀ p, q.insertStatement p = .error e
  updateStatement : ∀ p, q.updateStatement p = .error e
  deleteStatement : q.deleteStatement = .error e
  upsertStatement : ∀ insert update keys, q.upsertStatement insert update keys = .error e
  rows : ∀ {σ : Type} (c : Connection σ) (s : Session σ), (q.rows c).perform s = (.error e, s)
  records : ∀ {σ υ : Type} (c : Connection σ) (t : RecordType υ) (s : Session σ),
    (q.records c t).perform s = (.error e, s)
  first : ∀ {σ υ : Type} (c : Connection σ) (t : RecordType υ) (s : Session σ),
    (q.first c t).perform s = (.error e, s)
  insert : ∀ {σ : Type} (c : Connection σ) (p : Params) (s : Session σ),
    (q.insert c p).perform s = (.error e, s)
  update : ∀ {σ : Type} (c : Connection σ) (p : Params) (s : Session σ),
    (q.update c p).perform s = (.error e, s)
  delete : ∀ {σ : Type} (c : Connection σ) (s : Session σ), (q.delete c).perform s = (.error e, s)
  upsert : ∀ {σ : Type} (c : Connection σ) (insert update : Params) (keys : List String)
    (s : Session σ), (q.upsert c insert update keys).perform s = (.error e, s)

theorem perform_bind_of_error {σ ε α β : Type} (a : Action σ ε α) (f : α → Action σ ε β) {e : ε}
    {s s' : Session σ} (h : a.perform s = (.error e, s')) :
    Action.perform (a >>= f) s = (.error e, s') := by
  rw [Action.perform_bind, h]

theorem perform_ofExcept_bind {σ ε α β : Type} (r : Except ε α) (f : α → Action σ ε β) {e : ε}
    (h : r = .error e) (s : Session σ) :
    Action.perform (Action.ofExcept r >>= f) s = (.error e, s) :=
  perform_bind_of_error _ f (by rw [Action.perform_ofExcept, h])

theorem refuses_of_check {q : Query} {e : QueryError} (h : q.check = .error e) : Refuses q e := by
  have hselect : ∀ q : Query, q.check = .error e → q.selectStatement = .error e := by
    intro q h
    rw [q.selectStatement_eq, h]
    rfl
  have hinsert : ∀ p, q.insertStatement p = .error e := by
    intro p
    rw [q.insertStatement_eq, h]
    rfl
  have hupdate : ∀ p, q.updateStatement p = .error e := by
    intro p
    rw [q.updateStatement_eq, h]
    rfl
  have hdelete : q.deleteStatement = .error e := by
    rw [q.deleteStatement_eq, h]
    rfl
  have hupsert : ∀ insert update keys, q.upsertStatement insert update keys = .error e := by
    intro insert update keys
    rw [q.upsertStatement_eq, h]
    rfl
  -- The limit that `first` adds does not clear the error.
  have hlimited : (q.add (.limit 1)).check = .error e := check_addAll_of_error h [.limit 1]
  refine ⟨hselect q h, hinsert, hupdate, hdelete, hupsert, ?_, ?_, ?_, ?_, ?_, ?_, ?_⟩
  · intro σ c s
    exact perform_ofExcept_bind _ _ (hselect q h) s
  · intro σ υ c t s
    exact perform_ofExcept_bind _ _ (hselect q h) s
  · intro σ υ c t s
    exact perform_bind_of_error _ _ (perform_ofExcept_bind _ _ (hselect _ hlimited) s)
  · intro σ c p s
    exact perform_ofExcept_bind _ _ (hinsert p) s
  · intro σ c p s
    exact perform_ofExcept_bind _ _ (hupdate p) s
  · intro σ c s
    exact perform_ofExcept_bind _ _ hdelete s
  · intro σ c insert update keys s
    exact perform_ofExcept_bind _ _ (hupsert insert update keys) s

/-! ## The main result -/

/-- A run of calls on a fresh query stores exactly the prepared forms of what was accepted, in the order
of the calls, and keeps the first error for good. With an error, nothing that ends a query gets as far as
the connection. -/
theorem fresh_run (d : Dialect) (table : String) (cs : List Clause) :
    ((fresh d table).addAll cs).filters = cs.flatMap (filtersOf d) ∧
    ((fresh d table).addAll cs).havings = cs.flatMap (havingsOf d) ∧
    ((fresh d table).addAll cs).joins = cs.flatMap (joinsOf d) ∧
    ((fresh d table).addAll cs).check = verdict (cs.flatMap (errorsOf d)) ∧
    (((fresh d table).addAll cs).check = .ok () ↔ ∀ c ∈ cs, errorsOf d c = []) ∧
    ∀ e, ((fresh d table).addAll cs).check = .error e →
      (∀ more, ((fresh d table).addAll (cs ++ more)).check = .error e) ∧
      Refuses ((fresh d table).addAll cs) e := by
  refine ⟨?_, ?_, ?_, check_fresh_addAll d table cs, ?_, ?_⟩
  · exact addAll_filters _ cs
  · exact addAll_havings _ cs
  · exact addAll_joins _ cs
  · rw [check_fresh_addAll, ← List.flatMap_eq_nil_iff]
    cases cs.flatMap (errorsOf d) <;> simp [verdict]
  · intro e h
    refine ⟨fun more => ?_, refuses_of_check h⟩
    rw [addAll_append]
    exact check_addAll_of_error h more

/-- Two bad conditions inside a join and one after it: the first one stays, and the good ones are kept
all the same. -/
theorem fresh_run_two_errors :
    let q := (fresh .generic "user").addAll
      [.joinWith .inner "event" [.compare .and "at" "<" .null, .equals .or " kind " (.text "x"),
          .compare .and "id" "in" (.int 3)],
        .filter (.compare .and "age" "=>" (.int 3)), .filter (.equals .and "name" .null)]
    q.check = .error (.nullComparison "at" "<") ∧ Refuses q (.nullComparison "at" "<") ∧
      q.joins = [⟨.inner, "event", .conditions [.equals .or "kind" (.text "x")]⟩] ∧
      q.filters = [⟨.and, .nullCheck false "name" true⟩] := by
  intro q
  have run := fresh_run .generic "user"
    [.joinWith .inner "event" [.compare .and "at" "<" .null, .equals .or " kind " (.text "x"),
        .compare .and "id" "in" (.int 3)],
      .filter (.compare .and "age" "=>" (.int 3)), .filter (.equals .and "name" .null)]
  have hcheck : q.check = .error (.nullComparison "at" "<") := by rfl
  exact ⟨hcheck, (run.2.2.2.2.2 _ hcheck).2, by decide, by decide⟩

end SqlRecord.Builder

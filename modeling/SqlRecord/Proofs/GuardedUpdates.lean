import SqlRecord.Proofs.Builder
import SqlRecord.Proofs.Clauses
import SqlRecord.Proofs.RowIds

/-! # Guarded updates

An update is handed over only if no call was refused, something is to be set, and the query is not strict or has
a condition. The condition is one of the query itself, and what else was called makes no difference.
-/

namespace SqlRecord

/-- A dialect that writes where clauses and updates as every dialect does that does not replace these rules. -/
structure Dialect.KeepsUpdates (d : Dialect) : Prop where
  whereClause : d.whereClause = Expression.clause d.toSpelling "where"
  updateStatement : d.updateStatement = d.toSpelling.updateStatement

namespace GuardedUpdates

open Builder Outline Trim

/-! ## The table and the guard after a run -/

def tableOf : Clause → Option String
  | .table name => some name
  | _ => none

def strictOf : Clause → Option Bool
  | .strict on => some on
  | _ => none

/-- The table that was named last. -/
def tableAfter (table : String) (cs : List Clause) : String :=
  (cs.filterMap tableOf).getLast?.getD table

/-- Whether updates are guarded, which they are until it is called off. -/
def strictAfter (cs : List Clause) : Bool :=
  (cs.filterMap strictOf).getLast?.getD true

theorem target_add (q : Query) (c : Clause) :
    (q.add c).table = (tableOf c).getD q.table ∧ (q.add c).strict = (strictOf c).getD q.strict := by
  rw [add_eq]
  cases c <;> exact ⟨rfl, rfl⟩

/-- What a call either sets or leaves alone is what the last call that set it made it. -/
theorem addAll_last {α : Type} {part : Query → α} {setBy : Clause → Option α}
    (h : ∀ q c, part (q.add c) = (setBy c).getD (part q)) (q : Query) (cs : List Clause) :
    part (q.addAll cs) = (cs.filterMap setBy).getLast?.getD (part q) := by
  induction cs generalizing q with
  | nil => rfl
  | cons c cs ih =>
    rw [addAll_cons, ih, h]
    cases hc : setBy c with
    | none => rw [List.filterMap_cons_none hc, Option.getD_none]
    | some a => rw [List.filterMap_cons_some hc, List.getLast?_cons, Option.getD_some, Option.getD_some]

/-! ## The text -/

/-- The update of all rows of a table. -/
def plainUpdate (s : Spelling) (table : String) (p : Params) : String :=
  "update " ++ s.quoteName table ++ " set " ++ s.assignments p

/-- The statement with these conditions, which has no where part if there are none. -/
def updateText (s : Spelling) (table : String) (p : Params) (es : List Expression) : String :=
  Text.trim (if es.isEmpty then plainUpdate s table p else plainUpdate s table p ++ " where " ++ Text.trim (chain s es))

theorem opens_plainUpdate (s : Spelling) (table : String) (p : Params) : Opens (plainUpdate s table p).toList := by
  unfold plainUpdate
  rw [String.append_assoc, String.append_assoc]
  exact opens_append ⟨'u', "pdate ".toList, rfl, rfl⟩ _

theorem updateStatement_text {d : Dialect} (hd : d.KeepsUpdates) (table : String) (p : Params)
    (es : List Expression) :
    d.updateStatement table p (d.whereClause es) = updateText d.toSpelling table p es := by
  rw [hd.updateStatement, hd.whereClause, Spelling.updateStatement, Expression.clause, updateText, ← plainUpdate]
  by_cases hes : es.isEmpty = true
  · rw [if_pos hes, if_pos hes, String.append_empty, trim_append_blank]
  · have hword : " where " = " " ++ "where" ++ " " := rfl
    rw [if_neg hes, if_neg hes, compileAll_eq_trim, hword]
    simp only [String.append_assoc]

theorem updateText_cons (s : Spelling) (table : String) (p : Params) (e : Expression) (es : List Expression) :
    updateText s table p (e :: es) =
      plainUpdate s table p ++ " " ++ Text.trim ("where " ++ Text.trim (chain s (e :: es))) := by
  have hwhere : Opens ("where " ++ Text.trim (chain s (e :: es))).toList :=
    opens_append ⟨'w', "here ".toList, rfl, rfl⟩ _
  have hset : Opens (plainUpdate s table p ++ " ").toList := opens_append (opens_plainUpdate s table p) _
  rw [updateText, List.isEmpty_cons, if_neg (by simp), ← trim_append_of_opens hset hwhere]
  simp only [String.append_assoc]
  rfl

theorem updateText_of_opens (s : Spelling) (table : String) (p : Params) {es : List Expression}
    (h : Opens (chain s es).toList) :
    updateText s table p es = Text.trim (plainUpdate s table p ++ " where " ++ chain s es) := by
  have hset : Opens (plainUpdate s table p ++ " where ").toList := opens_append (opens_plainUpdate s table p) _
  have hes : es.isEmpty = false := by
    cases es with
    | nil =>
      obtain ⟨c, t, hnil, -⟩ := h
      cases hnil
    | cons e es => rfl
  rw [updateText, hes, if_neg (by simp), trim_append_trim hset h]

theorem updateText_eq_plainUpdate_iff (s : Spelling) (table : String) (p : Params) (es : List Expression) :
    updateText s table p es = Text.trim (plainUpdate s table p) ↔ es = [] := by
  cases es with
  | nil => exact iff_of_true rfl rfl
  | cons e es =>
    refine iff_of_false (fun h => ?_) (List.cons_ne_nil e es)
    have hlength := Text.trimChars_length_le (plainUpdate s table p).toList
    rw [← Text.toList_trim, ← h, updateText_cons] at hlength
    simp only [String.toList_append, List.length_append] at hlength
    have hblank : (" ".toList).length = 1 := rfl
    omega

/-! ## What becomes of the update -/

/-- The first reason that refuses an update after these calls, or its statement. -/
def outcome (d : Dialect) (table : String) (cs : List Clause) (p : Params) : Except QueryError String :=
  match cs.flatMap (errorsOf d) with
  | e :: _ => .error e
  | [] =>
    if p.isEmpty then .error (.emptyUpdate (tableAfter table cs))
    else if strictAfter cs && (cs.flatMap (filtersOf d)).isEmpty then
      .error (.unconditionalUpdate (tableAfter table cs))
    else .ok (updateText d.toSpelling (tableAfter table cs) p (cs.flatMap (filtersOf d)))

section Outcome

variable {d : Dialect} {table : String} {cs : List Clause} {p : Params}

theorem outcome_refused {e : QueryError} {es : List QueryError} (h : cs.flatMap (errorsOf d) = e :: es) :
    outcome d table cs p = .error e := by
  rw [outcome, h]

theorem outcome_empty (h : cs.flatMap (errorsOf d) = []) (hp : p.isEmpty = true) :
    outcome d table cs p = .error (.emptyUpdate (tableAfter table cs)) := by
  rw [outcome, h]
  exact if_pos hp

theorem outcome_unconditional (h : cs.flatMap (errorsOf d) = []) (hp : p.isEmpty = false)
    (hstrict : strictAfter cs = true) (hfilters : cs.flatMap (filtersOf d) = []) :
    outcome d table cs p = .error (.unconditionalUpdate (tableAfter table cs)) := by
  rw [outcome, h, hp, hstrict, hfilters]
  rfl

theorem outcome_stated (h : cs.flatMap (errorsOf d) = []) (hp : p.isEmpty = false)
    (hguard : strictAfter cs = true → cs.flatMap (filtersOf d) ≠ []) :
    outcome d table cs p =
      .ok (updateText d.toSpelling (tableAfter table cs) p (cs.flatMap (filtersOf d))) := by
  have hopen : (strictAfter cs && (cs.flatMap (filtersOf d)).isEmpty) = false := by
    cases hstrict : strictAfter cs with
    | false => rfl
    | true => simpa using hguard hstrict
  rw [outcome, h, hp, hopen]
  rfl

theorem outcome_isOk_iff : (∃ sql, outcome d table cs p = .ok sql) ↔
    cs.flatMap (errorsOf d) = [] ∧ p.isEmpty = false ∧
      (strictAfter cs = true → cs.flatMap (filtersOf d) ≠ []) := by
  refine ⟨fun ⟨sql, hsql⟩ => ?_, fun ⟨herrors, hp, hguard⟩ => ⟨_, outcome_stated herrors hp hguard⟩⟩
  cases herrors : cs.flatMap (errorsOf d) with
  | cons e es =>
    rw [outcome_refused herrors] at hsql
    cases hsql
  | nil =>
    cases hp : p.isEmpty with
    | true =>
      rw [outcome_empty herrors hp] at hsql
      cases hsql
    | false =>
      refine ⟨rfl, rfl, fun hstrict hfilters => ?_⟩
      rw [outcome_unconditional herrors hp hstrict hfilters] at hsql
      cases hsql

end Outcome

theorem updateStatement_eq_outcome {d : Dialect} (hd : d.KeepsUpdates) (table : String) (cs : List Clause)
    (p : Params) : ((fresh d table).addAll cs).updateStatement p = outcome d table cs p := by
  have hdialect : ((fresh d table).addAll cs).dialect = d := addAll_dialect _ cs
  have hfilters : ((fresh d table).addAll cs).filters = cs.flatMap (filtersOf d) := addAll_filters _ cs
  have htable : ((fresh d table).addAll cs).table = tableAfter table cs :=
    addAll_last (fun q c => (target_add q c).1) _ cs
  have hstrict : ((fresh d table).addAll cs).strict = strictAfter cs :=
    addAll_last (fun q c => (target_add q c).2) _ cs
  rw [Query.updateStatement_eq, check_fresh_addAll, hdialect, hfilters, htable, hstrict, updateStatement_text hd,
    outcome]
  cases cs.flatMap (errorsOf d) <;> rfl

theorem perform_update {σ : Type} (q : Query) (c : Connection σ) (p : Params) (s : Session σ) :
    (q.update c p).perform s =
      match q.updateStatement p with
      | .error e => (.error e, s)
      | .ok sql => ((c.execute sql s.memory).1, s.executed c sql) := by
  rw [Query.update, Action.perform_bind, Action.perform_ofExcept]
  cases q.updateStatement p with
  | error e => rfl
  | ok sql => exact Query.perform_run_eq c sql s

/-! ## Calls that make no difference -/

/-- The calls that an update depends on, if none is refused. -/
def concerns : Clause → Bool
  | .table _ => true
  | .strict _ => true
  | .filter _ => true
  | _ => false

theorem of_not_concerns {c : Clause} (h : concerns c = false) (d : Dialect) :
    filtersOf d c = [] ∧ tableOf c = none ∧ strictOf c = none := by
  cases c with
  | table name => cases h
  | strict on => cases h
  | filter e => cases h
  | _ => exact ⟨rfl, rfl, rfl⟩

theorem filtersOf_concerns (d : Dialect) (cs : List Clause) :
    (cs.filter concerns).flatMap (filtersOf d) = cs.flatMap (filtersOf d) := by
  induction cs with
  | nil => rfl
  | cons c cs ih =>
    cases hc : concerns c with
    | true => rw [List.filter_cons_of_pos hc, List.flatMap_cons, List.flatMap_cons, ih]
    | false =>
      rw [List.filter_cons_of_neg (by simp [hc]), ih, List.flatMap_cons, (of_not_concerns hc d).1, List.nil_append]

theorem filterMap_concerns {α : Type} {f : Clause → Option α} (h : ∀ c, concerns c = false → f c = none)
    (cs : List Clause) : (cs.filter concerns).filterMap f = cs.filterMap f := by
  rw [List.filterMap_filter]
  refine List.filterMap_congr fun c _ => ?_
  cases hc : concerns c with
  | true => rfl
  | false => exact (h c hc).symm

theorem outcome_concerns {d : Dialect} {cs : List Clause} (h : cs.flatMap (errorsOf d) = []) (table : String)
    (p : Params) : outcome d table (cs.filter concerns) p = outcome d table cs p := by
  have herrors : (cs.filter concerns).flatMap (errorsOf d) = [] :=
    List.flatMap_eq_nil_iff.mpr fun c hc => List.flatMap_eq_nil_iff.mp h c (List.mem_of_mem_filter hc)
  have htable : tableAfter table (cs.filter concerns) = tableAfter table cs := by
    rw [tableAfter, filterMap_concerns (fun _ hc => (of_not_concerns hc d).2.1), tableAfter]
  have hstrict : strictAfter (cs.filter concerns) = strictAfter cs := by
    rw [strictAfter, filterMap_concerns (fun _ hc => (of_not_concerns hc d).2.2), strictAfter]
  rw [outcome, outcome, herrors, h, filtersOf_concerns, htable, hstrict]

/-! ## The main result -/

theorem filters_ne_nil_iff {d : Dialect} {cs : List Clause} :
    cs.flatMap (filtersOf d) ≠ [] ↔ ∃ e e', .filter e ∈ cs ∧ d.accept e = .ok e' := by
  constructor
  · intro h
    obtain ⟨e', he'⟩ := List.exists_mem_of_ne_nil _ h
    obtain ⟨c, hc, hmem⟩ := List.mem_flatMap.mp he'
    cases c with
    | filter e =>
      obtain ⟨e'', he'', haccept⟩ := List.mem_flatMap.mp hmem
      rw [List.mem_singleton.mp he''] at haccept
      exact ⟨e, e', hc, eq_ok_of_mem_prepared haccept⟩
    | _ => cases hmem
  · rintro ⟨e, e', hc, haccept⟩
    have hmem : e' ∈ filtersOf d (.filter e) := by
      rw [filtersOf, acceptedOf, List.flatMap_singleton, haccept]
      exact List.mem_singleton_self e'
    exact List.ne_nil_of_mem (List.mem_flatMap.mpr ⟨_, hc, hmem⟩)

/-- An update fails for the first refused call, then for having nothing to set, then for having no condition
while the query is strict, and nothing reaches the connection. Otherwise one statement is handed over, which sets
the parameters in the table that was named last, where all accepted conditions of the query hold. It has no where
part exactly if there are none. Conditions of groups and joins do not count, nor does any other call. -/
theorem guarded_updates {d : Dialect} (hd : d.KeepsUpdates) (table : String) (cs : List Clause) (p : Params)
    {σ : Type} (c : Connection σ) (s : Session σ) :
    let updated := (((fresh d table).addAll cs).update c p).perform s
    let target := tableAfter table cs
    let conditions := cs.flatMap (filtersOf d)
    let sql := updateText d.toSpelling target p conditions
    (∀ e es, cs.flatMap (errorsOf d) = e :: es → updated = (.error e, s)) ∧
    (cs.flatMap (errorsOf d) = [] →
      (p.isEmpty = true → updated = (.error (.emptyUpdate target), s)) ∧
      (p.isEmpty = false → strictAfter cs = true → conditions = [] →
        updated = (.error (.unconditionalUpdate target), s)) ∧
      (p.isEmpty = false → (strictAfter cs = true → conditions ≠ []) →
        updated = ((c.execute sql s.memory).1, s.executed c sql)) ∧
      (((fresh d table).addAll (cs.filter concerns)).update c p).perform s = updated) ∧
    (updated.2.statements ≠ s.statements ↔ (∀ c ∈ cs, errorsOf d c = []) ∧ p.isEmpty = false ∧
      (strictAfter cs = true → ∃ e e', .filter e ∈ cs ∧ d.accept e = .ok e')) ∧
    (sql = Text.trim (plainUpdate d.toSpelling target p) ↔ conditions = []) ∧
    (Opens (chain d.toSpelling conditions).toList →
      sql = Text.trim (plainUpdate d.toSpelling target p ++ " where " ++ chain d.toSpelling conditions)) := by
  intro updated target conditions sql
  have hupdated : updated = match outcome d table cs p with
      | .error e => (.error e, s)
      | .ok sql => ((c.execute sql s.memory).1, s.executed c sql) := by
    rw [← updateStatement_eq_outcome hd, ← perform_update]
  have hhanded : updated.2.statements ≠ s.statements ↔ ∃ sql, outcome d table cs p = .ok sql := by
    rw [hupdated]
    cases outcome d table cs p <;> simp [Session.executed]
  refine ⟨?_, fun herrors => ⟨?_, ?_, ?_, ?_⟩, ?_, ?_, ?_⟩
  · intro e es herrors
    rw [hupdated, outcome_refused herrors]
  · intro hp
    rw [hupdated, outcome_empty herrors hp]
  · intro hp hstrict hconditions
    rw [hupdated, outcome_unconditional herrors hp hstrict hconditions]
  · intro hp hguard
    rw [hupdated, outcome_stated herrors hp hguard]
  · rw [perform_update, updateStatement_eq_outcome hd, outcome_concerns herrors, hupdated]
  · rw [hhanded, outcome_isOk_iff, List.flatMap_eq_nil_iff, filters_ne_nil_iff]
  · exact updateText_eq_plainUpdate_iff _ _ _ _
  · exact updateText_of_opens _ _ _

/-- The guard is called off and on again, and the table is named again: the conditions of all calls stand in the
statement. With a condition of groups and a join alone, the same update is refused. -/
theorem guarded_updates_note :
    let d : Dialect := .sqlite
    let c : Connection Unit := ⟨d, fun _ m => (.ok (), m), fun _ m => (.ok [], m), fun m => (.ok 1, m)⟩
    let p := Params.ofList [("done", .bool true), ("size", .int 3)]
    let others : List Clause :=
      [.having (.equals .and "n" (.int 1)), .joinEq .inner "event" "event.id" "id", .limit 3, .distinct]
    let calls : List Clause := .strict false :: .filter (.raw .or "1 = 1") :: .table "note" :: others ++
      [.strict true, .filter (.equals .or " kind " .null)]
    d.KeepsUpdates ∧ strictAfter calls = true ∧
      (((fresh d "user").addAll calls).update c p).perform ⟨(), [], []⟩ =
        (.ok (), Session.executed ⟨(), [], []⟩ c
          "update `note` set `done` = '1', `size` = '3' where 1 = 1 or `kind` is null") ∧
      (((fresh d "user").addAll others).update c p).perform ⟨(), [], []⟩ =
        (.error (.unconditionalUpdate "user"), ⟨(), [], []⟩) := by
  intro d c p others calls
  have hd : d.KeepsUpdates := ⟨rfl, rfl⟩
  have hstrict : strictAfter calls = true := by decide
  obtain ⟨-, hcalls, -⟩ := guarded_updates hd "user" calls p c ⟨(), [], []⟩
  obtain ⟨-, hothers, -⟩ := guarded_updates hd "user" others p c ⟨(), [], []⟩
  have hstated := (hcalls (by decide +kernel)).2.2.1 (by decide) fun _ => by decide +kernel
  have hrefused := (hothers (by decide +kernel)).2.1 (by decide) (by decide) (by decide)
  have hsql : updateText d.toSpelling (tableAfter "user" calls) p (calls.flatMap (filtersOf d)) =
      "update `note` set `done` = '1', `size` = '3' where 1 = 1 or `kind` is null" := by decide +kernel
  rw [hsql] at hstated
  exact ⟨hd, hstrict, hstated, hrefused⟩

end GuardedUpdates

end SqlRecord

import Mathlib.Data.List.Basic
import SqlRecord.Proofs.Statements

/-! # Values stay in their literals

A run of calls and what it is made into a statement for. With clean names and nothing raw, the statement
reads back as the values that were given, and all that is outside of its literals is settled before the
values are.
-/

namespace SqlRecord.Outline

open Lexeme Builder

/-! ## Calls -/

/-- A condition that is not raw, on a clean name. -/
def CleanCondition (c : Condition) : Prop :=
  c.isRaw = false ∧ Clean c.name

def CleanCall : Clause → Prop
  | .table name => Clean name
  | .strict _ => True
  | .select names => ∀ name ∈ names, Clean name
  | .selectRaw _ _ => False
  | .distinct => True
  | .join _ joined first _ second => Clean joined ∧ Clean first ∧ Clean second
  | .joinWith _ joined on => Clean joined ∧ ∀ e ∈ on, CleanCondition e.condition
  | .filter e => CleanCondition e.condition
  | .having e => CleanCondition e.condition
  | .groupBy names => ∀ name ∈ names, Clean name
  | .groupByRaw _ => False
  | .orderBy key => CleanTerm key.term
  | .limit _ => True
  | .offset _ => True

def filterOperands : Clause → List Operand
  | .filter e => conditionOperands e.condition
  | _ => []

def havingOperands : Clause → List Operand
  | .having e => conditionOperands e.condition
  | _ => []

def joinedOperands : Clause → List Operand
  | .join _ _ _ op _ => nullsIn (Text.trim op)
  | .joinWith _ _ on => operandsOf on
  | _ => []

variable {s : Spelling}

theorem accept_kept {e e' : Expression} (h : CleanCondition e.condition)
    (ha : (plainDialect s).accept e = .ok e') :
    Kept s e'.condition ∧ conditionOperands e'.condition = conditionOperands e.condition := by
  obtain ⟨logic, c⟩ := e
  obtain ⟨hraw, hname⟩ := h
  rw [accept_eq, hraw, if_neg Bool.false_ne_true] at ha
  split at ha
  · cases ha
  rename_i hop
  split at ha
  · cases ha
  cases c with
  | raw sql => cases hraw
  | nullCheck negated name compared =>
    cases ha
    exact ⟨clean_trim hname, rfl⟩
  | membership negated name vs =>
    cases ha
    exact ⟨clean_trim hname, rfl⟩
  | compare name op v =>
    change (Condition.fixNull (.compare (Text.trim name) (Text.trim op) v)).map _ = _ at ha
    cases hv : v.isNull with
    | true =>
      rw [eq_null_of_isNull hv, Condition.fixNull] at ha
      rw [eq_null_of_isNull hv]
      cases hcheck : Condition.nullCheckOf? (Text.trim op) with
      | none =>
        rw [hcheck] at ha
        cases ha
      | some negated =>
        rw [hcheck] at ha
        cases ha
        exact ⟨clean_trim hname, rfl⟩
    | false =>
      rw [fixNull_of_not_null _ _ hv] at ha
      cases ha
      refine ⟨⟨clean_trim hname, eq_false_of_ne_true hop, Trim.trim_trim op, hv⟩, ?_⟩
      simp only [conditionOperands, hv, Trim.trim_trim]

theorem kept_accepted {es : List Expression} (h : ∀ e ∈ es, CleanCondition e.condition) :
    ∀ e ∈ acceptedOf (plainDialect s) es, Kept s e.condition := by
  intro e' he'
  obtain ⟨e, he, hprepared⟩ := List.mem_flatMap.mp he'
  exact (accept_kept (h e he) (eq_ok_of_mem_prepared hprepared)).1

theorem operands_accepted {es : List Expression} (h : ∀ e ∈ es, CleanCondition e.condition)
    (hok : ∀ e ∈ es, refusal ((plainDialect s).accept e) = []) :
    operandsOf (acceptedOf (plainDialect s) es) = operandsOf es := by
  rw [operandsOf, operandsOf, acceptedOf, List.flatMap_assoc]
  refine List.flatMap_congr fun e he => ?_
  have hno := hok e he
  cases ha : (plainDialect s).accept e with
  | ok e' =>
    simpa [prepared] using (accept_kept (h e he) ha).2
  | error err =>
    rw [ha] at hno
    cases hno

theorem kept_filtersOf {c : Clause} (h : CleanCall c) :
    ∀ e ∈ filtersOf (plainDialect s) c, Kept s e.condition := by
  cases c with
  | filter e => exact kept_accepted (List.forall_mem_singleton.mpr h)
  | _ => exact fun e he => nomatch he

theorem kept_havingsOf {c : Clause} (h : CleanCall c) :
    ∀ e ∈ havingsOf (plainDialect s) c, Kept s e.condition := by
  cases c with
  | having e => exact kept_accepted (List.forall_mem_singleton.mpr h)
  | _ => exact fun e he => nomatch he

theorem kept_joinsOf {c : Clause} (h : CleanCall c) :
    ∀ j ∈ joinsOf (plainDialect s) c, KeptJoin s j := by
  cases c with
  | join type joined first op second =>
    intro j hj
    obtain ⟨hop, rfl⟩ := mem_joinOf.mp hj
    exact ⟨h.1, clean_trim h.2.1, hop, clean_trim h.2.2⟩
  | joinWith type joined on =>
    intro j hj
    rw [List.mem_singleton.mp hj]
    exact ⟨h.1, kept_accepted h.2⟩
  | _ => exact fun j hj => nomatch hj

theorem operands_filtersOf {c : Clause} (h : CleanCall c) (hok : errorsOf (plainDialect s) c = []) :
    operandsOf (filtersOf (plainDialect s) c) = filterOperands c := by
  cases c with
  | filter e =>
    rw [filtersOf, operands_accepted (List.forall_mem_singleton.mpr h) (List.forall_mem_singleton.mpr hok)]
    simp [operandsOf, filterOperands]
  | _ => rfl

theorem operands_havingsOf {c : Clause} (h : CleanCall c) (hok : errorsOf (plainDialect s) c = []) :
    operandsOf (havingsOf (plainDialect s) c) = havingOperands c := by
  cases c with
  | having e =>
    rw [havingsOf, operands_accepted (List.forall_mem_singleton.mpr h) (List.forall_mem_singleton.mpr hok)]
    simp [operandsOf, havingOperands]
  | _ => rfl

theorem operands_joinsOf {c : Clause} (h : CleanCall c) (hok : errorsOf (plainDialect s) c = []) :
    (joinsOf (plainDialect s) c).flatMap joinOperands = joinedOperands c := by
  cases c with
  | join type joined first op second =>
    rw [joinsOf]
    rw [errorsOf] at hok
    unfold joinOf at hok ⊢
    split at hok
    · cases hok
    · rename_i hop
      rw [if_neg hop]
      simp [prepared, joinOperands, joinedOperands]
  | joinWith type joined on =>
    have hon : ∀ e ∈ on, refusal ((plainDialect s).accept e) = [] := List.flatMap_eq_nil_iff.mp hok
    simpa [joinsOf, joinOperands, joinedOperands] using operands_accepted h.2 hon
  | _ => rfl

/-! ## Runs of calls -/

/-- The parts of a query that calls put names into without any check. -/
structure CleanNames (q : Query) : Prop where
  table : Clean q.table
  selections : ∀ t ∈ q.selections, CleanSelection t
  groups : ∀ t ∈ q.groups, CleanTerm t
  order : ∀ k ∈ q.order, CleanTerm k.term

theorem cleanNames_add {q : Query} (h : CleanNames q) {c : Clause} (hc : CleanCall c) :
    CleanNames (q.add c) := by
  rw [add_eq]
  cases c with
  | table name => exact ⟨hc, h.selections, h.groups, h.order⟩
  | select names =>
    refine ⟨h.table, List.forall_mem_append.mpr ⟨h.selections, fun t ht => ?_⟩, h.groups, h.order⟩
    obtain ⟨name, hname, rfl⟩ := List.mem_map.mp ht
    exact hc name hname
  | selectRaw sql newName => exact hc.elim
  | groupBy names =>
    refine ⟨h.table, h.selections, List.forall_mem_append.mpr ⟨h.groups, fun t ht => ?_⟩, h.order⟩
    obtain ⟨name, hname, rfl⟩ := List.mem_map.mp ht
    exact hc name hname
  | groupByRaw sql => exact hc.elim
  | orderBy key =>
    exact ⟨h.table, h.selections, h.groups,
      List.forall_mem_append.mpr ⟨h.order, List.forall_mem_singleton.mpr hc⟩⟩
  | _ => exact ⟨h.table, h.selections, h.groups, h.order⟩

theorem cleanNames_addAll {q : Query} (h : CleanNames q) {cs : List Clause} (hcs : ∀ c ∈ cs, CleanCall c) :
    CleanNames (q.addAll cs) := by
  induction cs generalizing q with
  | nil => exact h
  | cons c cs ih =>
    rw [addAll_cons]
    exact ih (cleanNames_add h (hcs c List.mem_cons_self)) fun d hd => hcs d (List.mem_cons_of_mem _ hd)

theorem keptQuery_addAll {table : String} (htable : Clean table) {cs : List Clause}
    (hcs : ∀ c ∈ cs, CleanCall c) : KeptQuery s ((fresh (plainDialect s) table).addAll cs) := by
  have hnames : CleanNames ((fresh (plainDialect s) table).addAll cs) :=
    cleanNames_addAll
      ⟨htable, List.forall_mem_nil _, List.forall_mem_nil _, List.forall_mem_nil _⟩ hcs
  refine ⟨addAll_dialect _ cs, hnames.table, hnames.selections, ?_, ?_, hnames.groups, ?_, hnames.order⟩
  · intro j hj
    rw [addAll_joins] at hj
    obtain ⟨c, hc, hj⟩ := List.mem_flatMap.mp hj
    exact kept_joinsOf (hcs c hc) j hj
  · intro e he
    rw [addAll_filters] at he
    obtain ⟨c, hc, he⟩ := List.mem_flatMap.mp he
    exact kept_filtersOf (hcs c hc) e he
  · intro e he
    rw [addAll_havings] at he
    obtain ⟨c, hc, he⟩ := List.mem_flatMap.mp he
    exact kept_havingsOf (hcs c hc) e he

/-- A chain of calls on a table, and what the query is made into a statement for. -/
structure Run where
  table : String
  calls : List Clause
  operation : Operation

namespace Run

def statement (d : Dialect) (r : Run) : Except QueryError String :=
  r.operation.statement ((fresh d r.table).addAll r.calls)

def mapValues (f : Value → Value) (r : Run) : Run :=
  ⟨r.table, r.calls.map (Clause.mapValues f), r.operation.mapValues f⟩

/-- Nothing raw, and no backtick in a name. -/
structure Clean (r : Run) : Prop where
  table : Outline.Clean r.table
  calls : ∀ c ∈ r.calls, CleanCall c
  operation : r.operation.Clean

/-- The values that were given, in the order in which the statement says them. -/
def operands (r : Run) : List Operand :=
  match r.operation with
  | .select => r.calls.flatMap joinedOperands ++ r.calls.flatMap filterOperands ++
      r.calls.flatMap havingOperands
  | .insert p => paramOperands p
  | .update p => paramOperands p ++ r.calls.flatMap filterOperands
  | .delete => r.calls.flatMap filterOperands
  | .upsert i u _ => paramOperands i ++ paramOperands u

end Run

theorem operands_addAll (table : String) {cs : List Clause} (hcs : ∀ c ∈ cs, CleanCall c)
    (hok : ∀ c ∈ cs, errorsOf (plainDialect s) c = []) :
    let q := (fresh (plainDialect s) table).addAll cs
    q.joins.flatMap joinOperands = cs.flatMap joinedOperands ∧
      operandsOf q.filters = cs.flatMap filterOperands ∧
      operandsOf q.havings = cs.flatMap havingOperands := by
  intro q
  refine ⟨?_, ?_, ?_⟩
  · show q.joins.flatMap joinOperands = _
    rw [addAll_joins]
    show (cs.flatMap (joinsOf (plainDialect s))).flatMap joinOperands = _
    rw [List.flatMap_assoc]
    exact List.flatMap_congr fun c hc => operands_joinsOf (hcs c hc) (hok c hc)
  · rw [addAll_filters]
    show (cs.flatMap (filtersOf (plainDialect s))).flatMap _ = _
    rw [List.flatMap_assoc]
    exact List.flatMap_congr fun c hc => operands_filtersOf (hcs c hc) (hok c hc)
  · rw [addAll_havings]
    show (cs.flatMap (havingsOf (plainDialect s))).flatMap _ = _
    rw [List.flatMap_assoc]
    exact List.flatMap_congr fun c hc => operands_havingsOf (hcs c hc) (hok c hc)

theorem check_of_statement {op : Operation} {q : Query} {sql : String} (h : op.statement q = .ok sql) :
    q.check = .ok () := by
  cases hcheck : q.check with
  | ok u => rfl
  | error e =>
    have hrefuses := refuses_of_check hcheck
    cases op with
    | select => cases h.symm.trans hrefuses.selectStatement
    | insert p => cases h.symm.trans (hrefuses.insertStatement p)
    | update p => cases h.symm.trans (hrefuses.updateStatement p)
    | delete => cases h.symm.trans hrefuses.deleteStatement
    | upsert i u keys => cases h.symm.trans (hrefuses.upsertStatement i u keys)

theorem operands_of_statement {r : Run} (h : r.Clean) {sql : String}
    (hsql : r.statement (plainDialect s) = .ok sql) :
    r.operation.operands ((fresh (plainDialect s) r.table).addAll r.calls) = r.operands := by
  obtain ⟨table, calls, op⟩ := r
  have hok := check_fresh_iff.mp (check_of_statement hsql)
  obtain ⟨hjoins, hfilters, hhavings⟩ := operands_addAll table h.calls hok
  cases op with
  | select => simp only [Operation.operands, Run.operands, hjoins, hfilters, hhavings]
  | insert p => rfl
  | update p => simp only [Operation.operands, Run.operands, hfilters]
  | delete => simp only [Operation.operands, Run.operands, hfilters]
  | upsert i u keys => rfl

theorem OutlinesResult.of_ok {a b : Except QueryError String} {os us : List Operand}
    (h : OutlinesResult a b os) (heq : ∀ sql, a = .ok sql → os = us) : OutlinesResult a b us := by
  cases a with
  | error e => cases b <;> exact h
  | ok a =>
    rw [← heq a rfl]
    exact h

theorem outlines_run (hs : Standard s) {r : Run} (h : r.Clean) :
    OutlinesResult (r.statement (plainDialect s)) ((r.mapValues outline).statement (plainDialect s))
      r.operands := by
  have hkept : KeptQuery s ((fresh (plainDialect s) r.table).addAll r.calls) :=
    keptQuery_addAll h.table h.calls
  have hout := outlines_statement hs hkept h.operation
  have hfixes : (plainDialect s).FixesAlike outline := fixesAlike_of_provided isNull_outline rfl
  have hmap : (fresh (plainDialect s) r.table).addAll (r.calls.map (Clause.mapValues outline)) =
      ((fresh (plainDialect s) r.table).addAll r.calls).mapValues outline :=
    addAll_mapValues (q := fresh (plainDialect s) r.table) hfixes r.calls
  rw [← hmap] at hout
  exact hout.of_ok fun sql hsql => operands_of_statement h hsql

/-! ## The main result -/

/-- The tokens of a statement with nothing in its literals. -/
def skeleton (sql : String) : Option (List Token) :=
  (tokens sql.toList).map (List.map blank)

theorem blank_blank (t : Token) : blank (blank t) = blank t := by
  cases t <;> rfl

theorem map_skeleton_of_outlines {a b : Except QueryError String} {os : List Operand}
    (h : OutlinesResult a b os) : a.map skeleton = b.map skeleton := by
  cases a with
  | error e =>
    cases b with
    | error e' => rw [show e = e' from h]
    | ok b => exact h.elim
  | ok a =>
    cases b with
    | error e => exact h.elim
    | ok b =>
      obtain ⟨ts, ha, hb, -⟩ := Outlines.tokens h
      simp [Except.map, skeleton, ha, hb, Function.comp_def, blank_blank]

/-- With clean names and nothing raw, a statement splits into tokens without rest, and its literals say
the values that were given, one by one. A run that differs in values alone, and not in which of them are
null and which are blobs, fails in the same way or differs within literals alone. -/
theorem values_in_literals (d : Dialect) (hd : d = .generic ∨ d = .sqlite) (r : Run) (h : r.Clean) :
    (∀ sql, r.statement d = .ok sql → ∃ ts, tokens sql.toList = some ts ∧
      ts.flatMap Token.spell = sql.toList ∧ ts.filterMap tokenOperand = r.operands) ∧
    ∀ r' : Run, r'.Clean → r.mapValues outline = r'.mapValues outline →
      (r.statement d).map skeleton = (r'.statement d).map skeleton := by
  obtain ⟨s, hs, rfl⟩ := exists_standard hd
  have hout := outlines_run hs h
  constructor
  · intro sql hsql
    rw [hsql] at hout
    cases hsql' : (r.mapValues outline).statement (plainDialect s) with
    | error e =>
      rw [hsql'] at hout
      exact hout.elim
    | ok sql' =>
      rw [hsql'] at hout
      obtain ⟨ts, hts, -, hoperands⟩ := Outlines.tokens hout
      exact ⟨ts, hts, tokens_spell hts, hoperands⟩
  · intro r' h' heq
    have hout' := outlines_run hs h'
    rw [← heq] at hout'
    rw [map_skeleton_of_outlines hout, map_skeleton_of_outlines hout']

/-- A text that would end the statement if it could, beside a null and a blob. -/
theorem values_in_literals_hostile :
    let run (v : Value) : Run := ⟨"user",
      [.filter (.equals .and "name as n" v), .filter (.isIn .or "user.id" [.int 3, .null])],
      .update ⟨[("note", v), ("done", .bool true), ("data", .blob [39, 255])]⟩⟩
    let hostile := Value.text "'; drop table user; --"
    (run hostile).Clean ∧
    (∃ sql ts, (run hostile).statement .sqlite = .ok sql ∧ tokens sql.toList = some ts ∧
      ts.filterMap tokenOperand = [.text "'; drop table user; --", .text "1", .blob [39, 255],
        .text "'; drop table user; --", .text "3", .null]) ∧
    ((run hostile).statement .sqlite).map skeleton = ((run (.int 7)).statement .sqlite).map skeleton := by
  intro run hostile
  have hclean : ∀ v, (run v).Clean := by
    intro v
    have hcalls : CleanCondition (.compare "name as n" "=" v) ∧
        CleanCondition (.membership false "user.id" [.int 3, .null]) :=
      ⟨⟨rfl, by show Clean "name as n"; decide⟩, rfl, by show Clean "user.id"; decide⟩
    have hcolumns : ∀ name ∈ ["note", "done", "data"], Clean name := by decide
    refine ⟨by show Clean "user"; decide, ?_, hcolumns⟩
    exact List.forall_mem_cons.mpr ⟨hcalls.1, List.forall_mem_singleton.mpr hcalls.2⟩
  obtain ⟨hreads, hsame⟩ := values_in_literals .sqlite (Or.inr rfl) (run hostile) (hclean _)
  refine ⟨hclean _, ?_, hsame (run (.int 7)) (hclean _) rfl⟩
  have hok : ((run hostile).statement .sqlite).isOk = true := by decide +kernel
  cases hsql : (run hostile).statement .sqlite with
  | error e =>
    rw [hsql] at hok
    cases hok
  | ok sql =>
    obtain ⟨ts, hts, -, hoperands⟩ := hreads sql hsql
    exact ⟨sql, ts, rfl, hts, hoperands⟩

end SqlRecord.Outline

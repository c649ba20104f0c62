import SqlRecord.Query.Statement
import SqlRecord.Proofs.Clauses
import SqlRecord.Proofs.Outcomes

/-! # The text of statements

Each of the five statements that a query makes has the outline of the same statement with the outlines of
its values, and says those values in the order of its clauses.
-/

namespace SqlRecord.Outline

open Lexeme Trim

/-- A dialect with the rules that every dialect has unless it replaces them. -/
def plainDialect (s : Spelling) : Dialect :=
  { toSpelling := s }

theorem exists_standard {d : Dialect} (h : d = .generic ∨ d = .sqlite) :
    ∃ s, Standard s ∧ d = plainDialect s := by
  rcases h with rfl | rfl
  · exact ⟨_, standard_generic, rfl⟩
  · exact ⟨_, standard_sqlite, rfl⟩

/-! ## Parts of statements -/

variable {s : Spelling} (hs : Standard s)
include hs

theorem outlines_names {names : List String} (h : ∀ name ∈ names, Clean name) :
    Outlines (", ".intercalate (names.map s.quoteName)) (", ".intercalate (names.map s.quoteName)) [] := by
  have hnames := Outlines.intercalate (w := ", ") rfl fun name hname => outlines_name hs (h name hname)
  rwa [List.flatMap_eq_nil_iff.mpr fun _ _ => rfl] at hnames

def paramOperands (p : Params) : List Operand :=
  p.values.map operand

theorem outlines_literals (p : Params) :
    Outlines (", ".intercalate (s.literals p)) (", ".intercalate (s.literals (p.mapValues outline)))
      (paramOperands p) := by
  have h : Outlines (", ".intercalate (p.entries.map fun e => s.quote e.2.stored))
      (", ".intercalate (p.entries.map fun e => s.quote (outline e.2).stored))
      (p.entries.flatMap fun e => [operand e.2]) :=
    Outlines.intercalate rfl fun e _ => outlines_value hs e.2
  rw [← List.map_eq_flatMap] at h
  simpa [Spelling.literals, Params.values, Params.mapValues, paramOperands, Function.comp_def] using h

theorem outlines_assignments {p : Params} (h : ∀ name ∈ p.columns, Clean name) :
    Outlines (s.assignments p) (s.assignments (p.mapValues outline)) (paramOperands p) := by
  have h : Outlines (", ".intercalate (p.entries.map fun e => s.quoteName e.1 ++ " = " ++ s.quote e.2.stored))
      (", ".intercalate (p.entries.map fun e => s.quoteName e.1 ++ " = " ++ s.quote (outline e.2).stored))
      (p.entries.flatMap fun e => [] ++ [operand e.2]) :=
    Outlines.intercalate rfl fun e he =>
      (outlines_name hs (h e.1 (List.mem_map_of_mem he))).link (w := " = ") rfl (outlines_value hs e.2)
  simp only [List.nil_append, ← List.map_eq_flatMap] at h
  simpa [Spelling.assignments, Params.values, Params.mapValues, paramOperands, Function.comp_def] using h

theorem closes_assignments {p : Params} (h : p.isEmpty = false) : Closes (s.assignments p).toList := by
  refine closes_intercalate ?_ fun x hx => ?_
  · simpa [Params.isEmpty] using h
  · obtain ⟨e, -, rfl⟩ := List.mem_map.mp hx
    rw [hs.quote]
    exact closes_append _ (closes_literal _)

theorem trim_clause {text word : String} (h : Opens text.toList) (h' : Closes text.toList)
    {es : List Expression} (hes : ∀ e ∈ es, Kept s e.condition) :
    Text.trim (text ++ " " ++ Expression.clause s word es) =
      if es.isEmpty then text else text ++ " " ++ Expression.clause s word es := by
  cases es with
  | nil =>
    show Text.trim (text ++ " " ++ "") = text
    rw [String.append_empty, trim_append_blank, trim_of_opens_closes h h']
  | cons e es =>
    refine trim_of_opens_closes ?_ ?_
    · rw [String.append_assoc]
      exact opens_append h _
    · have hplain : ∀ d ∈ e :: es, d.condition.isRaw = false := fun d hd => (hes d hd).isRaw
      rw [Expression.clause, compileAll_eq_chain hs hplain]
      show Closes (text ++ " " ++ (word ++ " " ++ chain s (e :: es))).toList
      rw [← String.append_assoc]
      exact closes_append _ (closes_chain hs hplain)

theorem outlines_trim_clause {word a b : String} {os : List Operand} (h : Outlines a b os)
    (hword : isLead (word ++ " ").toList = true) (ha : Opens a.toList ∧ Closes a.toList)
    (hb : Opens b.toList ∧ Closes b.toList) {es : List Expression} (hes : ∀ e ∈ es, Kept s e.condition) :
    Outlines (Text.trim (a ++ " " ++ Expression.clause s word es))
      (Text.trim (b ++ " " ++ Expression.clause s word (es.map (Expression.mapValues outline))))
      (os ++ operandsOf es) := by
  rw [trim_clause hs ha.1 ha.2 hes, trim_clause hs hb.1 hb.2 (kept_map hes), List.isEmpty_map]
  cases es with
  | nil => simpa [operandsOf] using h
  | cons e es => exact h.link (w := " ") rfl (outlines_clause hs word hword hes)

/-! ## Kept queries -/

omit hs

/-- A query of the standard rules into which nothing raw and no backtick was put. -/
structure KeptQuery (s : Spelling) (q : Query) : Prop where
  dialect : q.dialect = plainDialect s
  table : Clean q.table
  selections : ∀ t ∈ q.selections, CleanSelection t
  joins : ∀ j ∈ q.joins, KeptJoin s j
  filters : ∀ e ∈ q.filters, Kept s e.condition
  groups : ∀ t ∈ q.groups, CleanTerm t
  havings : ∀ e ∈ q.havings, Kept s e.condition
  order : ∀ k ∈ q.order, CleanTerm k.term

inductive Operation
  | select
  | insert (p : Params)
  | update (p : Params)
  | delete
  | upsert (insert update : Params) (keys : List String)

namespace Operation

def statement : Operation → Query → Except QueryError String
  | select, q => q.selectStatement
  | insert p, q => q.insertStatement p
  | update p, q => q.updateStatement p
  | delete, q => q.deleteStatement
  | upsert i u keys, q => q.upsertStatement i u keys

def mapValues (f : Value → Value) : Operation → Operation
  | select => select
  | insert p => insert (p.mapValues f)
  | update p => update (p.mapValues f)
  | delete => delete
  | upsert i u keys => upsert (i.mapValues f) (u.mapValues f) keys

/-- No column and no key has a backtick. -/
def Clean : Operation → Prop
  | select => True
  | insert p => ∀ name ∈ p.columns, Outline.Clean name
  | update p => ∀ name ∈ p.columns, Outline.Clean name
  | delete => True
  | upsert i u keys => (∀ name ∈ i.columns, Outline.Clean name) ∧
      (∀ name ∈ u.columns, Outline.Clean name) ∧ ∀ name ∈ keys, Outline.Clean name

def operands : Operation → Query → List Operand
  | select, q => q.joins.flatMap joinOperands ++ operandsOf q.filters ++ operandsOf q.havings
  | insert p, _ => paramOperands p
  | update p, q => paramOperands p ++ operandsOf q.filters
  | delete, q => operandsOf q.filters
  | upsert i u _, _ => paramOperands i ++ paramOperands u

end Operation

/-- Both fail alike, or both succeed and one is the outline of the other. -/
def OutlinesResult (a b : Except QueryError String) (os : List Operand) : Prop :=
  match a, b with
  | .ok a, .ok b => Outlines a b os
  | .error e, .error e' => e = e'
  | _, _ => False

include hs

theorem outlines_inserted {q : Query} (hq : KeptQuery s q) {p : Params}
    (hp : ∀ name ∈ p.columns, Clean name) :
    Outlines ("insert into " ++ s.quoteName q.table ++ " (" ++ ", ".intercalate (p.columns.map s.quoteName) ++
        ") values (" ++ ", ".intercalate (s.literals p) ++ ")")
      ("insert into " ++ s.quoteName q.table ++ " (" ++ ", ".intercalate (p.columns.map s.quoteName) ++
        ") values (" ++ ", ".intercalate (s.literals (p.mapValues outline)) ++ ")")
      (paramOperands p) := by
  have htable := (outlines_name hs hq.table).lead (w := "insert into ") rfl
  have hnames := htable.link (w := " (") rfl (outlines_names hs hp)
  have hvalues := hnames.link (w := ") values (") rfl (outlines_literals hs p)
  exact hvalues.close (w := ")") rfl

theorem outlines_insert {q : Query} (hq : KeptQuery s q) {p : Params}
    (hp : ∀ name ∈ p.columns, Clean name) :
    OutlinesResult (q.insertStatement p) ((q.mapValues outline).insertStatement (p.mapValues outline))
      (paramOperands p) := by
  rw [q.insertStatement_eq, Query.insertStatement_eq, q.check_mapValues, p.isEmpty_mapValues]
  cases q.check with
  | error e => rfl
  | ok u =>
    cases hempty : p.isEmpty with
    | true => rfl
    | false =>
      show Outlines (q.dialect.insertStatement q.table p)
        (q.dialect.insertStatement q.table (p.mapValues outline)) _
      rw [hq.dialect]
      simp only [plainDialect, Spelling.insertStatement, p.isEmpty_mapValues, p.columns_mapValues, hempty]
      exact outlines_inserted hs hq hp

theorem outlines_update {q : Query} (hq : KeptQuery s q) {p : Params}
    (hp : ∀ name ∈ p.columns, Clean name) :
    OutlinesResult (q.updateStatement p) ((q.mapValues outline).updateStatement (p.mapValues outline))
      (paramOperands p ++ operandsOf q.filters) := by
  rw [q.updateStatement_eq, Query.updateStatement_eq, q.check_mapValues, p.isEmpty_mapValues,
    q.strict_mapValues, q.isEmpty_filters_mapValues]
  cases q.check with
  | error e => rfl
  | ok u =>
    cases hempty : p.isEmpty with
    | true => rfl
    | false =>
      cases q.strict && q.filters.isEmpty with
      | true => rfl
      | false =>
        have htable := (outlines_name hs hq.table).lead (w := "update ") rfl
        have hset := htable.link (w := " set ") rfl (outlines_assignments hs hp)
        have hempty' : (p.mapValues outline).isEmpty = false := by rw [p.isEmpty_mapValues, hempty]
        have hopens : ∀ t : String, Opens ("update " ++ t).toList :=
          opens_append ⟨'u', "pdate ".toList, rfl, rfl⟩
        show Outlines (q.dialect.updateStatement q.table p (q.dialect.whereClause q.filters))
          (q.dialect.updateStatement q.table (p.mapValues outline)
            (q.dialect.whereClause (q.mapValues outline).filters)) _
        rw [hq.dialect]
        refine outlines_trim_clause hs hset rfl ⟨?_, ?_⟩ ⟨?_, ?_⟩ hq.filters
        · rw [String.append_assoc, String.append_assoc]
          exact hopens _
        · exact closes_append _ (closes_assignments hs hempty)
        · rw [String.append_assoc, String.append_assoc]
          exact hopens _
        · exact closes_append _ (closes_assignments hs hempty')

theorem outlines_delete {q : Query} (hq : KeptQuery s q) :
    OutlinesResult q.deleteStatement (q.mapValues outline).deleteStatement (operandsOf q.filters) := by
  rw [q.deleteStatement_eq, Query.deleteStatement_eq, q.check_mapValues]
  cases q.check with
  | error e => rfl
  | ok u =>
    have htable := (outlines_name hs hq.table).lead (w := "delete from ") rfl
    have hends : Opens ("delete from " ++ s.quoteName q.table).toList ∧
        Closes ("delete from " ++ s.quoteName q.table).toList := by
      refine ⟨opens_append ⟨'d', "elete from ".toList, rfl, rfl⟩ _, ?_⟩
      rw [hs.quoteName]
      exact closes_append _ (Name.closes_quote _)
    show Outlines (q.dialect.deleteStatement q.table (q.dialect.whereClause q.filters))
      (q.dialect.deleteStatement q.table (q.dialect.whereClause (q.mapValues outline).filters)) _
    rw [hq.dialect]
    exact outlines_trim_clause hs htable rfl hends hends hq.filters

theorem outlines_conflict {u : Params} (hu : ∀ name ∈ u.columns, Clean name) :
    Outlines (Query.conflictAction s u) (Query.conflictAction s (u.mapValues outline)) (paramOperands u) := by
  unfold Query.conflictAction
  rw [u.isEmpty_mapValues]
  cases hempty : u.isEmpty with
  | true =>
    have hnone : paramOperands u = [] := by
      simpa [paramOperands, Params.values, Params.isEmpty] using hempty
    rw [hnone]
    exact outlines_word (s := "do nothing") rfl
  | false => exact (outlines_assignments hs hu).lead (w := "do update set ") rfl

theorem outlines_upsert {q : Query} (hq : KeptQuery s q) {i u : Params} {keys : List String}
    (hi : ∀ name ∈ i.columns, Clean name) (hu : ∀ name ∈ u.columns, Clean name)
    (hkeys : ∀ name ∈ keys, Clean name) :
    OutlinesResult (q.upsertStatement i u keys)
      ((q.mapValues outline).upsertStatement (i.mapValues outline) (u.mapValues outline) keys)
      (paramOperands i ++ paramOperands u) := by
  rw [q.upsertStatement_eq, Query.upsertStatement_eq, q.check_mapValues, i.isEmpty_mapValues]
  cases q.check with
  | error e => rfl
  | ok v =>
    cases i.isEmpty with
    | true => rfl
    | false =>
      have hdialect : q.dialect.toSpelling = s := by rw [hq.dialect]; rfl
      have htable := (outlines_name hs hq.table).lead (w := "insert into ") rfl
      have hnames := htable.link (w := " (") rfl (outlines_names hs hi)
      have hvalues := hnames.link (w := ") values (") rfl (outlines_literals hs i)
      have hconflict := hvalues.link (w := ") on conflict (") rfl (outlines_names hs hkeys)
      have haction := hconflict.link (w := ") ") rfl (outlines_conflict hs hu)
      rw [List.nil_append, List.nil_append, List.append_nil] at haction
      have htext : Outlines (q.upsertText i u keys)
          ((q.mapValues outline).upsertText (i.mapValues outline) (u.mapValues outline) keys)
          (paramOperands i ++ paramOperands u) := by
        unfold Query.upsertText
        rw [i.columns_mapValues, q.dialect_mapValues, q.table_mapValues, hdialect]
        exact haction
      exact htext

/-! ## Selecting -/

theorem outlines_selections {items : List Selection} (h : ∀ t ∈ items, CleanSelection t) :
    Outlines (Selection.list s items) (Selection.list s items) [] := by
  unfold Selection.list
  split
  · exact outlines_word (s := "*") rfl
  · have hitems := Outlines.intercalate (w := ", ") rfl fun t ht => outlines_selection hs (h t ht)
    rwa [List.flatMap_eq_nil_iff.mpr fun _ _ => rfl] at hitems

theorem outlines_groups {items : List Term} (h : ∀ t ∈ items, CleanTerm t) :
    Outlines (Term.groupClause s items) (Term.groupClause s items) [] := by
  unfold Term.groupClause
  split
  · exact outlines_empty
  · have hitems := Outlines.intercalate (w := ", ") rfl fun t ht => outlines_term hs (h t ht)
    rw [List.flatMap_eq_nil_iff.mpr fun _ _ => rfl] at hitems
    exact hitems.lead (w := "group by ") rfl

theorem outlines_key {k : OrderKey} (h : CleanTerm k.term) :
    Outlines (k.compile s) (k.compile s) [] := by
  have hword : Outlines k.direction.word k.direction.word [] := by
    cases k.direction
    · exact outlines_word (s := "asc") rfl
    · exact outlines_word (s := "desc") rfl
  exact (outlines_term hs h).link (w := " ") rfl hword

theorem outlines_order {items : List OrderKey} (h : ∀ k ∈ items, CleanTerm k.term) :
    Outlines (OrderKey.clause s items) (OrderKey.clause s items) [] := by
  unfold OrderKey.clause
  split
  · exact outlines_empty
  · have hitems := Outlines.intercalate (w := ", ") rfl fun k hk => outlines_key hs (h k hk)
    rw [List.flatMap_eq_nil_iff.mpr fun _ _ => rfl] at hitems
    exact hitems.lead (w := "order by ") rfl

theorem outlines_joins {joins : List Join} (h : ∀ j ∈ joins, KeptJoin s j) :
    Outlines (Join.compileAll s joins) (Join.compileAll s (joins.map (Join.mapValues outline)))
      (joins.flatMap joinOperands) := by
  have hjoins : Outlines (" ".intercalate (joins.map (Join.compile s)))
      (" ".intercalate (joins.map fun j => (j.mapValues outline).compile s)) (joins.flatMap joinOperands) :=
    Outlines.intercalate rfl fun j hj => outlines_join hs (h j hj)
  simpa [Join.compileAll, Function.comp_def] using hjoins

omit hs

theorem isUnquoted_of_isNumeral {c : Char} (h : Number.isNumeral c = true) : isUnquoted c = true := by
  simp only [isUnquoted, Bool.and_eq_true, bne_iff_ne]
  refine ⟨⟨?_, ?_⟩, ?_⟩ <;> rintro rfl <;> exact absurd h (by decide)

theorem outlines_toString (n : Int) : Outlines (toString n) (toString n) [] := by
  have hnumeral : ∀ c ∈ (toString n).toList, Number.isNumeral c = true := fun _ =>
    Number.isNumeral_of_mem_toString
  have hn : 'n' ∉ (toString n).toList := by
    rw [Number.toList_toString_int]
    have hdigits : ∀ m, 'n' ∉ Nat.toDigits 10 m := fun m hm =>
      absurd (Nat.isDigit_of_mem_toDigits (by decide) (by decide) hm) (by decide)
    split
    · exact hdigits _
    · exact fun h => (List.mem_cons.mp h).elim (by decide) (hdigits _)
  rw [← nullsIn_of_not_mem hn]
  exact outlines_word (List.all_eq_true.mpr fun c hc => isUnquoted_of_isNumeral (hnumeral c hc))

theorem outlines_count (word : String) (hword : isLead (word ++ " ").toList = true) (n : Option Int64) :
    Outlines (countClause word n) (countClause word n) [] := by
  cases n with
  | none => exact outlines_empty
  | some n => exact (outlines_toString n.toInt).lead hword

include hs

theorem outlines_segments {q : Query} (hq : KeptQuery s q) :
    Outlines (" ".intercalate (q.segments.filter (· ≠ "")))
      (" ".intercalate ((q.mapValues outline).segments.filter (· ≠ "")))
      (q.joins.flatMap joinOperands ++ operandsOf q.filters ++ operandsOf q.havings) := by
  have hdistinct : Outlines ((plainDialect s).distinctWord q.distinct)
      ((plainDialect s).distinctWord q.distinct) [] := by
    cases q.distinct
    · exact outlines_empty
    · exact outlines_word (s := "distinct") rfl
  have hsegments : ∀ x ∈ q.segments.zip ((q.mapValues outline).segments.zip
      [[], [], [], [], [], q.joins.flatMap joinOperands, operandsOf q.filters, [], operandsOf q.havings, [],
        [], []]), Outlines x.1 x.2.1 x.2.2 := by
    simp only [Query.segments, q.dialect_mapValues, hq.dialect,
      List.zip_cons_cons, List.forall_mem_cons]
    exact ⟨outlines_word (s := "select") rfl, hdistinct, outlines_selections hs hq.selections,
      outlines_word (s := "from") rfl, outlines_name hs hq.table, outlines_joins hs hq.joins,
      outlines_clause hs "where" rfl hq.filters, outlines_groups hs hq.groups,
      outlines_clause hs "having" rfl hq.havings, outlines_order hs hq.order,
      outlines_count "limit" rfl q.limit, outlines_count "offset" rfl q.offset, by simp⟩
  have hsentence := Outlines.sentence hsegments
  simpa [Query.segments] using hsentence

theorem outlines_select {q : Query} (hq : KeptQuery s q) :
    OutlinesResult q.selectStatement (q.mapValues outline).selectStatement
      (q.joins.flatMap joinOperands ++ operandsOf q.filters ++ operandsOf q.havings) := by
  rw [q.selectStatement_eq, Query.selectStatement_eq, q.check_mapValues]
  cases q.check with
  | error e => rfl
  | ok u => exact outlines_segments hs hq

/-- Whatever a kept query is made into a statement for. -/
theorem outlines_statement {q : Query} (hq : KeptQuery s q) {op : Operation} (hop : op.Clean) :
    OutlinesResult (op.statement q) ((op.mapValues outline).statement (q.mapValues outline))
      (op.operands q) := by
  cases op with
  | select => exact outlines_select hs hq
  | insert p => exact outlines_insert hs hq hop
  | update p => exact outlines_update hs hq hop
  | delete => exact outlines_delete hs hq
  | upsert i u keys => exact outlines_upsert hs hq hop.1 hop.2.1 hop.2.2

end SqlRecord.Outline

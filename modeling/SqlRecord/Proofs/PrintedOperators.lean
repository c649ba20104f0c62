import SqlRecord.Proofs.Clauses
import SqlRecord.Proofs.JoinConditions
import SqlRecord.Proofs.Operators

/-! # Printed operators

A condition prints its operator as the dialect spells it, wherever it stands. A join on two columns prints its
operator as it was given, which is the same only where the dialect has no spelling of its own for it.
-/

namespace SqlRecord

namespace PrintedOperators

open Builder Outline JoinConditions

/-! ## Texts with operators in them -/

/-- A part of a text: an operator, or what stands around operators. -/
inductive Part
  | operator (op : String)
  | other (text : String)
  deriving DecidableEq, Repr

def Part.text : Part → String
  | operator op => op
  | other text => text

def Part.operator? : Part → Option String
  | operator op => some op
  | other _ => none

def textOf : List Part → String
  | [] => ""
  | p :: ps => p.text ++ textOf ps

def operatorsOf (ps : List Part) : List String :=
  ps.filterMap Part.operator?

theorem textOf_append (ps qs : List Part) : textOf (ps ++ qs) = textOf ps ++ textOf qs := by
  induction ps with
  | nil => simp [textOf]
  | cons p ps ih => rw [List.cons_append, textOf, textOf, ih, String.append_assoc]

theorem operatorsOf_append (ps qs : List Part) : operatorsOf (ps ++ qs) = operatorsOf ps ++ operatorsOf qs :=
  List.filterMap_append

/-! ## Conditions -/

def conditionParts (s : Spelling) : Condition → List Part
  | .compare name op v =>
    [.other (s.quoteName name ++ " "), .operator (s.operator op), .other (" " ++ s.quote v.stored)]
  | .nullCheck negated name _ =>
    [.other (s.quoteName name ++ " "), .operator (s.operator (Condition.nullOperator negated))]
  | .membership negated name vs =>
    [.other (s.quoteName name ++ " "), .operator (s.operator (Condition.listOperator negated)),
      .other (" (" ++ ", ".intercalate (s.quoteAll (vs.map Value.stored)) ++ ")")]
  | .raw sql => [.other sql]

/-- A condition behind another one, with its joining word. -/
def nextParts (s : Spelling) (e : Expression) : List Part :=
  .other (" " ++ e.logic.word ++ " ") :: conditionParts s e.condition

/-- Conditions one after the other, the first one without its joining word. -/
def chainParts (s : Spelling) : List Expression → List Part
  | [] => []
  | e :: es => conditionParts s e.condition ++ es.flatMap (nextParts s)

/-- The operators that conditions were stored with. Raw ones have none. -/
def storedOperators (es : List Expression) : List String :=
  (es.filter fun e => !e.condition.isRaw).map fun e => e.condition.operator

variable (s : Spelling)

theorem textOf_conditionParts (c : Condition) : textOf (conditionParts s c) = c.compile s := by
  cases c <;> simp [conditionParts, textOf, Part.text, Condition.compile, String.append_assoc]

theorem textOf_nextParts (e : Expression) : textOf (nextParts s e) = " " ++ e.compile s := by
  simp [nextParts, textOf, Part.text, textOf_conditionParts, Expression.compile, String.append_assoc]

theorem textOf_flatMap_nextParts (e : Expression) (es : List Expression) :
    textOf ((e :: es).flatMap (nextParts s)) = " " ++ " ".intercalate ((e :: es).map (Expression.compile s)) := by
  induction es generalizing e with
  | nil => simp [textOf_nextParts]
  | cons e' es ih =>
    rw [List.flatMap_cons, textOf_append, textOf_nextParts, ih e']
    simp only [List.map_cons, String.intercalate_cons_cons, String.append_assoc]

theorem textOf_chainParts (es : List Expression) : textOf (chainParts s es) = chain s es := by
  rcases es with _ | ⟨e, _ | ⟨e', es⟩⟩
  · rfl
  · simp [chainParts, chain, textOf_conditionParts]
  · rw [chainParts, textOf_append, textOf_conditionParts, textOf_flatMap_nextParts, chain, String.append_assoc]

theorem operatorsOf_conditionParts (c : Condition) :
    operatorsOf (conditionParts s c) = if c.isRaw then [] else [s.operator c.operator] := by
  cases c <;> rfl

theorem storedOperators_cons (e : Expression) (es : List Expression) :
    storedOperators (e :: es) =
      (if e.condition.isRaw then [] else [e.condition.operator]) ++ storedOperators es := by
  unfold storedOperators
  cases h : e.condition.isRaw <;> simp [h]

theorem operatorsOf_chainParts (es : List Expression) :
    operatorsOf (chainParts s es) = (storedOperators es).map s.operator := by
  have hrest : ∀ es : List Expression,
      operatorsOf (es.flatMap (nextParts s)) = (storedOperators es).map s.operator := by
    intro es
    induction es with
    | nil => rfl
    | cons e es ih =>
      have hnext : operatorsOf (nextParts s e) = operatorsOf (conditionParts s e.condition) := rfl
      rw [List.flatMap_cons, operatorsOf_append, ih, hnext, operatorsOf_conditionParts, storedOperators_cons,
        List.map_append]
      cases e.condition.isRaw <;> rfl
  cases es with
  | nil => rfl
  | cons e es =>
    rw [chainParts, operatorsOf_append, hrest, operatorsOf_conditionParts, storedOperators_cons, List.map_append]
    cases e.condition.isRaw <;> rfl

/-! ## Joins -/

/-- What a join prints behind `on`. Its conditions are spelt as those of clauses, the operator between two
columns is not. -/
def onParts : JoinCondition → List Part
  | .columns first op second =>
    [.other (s.quoteName first ++ " "), .operator op, .other (" " ++ s.quoteName second)]
  | .conditions es => chainParts s es

/-- The operators that a join was stored with. -/
def joinOperators : JoinCondition → List String
  | .columns _ op _ => [op]
  | .conditions es => storedOperators es

/-- The text behind `on`. That of conditions has no outer blanks. -/
def onText (on : JoinCondition) : String :=
  match on with
  | .columns .. => textOf (onParts s on)
  | .conditions _ => Text.trim (textOf (onParts s on))

theorem onText_eq (on : JoinCondition) : onText s on = on.compile s := by
  cases on with
  | columns first op second =>
    simp [onText, onParts, textOf, Part.text, JoinCondition.compile, String.append_assoc]
  | conditions es =>
    rw [onText, onParts, textOf_chainParts, JoinCondition.compile, compileAll_eq_trim]

def clauseText (keyword : String) (es : List Expression) : String :=
  if es = [] then "" else keyword ++ " " ++ Text.trim (textOf (chainParts s es))

theorem clauseText_eq (keyword : String) (es : List Expression) :
    clauseText s keyword es = Expression.clause s keyword es := by
  rw [clause_eq, clauseText, textOf_chainParts, JoinCondition.compile, compileAll_eq_trim]

def joinText (j : Join) : String :=
  j.type.word ++ " join " ++ s.quoteName j.table ++
    if onText s j.condition = "" then "" else " on " ++ onText s j.condition

theorem joinText_eq (j : Join) : joinText s j = j.compile s := by
  rw [compile_join, joinText, onText_eq]

/-! ## Queries -/

/-- A select statement, with its joins and conditions as their parts put together. -/
def selectText (q : Query) : String :=
  let d := q.dialect
  let s := d.toSpelling
  " ".intercalate (["select", d.distinctWord q.distinct, d.selectList q.selections, "from",
    d.quoteName q.table, " ".intercalate (q.joins.map (joinText s)), clauseText s "where" q.filters,
    d.groupClause q.groups, clauseText s "having" q.havings, d.orderClause q.order, d.limitClause q.limit,
    d.offsetClause q.offset].filter (· ≠ ""))

/-- The operators of a query in the order in which they are printed, as they were stored. -/
def registered (q : Query) : List String :=
  q.joins.flatMap (fun j => joinOperators j.condition) ++ (storedOperators q.filters ++ storedOperators q.havings)

/-- The operators that a select statement of the query has in it. -/
def printed (q : Query) : List String :=
  q.joins.flatMap (fun j => operatorsOf (onParts q.dialect.toSpelling j.condition)) ++
    (operatorsOf (chainParts q.dialect.toSpelling q.filters) ++
      operatorsOf (chainParts q.dialect.toSpelling q.havings))

/-- The join is one on columns whose operator the dialect would spell in another way. -/
def Respelt (on : JoinCondition) : Prop :=
  ∃ first op second, on = .columns first op second ∧ s.operator op ≠ op

theorem length_operatorsOf_onParts (on : JoinCondition) :
    (operatorsOf (onParts s on)).length = ((joinOperators on).map s.operator).length := by
  cases on with
  | columns first op second => rfl
  | conditions es => rw [onParts, operatorsOf_chainParts, joinOperators]

theorem operatorsOf_onParts_iff (on : JoinCondition) :
    operatorsOf (onParts s on) = (joinOperators on).map s.operator ↔ ¬ Respelt s on := by
  cases on with
  | columns first op second =>
    show [op] = [s.operator op] ↔ _
    simp [Respelt, eq_comm]
  | conditions es =>
    rw [onParts, operatorsOf_chainParts, joinOperators]
    simp [Respelt]

theorem flatMap_inj {α β : Type} {f g : α → List β} (h : ∀ a, (f a).length = (g a).length) (as : List α) :
    as.flatMap f = as.flatMap g ↔ ∀ a ∈ as, f a = g a := by
  induction as with
  | nil => simp
  | cons a as ih =>
    rw [List.flatMap_cons, List.flatMap_cons, List.forall_mem_cons, ← ih]
    exact ⟨fun hsame => List.append_inj hsame (h a), fun hsame => by rw [hsame.1, hsame.2]⟩

theorem selectStatement_eq_text {q : Query} (hd : q.dialect.KeepsClauses) :
    q.selectStatement = q.check >>= fun _ => .ok (selectText q) := by
  have hjoins : q.dialect.joinList q.joins = " ".intercalate (q.joins.map (joinText q.dialect.toSpelling)) := by
    rw [hd.joinList, Join.compileAll, List.map_congr_left fun j _ => joinText_eq q.dialect.toSpelling j]
  have hwhere : q.dialect.whereClause q.filters = clauseText q.dialect.toSpelling "where" q.filters := by
    rw [hd.whereClause, clauseText_eq]
  have hhaving : q.dialect.havingClause q.havings = clauseText q.dialect.toSpelling "having" q.havings := by
    rw [hd.havingClause, clauseText_eq]
  rw [q.selectStatement_eq, Query.segments, hjoins, hwhere, hhaving]
  rfl

theorem printed_eq_iff (q : Query) :
    printed q = (registered q).map q.dialect.operator ↔
      ∀ j ∈ q.joins, ¬ Respelt q.dialect.toSpelling j.condition := by
  unfold printed registered
  rw [operatorsOf_chainParts, operatorsOf_chainParts, List.map_append, List.map_append, List.map_flatMap,
    List.append_left_inj,
    flatMap_inj fun j : Join => length_operatorsOf_onParts q.dialect.toSpelling j.condition]
  exact forall₂_congr fun j _ => operatorsOf_onParts_iff _ j.condition

/-! ## Runs of calls -/

theorem mem_storedOperators {es : List Expression} {op : String} :
    op ∈ storedOperators es ↔ ∃ e ∈ es, e.condition.isRaw = false ∧ e.condition.operator = op := by
  simp [storedOperators, and_assoc]

theorem mem_printed {q : Query} {op : String} :
    op ∈ printed q ↔
      (∃ j ∈ q.joins, ∃ first second, j.condition = .columns first op second) ∨
        ∃ e ∈ q.conditions, e.condition.isRaw = false ∧ q.dialect.operator e.condition.operator = op := by
  have hon : ∀ on : JoinCondition, op ∈ operatorsOf (onParts q.dialect.toSpelling on) ↔
      (∃ first second, on = .columns first op second) ∨
        ∃ e ∈ on.expressions, e.condition.isRaw = false ∧ q.dialect.operator e.condition.operator = op := by
    intro on
    cases on with
    | columns first op' second =>
      show op ∈ [op'] ↔ _
      simp only [JoinCondition.expressions, List.mem_singleton, List.not_mem_nil, JoinCondition.columns.injEq,
        false_and, exists_false, or_false]
      exact ⟨fun h => ⟨first, second, rfl, h.symm, rfl⟩, fun ⟨_, _, _, h, _⟩ => h.symm⟩
    | conditions es =>
      rw [onParts, operatorsOf_chainParts]
      simp [JoinCondition.expressions, mem_storedOperators, and_assoc]
  unfold printed Query.conditions
  rw [operatorsOf_chainParts, operatorsOf_chainParts]
  simp only [List.mem_append, List.mem_flatMap, List.mem_map, mem_storedOperators, hon]
  grind

theorem exists_columns_iff (d : Dialect) (table : String) (xs : List Clause) (P : String → Prop) :
    (∃ j ∈ ((fresh d table).addAll xs).joins, ∃ first op second,
        j.condition = .columns first op second ∧ P op) ↔
      ∃ type joined first op second, Clause.join type joined first op second ∈ xs ∧
        d.isUnknown (Text.trim op) = false ∧ P (Text.trim op) := by
  rw [addAll_joins]
  simp only [fresh, List.nil_append, List.mem_flatMap]
  constructor
  · rintro ⟨j, ⟨x, hx, hj⟩, first, op, second, hcolumns, hop⟩
    cases x with
    | join type joined first' op' second' =>
      obtain ⟨hknown, rfl⟩ := mem_joinOf.mp hj
      obtain ⟨-, rfl, -⟩ := JoinCondition.columns.inj hcolumns
      exact ⟨_, _, _, op', _, hx, hknown, hop⟩
    | joinWith type joined on =>
      rw [List.mem_singleton.mp hj] at hcolumns
      cases hcolumns
    | _ => cases hj
  · rintro ⟨type, joined, first, op, second, hx, hknown, hop⟩
    exact ⟨_, ⟨_, hx, mem_joinOf.mpr ⟨hknown, rfl⟩⟩, _, _, _, rfl, hop⟩

/-! ## The main result -/

theorem sameAscii_operator_sqlite (op : String) :
    Text.sameAscii (Dialect.sqlite.operator op) "ilike" = false := by
  show Text.sameAscii (if Text.sameAscii op "ilike" then "like" else op) "ilike" = false
  split
  · decide
  · rename_i h
    exact eq_false_of_ne_true h

theorem known_sqlite_of_sameAscii {op : String} (h : Text.sameAscii op "ilike" = true) :
    Dialect.sqlite.isUnknown op = false := by
  rw [Operators.isUnknown_iff ⟨rfl, rfl⟩, Operators.Listed, lower_ilike h]
  decide

/-- The text of a select statement, cut at its operators. Those of conditions are spelt as the dialect spells
them wherever the conditions stand, so that all of them are exactly if no join on columns has one that would be
spelt in another way. In SQLite a statement has a comparison of texts without regard to case in it exactly if
such a join was added with one. -/
theorem operators_printed {d : Dialect} (hd : d.KeepsClauses) (table : String) (xs : List Clause) :
    let s := d.toSpelling
    let q := (fresh d table).addAll xs
    (q.selectStatement = q.check >>= fun _ => .ok (selectText q)) ∧
    (q.joins = xs.flatMap (joinsOf d) ∧ q.filters = xs.flatMap (filtersOf d) ∧
      q.havings = xs.flatMap (havingsOf d)) ∧
    (∀ es, operatorsOf (chainParts s es) = (storedOperators es).map s.operator) ∧
    (printed q = (registered q).map s.operator ↔
      ∀ type joined first op second, Clause.join type joined first op second ∈ xs →
        s.isUnknown (Text.trim op) = false → s.operator (Text.trim op) = Text.trim op) ∧
    (d = .sqlite →
      ((∃ op ∈ printed q, Text.sameAscii op "ilike" = true) ↔
        ∃ type joined first op second, Clause.join type joined first op second ∈ xs ∧
          Text.sameAscii (Text.trim op) "ilike" = true)) := by
  intro s q
  have hdialect : q.dialect = d := addAll_dialect (fresh d table) xs
  refine ⟨?select, ⟨addAll_joins _ xs, addAll_filters _ xs, addAll_havings _ xs⟩, operatorsOf_chainParts s,
    ?spelt, ?sqlite⟩
  case select =>
    rw [← hdialect] at hd
    exact selectStatement_eq_text hd
  case spelt =>
    have hcolumns := exists_columns_iff d table xs fun op => s.operator op ≠ op
    have hjoins := printed_eq_iff q
    rw [hdialect] at hjoins
    rw [hjoins]
    constructor
    · intro h type joined first op second hx hknown
      by_contra hop
      obtain ⟨j, hj, hrespelt⟩ := hcolumns.mpr ⟨type, joined, first, op, second, hx, hknown, hop⟩
      exact h j hj hrespelt
    · intro h j hj hrespelt
      obtain ⟨type, joined, first, op, second, hx, hknown, hop⟩ := hcolumns.mp ⟨j, hj, hrespelt⟩
      exact hop (h type joined first op second hx hknown)
  case sqlite =>
    rintro rfl
    have hcolumns := exists_columns_iff .sqlite table xs fun op => Text.sameAscii op "ilike" = true
    constructor
    · rintro ⟨op, hop, hilike⟩
      rcases mem_printed.mp hop with ⟨j, hj, first, second, hon⟩ | ⟨e, -, -, hspelt⟩
      · obtain ⟨type, joined, first', op', second', hx, -, hop'⟩ :=
          hcolumns.mp ⟨j, hj, first, op, second, hon, hilike⟩
        exact ⟨type, joined, first', op', second', hx, hop'⟩
      · rw [hdialect] at hspelt
        rw [← hspelt, sameAscii_operator_sqlite] at hilike
        cases hilike
    · rintro ⟨type, joined, first, op, second, hx, hilike⟩
      obtain ⟨j, hj, first', op', second', hon, hop'⟩ :=
        hcolumns.mpr ⟨type, joined, first, op, second, hx, known_sqlite_of_sameAscii hilike, hilike⟩
      exact ⟨op', mem_printed.mpr (Or.inl ⟨j, hj, first', second', hon⟩), hop'⟩

/-- Conditions of all three kinds that compare without regard to case, and a join on columns that does not. -/
theorem operators_printed_note :
    let q := (fresh .sqlite "note").addAll
      [.filter (.compare .and "name" " ILIKE " (.text "a%")), .having (.compare .and "kind" "ilike" (.text "b")),
        .joinWith .left "tag" [.compare .and "label" "iLike" (.text "c"), .equals .or "id" .null],
        .join .inner "page" "page.id" "<=" "note.id"]
    q.selectStatement = .ok ("select * from `note` left join `tag` on `label` like 'c' or `id` is null " ++
      "inner join `page` on `page`.`id` <= `note`.`id` where `name` like 'a%' having `kind` like 'b'") ∧
    registered q = ["iLike", "is null", "<=", "ILIKE", "ilike"] ∧
    printed q = ["like", "is null", "<=", "like", "like"] ∧
    ¬ ∃ op ∈ printed q, Text.sameAscii op "ilike" = true := by
  intro q
  obtain ⟨hselect, -, -, hspelt, hsqlite⟩ := operators_printed (d := .sqlite) ⟨rfl, rfl, rfl⟩ "note"
    [.filter (.compare .and "name" " ILIKE " (.text "a%")), .having (.compare .and "kind" "ilike" (.text "b")),
      .joinWith .left "tag" [.compare .and "label" "iLike" (.text "c"), .equals .or "id" .null],
      .join .inner "page" "page.id" "<=" "note.id"]
  have hregistered : registered q = ["iLike", "is null", "<=", "ILIKE", "ilike"] := by decide +kernel
  have hprinted : printed q = (registered q).map Dialect.sqlite.operator := by
    refine hspelt.mpr fun type joined first op second hx _ => ?_
    simp only [List.mem_cons, Clause.join.injEq, reduceCtorEq, List.not_mem_nil, false_or, or_false] at hx
    obtain ⟨-, -, -, rfl, -⟩ := hx
    decide
  refine ⟨hselect.trans (by decide +kernel), hregistered, ?_, ?_⟩
  · rw [hprinted, hregistered]
    decide
  · intro h
    obtain ⟨type, joined, first, op, second, hx, hop⟩ := (hsqlite rfl).mp h
    simp only [List.mem_cons, Clause.join.injEq, reduceCtorEq, List.not_mem_nil, false_or, or_false] at hx
    obtain ⟨-, -, -, rfl, -⟩ := hx
    revert hop
    decide

/-- A join on columns prints what a join on conditions has another word for. -/
theorem operator_of_columns_kept :
    let q := (fresh .sqlite "t").addAll [.join .inner "u" "a" "ilike" "b"]
    let q' := (fresh .sqlite "t").addAll [.joinWith .inner "u" [.compare .and "a" "ilike" (.text "b")]]
    q.check = .ok () ∧ registered q = ["ilike"] ∧ printed q = ["ilike"] ∧
    (registered q).map Dialect.sqlite.operator = ["like"] ∧
    q.selectStatement = .ok "select * from `t` inner join `u` on `a` ilike `b`" ∧
    q'.selectStatement = .ok "select * from `t` inner join `u` on `a` like 'b'" := by
  decide +kernel

end PrintedOperators

end SqlRecord

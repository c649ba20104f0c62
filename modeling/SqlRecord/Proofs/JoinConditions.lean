import Mathlib.Data.List.Forall2
import SqlRecord.Proofs.Builder

/-! # Conditions of joins and clauses

The conditions of a join are judged together when the join is added, those of a clause one by one. Either way
the same ones are kept, the same error is left behind, and the texts are the same but for the keyword.
-/

namespace SqlRecord

namespace JoinConditions

open Builder

variable (d : Dialect) (es : List Expression)

/-! ## What is kept -/

theorem stored_calls {call : Expression → Clause} {stored : Clause → List Expression}
    (h : ∀ e, stored (call e) = acceptedOf d [e]) : (es.map call).flatMap stored = acceptedOf d es := by
  rw [List.flatMap_map]
  simp [h, acceptedOf]

theorem failure_calls (q : Query) (type : JoinType) (table : String) {call : Expression → Clause}
    (h : ∀ e, errorsOf q.dialect (call e) = refusal (q.dialect.accept e)) :
    (q.addAll (es.map call)).failure = (q.add (.joinWith type table es)).failure := by
  rw [addAll_failure, (add_step q _).failure, List.flatMap_map]
  simp only [h]
  rfl

variable {d es}

theorem all_accepted (h : es.flatMap (fun e => refusal (d.accept e)) = []) :
    List.Forall₂ (fun e e' => d.accept e = .ok e') es (acceptedOf d es) := by
  induction es with
  | nil => exact .nil
  | cons e es ih =>
    rw [List.flatMap_cons, List.append_eq_nil_iff] at h
    unfold acceptedOf
    rw [List.flatMap_cons]
    cases haccept : d.accept e with
    | error err => simp [haccept, refusal] at h
    | ok e' => exact .cons haccept (ih h.2)

/-! ## The texts -/

theorem clause_eq (s : Spelling) (keyword : String) (kept : List Expression) :
    Expression.clause s keyword kept =
      if kept = [] then "" else keyword ++ " " ++ (JoinCondition.conditions kept).compile s := by
  unfold Expression.clause JoinCondition.compile
  simp only [List.isEmpty_iff]

theorem compile_nil (s : Spelling) : (JoinCondition.conditions []).compile s = "" := by
  show Expression.compileAll s [] = ""
  unfold Expression.compileAll
  rw [List.map_nil, String.intercalate_nil]
  rfl

theorem compile_join (s : Spelling) (j : Join) :
    j.compile s = j.type.word ++ " join " ++ s.quoteName j.table ++
      if j.condition.compile s = "" then "" else " on " ++ j.condition.compile s := by
  unfold Join.compile
  by_cases h : j.condition.compile s = ""
  · simp [h]
  · simp [h, String.append_assoc]

/-! ## The main result -/

/-- The same conditions in a join, as filters and behind `having`: the same first error, the same conditions
kept, and the text of the join behind `on` is the text of either clause behind its keyword. Without
conditions there is no clause and no `on`. -/
theorem conditions_agree (q : Query) (type : JoinType) (table : String) (es : List Expression) :
    let s := q.dialect.toSpelling
    let joined := q.add (.joinWith type table es)
    let filtered := q.addAll (es.map .filter)
    let grouped := q.addAll (es.map .having)
    let kept := acceptedOf q.dialect es
    let on := (JoinCondition.conditions kept).compile s
    (filtered.failure = joined.failure ∧ grouped.failure = joined.failure) ∧
    (joined.joins = q.joins ++ [⟨type, table, .conditions kept⟩] ∧ filtered.filters = q.filters ++ kept ∧
      grouped.havings = q.havings ++ kept) ∧
    (joined.failure = none → List.Forall₂ (fun e e' => q.dialect.accept e = .ok e') es kept) ∧
    (q.filters = [] → q.dialect.whereClause = Expression.clause s "where" →
      q.dialect.whereClause filtered.filters = if kept = [] then "" else "where " ++ on) ∧
    (q.havings = [] → q.dialect.havingClause = Expression.clause s "having" →
      q.dialect.havingClause grouped.havings = if kept = [] then "" else "having " ++ on) ∧
    Join.compile s ⟨type, table, .conditions kept⟩ =
      type.word ++ " join " ++ s.quoteName table ++ (if on = "" then "" else " on " ++ on) ∧
    (es = [] → kept = [] ∧ on = "") := by
  intro s joined filtered grouped kept on
  have step : Step q joined (.joinWith type table es) := add_step q _
  have hfilters : filtered.filters = q.filters ++ kept := by
    rw [addAll_filters, stored_calls q.dialect es fun _ => rfl]
  have hhavings : grouped.havings = q.havings ++ kept := by
    rw [addAll_havings, stored_calls q.dialect es fun _ => rfl]
  refine ⟨⟨failure_calls es q type table fun _ => rfl, failure_calls es q type table fun _ => rfl⟩,
    ⟨step.joins, hfilters, hhavings⟩, ?kept, ?filters, ?havings, ?join, ?none⟩
  case kept =>
    intro hnone
    rw [step.failure, Option.or_eq_none_iff, List.head?_eq_none_iff] at hnone
    exact all_accepted hnone.2
  case filters =>
    intro hempty hwhere
    rw [hfilters, hempty, List.nil_append, hwhere]
    exact clause_eq s "where" kept
  case havings =>
    intro hempty hhaving
    rw [hhavings, hempty, List.nil_append, hhaving]
    exact clause_eq s "having" kept
  case join => exact compile_join s ⟨type, table, .conditions kept⟩
  case none =>
    rintro rfl
    exact ⟨rfl, compile_nil s⟩

/-- Conditions of every kind, and then some of which the first and the last are refused. -/
theorem conditions_agree_note :
    let q : Query := { dialect := .sqlite, table := "note" }
    let es : List Expression := [.equals .or "id" (.int 3), .compare .and " name" "!=" .null,
      .isIn .or "kind" [.bool true, .null], .raw .and "1 = 1"]
    let text := "`id` = '3' and `name` is not null or `kind` in ('1', null) and 1 = 1"
    let bad : List Expression := [.compare .and "size" "~" (.int 3), .equals .or "id" (.int 1),
      .compare .and "size" "<" .null]
    q.dialect.whereClause (q.addAll (es.map .filter)).filters = "where " ++ text ∧
    q.dialect.havingClause (q.addAll (es.map .having)).havings = "having " ++ text ∧
    (q.add (.joinWith .left "tag" es)).joins.map (Join.compile q.dialect.toSpelling) =
      ["left join `tag` on " ++ text] ∧
    (q.add (.joinWith .left "tag" bad)).failure = some (.invalidOperator "~") ∧
    (q.addAll (bad.map .filter)).failure = some (.invalidOperator "~") ∧
    (q.addAll (bad.map .filter)).filters = [.equals .or "id" (.int 1)] ∧
    (q.add (.joinWith .left "tag" [])).joins.map (Join.compile q.dialect.toSpelling) =
      ["left join `tag`"] := by
  intro q es text bad
  obtain ⟨-, ⟨hjoins, -, -⟩, -, hwhere, hhaving, hjoin, -⟩ := conditions_agree q .left "tag" es
  have hon : (JoinCondition.conditions (acceptedOf q.dialect es)).compile q.dialect.toSpelling = text := by
    decide +kernel
  have hbad := (conditions_agree q .left "tag" bad).1.1
  have hnone := (conditions_agree q .left "tag" []).2.1.1
  have hfailure : (q.add (.joinWith .left "tag" bad)).failure = some (.invalidOperator "~") := rfl
  refine ⟨(hwhere rfl rfl).trans ?_, (hhaving rfl rfl).trans ?_, ?_, hfailure, hbad.trans hfailure,
    by decide +kernel, ?_⟩
  · rw [hon]
    decide +kernel
  · rw [hon]
    decide +kernel
  · rw [hjoins, List.map_append, List.map_singleton, hjoin, hon]
    decide +kernel
  · rw [hnone]
    decide +kernel

/-- A dialect may put the conditions of a clause in parentheses, but never those of a join. And a clause that
holds a condition already has more to say than the join. -/
theorem clause_says_otherwise :
    let s : Spelling := { name := "grouped", operators := ["="] }
    let d : Dialect :=
      { toSpelling := s
        conditionClause := fun keyword es =>
          if es.isEmpty then "" else keyword ++ " (" ++ Expression.compileAll s es ++ ")" }
    let es : List Expression := [.equals .and "id" (.int 3)]
    let q : Query := { dialect := d, table := "note" }
    let q' : Query := Query.add { dialect := .generic, table := "note" } (.filter (.equals .and "kind" (.int 1)))
    ((q.add (.joinWith .inner "tag" es)).failure = none ∧
      (q.add (.joinWith .inner "tag" es)).joins.map (Join.compile s) = ["inner join `tag` on `id` = '3'"] ∧
      d.whereClause (q.addAll (es.map .filter)).filters = "where (`id` = '3')" ∧
      d.havingClause (q.addAll (es.map .having)).havings = "having (`id` = '3')") ∧
    (q'.add (.joinWith .inner "tag" es)).failure = none ∧
    (q'.add (.joinWith .inner "tag" es)).joins.map (Join.compile q'.dialect.toSpelling) =
      ["inner join `tag` on `id` = '3'"] ∧
    q'.dialect.whereClause (q'.addAll (es.map .filter)).filters = "where `kind` = '1' and `id` = '3'" := by
  decide +kernel

end JoinConditions

end SqlRecord

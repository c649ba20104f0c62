import SqlRecord.Proofs.Operators
import SqlRecord.Proofs.Statements

/-! # Comparisons with null

A comparison with null is stored as a null check or not at all, so no stored condition has null behind its
operator.
-/

namespace SqlRecord

namespace NullComparisons

open Builder Operators Outline

/-! ## Registration -/

/-- What becomes of a comparison whose name and operator have no outer blanks. The first check that fails says
which error is reported. -/
def outcome (d : Dialect) (logic : Logic) (name op : String) (v : Value) : Except QueryError Expression :=
  let o := Text.lower op
  if o ∉ d.operators then .error (.invalidOperator op)
  else if o = "in" ∨ o = "not in" then .error (.invalidOperand name op)
  else if v.isNull = false then .ok (.compare logic name op v)
  else if o = "=" ∨ o = "is null" then .ok ⟨logic, .nullCheck false name true⟩
  else if o = "!=" ∨ o = "<>" ∨ o = "is not null" then .ok ⟨logic, .nullCheck true name true⟩
  else .error (.nullComparison name op)

variable {d : Dialect}

theorem fixNull_null (name op : String) :
    (Condition.compare name op .null).fixNull =
      if Text.lower op = "=" ∨ Text.lower op = "is null" then .ok (.nullCheck false name true)
      else if Text.lower op = "!=" ∨ Text.lower op = "<>" ∨ Text.lower op = "is not null" then
        .ok (.nullCheck true name true)
      else .error (.nullComparison name op) := by
  rw [Condition.fixNull, nullCheckOf_eq]
  split_ifs <;> rfl

theorem accept_eq_outcome (hd : d.KeepsRegistration) (logic : Logic) (name op : String) (v : Value) :
    d.accept (.compare logic name op v) = outcome d logic (Text.trim name) (Text.trim op) v := by
  rw [accept_compare, hd.fixNull]
  by_cases hlisted : Text.lower (Text.trim op) ∈ d.operators
  · have hknown : d.isUnknown (Text.trim op) = false := (isUnknown_iff hd _).mpr hlisted
    have hlist : Dialect.wantsList (Text.trim op) = true ↔
        Text.lower (Text.trim op) = "in" ∨ Text.lower (Text.trim op) = "not in" := by
      simp [Dialect.wantsList, Condition.listOperator]
    simp only [outcome, hlisted, hknown, hlist, not_true_eq_false, Bool.false_eq_true, if_false]
    cases hv : v.isNull with
    | false =>
      rw [if_pos rfl, Expression.fixNull, Expression.compare, fixNull_of_not_null _ _ hv]
      rfl
    | true =>
      rw [eq_null_of_isNull hv, Expression.fixNull, Expression.compare, fixNull_null]
      simp only [Bool.true_eq_false, if_false]
      split_ifs <;> rfl
  · have hunknown : d.isUnknown (Text.trim op) = true := by
      rw [← Bool.not_eq_false, isUnknown_iff hd]
      exact hlisted
    rw [if_pos hunknown, outcome, if_pos hlisted]

theorem isNull_of_fixNull {c : Condition} {name op : String} {v : Value}
    (h : c.fixNull = .ok (.compare name op v)) : v.isNull = false := by
  unfold Condition.fixNull at h
  split at h
  · split at h <;> cases h
  · rename_i hnot
    cases h
    cases v with
    | null => exact absurd rfl (hnot name op)
    | _ => rfl

theorem isNull_of_accept (hd : d.KeepsRegistration) {e : Expression} {logic : Logic} {name op : String}
    {v : Value} (h : d.accept e = .ok (.compare logic name op v)) : v.isNull = false := by
  rw [accept_eq, hd.fixNull] at h
  split at h
  · rename_i hraw
    obtain ⟨logic', c⟩ := e
    cases c <;> cases hraw
    cases h
  split at h
  · cases h
  split at h
  · cases h
  obtain ⟨c, hc, he⟩ := ok_of_map h
  cases he
  exact isNull_of_fixNull hc

theorem isNull_of_run (hd : d.KeepsRegistration) {table : String} {xs : List Clause} {e : Expression}
    (he : e ∈ ((fresh d table).addAll xs).conditions) :
    ∀ name op v, e.condition = .compare name op v → v.isNull = false := by
  obtain ⟨e₀, haccept⟩ := accepted_of_run he
  obtain ⟨logic, c⟩ := e
  rintro name op v rfl
  exact isNull_of_accept hd haccept

/-! ## Texts -/

/-- What stands behind the operator of a condition. -/
def operand? (s : Spelling) : Condition → Option String
  | .compare _ _ v => some (s.quote v.stored)
  | .membership _ _ vs => some ("(" ++ ", ".intercalate (s.quoteAll (vs.map Value.stored)) ++ ")")
  | .nullCheck .. | .raw _ => none

theorem compile_eq_operand (s : Spelling) {c : Condition} (h : c.isRaw = false) :
    c.compile s = s.quoteName c.name ++ " " ++ s.operator c.operator ++
      ((operand? s c).map (" " ++ ·)).getD "" := by
  have hopen : " (" = " " ++ "(" := rfl
  cases c with
  | raw sql => cases h
  | nullCheck negated name compared => simp [Condition.compile, operand?, Condition.name, Condition.operator]
  | _ =>
    simp only [Condition.compile, operand?, Condition.name, Condition.operator, Option.map_some, Option.getD_some,
      hopen, String.append_assoc]

/-- The text has null for its last word. -/
def EndsInNull (text : String) : Prop :=
  " null".toList <:+ text.toList

instance (text : String) : Decidable (EndsInNull text) :=
  inferInstanceAs (Decidable (_ <:+ _))

/-- The last letter is not that of null. -/
def EndsOtherwise (text : String) : Prop :=
  ∃ t c, text.toList = t ++ [c] ∧ c ≠ 'l'

theorem EndsOtherwise.append (a : String) {b : String} (h : EndsOtherwise b) : EndsOtherwise (a ++ b) := by
  obtain ⟨t, c, hb, hc⟩ := h
  exact ⟨a.toList ++ t, c, by rw [String.toList_append, hb, List.append_assoc], hc⟩

theorem EndsOtherwise.not_endsInNull {text : String} (h : EndsOtherwise text) : ¬ EndsInNull text := by
  obtain ⟨t, c, htext, hc⟩ := h
  rintro ⟨u, hu⟩
  rw [htext] at hu
  have hlast := congrArg List.getLast? hu
  simp only [List.getLast?_append, List.getLast?_singleton] at hlast
  exact hc (Option.some.inj hlast).symm

theorem EndsOtherwise.ne_null {text : String} (h : EndsOtherwise text) : text ≠ "null" := by
  rintro rfl
  obtain ⟨t, c, htext, hc⟩ := h
  have hlast := congrArg List.getLast? htext
  rw [List.getLast?_concat] at hlast
  exact hc (Option.some.inj hlast).symm

theorem endsOtherwise_quote {v : Value} (h : v.isNull = false) : EndsOtherwise (Literal.quote v) := by
  cases v with
  | null => cases h
  | text s =>
    show EndsOtherwise (Literal.quoteText s)
    rw [EndsOtherwise, Literal.quoteText, String.toList_ofList]
    exact ⟨_, '\'', rfl, by decide⟩
  | blob bytes =>
    show EndsOtherwise (Literal.quoteBytes bytes)
    rw [EndsOtherwise, Literal.quoteBytes, String.toList_ofList]
    exact ⟨_, '\'', rfl, by decide⟩
  | _ => exact EndsOtherwise.append _ ⟨[], '\'', rfl, by decide⟩

theorem endsOtherwise_quoteName (name : String) : EndsOtherwise (Name.quote name) := by
  obtain ⟨t, c, h, hedge⟩ := (Name.edged_quoteChars name.toList).last
  refine ⟨t, c, by rw [Name.quote, String.toList_ofList, h], ?_⟩
  rintro rfl
  cases hedge

section

variable {s : Spelling} (hs : Standard s)
include hs

theorem endsOtherwise_operand {c : Condition} {text : String} (h : operand? s c = some text)
    (hc : ∀ name op v, c = .compare name op v → v.isNull = false) : EndsOtherwise text := by
  cases c with
  | compare name op v =>
    cases h
    rw [hs.quote]
    exact endsOtherwise_quote ((Value.isNull_stored v).trans (hc name op v rfl))
  | membership negated name vs =>
    cases h
    exact EndsOtherwise.append _ ⟨[], ')', rfl, by decide⟩
  | nullCheck => cases h
  | raw => cases h

theorem compile_nullCheck (negated : Bool) (name : String) (compared : Bool) :
    (Condition.nullCheck negated name compared).compile s =
      Name.quote name ++ if negated then " is not null" else " is null" := by
  rw [Condition.compile, hs.quoteName, hs.nullOperator, String.append_assoc]
  cases negated <;> rfl

theorem endsInNull_nullCheck (negated : Bool) (name : String) (compared : Bool) :
    EndsInNull ((Condition.nullCheck negated name compared).compile s) := by
  rw [compile_nullCheck hs, EndsInNull, String.toList_append]
  have hword : " null".toList <:+ (if negated then " is not null" else " is null").toList := by
    cases negated <;> decide
  exact hword.trans (List.suffix_append _ _)

theorem endsInNull_iff {c : Condition} (hraw : c.isRaw = false)
    (hc : ∀ name op v, c = .compare name op v → v.isNull = false) :
    EndsInNull (c.compile s) ↔ ∃ negated name compared, c = .nullCheck negated name compared := by
  constructor
  · intro h
    rw [compile_eq_operand s hraw] at h
    cases hoperand : operand? s c with
    | some text =>
      rw [hoperand] at h
      exact absurd h (((endsOtherwise_operand hs hoperand hc).append " ").append _).not_endsInNull
    | none =>
      cases c with
      | nullCheck negated name compared => exact ⟨negated, name, compared, rfl⟩
      | raw => cases hraw
      | _ => cases hoperand
  · rintro ⟨negated, name, compared, rfl⟩
    exact endsInNull_nullCheck hs negated name compared

theorem compile_of_accept_null (hd : (plainDialect s).KeepsRegistration) {logic : Logic} {name op : String}
    {e : Expression} (h : (plainDialect s).accept (.compare logic name op .null) = .ok e) :
    ∃ negated, Condition.nullCheckOf? (Text.trim op) = some negated ∧
      e.condition.compile s = Name.quote (Text.trim name) ++ if negated then " is not null" else " is null" := by
  cases hcheck : Condition.nullCheckOf? (Text.trim op) with
  | some negated =>
    rw [accept_compare_null hd logic name hcheck] at h
    split at h
    · cases h
    · cases h
      exact ⟨negated, rfl, compile_nullCheck hs negated _ true⟩
  | none =>
    rw [accept_compare, hd.fixNull, Expression.fixNull, Expression.compare, Condition.fixNull, hcheck] at h
    split at h
    · cases h
    split at h <;> cases h

theorem endsOtherwise_columns (first op second : String) :
    EndsOtherwise ((JoinCondition.columns first op second).compile s) := by
  rw [JoinCondition.compile, hs.quoteName]
  exact (endsOtherwise_quoteName second).append _

end

/-! ## The main result -/

/-- A comparison is judged by its operator and whether its value is null, in that order of checks, and stored
or refused accordingly wherever it is registered. With the spellings that are provided, no stored condition
that is not raw has null behind its operator, and none ends in null but the null checks that such comparisons
are stored as. -/
theorem null_comparisons (hd : d.KeepsRegistration) :
    (∀ logic name op v,
      d.accept (.compare logic name op v) = outcome d logic (Text.trim name) (Text.trim op) v) ∧
    (∀ q : Query, q.dialect = d →
      (∀ e, (q.add (.filter e)).filters = q.filters ++ prepared (d.accept e) ∧
        (q.add (.filter e)).failure = q.failure.or (refusal (d.accept e)).head?) ∧
      (∀ e, (q.add (.having e)).havings = q.havings ++ prepared (d.accept e) ∧
        (q.add (.having e)).failure = q.failure.or (refusal (d.accept e)).head?) ∧
      ∀ type table es, (q.add (.joinWith type table es)).joins =
          q.joins ++ [⟨type, table, .conditions (es.flatMap fun e => prepared (d.accept e))⟩] ∧
        (q.add (.joinWith type table es)).failure =
          q.failure.or (es.flatMap fun e => refusal (d.accept e)).head?) ∧
    (d = .generic ∨ d = .sqlite →
      let s := d.toSpelling
      (∀ table xs, ∀ e ∈ ((fresh d table).addAll xs).conditions, e.condition.isRaw = false →
        e.condition.compile s = s.quoteName e.condition.name ++ " " ++ s.operator e.condition.operator ++
          ((operand? s e.condition).map (" " ++ ·)).getD "" ∧
        operand? s e.condition ≠ some "null" ∧
        (EndsInNull (e.condition.compile s) ↔
          ∃ negated name compared, e.condition = .nullCheck negated name compared)) ∧
      (∀ first op second, ¬ EndsInNull ((JoinCondition.columns first op second).compile s)) ∧
      ∀ logic name op e, d.accept (.compare logic name op .null) = .ok e →
        ∃ negated, Condition.nullCheckOf? (Text.trim op) = some negated ∧
          e.condition.compile s =
            Name.quote (Text.trim name) ++ if negated then " is not null" else " is null") := by
  refine ⟨accept_eq_outcome hd, ?registered, ?printed⟩
  case registered =>
    rintro q rfl
    have hone : ∀ e, acceptedOf q.dialect [e] = prepared (q.dialect.accept e) := fun e =>
      List.flatMap_singleton _ e
    refine ⟨fun e => ?_, fun e => ?_, fun type table es => ?_⟩
    · have step := add_step q (.filter e)
      exact ⟨by rw [step.filters, filtersOf, hone], step.failure⟩
    · have step := add_step q (.having e)
      exact ⟨by rw [step.havings, havingsOf, hone], step.failure⟩
    · have step := add_step q (.joinWith type table es)
      exact ⟨step.joins, step.failure⟩
  case printed =>
    intro hprovided s
    obtain ⟨s', hs, rfl⟩ := exists_standard hprovided
    refine ⟨fun table xs e he hraw => ?_, fun first op second => ?_, fun logic name op e haccept => ?_⟩
    · have hvalue := isNull_of_run hd he
      refine ⟨compile_eq_operand _ hraw, fun h => ?_, endsInNull_iff hs hraw hvalue⟩
      exact (endsOtherwise_operand hs h hvalue).ne_null rfl
    · exact (endsOtherwise_columns hs first op second).not_endsInNull
    · exact compile_of_accept_null hs hd haccept

/-- Comparisons with null that are refused, each by another check, and some that are stored, one of them with
the text null for its value. -/
theorem null_comparisons_sqlite :
    let d := Dialect.sqlite
    let q := (fresh d "t").addAll
      [.filter (.compare .and " a " " <> " .null), .having (.compare .or "b" "IS NULL" .null),
        .joinWith .left "u" [.compare .and "c" "=" (.text "null")]]
    d.accept (.compare .and " a " "=>" .null) = .error (.invalidOperator "=>") ∧
    d.accept (.compare .and " a " "Not In" .null) = .error (.invalidOperand "a" "Not In") ∧
    d.accept (.compare .and " a " " < " .null) = .error (.nullComparison "a" "<") ∧
    d.accept (.compare .and " a " " < " (.int 3)) = .ok (.compare .and "a" "<" (.int 3)) ∧
    q.selectStatement =
      .ok "select * from `t` left join `u` on `c` = 'null' where `a` is not null having `b` is null" ∧
    ∀ e ∈ q.conditions, operand? d.toSpelling e.condition ≠ some "null" := by
  intro d q
  obtain ⟨haccept, -, hprinted⟩ := null_comparisons (d := .sqlite) ⟨rfl, rfl⟩
  have hoperand := (hprinted (Or.inr rfl)).1 "t"
    [.filter (.compare .and " a " " <> " .null), .having (.compare .or "b" "IS NULL" .null),
      .joinWith .left "u" [.compare .and "c" "=" (.text "null")]]
  have hraw : ∀ e ∈ q.conditions, e.condition.isRaw = false := by decide +kernel
  refine ⟨(haccept ..).trans (by decide), (haccept ..).trans (by decide), (haccept ..).trans (by decide),
    (haccept ..).trans (by decide), by decide +kernel, fun e he => (hoperand e he (hraw e he)).2.1⟩

end NullComparisons

end SqlRecord

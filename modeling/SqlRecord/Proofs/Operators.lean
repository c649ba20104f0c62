import SqlRecord.Proofs.Parameters
import SqlRecord.Proofs.Values

/-! # Operators of stored conditions

An operator is looked up before its null is rewritten, and what it is rewritten to is not looked up again.
So a query stores nothing but listed operators exactly if its dialect lists what they are rewritten to.
-/

namespace SqlRecord

/-- A dialect that looks operators up in its list and rewrites comparisons with null, as every dialect does
that does not replace these rules. -/
structure Dialect.KeepsRegistration (d : Dialect) : Prop where
  isUnknown : d.isUnknown = fun op => !d.operators.contains (Text.lower op)
  fixNull : d.fixNull = Expression.fixNull

def JoinCondition.expressions : JoinCondition → List Expression
  | columns .. => []
  | conditions es => es

/-- All conditions that a query has stored, those of its joins last. -/
def Query.conditions (q : Query) : List Expression :=
  q.filters ++ q.havings ++ q.joins.flatMap fun j => j.condition.expressions

namespace Operators

open Builder

variable {d : Dialect}

/-- The operator is one of the dialect, in whatever case it is written. -/
def Listed (d : Dialect) (op : String) : Prop :=
  Text.lower op ∈ d.operators

def Accepts (d : Dialect) (e : Expression) : Prop :=
  ∃ e', d.accept e = .ok e'

/-- The comparisons that are rewritten to a null check when their value is null. -/
def comparisons (negated : Bool) : List String :=
  if negated then ["!=", "<>"] else ["="]

/-- The dialect lists each null check that one of its comparisons is rewritten to. -/
def ListsRewritten (d : Dialect) : Prop :=
  ∀ negated, ∀ op ∈ comparisons negated, op ∈ d.operators → Condition.nullOperator negated ∈ d.operators

/-- The dialect lists a null check and the comparisons for it together, or none of them. -/
def ListsAlike (d : Dialect) : Prop :=
  ∀ negated, ∀ op ∈ comparisons negated, op ∈ d.operators ↔ Condition.nullOperator negated ∈ d.operators

theorem isUnknown_iff (hd : d.KeepsRegistration) (op : String) :
    d.isUnknown op = false ↔ Listed d op := by
  rw [hd.isUnknown]
  simp [Listed]

/-! ## Null checks -/

theorem nullCheckOf_eq (op : String) :
    Condition.nullCheckOf? op =
      if Text.lower op = "=" ∨ Text.lower op = "is null" then some false
      else if Text.lower op = "!=" ∨ Text.lower op = "<>" ∨ Text.lower op = "is not null" then some true
      else none := rfl

theorem nullCheckOf_iff (op : String) (negated : Bool) :
    Condition.nullCheckOf? op = some negated ↔
      Text.lower op = Condition.nullOperator negated ∨ Text.lower op ∈ comparisons negated := by
  rw [nullCheckOf_eq]
  constructor
  · intro h
    split at h
    · rename_i hlower
      cases h
      rcases hlower with hlower | hlower <;> simp [hlower, comparisons, Condition.nullOperator]
    split at h
    · rename_i hlower
      cases h
      rcases hlower with hlower | hlower | hlower <;> simp [hlower, comparisons, Condition.nullOperator]
    · cases h
  · intro h
    cases negated with
    | false =>
      rcases h with hlower | hlower
      · rw [hlower]
        decide
      · rw [List.mem_singleton.mp hlower]
        decide
    | true =>
      have hlower : Text.lower op ∈ ["is not null", "!=", "<>"] := List.mem_cons.mpr h
      simp only [List.mem_cons, List.not_mem_nil, or_false] at hlower
      rcases hlower with hlower | hlower | hlower <;> rw [hlower] <;> decide

theorem lower_nullOperator (negated : Bool) :
    Text.lower (Condition.nullOperator negated) = Condition.nullOperator negated := by
  cases negated <;> decide

theorem listed_nullOperator (negated : Bool) :
    Listed d (Condition.nullOperator negated) ↔ Condition.nullOperator negated ∈ d.operators := by
  rw [Listed, lower_nullOperator]

theorem comparisons_plain (negated : Bool) :
    ∀ op ∈ comparisons negated, Text.trim op = op ∧ Text.lower op = op ∧
      Condition.nullCheckOf? op = some negated := by
  cases negated <;> decide

theorem wantsList_of_nullCheck {op : String} {negated : Bool}
    (h : Condition.nullCheckOf? op = some negated) : Dialect.wantsList op = false := by
  have hplain : ∀ negated, ∀ op' ∈ Condition.nullOperator negated :: comparisons negated,
      op' ≠ Condition.listOperator false ∧ op' ≠ Condition.listOperator true := by
    decide
  have hlower := hplain negated (Text.lower op) (List.mem_cons.mpr ((nullCheckOf_iff op negated).mp h))
  simp [Dialect.wantsList, hlower]

/-! ## Accepted conditions -/

theorem isRaw_trim (c : Condition) : c.trim.isRaw = c.isRaw := by
  cases c <;> rfl

theorem name_trim (c : Condition) : c.trim.name = Text.trim c.name := by
  cases c <;> rfl

theorem fixNull_keeps {c c' : Condition} (h : c.fixNull = .ok c') :
    c'.name = c.name ∧ c'.isRaw = c.isRaw := by
  unfold Condition.fixNull at h
  split at h
  · split at h
    · cases h
      exact ⟨rfl, rfl⟩
    · cases h
  · cases h
    exact ⟨rfl, rfl⟩

theorem accept_keeps (hfix : d.fixNull = Expression.fixNull) {e e' : Expression} (h : d.accept e = .ok e') :
    e'.condition.name = Text.trim e.condition.name ∧ e'.condition.isRaw = e.condition.isRaw := by
  rw [accept_eq, hfix] at h
  split at h
  · cases h
    exact ⟨name_trim _, isRaw_trim _⟩
  split at h
  · cases h
  split at h
  · cases h
  obtain ⟨c, hc, rfl⟩ := ok_of_map h
  obtain ⟨hname, hraw⟩ := fixNull_keeps hc
  exact ⟨hname.trans (name_trim _), hraw.trans (isRaw_trim _)⟩

theorem operator_fixNull {c c' : Condition} (h : c.fixNull = .ok c') :
    c'.operator = c.operator ∨
      ∃ negated, Condition.nullCheckOf? c.operator = some negated ∧
        c'.operator = Condition.nullOperator negated := by
  unfold Condition.fixNull at h
  split at h
  · split at h
    · rename_i negated hcheck
      cases h
      exact Or.inr ⟨negated, hcheck, rfl⟩
    · cases h
  · cases h
    exact Or.inl rfl

theorem listed_of_accept (hd : d.KeepsRegistration) (h : ListsRewritten d) {e e' : Expression}
    (haccept : d.accept e = .ok e') (hraw : e'.condition.isRaw = false) :
    Listed d e'.condition.operator := by
  rw [accept_eq] at haccept
  split at haccept
  · rename_i hr
    cases haccept
    rw [isRaw_trim, hr] at hraw
    cases hraw
  split at haccept
  · cases haccept
  rename_i hop
  split at haccept
  · cases haccept
  have hlisted : Listed d e.condition.trim.operator := (isUnknown_iff hd _).mp (eq_false_of_ne_true hop)
  rw [hd.fixNull] at haccept
  obtain ⟨c, hc, rfl⟩ := ok_of_map haccept
  show Listed d c.operator
  rcases operator_fixNull hc with hsame | ⟨negated, hcheck, hoperator⟩
  · rwa [hsame]
  rw [hoperator, listed_nullOperator]
  -- The operator is the null check itself, which was looked up, or a comparison for it.
  rcases (nullCheckOf_iff _ negated).mp hcheck with hlower | hlower
  · rwa [Listed, hlower] at hlisted
  · exact h negated _ hlower hlisted

theorem accept_compare_null (hd : d.KeepsRegistration) (logic : Logic) (name : String) {op : String}
    {negated : Bool} (h : Condition.nullCheckOf? (Text.trim op) = some negated) :
    d.accept (.compare logic name op .null) =
      if d.isUnknown (Text.trim op) then .error (.invalidOperator (Text.trim op))
      else .ok ⟨logic, .nullCheck negated (Text.trim name) true⟩ := by
  rw [accept_eq, hd.fixNull]
  simp [Expression.compare, Condition.isRaw, Condition.trim, Condition.operator, Dialect.lacksList,
    wantsList_of_nullCheck h, Expression.fixNull, Condition.fixNull, h, Except.map]

theorem accepts_compare_null (hd : d.KeepsRegistration) (logic : Logic) (name : String) {op : String}
    {negated : Bool} (h : Condition.nullCheckOf? (Text.trim op) = some negated) :
    Accepts d (.compare logic name op .null) ↔ Listed d (Text.trim op) := by
  rw [← isUnknown_iff hd, Accepts, accept_compare_null hd logic name h]
  cases d.isUnknown (Text.trim op) <;> simp

theorem accept_nullCheck (hd : d.KeepsRegistration) (logic : Logic) (negated : Bool) (name : String)
    (compared : Bool) :
    d.accept ⟨logic, .nullCheck negated name compared⟩ =
      if d.isUnknown (Condition.nullOperator negated) then
        .error (.invalidOperator (Condition.nullOperator negated))
      else .ok ⟨logic, .nullCheck negated (Text.trim name) compared⟩ := by
  rw [accept_eq, hd.fixNull]
  simp [Condition.isRaw, Condition.trim, Condition.operator, Dialect.lacksList, Expression.fixNull,
    Condition.fixNull, Except.map]

theorem accepts_nullCheck (hd : d.KeepsRegistration) (logic : Logic) (negated : Bool) (name : String)
    (compared : Bool) :
    Accepts d ⟨logic, .nullCheck negated name compared⟩ ↔ Condition.nullOperator negated ∈ d.operators := by
  rw [← listed_nullOperator, ← isUnknown_iff hd, Accepts, accept_nullCheck hd]
  cases d.isUnknown (Condition.nullOperator negated) <;> simp

/-! ## Runs of calls -/

theorem accepted_of_mem {es : List Expression} {e : Expression} (h : e ∈ acceptedOf d es) :
    ∃ e₀, d.accept e₀ = .ok e := by
  obtain ⟨e₀, -, hprepared⟩ := List.mem_flatMap.mp h
  exact ⟨e₀, eq_ok_of_mem_prepared hprepared⟩

theorem accepted_of_call {x : Clause} {e : Expression}
    (h : e ∈ filtersOf d x ∨ e ∈ havingsOf d x ∨ ∃ j ∈ joinsOf d x, e ∈ j.condition.expressions) :
    ∃ e₀, d.accept e₀ = .ok e := by
  rcases h with h | h | ⟨j, hj, h⟩
  · cases x with
    | filter e₀ => exact accepted_of_mem h
    | _ => cases h
  · cases x with
    | having e₀ => exact accepted_of_mem h
    | _ => cases h
  · cases x with
    | join type table first op second =>
      obtain ⟨-, rfl⟩ := mem_joinOf.mp hj
      cases h
    | joinWith type table on =>
      rw [List.mem_singleton.mp hj] at h
      exact accepted_of_mem h
    | _ => cases hj

/-- Whatever a run has stored was accepted in one of its calls. -/
theorem accepted_of_run {table : String} {xs : List Clause} {e : Expression}
    (h : e ∈ ((fresh d table).addAll xs).conditions) : ∃ e₀, d.accept e₀ = .ok e := by
  unfold Query.conditions at h
  rw [addAll_filters, addAll_havings, addAll_joins] at h
  simp only [fresh, List.nil_append, List.mem_append, List.mem_flatMap] at h
  rcases h with (⟨x, -, h⟩ | ⟨x, -, h⟩) | ⟨j, ⟨x, -, hj⟩, h⟩
  · exact accepted_of_call (Or.inl h)
  · exact accepted_of_call (Or.inr (Or.inl h))
  · exact accepted_of_call (Or.inr (Or.inr ⟨j, hj, h⟩))

theorem stored_of_accept {e e' : Expression} (h : d.accept e = .ok e') (table : String) :
    e' ∈ ((fresh d table).addAll [.filter e]).conditions := by
  unfold Query.conditions
  rw [addAll_filters]
  simp [fresh, filtersOf, acceptedOf, h, prepared]

/-! ## The main result -/

/-- Every operator that a run can store is listed exactly if the dialect lists what it rewrites to. Whether
a null check is accepted does not depend on how it is written exactly if its spellings are listed alike. -/
theorem stored_operators_listed_iff (hd : d.KeepsRegistration) :
    ((∀ table xs, ∀ e ∈ ((fresh d table).addAll xs).conditions, e.condition.isRaw = false →
        Listed d e.condition.operator) ↔ ListsRewritten d) ∧
    ((∀ logic logic' name name' op negated compared,
        Condition.nullCheckOf? (Text.trim op) = some negated →
        (Accepts d (.compare logic name op .null) ↔
          Accepts d ⟨logic', .nullCheck negated name' compared⟩)) ↔ ListsAlike d) := by
  refine ⟨⟨?_, ?_⟩, ?_, ?_⟩
  · intro h negated op hop hlisted
    obtain ⟨htrim, hlower, hcheck⟩ := comparisons_plain negated op hop
    rw [← htrim] at hcheck
    have hknown : d.isUnknown (Text.trim op) = false := by
      rw [isUnknown_iff hd, Listed, htrim, hlower]
      exact hlisted
    have haccept := accept_compare_null hd .and "a" hcheck
    rw [hknown, if_neg Bool.false_ne_true] at haccept
    have hstored := h "t" _ _ (stored_of_accept haccept "t") rfl
    exact (listed_nullOperator negated).mp hstored
  · intro h table xs e he hraw
    obtain ⟨e₀, haccept⟩ := accepted_of_run he
    exact listed_of_accept hd h haccept hraw
  · intro h negated op hop
    obtain ⟨htrim, hlower, hcheck⟩ := comparisons_plain negated op hop
    rw [← htrim] at hcheck
    have halike := h .and .and "a" "a" op negated false hcheck
    rwa [accepts_compare_null hd _ _ hcheck, accepts_nullCheck hd, Listed, htrim, hlower] at halike
  · intro h logic logic' name name' op negated compared hcheck
    rw [accepts_compare_null hd _ _ hcheck, accepts_nullCheck hd]
    rcases (nullCheckOf_iff _ negated).mp hcheck with hlower | hlower
    · rw [Listed, hlower]
    · exact h negated _ hlower

theorem stored_operators_listed_sqlite :
    Dialect.sqlite.KeepsRegistration ∧ ListsRewritten .sqlite ∧ ListsAlike .sqlite ∧
    (∀ table xs, ∀ e ∈ ((fresh .sqlite table).addAll xs).conditions, e.condition.isRaw = false →
      Listed .sqlite e.condition.operator) ∧
    ∀ logic logic' name name' op negated compared, Condition.nullCheckOf? (Text.trim op) = some negated →
      (Accepts .sqlite (.compare logic name op .null) ↔
        Accepts .sqlite ⟨logic', .nullCheck negated name' compared⟩) := by
  have hd : Dialect.sqlite.KeepsRegistration := ⟨rfl, rfl⟩
  have hrewritten : ListsRewritten .sqlite := by
    intro negated
    cases negated <;> decide
  have halike : ListsAlike .sqlite := by
    intro negated
    cases negated <;> decide
  obtain ⟨hstored, haccepted⟩ := stored_operators_listed_iff hd
  exact ⟨hd, hrewritten, halike, hstored.mpr hrewritten, haccepted.mpr halike⟩

/-- A dialect with `!=` and without the null check for it stores that null check all the same, though it
refuses it where it is written as one. -/
theorem unlisted_operator_stored :
    let d : Dialect :=
      { name := "custom", operators := ["=", "!=", "is null", "in", "~", "sounds like"] }
    let q := (fresh d "t").addAll [.filter (.compare .and "a" "!=" .null)]
    d.KeepsRegistration ∧ q.check = .ok () ∧
    (∃ e ∈ q.conditions, e.condition.isRaw = false ∧ ¬ Listed d e.condition.operator) ∧
    Accepts d (.compare .and "a" "!=" .null) ∧ ¬ Accepts d (.isNotNull .and "a") := by
  intro d q
  have hstored : (⟨.and, .nullCheck true "a" true⟩ : Expression) ∈ q.conditions := by decide
  refine ⟨⟨rfl, rfl⟩, rfl, ⟨_, hstored, rfl, ?_⟩, ⟨⟨.and, .nullCheck true "a" true⟩, by decide⟩, ?_⟩
  · rw [Listed]
    decide
  · rintro ⟨e, he⟩
    have hrefused : d.accept (.isNotNull .and "a") = .error (.invalidOperator "is not null") := by decide
    rw [hrefused] at he
    cases he

end Operators

end SqlRecord

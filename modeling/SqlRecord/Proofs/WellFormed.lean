import SqlRecord.Proofs.Shapes

/-! # Well-formed conditions

What calls ask a query to test is refused unless it can be written in one of the shapes, and what is stored
reads as the shape of what was asked for. Two kinds of tests slip through: null checks that are given a value,
and joins of two columns whose operator does not stand between two sides.
-/

namespace SqlRecord.WellFormed

open Builder Lexeme Outline Shapes

/-! ## Spellings -/

/-- A standard spelling that can tell its operators from names and operands. The letter u, without which there
is no null, is in null checks alone. -/
structure Legible (s : Spelling) : Prop extends Standard s where
  keeps : (plainDialect s).KeepsRegistration
  letters : ∀ op ∈ s.operators, (foreign.flatMap Text.lowerChar).all (· ∉ op.toList) = true
  nullLetter : ∀ op ∈ s.operators, 'u' ∈ op.toList → ∃ negated, op = Condition.nullOperator negated
  lists : ∀ negated, Condition.listOperator negated ∈ s.operators
  checks : ∀ negated, ∀ op ∈ Condition.nullOperator negated :: Operators.comparisons negated, op ∈ s.operators
  respelt : ∀ op, s.operator op = op ∨ isComparison s op = true ∧ isComparison s (s.operator op) = true

theorem legible_generic : Legible Dialect.generic.toSpelling where
  toStandard := standard_generic
  keeps := ⟨rfl, rfl⟩
  letters := by decide
  nullLetter := by decide
  lists := by decide
  checks := by decide
  respelt _ := Or.inl rfl

theorem legible_sqlite : Legible Dialect.sqlite.toSpelling where
  toStandard := standard_sqlite
  keeps := ⟨rfl, rfl⟩
  letters := by decide
  nullLetter := by decide
  lists := by decide
  checks := by decide
  respelt op := by
    cases h : Text.sameAscii op "ilike" with
    | true =>
      have hlower : Text.lower op = "ilike" := lower_ilike h
      have hoperator : Dialect.sqlite.operator op = "like" := if_pos h
      have hunknown : Dialect.sqlite.isUnknown op = !Dialect.sqlite.operators.contains (Text.lower op) := rfl
      refine Or.inr ⟨?_, ?_⟩
      · rw [isComparison, checksNull, Dialect.wantsList, hunknown, hlower]
        decide
      · rw [hoperator]
        decide
    | false => exact Or.inl (if_neg (by simp [h]))

theorem exists_legible {d : Dialect} (h : d = .generic ∨ d = .sqlite) :
    ∃ s, Legible s ∧ d = plainDialect s := by
  rcases h with rfl | rfl
  · exact ⟨_, legible_generic, rfl⟩
  · exact ⟨_, legible_sqlite, rfl⟩

variable {s : Spelling} {name : String}

namespace Legible

variable (hs : Legible s) {op : String}
include hs

theorem known_iff (op : String) : s.isUnknown op = false ↔ Text.lower op ∈ s.operators :=
  Operators.isUnknown_iff hs.keeps op

theorem known_iff_kinds (op : String) :
    s.isUnknown op = false ↔ isComparison s op = true ∨ checksNull op = true ∨ Dialect.wantsList op = true := by
  constructor
  · intro h
    simp only [isComparison_iff, h]
    cases checksNull op <;> cases Dialect.wantsList op <;> simp
  · rintro (h | h | h)
    · exact (isComparison_iff.mp h).1
    · obtain ⟨negated, hlower⟩ := checksNull_iff.mp h
      rw [hs.known_iff, hlower]
      exact hs.checks negated _ List.mem_cons_self
    · obtain ⟨negated, hlower⟩ := wantsList_iff.mp h
      rw [hs.known_iff, hlower]
      exact hs.lists negated

theorem not_foreign (h : s.isUnknown op = false) : ∀ c ∈ op.toList, c ∉ foreign := by
  intro c hc hforeign
  -- Its lower-case form would be in the lower-case form of the operator, which is listed.
  obtain ⟨d, hd⟩ := List.exists_mem_of_ne_nil _ (lowerChar_ne_nil c)
  have hletters := List.all_eq_true.mp (hs.letters _ ((hs.known_iff op).mp h)) d
    (List.mem_flatMap.mpr ⟨c, hforeign, hd⟩)
  exact of_decide_eq_true hletters (mem_lower hc hd)

theorem not_mem_of_isComparison (h : isComparison s op = true) : 'u' ∉ op.toList := by
  obtain ⟨hknown, hnull, -⟩ := isComparison_iff.mp h
  intro hu
  have hlower := hs.nullLetter _ ((hs.known_iff op).mp hknown) (mem_lower hu (by decide))
  exact Bool.false_ne_true (hnull.symm.trans (checksNull_iff.mpr hlower))

theorem isComparison_operator (op : String) : isComparison s (s.operator op) = isComparison s op := by
  rcases hs.respelt op with h | ⟨h, h'⟩
  · rw [h]
  · rw [h, h']

theorem not_foreign_operator (h : s.isUnknown op = false) : ∀ c ∈ (s.operator op).toList, c ∉ foreign := by
  rcases hs.respelt op with h' | ⟨-, h'⟩
  · rw [h']
    exact hs.not_foreign h
  · exact hs.not_foreign (isComparison_iff.mp h').1

end Legible

/-! ## Stored conditions -/

section

variable (hs : Legible s)
include hs

theorem read_compare {op : String} {v : Value} (h : Kept s (.compare name op v)) :
    Shape.read s ((Condition.compare name op v).compile s) =
      if isComparison s op then some (.compare (nameTokens name) (s.operator op) (literalToken v.stored))
      else none := by
  obtain ⟨hname, hknown, -, hv⟩ := h
  have hend : isWordEnd [literalToken v.stored] = true := by
    cases v <;> rfl
  rw [Condition.compile, hs.quoteName, hs.quote, ← hs.isComparison_operator op]
  exact read_compared hname (hs.not_foreign_operator hknown) hs.not_mem_of_isComparison (reads_literal _) hend
    fun n => readOperand_literal n hv

theorem read_columns {op second : String} (hname : Clean name) (hsecond : Clean second)
    (hknown : s.isUnknown op = false) :
    Shape.read s ((JoinCondition.columns name op second).compile s) =
      if isComparison s op then some (.columns (nameTokens name) op (nameTokens second)) else none := by
  obtain ⟨hreads, hisName⟩ := reads_nameTokens hsecond
  have hread : readName (nameTokens second ++ []) = some (nameTokens second, []) := readName_append hisName rfl
  rw [List.append_nil] at hread
  rw [JoinCondition.compile, hs.quoteName]
  exact read_compared hname (hs.not_foreign hknown) hs.not_mem_of_isComparison hreads
    (isWordEnd_of_readName hread) fun n => readOperand_name n hread

theorem read_nullCheck (hname : Clean name) (negated compared : Bool) :
    Shape.read s ((Condition.nullCheck negated name compared).compile s) =
      some (.nullCheck negated (nameTokens name)) := by
  rw [Condition.compile, hs.quoteName, hs.nullOperator, String.append_assoc]
  cases negated with
  | false =>
    have hread : Shape.read s (Name.quote name ++ " is null") = some (.nullCheck false (nameTokens name)) :=
      read_of_reads hname (reads_word rfl) rfl rfl
    exact hread
  | true =>
    have hread : Shape.read s (Name.quote name ++ " is not null") = some (.nullCheck true (nameTokens name)) :=
      read_of_reads hname (reads_word rfl) rfl rfl
    exact hread

theorem read_membership (hname : Clean name) (negated : Bool) (vs : List Value) :
    Shape.read s ((Condition.membership negated name vs).compile s) =
      some (.membership negated (nameTokens name) (vs.map fun v => literalToken v.stored)) := by
  have hlist : Reads (", ".intercalate (vs.map fun v => Literal.quote v.stored) ++ ")").toList
      (RoundTrip.listTokens (vs.map fun v => literalToken v.stored) ++ [.mark ')']) := by
    rw [String.toList_append]
    exact (RoundTrip.reads_list fun v _ => reads_literal v.stored).append (reads_cons rfl reads_nil) rfl
  have htext : (Condition.membership negated name vs).compile s =
      Name.quote name ++ (" " ++ Condition.listOperator negated ++ " (" ++
        (", ".intercalate (vs.map fun v => Literal.quote v.stored) ++ ")")) := by
    rw [Condition.compile, hs.quoteName, hs.listOperator, hs.quoteAll, List.map_map]
    simp only [String.append_assoc]
    rfl
  rw [htext, read_listed hname negated hlist, readOperand_list]

end

/-! ## What is asked for -/

/-- What a call asks a query to test. -/
inductive Test
  | condition (c : Condition)
  | columns (first operator second : String)
  deriving DecidableEq, Repr

/-- A test that is not raw, on clean names. -/
def CleanTest : Test → Prop
  | .condition c => CleanCondition c
  | .columns first _ second => Clean first ∧ Clean second

instance : DecidablePred CleanTest
  | .condition c => inferInstanceAs (Decidable (c.isRaw = false ∧ Clean c.name))
  | .columns first _ second => inferInstanceAs (Decidable (Clean first ∧ Clean second))

/-- The shape in which a test can be written, if there is one. -/
def shapeOf (s : Spelling) : Test → Option Shape
  | .condition (.compare name op v) =>
    if v.isNull then
      (Condition.nullCheckOf? (Text.trim op)).map fun negated => .nullCheck negated (nameTokens (Text.trim name))
    else if isComparison s (Text.trim op) then
      some (.compare (nameTokens (Text.trim name)) (s.operator (Text.trim op)) (literalToken v.stored))
    else none
  | .condition (.nullCheck negated name _) => some (.nullCheck negated (nameTokens (Text.trim name)))
  | .condition (.membership negated name vs) =>
    some (.membership negated (nameTokens (Text.trim name)) (vs.map fun v => literalToken v.stored))
  | .condition (.raw _) => none
  | .columns first op second =>
    if isComparison s (Text.trim op) then
      some (.columns (nameTokens (Text.trim first)) (Text.trim op) (nameTokens (Text.trim second)))
    else none

/-- A null check that is given a value, or an operator for null or lists between two columns. -/
def Misplaced : Test → Prop
  | .condition (.compare _ op v) => v.isNull = false ∧ checksNull (Text.trim op) = true
  | .condition _ => False
  | .columns _ op _ => checksNull (Text.trim op) = true ∨ Dialect.wantsList (Text.trim op) = true

instance : DecidablePred Misplaced
  | .condition (.compare _ op v) =>
    inferInstanceAs (Decidable (v.isNull = false ∧ checksNull (Text.trim op) = true))
  | .condition (.nullCheck ..) => inferInstanceAs (Decidable False)
  | .condition (.membership ..) => inferInstanceAs (Decidable False)
  | .condition (.raw _) => inferInstanceAs (Decidable False)
  | .columns _ op _ =>
    inferInstanceAs (Decidable (checksNull (Text.trim op) = true ∨ Dialect.wantsList (Text.trim op) = true))

/-- A test that is registered: one that has a shape, or one that is misplaced. -/
def Registers (s : Spelling) (t : Test) : Prop :=
  (shapeOf s t).isSome = true ∨ Misplaced t

/-- The text that a registration gives, if any, reads as the shape of its test. -/
def Settles (s : Spelling) (t : Test) : Except QueryError String → Prop
  | .ok text => Registers s t ∧ Shape.read s text = shapeOf s t
  | .error _ => ¬Registers s t

theorem not_checksNull_of_wantsList {op : String} (h : Dialect.wantsList op = true) : checksNull op = false := by
  obtain ⟨negated, hlower⟩ := wantsList_iff.mp h
  rw [checksNull, hlower]
  cases negated <;> decide

theorem shapeOf_of_misplaced {t : Test} (h : Misplaced t) : shapeOf s t = none := by
  have hno : ∀ {op}, checksNull op = true ∨ Dialect.wantsList op = true → ¬isComparison s op = true := by
    intro op h hcompares
    obtain ⟨-, hnull, hlist⟩ := isComparison_iff.mp hcompares
    rw [hnull, hlist] at h
    simp at h
  unfold Misplaced at h
  split at h
  · rename_i name op v
    rw [shapeOf, h.1, if_neg Bool.false_ne_true, if_neg (hno (Or.inl h.2))]
  · exact h.elim
  · rw [shapeOf, if_neg (hno h)]

theorem isSome_shapeOf_iff {t : Test} (h : Registers s t) : (shapeOf s t).isSome = true ↔ ¬Misplaced t := by
  constructor
  · intro hsome hmisplaced
    rw [shapeOf_of_misplaced hmisplaced] at hsome
    cases hsome
  · exact h.resolve_right

section

variable (hs : Legible s)
include hs

theorem settles_compare (logic : Logic) (hname : Clean name) (op : String) {v : Value} (hv : v.isNull = false) :
    Settles s (.condition (.compare name op v))
      (((plainDialect s).accept (.compare logic name op v)).map fun e => e.condition.compile s) := by
  have hregisters : Registers s (.condition (.compare name op v)) ↔
      isComparison s (Text.trim op) = true ∨ checksNull (Text.trim op) = true := by
    simp [Registers, shapeOf, Misplaced, hv]
  have hknown := hs.known_iff_kinds (Text.trim op)
  have hplain : (plainDialect s).isUnknown (Text.trim op) = s.isUnknown (Text.trim op) := rfl
  rw [accept_compare, hs.keeps.fixNull, hplain]
  by_cases hunknown : s.isUnknown (Text.trim op) = true
  · rw [if_pos hunknown]
    intro h
    have hno := hknown.mpr ((hregisters.mp h).imp_right Or.inl)
    exact Bool.false_ne_true (hno.symm.trans hunknown)
  have hop := eq_false_of_ne_true hunknown
  by_cases hlist : Dialect.wantsList (Text.trim op) = true
  · rw [if_neg hunknown, if_pos hlist]
    intro h
    rcases hregisters.mp h with h | h
    · exact Bool.false_ne_true ((isComparison_iff.mp h).2.2.symm.trans hlist)
    · exact Bool.false_ne_true ((not_checksNull_of_wantsList hlist).symm.trans h)
  · rw [if_neg hunknown, if_neg hlist, Expression.fixNull, Expression.compare, fixNull_of_not_null _ _ hv]
    refine ⟨hregisters.mpr ((hknown.mp hop).imp_right fun h => h.resolve_right hlist), ?_⟩
    rw [shapeOf, hv, if_neg Bool.false_ne_true]
    exact read_compare hs ⟨clean_trim hname, hop, Trim.trim_trim op, hv⟩

theorem settles_compare_null (logic : Logic) (hname : Clean name) (op : String) :
    Settles s (.condition (.compare name op .null))
      (((plainDialect s).accept (.compare logic name op .null)).map fun e => e.condition.compile s) := by
  cases hcheck : Condition.nullCheckOf? (Text.trim op) with
  | some negated =>
    have hknown : (plainDialect s).isUnknown (Text.trim op) = false := by
      apply (hs.known_iff _).mpr
      exact hs.checks negated _ (List.mem_cons.mpr ((Operators.nullCheckOf_iff _ _).mp hcheck))
    have haccept := Operators.accept_compare_null hs.keeps logic name hcheck
    rw [hknown, if_neg Bool.false_ne_true] at haccept
    have hshape : shapeOf s (.condition (.compare name op .null)) =
        some (.nullCheck negated (nameTokens (Text.trim name))) := by
      simp [shapeOf, Value.isNull, hcheck]
    rw [haccept]
    refine ⟨Or.inl ?_, ?_⟩
    · rw [hshape]
      rfl
    · rw [hshape]
      exact read_nullCheck hs (clean_trim hname) negated true
  | none =>
    have hregisters : ¬Registers s (.condition (.compare name op .null)) := by
      simp [Registers, shapeOf, Misplaced, Value.isNull, hcheck]
    have hrefused : ∃ err, (plainDialect s).accept (.compare logic name op .null) = .error err := by
      rw [accept_compare, hs.keeps.fixNull, Expression.fixNull, Expression.compare, Condition.fixNull, hcheck]
      split
      · exact ⟨_, rfl⟩
      split
      · exact ⟨_, rfl⟩
      · exact ⟨_, rfl⟩
    obtain ⟨err, herr⟩ := hrefused
    rw [herr]
    exact hregisters

theorem settles_accept {e : Expression} (h : CleanCondition e.condition) :
    Settles s (.condition e.condition) (((plainDialect s).accept e).map fun e => e.condition.compile s) := by
  obtain ⟨logic, c⟩ := e
  obtain ⟨hraw, hname⟩ := h
  cases c with
  | raw sql => cases hraw
  | compare name op v =>
    cases hv : v.isNull with
    | true =>
      rw [eq_null_of_isNull hv]
      exact settles_compare_null hs logic hname op
    | false => exact settles_compare hs logic hname op hv
  | nullCheck negated name compared =>
    have hchecks := checksNull_iff.mpr ⟨negated, Operators.lower_nullOperator negated⟩
    have hknown : (plainDialect s).isUnknown (Condition.nullOperator negated) = false :=
      (hs.known_iff_kinds _).mpr (Or.inr (Or.inl hchecks))
    rw [Operators.accept_nullCheck hs.keeps, hknown]
    exact ⟨Or.inl rfl, read_nullCheck hs (clean_trim hname) negated compared⟩
  | membership negated name vs =>
    have hlist : Dialect.wantsList (Condition.listOperator negated) = true := by
      cases negated <;> decide
    have hknown : (plainDialect s).isUnknown (Condition.listOperator negated) = false :=
      (hs.known_iff_kinds _).mpr (Or.inr (Or.inr hlist))
    have haccept : (plainDialect s).accept ⟨logic, .membership negated name vs⟩ =
        .ok ⟨logic, .membership negated (Text.trim name) vs⟩ := by
      rw [accept_eq, hs.keeps.fixNull]
      simp [Condition.isRaw, Condition.trim, Condition.operator, hknown, Dialect.lacksList, Expression.fixNull,
        Condition.fixNull, Except.map]
    rw [haccept]
    exact ⟨Or.inl rfl, read_membership hs (clean_trim hname) negated vs⟩

theorem settles_join (type : JoinType) (table op : String) {first second : String} (hfirst : Clean first)
    (hsecond : Clean second) :
    Settles s (.columns first op second)
      ((joinOf (plainDialect s) type table first op second).map fun j => j.condition.compile s) := by
  have hregisters : Registers s (.columns first op second) ↔ s.isUnknown (Text.trim op) = false := by
    simp [Registers, shapeOf, Misplaced, hs.known_iff_kinds]
  have hplain : (plainDialect s).isUnknown (Text.trim op) = s.isUnknown (Text.trim op) := rfl
  unfold joinOf
  rw [hplain]
  cases hunknown : s.isUnknown (Text.trim op) with
  | true =>
    intro h
    rw [hregisters.mp h] at hunknown
    cases hunknown
  | false =>
    exact ⟨hregisters.mpr hunknown,
      read_columns hs (clean_trim hfirst) (clean_trim hsecond) hunknown⟩

end

/-! ## Runs of calls -/

def filterTests : Clause → List Test
  | .filter e => [.condition e.condition]
  | _ => []

def havingTests : Clause → List Test
  | .having e => [.condition e.condition]
  | _ => []

def joinTests : Clause → List Test
  | .join _ _ first op second => [.columns first op second]
  | .joinWith _ _ on => on.map fun e => .condition e.condition
  | _ => []

/-- What a run of calls asks for: the tests of filters first, those of joins last. -/
def tests (xs : List Clause) : List Test :=
  xs.flatMap filterTests ++ xs.flatMap havingTests ++ xs.flatMap joinTests

def conditionTexts (s : Spelling) (es : List Expression) : List String :=
  es.map fun e => e.condition.compile s

def joinTexts (s : Spelling) (j : Join) : List String :=
  match j.condition with
  | .columns .. => [j.condition.compile s]
  | .conditions es => conditionTexts s es

/-- The texts of all conditions of a query in the same order. -/
def texts (q : Query) : List String :=
  conditionTexts q.dialect.toSpelling q.filters ++ conditionTexts q.dialect.toSpelling q.havings ++
    q.joins.flatMap (joinTexts q.dialect.toSpelling)

theorem mem_tests {xs : List Clause} {t : Test} : t ∈ tests xs ↔ ∃ x ∈ xs, t ∈ tests [x] := by
  simp only [tests, List.flatMap_singleton, List.mem_append, List.mem_flatMap]
  constructor
  · rintro ((⟨x, hx, h⟩ | ⟨x, hx, h⟩) | ⟨x, hx, h⟩)
    · exact ⟨x, hx, Or.inl (Or.inl h)⟩
    · exact ⟨x, hx, Or.inl (Or.inr h)⟩
    · exact ⟨x, hx, Or.inr h⟩
  · rintro ⟨x, hx, (h | h) | h⟩
    · exact Or.inl (Or.inl ⟨x, hx, h⟩)
    · exact Or.inl (Or.inr ⟨x, hx, h⟩)
    · exact Or.inr ⟨x, hx, h⟩

theorem Settles.refusal_iff {t : Test} {r : Except QueryError String} (h : Settles s t r) :
    refusal r = [] ↔ Registers s t := by
  cases r with
  | ok text => exact iff_of_true rfl h.1
  | error e => exact iff_of_false (List.cons_ne_nil e []) h

theorem Settles.read_prepared {t : Test} {r : Except QueryError String} (h : Settles s t r)
    (hok : refusal r = []) : (prepared r).map (Shape.read s) = [shapeOf s t] := by
  cases r with
  | ok text => exact congrArg (fun x => [x]) h.2
  | error e => cases hok

theorem joinTexts_joinOf (type : JoinType) (table first op second : String) :
    (prepared (joinOf (plainDialect s) type table first op second)).flatMap (joinTexts s) =
      (prepared (joinOf (plainDialect s) type table first op second)).map fun j => j.condition.compile s := by
  unfold joinOf
  split <;> rfl

section

variable (hs : Legible s)
include hs

theorem refusal_accept {e : Expression} (h : CleanCondition e.condition) :
    refusal ((plainDialect s).accept e) = [] ↔ Registers s (.condition e.condition) := by
  have hiff := (settles_accept hs h).refusal_iff
  rwa [refusal_map] at hiff

theorem read_accepted {es : List Expression} (h : ∀ e ∈ es, CleanCondition e.condition)
    (hok : ∀ e ∈ es, refusal ((plainDialect s).accept e) = []) :
    (conditionTexts s (acceptedOf (plainDialect s) es)).map (Shape.read s) =
      (es.map fun e => Test.condition e.condition).map (shapeOf s) := by
  induction es with
  | nil => rfl
  | cons e es ih =>
    have hread := (settles_accept hs (h e List.mem_cons_self)).read_prepared
      ((refusal_map _ _).trans (hok e List.mem_cons_self))
    have hrest := ih (fun d hd => h d (List.mem_cons_of_mem _ hd)) fun d hd => hok d (List.mem_cons_of_mem _ hd)
    rw [prepared_map] at hread
    rw [acceptedOf, List.flatMap_cons, conditionTexts, List.map_append, List.map_append, hread]
    exact congrArg (shapeOf s (.condition e.condition) :: ·) hrest

theorem errorsOf_iff {x : Clause} (h : ∀ t ∈ tests [x], CleanTest t) :
    errorsOf (plainDialect s) x = [] ↔ ∀ t ∈ tests [x], Registers s t := by
  cases x with
  | filter e =>
    have hiff := refusal_accept hs (e := e) (h _ List.mem_cons_self)
    simpa [errorsOf, tests, filterTests, havingTests, joinTests] using hiff
  | having e =>
    have hiff := refusal_accept hs (e := e) (h _ List.mem_cons_self)
    simpa [errorsOf, tests, filterTests, havingTests, joinTests] using hiff
  | join type table first op second =>
    obtain ⟨hfirst, hsecond⟩ := h (.columns first op second) List.mem_cons_self
    have hiff := (settles_join hs type table op hfirst hsecond).refusal_iff
    rw [refusal_map] at hiff
    simpa [errorsOf, tests, filterTests, havingTests, joinTests] using hiff
  | joinWith type table on =>
    have hiff : ∀ e ∈ on, (refusal ((plainDialect s).accept e) = [] ↔ Registers s (.condition e.condition)) :=
      fun e he => refusal_accept hs
        (h (.condition e.condition) (by simpa [tests, filterTests, havingTests, joinTests] using ⟨e, he, rfl⟩))
    simp only [errorsOf, tests, filterTests, havingTests, joinTests, List.flatMap_singleton, List.nil_append,
      List.flatMap_eq_nil_iff, List.forall_mem_map]
    exact forall₂_congr hiff
  | _ => simp [errorsOf, tests, filterTests, havingTests, joinTests]

theorem read_call {x : Clause} (h : ∀ t ∈ tests [x], CleanTest t) (hok : errorsOf (plainDialect s) x = []) :
    (conditionTexts s (filtersOf (plainDialect s) x)).map (Shape.read s) = (filterTests x).map (shapeOf s) ∧
    (conditionTexts s (havingsOf (plainDialect s) x)).map (Shape.read s) = (havingTests x).map (shapeOf s) ∧
    ((joinsOf (plainDialect s) x).flatMap (joinTexts s)).map (Shape.read s) = (joinTests x).map (shapeOf s) := by
  cases x with
  | filter e =>
    have hclean : CleanCondition e.condition := h (.condition e.condition) List.mem_cons_self
    exact ⟨read_accepted hs (List.forall_mem_singleton.mpr hclean) (List.forall_mem_singleton.mpr hok), rfl, rfl⟩
  | having e =>
    have hclean : CleanCondition e.condition := h (.condition e.condition) List.mem_cons_self
    exact ⟨rfl, read_accepted hs (List.forall_mem_singleton.mpr hclean) (List.forall_mem_singleton.mpr hok), rfl⟩
  | join type table first op second =>
    obtain ⟨hfirst, hsecond⟩ := h (.columns first op second) List.mem_cons_self
    have hread := (settles_join hs type table op hfirst hsecond).read_prepared ((refusal_map _ _).trans hok)
    refine ⟨rfl, rfl, ?_⟩
    rw [joinsOf, joinTexts_joinOf, ← prepared_map]
    exact hread
  | joinWith type table on =>
    have hclean : ∀ e ∈ on, CleanCondition e.condition := fun e he =>
      h (.condition e.condition) (by simpa [tests, filterTests, havingTests, joinTests] using ⟨e, he, rfl⟩)
    have hread := read_accepted hs hclean (List.flatMap_eq_nil_iff.mp hok)
    refine ⟨rfl, rfl, ?_⟩
    simpa [joinsOf, joinTexts, joinTests] using hread
  | _ => exact ⟨rfl, rfl, rfl⟩

theorem read_run {xs : List Clause} (h : ∀ t ∈ tests xs, CleanTest t) (table : String)
    (hok : ∀ x ∈ xs, errorsOf (plainDialect s) x = []) :
    (texts ((fresh (plainDialect s) table).addAll xs)).map (Shape.read s) = (tests xs).map (shapeOf s) := by
  have hcall := fun x (hx : x ∈ xs) => read_call hs (fun t ht => h t (mem_tests.mpr ⟨x, hx, ht⟩)) (hok x hx)
  have hdialect : ((fresh (plainDialect s) table).addAll xs).dialect = plainDialect s := addAll_dialect _ xs
  rw [texts, hdialect, addAll_filters, addAll_havings, addAll_joins]
  simp only [fresh, List.nil_append, tests, List.map_append, conditionTexts, List.map_flatMap, List.flatMap_assoc]
  congr 1
  · congr 1
    · exact List.flatMap_congr fun x hx => (hcall x hx).1
    · exact List.flatMap_congr fun x hx => (hcall x hx).2.1
  · refine List.flatMap_congr fun x hx => ?_
    rw [← (hcall x hx).2.2, List.map_flatMap]
    rfl

end

/-! ## The main result -/

/-- A run on clean names is refused exactly if it asks for something that has no shape and is not misplaced. If
it is not refused, the texts of its conditions read as the shapes of what it asks for, and all of them have one
exactly if nothing is misplaced. -/
theorem conditions_shaped {d : Dialect} (hd : d = .generic ∨ d = .sqlite) {xs : List Clause}
    (hxs : ∀ t ∈ tests xs, CleanTest t) (table : String) :
    (((fresh d table).addAll xs).check = .ok () ↔
      ∀ t ∈ tests xs, (shapeOf d.toSpelling t).isSome = true ∨ Misplaced t) ∧
    (((fresh d table).addAll xs).check = .ok () →
      (texts ((fresh d table).addAll xs)).map (Shape.read d.toSpelling) =
        (tests xs).map (shapeOf d.toSpelling) ∧
      ((∀ text ∈ texts ((fresh d table).addAll xs), ∃ shape, Shape.read d.toSpelling text = some shape ∧
        shape.WellFormed d.toSpelling ∧ (shape.name ++ shape.operand).flatMap Token.spell = text.toList) ↔
          ∀ t ∈ tests xs, ¬Misplaced t)) := by
  obtain ⟨s, hs, rfl⟩ := exists_legible hd
  have hcall := fun x (hx : x ∈ xs) => errorsOf_iff hs fun t ht => hxs t (mem_tests.mpr ⟨x, hx, ht⟩)
  have hiff : (∀ x ∈ xs, errorsOf (plainDialect s) x = []) ↔ ∀ t ∈ tests xs, Registers s t := by
    constructor
    · intro h t ht
      obtain ⟨x, hx, htx⟩ := mem_tests.mp ht
      exact (hcall x hx).mp (h x hx) t htx
    · intro h x hx
      exact (hcall x hx).mpr fun t ht => h t (mem_tests.mpr ⟨x, hx, ht⟩)
  rw [check_fresh_iff]
  refine ⟨hiff, fun hok => ?_⟩
  have hread := read_run hs hxs table hok
  refine ⟨hread, ?_⟩
  have hsome : (∀ text ∈ texts ((fresh (plainDialect s) table).addAll xs), (Shape.read s text).isSome = true) ↔
      ∀ t ∈ tests xs, (shapeOf s t).isSome = true := by
    rw [← List.forall_mem_map (f := Shape.read s) (P := fun x => x.isSome = true), hread, List.forall_mem_map]
  constructor
  · intro h t ht
    apply (isSome_shapeOf_iff (hiff.mp hok t ht)).mp
    refine hsome.mp (fun text htext => ?_) t ht
    obtain ⟨shape, hshape, -⟩ := h text htext
    exact Option.isSome_of_eq_some hshape
  · intro h text htext
    have hall : ∀ t ∈ tests xs, (shapeOf s t).isSome = true := fun t ht =>
      (isSome_shapeOf_iff (hiff.mp hok t ht)).mpr (h t ht)
    obtain ⟨shape, hshape⟩ := Option.isSome_iff_exists.mp (hsome.mpr hall text htext)
    exact ⟨shape, hshape, read_sound hshape⟩

/-- The four shapes, with names that are paths, operators in any case and nulls that are written as comparisons. -/
theorem conditions_shaped_post :
    let xs : List Clause :=
      [.filter (.compare .and " p.title " "NOT Like" (.text "x%")), .filter (.compare .or "p.body" "<>" .null),
        .having (.isNotIn .and "n" [.int 1, .null]), .join .left "author" "author.id" "=" "p.author",
        .joinWith .inner "tag" [.compare .and "tag.name" "ilike" (.bool true)]]
    let q := (fresh .sqlite "post").addAll xs
    (∀ t ∈ tests xs, CleanTest t) ∧ q.check = .ok () ∧
    texts q = ["`p`.`title` NOT Like 'x%'", "`p`.`body` is not null", "`n` not in ('1', null)",
      "`author`.`id` = `p`.`author`", "`tag`.`name` like '1'"] ∧
    (texts q).map (Shape.read Dialect.sqlite.toSpelling) = (tests xs).map (shapeOf Dialect.sqlite.toSpelling) ∧
    ∀ text ∈ texts q, ∃ shape, Shape.read Dialect.sqlite.toSpelling text = some shape ∧
      shape.WellFormed Dialect.sqlite.toSpelling ∧
      (shape.name ++ shape.operand).flatMap Token.spell = text.toList := by
  intro xs q
  have hclean : ∀ t ∈ tests xs, CleanTest t := by decide +kernel
  obtain ⟨hregistered, hshaped⟩ := conditions_shaped (d := .sqlite) (Or.inr rfl) hclean "post"
  have hok : q.check = .ok () := hregistered.mpr (by decide +kernel)
  obtain ⟨hread, hiff⟩ := hshaped hok
  exact ⟨hclean, hok, by decide +kernel, hread, hiff.mpr (by decide +kernel)⟩

/-- Two tests that no shape can say are registered and printed all the same. -/
theorem misplaced_tests_printed :
    let q := (fresh .generic "t").addAll
      [.filter (.compare .and "a" "is null" (.int 5)), .join .inner "u" "a" "in" "b"]
    q.check = .ok () ∧ texts q = ["`a` is null '5'", "`a` in `b`"] ∧
    q.selectStatement = .ok "select * from `t` inner join `u` on `a` in `b` where `a` is null '5'" ∧
    ∀ text ∈ texts q, Shape.read Dialect.generic.toSpelling text = none := by
  decide +kernel

end SqlRecord.WellFormed

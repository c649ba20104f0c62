import SqlRecord.Proofs.GuardedUpdates
import SqlRecord.Proofs.JoinConditions
import SqlRecord.Proofs.Operators
import SqlRecord.Proofs.Statements
import SqlRecord.Proofs.VisibleColumns

/-! # Clauses of select statements

Without raw texts a select statement has its clauses in the order that the language wants, each at most once and
one blank between two of them. Limit and offset are printed apart from each other, so an offset without a limit
stands behind whatever clause is last.
-/

namespace SqlRecord.Pagination

open Builder Outline Trim Operators JoinConditions GuardedUpdates

/-! ## Clauses -/

inductive Slot
  | select
  | table
  | joins
  | filters
  | groups
  | havings
  | order
  | limit
  | offset
  deriving DecidableEq, Repr

namespace Slot

/-- The order of the language. -/
def all : List Slot :=
  [select, table, joins, filters, groups, havings, order, limit, offset]

/-- What a clause begins with. -/
def words : Slot → List String
  | select => ["select "]
  | table => ["from "]
  | joins => ["left join ", "right join ", "inner join "]
  | filters => ["where "]
  | groups => ["group by "]
  | havings => ["having "]
  | order => ["order by "]
  | limit => ["limit "]
  | offset => ["offset "]

theorem opens_word (slot : Slot) :
    ∀ w ∈ slot.words, w.toList.head?.any (Text.isBlank · == false) = true := by
  cases slot <;> decide

end Slot

/-- A clause as it should be printed: it begins with its word and does not end with a blank. -/
structure Formed (c : Slot × String) : Prop where
  word : ∃ w ∈ c.1.words, w.toList <+: c.2.toList
  closes : Closes c.2.toList

theorem Formed.opens {c : Slot × String} (h : Formed c) : Opens c.2.toList := by
  obtain ⟨w, hw, t, ht⟩ := h.word
  obtain ⟨d, hd, hblank⟩ := (Option.any_eq_true _ _).mp (c.1.opens_word w hw)
  obtain ⟨u, hu⟩ := List.head?_eq_some_iff.mp hd
  rw [← ht, hu]
  exact ⟨d, u ++ t, rfl, beq_iff_eq.mp hblank⟩

theorem ne_empty_of_closes {text : String} (h : Closes text.toList) : text ≠ "" := by
  rintro rfl
  exact (closes_iff.mp h).1 rfl

theorem formed_of_word {slot : Slot} {w rest : String} (hw : w ∈ slot.words)
    (h : Closes (w ++ rest).toList) : Formed (slot, w ++ rest) :=
  ⟨⟨w, hw, rest.toList, String.toList_append.symm⟩, h⟩

def selectText (q : Query) : String :=
  (if q.distinct then "select distinct " else "select ") ++ q.dialect.selectList q.selections

/-- The clauses of a query but for its limit and offset. Those that are not wanted are left out. -/
def unpaged (q : Query) : List (Slot × String) :=
  [(.select, selectText q), (.table, "from " ++ q.dialect.quoteName q.table),
    (.joins, q.dialect.joinList q.joins), (.filters, q.dialect.whereClause q.filters),
    (.groups, q.dialect.groupClause q.groups), (.havings, q.dialect.havingClause q.havings),
    (.order, q.dialect.orderClause q.order)].filter (·.2 ≠ "")

def counted (slot : Slot) (keyword : String) : Option Int64 → List (Slot × String)
  | none => []
  | some n => [(slot, keyword ++ " " ++ toString n.toInt)]

/-- The clauses of a query with this limit and this offset. -/
def clauses (q : Query) (limit offset : Option Int64) : List (Slot × String) :=
  unpaged q ++ counted .limit "limit" limit ++ counted .offset "offset" offset

theorem order_clauses (q : Query) (limit offset : Option Int64) :
    ((clauses q limit offset).map (·.1)).Sublist Slot.all := by
  have hunpaged : ((unpaged q).map (·.1)).Sublist
      [.select, .table, .joins, .filters, .groups, .havings, .order] :=
    List.filter_sublist.map _
  have hlimit : ((counted .limit "limit" limit).map (·.1)).Sublist [.limit] := by
    cases limit with
    | none => exact List.nil_sublist _
    | some n => exact List.Sublist.refl _
  have hoffset : ((counted .offset "offset" offset).map (·.1)).Sublist [.offset] := by
    cases offset with
    | none => exact List.nil_sublist _
    | some n => exact List.Sublist.refl _
  rw [clauses, List.map_append, List.map_append]
  exact (hunpaged.append hlimit).append hoffset

/-! ## Queries without raw texts -/

structure PlainQuery (q : Query) : Prop where
  selections : ∀ t ∈ q.selections, ∃ name, t = .column name
  joins : ∀ j ∈ q.joins, ∀ e ∈ j.condition.expressions, e.condition.isRaw = false
  filters : ∀ e ∈ q.filters, e.condition.isRaw = false
  groups : ∀ t ∈ q.groups, ∃ name, t = .column name
  havings : ∀ e ∈ q.havings, e.condition.isRaw = false
  order : ∀ k ∈ q.order, ∃ name, k.term = .column name

section

variable {s : Spelling} (hs : Standard s)
include hs

theorem closes_list {ts : List Selection} (h : ∀ t ∈ ts, ∃ name, t = .column name) :
    Closes (Selection.list s ts).toList := by
  unfold Selection.list
  split
  · exact ⟨[], '*', rfl, rfl⟩
  · rename_i hne
    refine closes_intercalate (by simpa using hne) fun x hx => ?_
    obtain ⟨t, ht, rfl⟩ := List.mem_map.mp hx
    obtain ⟨name, rfl⟩ := h t ht
    rw [Selection.compile, hs.quoteName]
    exact Name.closes_quote name

theorem formed_select {q : Query} (hd : q.dialect = plainDialect s)
    (h : ∀ t ∈ q.selections, ∃ name, t = .column name) : Formed (.select, selectText q) := by
  have hcloses : Closes (q.dialect.selectList q.selections).toList := by
    rw [hd]
    exact closes_list hs h
  unfold selectText
  cases q.distinct with
  | false => exact formed_of_word List.mem_cons_self (closes_append _ hcloses)
  | true =>
    have hsplit : "select distinct " = "select " ++ "distinct " := rfl
    rw [if_pos rfl, hsplit, String.append_assoc]
    exact formed_of_word List.mem_cons_self (closes_append _ (closes_append _ hcloses))

theorem formed_table {q : Query} (hd : q.dialect = plainDialect s) :
    Formed (.table, "from " ++ q.dialect.quoteName q.table) := by
  have hquote : q.dialect.quoteName = Name.quote := by
    rw [hd]
    exact hs.quoteName
  rw [hquote]
  exact formed_of_word List.mem_cons_self (closes_append _ (Name.closes_quote _))

theorem formed_clause {slot : Slot} {keyword : String} (hword : keyword ++ " " ∈ slot.words)
    {es : List Expression} (h : ∀ e ∈ es, e.condition.isRaw = false) (hne : es ≠ []) :
    Formed (slot, Expression.clause s keyword es) := by
  obtain ⟨e, es, rfl⟩ := List.exists_cons_of_ne_nil hne
  rw [Expression.clause, compileAll_eq_chain hs h]
  exact formed_of_word hword (closes_append _ (closes_chain hs h))

theorem closes_on {on : JoinCondition} (h : ∀ e ∈ on.expressions, e.condition.isRaw = false)
    (hne : on.compile s ≠ "") : Closes (on.compile s).toList := by
  cases on with
  | columns first op second =>
    rw [JoinCondition.compile, hs.quoteName]
    exact closes_append _ (Name.closes_quote second)
  | conditions es =>
    have hchain : Expression.compileAll s es = chain s es := compileAll_eq_chain hs h
    rw [JoinCondition.compile, hchain] at hne ⊢
    cases es with
    | nil => exact absurd rfl hne
    | cons e es => exact closes_chain hs h

theorem closes_join {j : Join} (h : ∀ e ∈ j.condition.expressions, e.condition.isRaw = false) :
    Closes (j.compile s).toList := by
  unfold Join.compile
  dsimp only
  split
  · rw [hs.quoteName]
    exact closes_append _ (Name.closes_quote _)
  · rename_i hne
    exact closes_append _ (closes_on hs h hne)

theorem formed_joins {js : List Join}
    (h : ∀ j ∈ js, ∀ e ∈ j.condition.expressions, e.condition.isRaw = false) (hne : js ≠ []) :
    Formed (.joins, Join.compileAll s js) := by
  have hcloses : Closes (Join.compileAll s js).toList := by
    refine closes_intercalate (by simpa using hne) fun x hx => ?_
    obtain ⟨j, hj, rfl⟩ := List.mem_map.mp hx
    exact closes_join hs (h j hj)
  obtain ⟨j, js, rfl⟩ := List.exists_cons_of_ne_nil hne
  have hword : j.type.word ++ " join " ∈ Slot.joins.words := by
    cases j.type <;> decide
  obtain ⟨rest, hrest⟩ : ∃ rest, Join.compileAll s (j :: js) = j.type.word ++ " join " ++ rest := by
    unfold Join.compileAll
    cases js with
    | nil =>
      rw [List.map_singleton, String.intercalate_singleton, compile_join]
      exact ⟨_, by rw [String.append_assoc]⟩
    | cons j' js =>
      rw [List.map_cons, List.map_cons, String.intercalate_cons_cons, compile_join]
      exact ⟨_, by simp only [String.append_assoc]; rfl⟩
  rw [hrest] at hcloses ⊢
  exact formed_of_word hword hcloses

theorem formed_groups {ts : List Term} (h : ∀ t ∈ ts, ∃ name, t = .column name) (hne : ts ≠ []) :
    Formed (.groups, Term.groupClause s ts) := by
  rw [Term.groupClause, if_neg (List.isEmpty_iff.not.mpr hne)]
  refine formed_of_word List.mem_cons_self ?_
  refine closes_append _ (closes_intercalate (by simpa using hne) fun x hx => ?_)
  obtain ⟨t, ht, rfl⟩ := List.mem_map.mp hx
  obtain ⟨name, rfl⟩ := h t ht
  rw [Term.compile, hs.quoteName]
  exact Name.closes_quote name

omit hs in
theorem formed_order {ks : List OrderKey} (hne : ks ≠ []) : Formed (.order, OrderKey.clause s ks) := by
  rw [OrderKey.clause, if_neg (List.isEmpty_iff.not.mpr hne)]
  refine formed_of_word List.mem_cons_self ?_
  refine closes_append _ (closes_intercalate (by simpa using hne) fun x hx => ?_)
  obtain ⟨k, -, rfl⟩ := List.mem_map.mp hx
  refine closes_append _ ?_
  cases k.direction
  · exact ⟨"as".toList, 'c', rfl, rfl⟩
  · exact ⟨"des".toList, 'c', rfl, rfl⟩

omit hs in
theorem formed_count {slot : Slot} {keyword : String} (hword : keyword ++ " " ∈ slot.words)
    {count : Option Int64} : ∀ c ∈ counted slot keyword count, Formed c := by
  intro c hc
  cases count with
  | none => cases hc
  | some n =>
    rw [List.mem_singleton.mp hc]
    have hne : (toString n.toInt).toList ≠ [] := by
      rw [Number.toList_toString_int]
      split
      · exact Nat.toDigits_ne_nil
      · exact List.cons_ne_nil _ _
    have htight := Number.tight_of_isNumeral fun c => Number.isNumeral_of_mem_toString (c := c) (n := n.toInt)
    exact formed_of_word hword (closes_append _ (closes_iff.mpr ⟨hne, htight.2⟩))

theorem formed_clauses {q : Query} (hd : q.dialect = plainDialect s) (h : PlainQuery q)
    (limit offset : Option Int64) : ∀ c ∈ clauses q limit offset, Formed c := by
  have hunpaged : ∀ c ∈ unpaged q, Formed c := by
    intro c hc
    obtain ⟨hmem, hne⟩ := List.mem_filter.mp hc
    have hne : c.2 ≠ "" := by simpa using hne
    simp only [List.mem_cons, List.not_mem_nil, or_false] at hmem
    rcases hmem with rfl | rfl | rfl | rfl | rfl | rfl | rfl
    · exact formed_select hs hd h.selections
    · exact formed_table hs hd
    all_goals rw [hd] at hne ⊢
    · exact formed_joins hs h.joins fun hnil => hne (by rw [hnil]; rfl)
    · exact formed_clause hs List.mem_cons_self h.filters fun hnil => hne (by rw [hnil]; rfl)
    · exact formed_groups hs h.groups fun hnil => hne (by rw [hnil]; rfl)
    · exact formed_clause hs List.mem_cons_self h.havings fun hnil => hne (by rw [hnil]; rfl)
    · exact formed_order fun hnil => hne (by rw [hnil]; rfl)
  unfold clauses
  rw [List.forall_mem_append, List.forall_mem_append]
  exact ⟨⟨hunpaged, formed_count List.mem_cons_self⟩, formed_count List.mem_cons_self⟩

end

/-! ## The text -/

theorem intercalate_merge (w a b : String) (xs : List String) :
    w.intercalate (a :: b :: xs) = w.intercalate ((a ++ w ++ b) :: xs) := by
  cases xs with
  | nil => simp [String.intercalate_cons_cons]
  | cons x xs => simp only [String.intercalate_cons_cons, String.append_assoc]

theorem map_counted (slot : Slot) (keyword : String) (count : Option Int64) :
    (counted slot keyword count).map (·.2) = [countClause keyword count].filter (· ≠ "") := by
  cases count with
  | none => rfl
  | some n => simp [counted, countClause]

theorem map_clauses {s : Spelling} (hs : Standard s) {q : Query} (hd : q.dialect = plainDialect s)
    (h : PlainQuery q) :
    (clauses q q.limit q.offset).map (·.2) =
      selectText q :: ("from " ++ q.dialect.quoteName q.table) :: (q.segments.drop 5).filter (· ≠ "") := by
  have hlimit : countClause "limit" q.limit = q.dialect.limitClause q.limit := by rw [hd]; rfl
  have hoffset : countClause "offset" q.offset = q.dialect.offsetClause q.offset := by rw [hd]; rfl
  have hunpaged : (unpaged q).map (·.2) =
      ([selectText q, "from " ++ q.dialect.quoteName q.table] ++ (q.segments.drop 5).take 5).filter (· ≠ "") :=
    (List.filter_map (p := fun text => decide (text ≠ ""))).symm
  have hselect : [selectText q, "from " ++ q.dialect.quoteName q.table].filter (· ≠ "") =
      [selectText q, "from " ++ q.dialect.quoteName q.table] := by
    simp [ne_empty_of_closes (formed_select hs hd h.selections).closes,
      ne_empty_of_closes (formed_table hs hd).closes]
  have hrest : q.segments.drop 5 = (q.segments.drop 5).take 5 ++
      ([q.dialect.limitClause q.limit] ++ [q.dialect.offsetClause q.offset]) := rfl
  rw [clauses, List.map_append, List.map_append, map_counted, map_counted, hlimit, hoffset, hunpaged,
    List.append_assoc, ← List.filter_append, ← List.filter_append, List.append_assoc, ← hrest,
    List.filter_append, hselect]
  rfl

/-- The statement has the clauses of the query for its text. -/
theorem selectStatement_eq_clauses {s : Spelling} (hs : Standard s) {q : Query}
    (hd : q.dialect = plainDialect s) (h : PlainQuery q) :
    q.selectStatement = q.check >>= fun _ =>
      .ok (" ".intercalate ((clauses q q.limit q.offset).map (·.2))) := by
  have hlist : q.dialect.selectList q.selections ≠ "" := by
    rw [hd]
    exact ne_empty_of_closes (closes_list hs h.selections)
  have htable : q.dialect.quoteName q.table ≠ "" := by
    rw [hd]
    show s.quoteName q.table ≠ ""
    rw [hs.quoteName]
    exact ne_empty_of_closes (Name.closes_quote _)
  have hdistinct : q.dialect.distinctWord q.distinct = if q.distinct then "distinct" else "" := by rw [hd]; rfl
  have hsplit : q.segments.filter (· ≠ "") =
      ["select", q.dialect.distinctWord q.distinct, q.dialect.selectList q.selections, "from",
        q.dialect.quoteName q.table].filter (· ≠ "") ++ (q.segments.drop 5).filter (· ≠ "") := by
    rw [← List.filter_append]
    rfl
  rw [q.selectStatement_eq, map_clauses hs hd h, hsplit, hdistinct, String.intercalate_cons_cons, selectText]
  -- A word that stands for itself in the statement is the beginning of its clause here.
  cases q.distinct with
  | false =>
    have hpresent : ["select", "", q.dialect.selectList q.selections, "from",
        q.dialect.quoteName q.table].filter (· ≠ "") =
        ["select", q.dialect.selectList q.selections, "from", q.dialect.quoteName q.table] := by
      simp [hlist, htable]
    simp only [Bool.false_eq_true, if_false, hpresent, List.cons_append, List.nil_append]
    rw [intercalate_merge " " "select", String.intercalate_cons_cons, intercalate_merge " " "from"]
    rfl
  | true =>
    have hpresent : ["select", "distinct", q.dialect.selectList q.selections, "from",
        q.dialect.quoteName q.table].filter (· ≠ "") =
        ["select", "distinct", q.dialect.selectList q.selections, "from", q.dialect.quoteName q.table] := by
      simp [hlist, htable]
    simp only [if_true, hpresent, List.cons_append, List.nil_append]
    rw [intercalate_merge " " "select", intercalate_merge " " ("select" ++ " " ++ "distinct"),
      String.intercalate_cons_cons, intercalate_merge " " "from"]
    rfl

/-! ## Runs of calls -/

/-- There is nothing raw in the call. -/
def PlainCall : Clause → Prop
  | .selectRaw .. => False
  | .joinWith _ _ on => ∀ e ∈ on, e.condition.isRaw = false
  | .filter e => e.condition.isRaw = false
  | .having e => e.condition.isRaw = false
  | .groupByRaw _ => False
  | .orderBy key => ∃ name, key.term = .column name
  | _ => True

def limitOf : Clause → Option Int64
  | .limit n => some n
  | _ => none

def offsetOf : Clause → Option Int64
  | .offset n => some n
  | _ => none

/-- The number that the last call of a kind gave, unless it was the one that stands for none. -/
def lastCount (countIn : Clause → Option Int64) (xs : List Clause) : Option Int64 :=
  (xs.filterMap countIn).getLast?.bind countOf

theorem counts_add (q : Query) (c : Clause) :
    (q.add c).limit = ((limitOf c).map countOf).getD q.limit ∧
      (q.add c).offset = ((offsetOf c).map countOf).getD q.offset := by
  rw [add_eq]
  cases c <;> exact ⟨rfl, rfl⟩

def selectionsOf : Clause → List Selection
  | .select names => names.map .column
  | .selectRaw sql newName => [.raw sql newName]
  | _ => []

def groupsOf : Clause → List Term
  | .groupBy names => names.map .column
  | .groupByRaw sql => [.raw sql]
  | _ => []

def orderOf : Clause → List OrderKey
  | .orderBy key => [key]
  | _ => []

theorem terms_add (q : Query) (c : Clause) :
    (q.add c).selections = q.selections ++ selectionsOf c ∧ (q.add c).groups = q.groups ++ groupsOf c ∧
      (q.add c).order = q.order ++ orderOf c := by
  rw [add_eq]
  cases c <;> simp [addUnchecked, Query.add, selectionsOf, groupsOf, orderOf]

theorem getLast_map_countOf (countIn : Clause → Option Int64) (xs : List Clause) :
    (xs.filterMap fun c => (countIn c).map countOf).getLast?.getD none = lastCount countIn xs := by
  rw [← List.map_filterMap, List.getLast?_map, lastCount]
  cases (xs.filterMap countIn).getLast? <;> rfl

theorem counts_addAll (d : Dialect) (table : String) (xs : List Clause) :
    ((fresh d table).addAll xs).limit = lastCount limitOf xs ∧
      ((fresh d table).addAll xs).offset = lastCount offsetOf xs := by
  rw [← getLast_map_countOf, ← getLast_map_countOf]
  exact ⟨addAll_last (fun q c => (counts_add q c).1) _ xs, addAll_last (fun q c => (counts_add q c).2) _ xs⟩

section

variable {d : Dialect} (hfix : d.fixNull = Expression.fixNull)
include hfix

theorem isRaw_accepted {es : List Expression} (h : ∀ e ∈ es, e.condition.isRaw = false) :
    ∀ e ∈ acceptedOf d es, e.condition.isRaw = false := by
  intro e' he'
  obtain ⟨e, he, hprepared⟩ := List.mem_flatMap.mp he'
  exact (accept_keeps hfix (eq_ok_of_mem_prepared hprepared)).2.trans (h e he)

theorem plainQuery_addAll {table : String} {xs : List Clause} (h : ∀ x ∈ xs, PlainCall x) :
    PlainQuery ((fresh d table).addAll xs) := by
  have hadded {α : Type} {P : α → Prop} {added : Clause → List α} {as : List α}
      (hall : as = xs.flatMap added) (hone : ∀ x, PlainCall x → ∀ a ∈ added x, P a) : ∀ a ∈ as, P a := by
    intro a ha
    rw [hall] at ha
    obtain ⟨x, hx, hmem⟩ := List.mem_flatMap.mp ha
    exact hone x (h x hx) a hmem
  constructor
  case selections =>
    refine hadded (addAll_appended (fun q c _ => (terms_add q c).1) xs) fun x hx t ht => ?_
    cases x with
    | select names =>
      obtain ⟨name, -, rfl⟩ := List.mem_map.mp ht
      exact ⟨name, rfl⟩
    | selectRaw sql newName => exact hx.elim
    | _ => cases ht
  case groups =>
    refine hadded (addAll_appended (fun q c _ => (terms_add q c).2.1) xs) fun x hx t ht => ?_
    cases x with
    | groupBy names =>
      obtain ⟨name, -, rfl⟩ := List.mem_map.mp ht
      exact ⟨name, rfl⟩
    | groupByRaw sql => exact hx.elim
    | _ => cases ht
  case order =>
    refine hadded (addAll_appended (fun q c _ => (terms_add q c).2.2) xs) fun x hx k hk => ?_
    cases x with
    | orderBy key =>
      rw [List.mem_singleton.mp hk]
      exact hx
    | _ => cases hk
  case filters =>
    refine hadded (addAll_filters _ xs) fun x hx e he => ?_
    cases x with
    | filter e' => exact isRaw_accepted hfix (List.forall_mem_singleton.mpr hx) e he
    | _ => cases he
  case havings =>
    refine hadded (addAll_havings _ xs) fun x hx e he => ?_
    cases x with
    | having e' => exact isRaw_accepted hfix (List.forall_mem_singleton.mpr hx) e he
    | _ => cases he
  case joins =>
    refine hadded (addAll_joins _ xs) fun x hx j hj => ?_
    cases x with
    | join type joined first op second =>
      obtain ⟨-, rfl⟩ := mem_joinOf.mp hj
      exact List.forall_mem_nil _
    | joinWith type joined on =>
      rw [List.mem_singleton.mp hj]
      exact isRaw_accepted hfix hx
    | _ => cases hj

end

/-! ## The main result -/

/-- The statement has these clauses, in their order, each at most once, each beginning with its word and with
one blank between two of them. -/
structure Laid (sql : String) (cs : List (Slot × String)) : Prop where
  text : sql = " ".intercalate (cs.map (·.2))
  order : (cs.map (·.1)).Sublist Slot.all
  word : ∀ c ∈ cs, ∃ w ∈ c.1.words, w.toList <+: c.2.toList
  opens : ∀ c ∈ cs, Opens c.2.toList
  closes : ∀ c ∈ cs, Closes c.2.toList

theorem laid_statement {q : Query} (hd : q.dialect = .sqlite) (h : PlainQuery q) (hcheck : q.check = .ok ()) :
    ∃ sql, q.selectStatement = .ok sql ∧ Laid sql (clauses q q.limit q.offset) := by
  have hformed := formed_clauses standard_sqlite hd h q.limit q.offset
  refine ⟨_, ?_, rfl, order_clauses q _ _, fun c hc => (hformed c hc).word, fun c hc => (hformed c hc).opens,
    fun c hc => (hformed c hc).closes⟩
  rw [selectStatement_eq_clauses standard_sqlite hd h, hcheck]
  rfl

theorem unpaged_slots (q : Query) : ∀ c ∈ unpaged q, c.1 ≠ .limit ∧ c.1 ≠ .offset := by
  intro c hc
  have hmem := (List.mem_filter.mp hc).1
  simp only [List.mem_cons, List.not_mem_nil, or_false] at hmem
  rcases hmem with rfl | rfl | rfl | rfl | rfl | rfl | rfl
  all_goals exact ⟨nofun, nofun⟩

theorem offset_behind_limit {q : Query} {limit offset : Option Int64} {before after : List (Slot × String)}
    {text : String} (h : clauses q limit offset = before ++ (.offset, text) :: after) :
    (∃ before' text', before = before' ++ [(.limit, text')]) ↔ limit ≠ none := by
  have hnot : (Slot.offset, text) ∉ unpaged q ++ counted .limit "limit" limit := by
    intro hmem
    rcases List.mem_append.mp hmem with hmem | hmem
    · exact (unpaged_slots q _ hmem).2 rfl
    · cases limit with
      | none => cases hmem
      | some n => cases List.mem_singleton.mp hmem
  have hbefore : unpaged q ++ counted .limit "limit" limit = before := by
    cases offset with
    | none =>
      rw [clauses, counted, List.append_nil] at h
      rw [h] at hnot
      exact absurd (List.mem_append_right _ List.mem_cons_self) hnot
    | some n => exact ((List.append_cons_inj_of_notMem hnot List.not_mem_nil).mp h).1
  subst hbefore
  cases limit with
  | none =>
    refine iff_of_false ?_ (by simp)
    rintro ⟨before', text', hlast⟩
    have hmem : (Slot.limit, text') ∈ unpaged q := by
      rw [counted, List.append_nil] at hlast
      rw [hlast]
      exact List.mem_append_right _ List.mem_cons_self
    exact (unpaged_slots q _ hmem).1 rfl
  | some n => exact iff_of_true ⟨unpaged q, _, rfl⟩ (by simp)

/-- The statement of any run of calls without raw texts that is not refused has its clauses in order, with the
limit and the offset of the last calls for them. The offset stands behind the limit if there is one, and behind
the last other clause if there is none, which is never so where only the first record is asked for. -/
theorem clauses_laid {table : String} {xs : List Clause} (hplain : ∀ x ∈ xs, PlainCall x)
    (hcheck : ((fresh .sqlite table).addAll xs).check = .ok ()) :
    let q := (fresh .sqlite table).addAll xs
    let limit := lastCount limitOf xs
    let offset := lastCount offsetOf xs
    (∃ sql, q.selectStatement = .ok sql ∧ Laid sql (clauses q limit offset)) ∧
    (∃ sql, Laid sql (clauses q (some 1) offset) ∧
      ∀ {σ υ : Type} (c : Connection σ) (t : RecordType υ) (session : Session σ),
        ((q.first c t).perform session).2.statements = session.statements ++ [sql]) ∧
    ∀ count before text after, clauses q count offset = before ++ (.offset, text) :: after →
      ((∃ before' text', before = before' ++ [(.limit, text')]) ↔ count ≠ none) := by
  intro q limit offset
  have hdialect : q.dialect = .sqlite := addAll_dialect _ xs
  have hq : PlainQuery q := plainQuery_addAll rfl hplain
  have hlimit : q.limit = limit := (counts_addAll .sqlite table xs).1
  have hoffset : q.offset = offset := (counts_addAll .sqlite table xs).2
  refine ⟨?all, ?first, fun count before text after h => offset_behind_limit h⟩
  case all =>
    rw [← hlimit, ← hoffset]
    exact laid_statement hdialect hq hcheck
  case first =>
    have hone : (q.add (.limit 1)).limit = some 1 := rfl
    obtain ⟨sql, hsql, hlaid⟩ := laid_statement (q := q.add (.limit 1)) hdialect
      ⟨hq.selections, hq.joins, hq.filters, hq.groups, hq.havings, hq.order⟩ hcheck
    rw [hone] at hlaid
    rw [← hoffset]
    refine ⟨sql, hlaid, fun c t session => ?_⟩
    rw [Query.statements_first, hsql]
    rfl

/-- Of several calls the last ones count, also where they stand before the other clauses. -/
theorem clauses_laid_note :
    let xs : List Clause := [.offset 9, .limit 7, .select ["id", "note.name"], .offset 2, .limit unsetCount,
      .join .left "tag" "tag.note" "=" "note.id", .filter (.equals .and " kind " (.text "a b")), .limit 3,
      .orderBy ⟨.column "id", .descending⟩]
    let q := (fresh .sqlite "note").addAll xs
    let sql := "select `id`, `note`.`name` from `note` left join `tag` on `tag`.`note` = `note`.`id` " ++
      "where `kind` = 'a b' order by `id` desc limit 3 offset 2"
    (∀ x ∈ xs, PlainCall x) ∧ q.check = .ok () ∧
    q.selectStatement = .ok sql ∧ Laid sql (clauses q (some 3) (some 2)) := by
  intro xs q sql
  have hplain : ∀ x ∈ xs, PlainCall x := by simp [xs, PlainCall, Expression.equals, Expression.compare, Condition.isRaw]
  have hcheck : q.check = .ok () := by decide +kernel
  obtain ⟨⟨text, htext, hlaid⟩, -, -⟩ := clauses_laid hplain hcheck
  have hsql : q.selectStatement = .ok sql := by decide +kernel
  cases hsql.symm.trans htext
  exact ⟨hplain, hcheck, hsql, hlaid⟩

/-- An offset is printed without a limit. -/
theorem offset_without_limit :
    let q := (fresh .sqlite "t").addAll [.offset 5]
    (∀ x ∈ [Clause.offset 5], PlainCall x) ∧ q.check = .ok () ∧
    q.selectStatement = .ok "select * from `t` offset 5" ∧
    clauses q (lastCount limitOf [.offset 5]) (lastCount offsetOf [.offset 5]) =
      [(.select, "select *"), (.table, "from `t`"), (.offset, "offset 5")] := by
  refine ⟨by simp [PlainCall], ?_, ?_, ?_⟩
  all_goals decide +kernel

end SqlRecord.Pagination

import SqlRecord.Proofs.JoinConditions
import SqlRecord.Proofs.PaddedNames

/-! # Joining words

Of the words that join conditions the first is dropped and no other, whatever the texts of the conditions are.
What is left is trimmed as a whole, so blanks are dropped in front of the first condition and behind the last.
-/

namespace SqlRecord.JoiningWords

open Trim Outline PaddedNames

/-! ## Conditions with the words between them -/

variable (s : Spelling)

/-- A joining word and the condition behind it. -/
def joinedTexts (e : Expression) : List String :=
  [e.logic.word, e.condition.compile s]

/-- Conditions in their order, each but the first behind its joining word. -/
def joined (e : Expression) (es : List Expression) : String :=
  " ".intercalate (e.condition.compile s :: es.flatMap (joinedTexts s))

/-- The words and conditions between the first condition and the last. -/
def inner (mid : List Expression) (last : Expression) : String :=
  " ".intercalate (mid.flatMap (joinedTexts s) ++ [last.logic.word])

theorem intercalate_joinedTexts (es : List Expression) :
    " ".intercalate (es.flatMap (joinedTexts s)) = " ".intercalate (es.map (Expression.compile s)) := by
  induction es with
  | nil => rfl
  | cons e es ih =>
    cases es with
    | nil => simp [joinedTexts, Expression.compile]
    | cons e' es =>
      have hfirst : joinedTexts s e ≠ [] := List.cons_ne_nil _ _
      have hrest : (e' :: es).flatMap (joinedTexts s) ≠ [] := List.cons_ne_nil _ _
      have htext : " ".intercalate (joinedTexts s e) = e.compile s := by simp [joinedTexts, Expression.compile]
      rw [List.flatMap_cons, String.intercalate_append_of_ne_nil hfirst hrest, ih, htext]
      exact String.intercalate_cons_cons.symm

theorem joined_eq_chain (e : Expression) (es : List Expression) : joined s e es = chain s (e :: es) := by
  cases es with
  | nil => exact String.intercalate_singleton
  | cons e' es =>
    have hrest : (e' :: es).flatMap (joinedTexts s) ≠ [] := List.cons_ne_nil _ _
    rw [joined, String.intercalate_cons_of_ne_nil hrest, intercalate_joinedTexts, chain]

theorem intercalate_compile (e : Expression) (es : List Expression) :
    " ".intercalate ((e :: es).map (Expression.compile s)) = e.logic.word ++ " " ++ joined s e es := by
  rw [← intercalate_joinedTexts]
  exact String.intercalate_cons_cons

theorem joined_concat (e : Expression) (mid : List Expression) (last : Expression) :
    joined s e (mid ++ [last]) =
      e.condition.compile s ++ " " ++ inner s mid last ++ " " ++ last.condition.compile s := by
  have hinner : mid.flatMap (joinedTexts s) ++ [last.logic.word] ≠ [] := by simp
  have htexts : (mid ++ [last]).flatMap (joinedTexts s) =
      mid.flatMap (joinedTexts s) ++ [last.logic.word] ++ [last.condition.compile s] := by
    simp [joinedTexts]
  rw [joined, htexts, String.intercalate_cons_of_ne_nil (List.append_ne_nil_of_left_ne_nil hinner _),
    String.intercalate_append_of_ne_nil hinner (List.cons_ne_nil _ _), String.intercalate_singleton, ← inner]
  simp only [String.append_assoc]

theorem opens_inner (mid : List Expression) (last : Expression) : Opens (inner s mid last).toList := by
  cases mid with
  | nil => exact opens_logic last.logic
  | cons e mid =>
    have hrest : e.condition.compile s :: (mid.flatMap (joinedTexts s) ++ [last.logic.word]) ≠ [] :=
      List.cons_ne_nil _ _
    have hinner : inner s (e :: mid) last = e.logic.word ++ " " ++ " ".intercalate _ :=
      String.intercalate_cons_of_ne_nil hrest
    rw [hinner, String.append_assoc]
    exact opens_append (opens_logic e.logic) _

theorem closes_inner (mid : List Expression) (last : Expression) : Closes (inner s mid last).toList := by
  obtain ⟨before, hbefore⟩ := exists_intercalate_concat " " (mid.flatMap (joinedTexts s)) last.logic.word
  rw [inner, hbefore]
  exact closes_append before (closes_logic last.logic)

theorem trim_joined_concat (e : Expression) (mid : List Expression) (last : Expression) :
    (Text.trim (joined s e (mid ++ [last]))).toList =
      (e.condition.compile s ++ " ").toList.dropWhile Text.isBlank ++ (inner s mid last).toList ++
        Text.dropBlanksRight (" " ++ last.condition.compile s).toList := by
  rw [Text.toList_trim, joined_concat, String.append_assoc, String.toList_append, String.toList_append]
  exact trimChars_around (opens_inner s mid last) (closes_inner s mid last) _ _

/-! ## The main result -/

/-- The conditions of a clause stand behind its keyword, and those of a join alone, with their joining words but
for the first, trimmed as a whole. So which word the first condition has makes no difference, and only blanks
are dropped: those in front of the first condition and those behind the last, up to the words beside them. -/
theorem first_word_dropped (d : Dialect) (e : Expression) (es : List Expression) :
    let s := d.toSpelling
    let text := joined s e es
    (" ".intercalate ((e :: es).map (Expression.compile s)) = e.logic.word ++ " " ++ text) ∧
    (d.conditionClause = Expression.clause s →
      ∀ keyword, d.conditionClause keyword (e :: es) = keyword ++ " " ++ Text.trim text ∧
        ∀ l, d.conditionClause keyword (⟨l, e.condition⟩ :: es) = d.conditionClause keyword (e :: es)) ∧
    ((JoinCondition.conditions (e :: es)).compile s = Text.trim text ∧
      ∀ l, (JoinCondition.conditions (⟨l, e.condition⟩ :: es)).compile s =
        (JoinCondition.conditions (e :: es)).compile s) ∧
    (∃ front back, Blank front ∧ Blank back ∧ text.toList = front ++ (Text.trim text).toList ++ back) ∧
    ∀ mid last, es = mid ++ [last] →
      (Text.trim text).toList =
        (e.condition.compile s ++ " ").toList.dropWhile Text.isBlank ++ (inner s mid last).toList ++
          Text.dropBlanksRight (" " ++ last.condition.compile s).toList := by
  intro s text
  have hall : ∀ l, Expression.compileAll s (⟨l, e.condition⟩ :: es) = Text.trim text := fun l => by
    rw [compileAll_eq_trim, ← joined_eq_chain]
    rfl
  refine ⟨intercalate_compile s e es, ?clause, ⟨hall e.logic, fun l => (hall l).trans (hall e.logic).symm⟩,
    ?blanks, ?inner⟩
  case clause =>
    intro hclause keyword
    have hkeyword : ∀ l, d.conditionClause keyword (⟨l, e.condition⟩ :: es) = keyword ++ " " ++ Text.trim text :=
      fun l => by
        rw [hclause, ← hall l]
        rfl
    exact ⟨hkeyword e.logic, fun l => (hkeyword l).trans (hkeyword e.logic).symm⟩
  case blanks =>
    rw [Text.toList_trim]
    exact exists_blanks text.toList
  case inner =>
    rintro mid last rfl
    exact trim_joined_concat s e mid last

/-- Texts that begin like joining words and have blanks at their ends. -/
theorem first_word_dropped_raw :
    let e := Expression.raw .or " order_id > 3"
    let mid := [Expression.raw .and "and ", Expression.equals .or "note.or" (.text "or")]
    let last := Expression.raw .and "android = 1\t"
    let text := "order_id > 3 and and  or `note`.`or` = 'or' and android = 1"
    Dialect.sqlite.conditionClause = Expression.clause Dialect.sqlite.toSpelling ∧
    Dialect.sqlite.conditionClause "having" (e :: (mid ++ [last])) = "having " ++ text ∧
    Dialect.sqlite.conditionClause "having" (⟨.and, e.condition⟩ :: (mid ++ [last])) = "having " ++ text ∧
    (JoinCondition.conditions (e :: (mid ++ [last]))).compile Dialect.sqlite.toSpelling = text ∧
    text.toList =
      "order_id > 3 ".toList ++ (inner Dialect.sqlite.toSpelling mid last).toList ++ " android = 1".toList := by
  intro e mid last text
  obtain ⟨-, hclause, ⟨hjoin, -⟩, -, hinner⟩ := first_word_dropped .sqlite e (mid ++ [last])
  obtain ⟨hhaving, hlogic⟩ := hclause rfl "having"
  have htext : Text.trim (joined Dialect.sqlite.toSpelling e (mid ++ [last])) = text := by decide +kernel
  have hfirst : (e.condition.compile Dialect.sqlite.toSpelling ++ " ").toList.dropWhile Text.isBlank =
      "order_id > 3 ".toList := by decide +kernel
  have hlast : Text.dropBlanksRight (" " ++ last.condition.compile Dialect.sqlite.toSpelling).toList =
      " android = 1".toList := by decide +kernel
  have hkept := hinner mid last rfl
  rw [hfirst, hlast, htext] at hkept
  rw [htext] at hhaving hjoin
  exact ⟨rfl, hhaving, (hlogic .and).trans hhaving, hjoin, hkept⟩

end SqlRecord.JoiningWords

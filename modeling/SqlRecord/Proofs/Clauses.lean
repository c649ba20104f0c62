import SqlRecord.Proofs.Names
import SqlRecord.Proofs.Numerals
import SqlRecord.Proofs.Values

/-! # The text of clauses

Conditions in a row are trimmed texts of one after the other, and with the spellings that are provided
every text has the outline of its values.
-/

namespace SqlRecord.Outline

open Lexeme Trim Number

/-! ## Literals -/

theorem doubleQuotes_of_not_mem {s : List Char} (h : '\'' ∉ s) : Literal.doubleQuotes s = s := by
  induction s with
  | nil => rfl
  | cons c s ih =>
    rw [List.mem_cons, not_or] at h
    rw [Literal.doubleQuotes, if_neg (Ne.symm h.1), ih h.2]

theorem quoteText_of_not_mem {s : String} (h : '\'' ∉ s.toList) :
    Literal.quoteText s = "'" ++ s ++ "'" := by
  apply String.toList_inj.mp
  rw [Literal.quoteText, doubleQuotes_of_not_mem h]
  simp

theorem reads_quoteText (s : String) : Reads (Literal.quoteText s).toList [.text s.toList] := by
  rw [Literal.quoteText, String.toList_ofList]
  exact reads_text s.toList

theorem reads_unquoted {s : String} (h : '\'' ∉ s.toList) :
    Reads ("'" ++ s ++ "'").toList [.text s.toList] := by
  rw [← quoteText_of_not_mem h]
  exact reads_quoteText s

theorem not_mem_of_isNumeral {s : List Char} (h : ∀ c ∈ s, isNumeral c = true) : '\'' ∉ s :=
  fun hq => ne_quote_of_isNumeral (h _ hq) rfl

/-- What the literal of a value is read as. -/
def literalToken : Value → Token
  | .null => .null
  | .bool b => .text (if b then "true" else "false").toList
  | .int n => .text (toString n.toInt).toList
  | .real x => .text x.text.toList
  | .text s => .text s.toList
  | .blob bytes => .blob bytes

theorem reads_literal (v : Value) : Reads (Literal.quote v).toList [literalToken v] := by
  cases v with
  | null => exact reads_null
  | bool b =>
    refine reads_unquoted ?_
    cases b <;> decide
  | int n => exact reads_unquoted (not_mem_of_isNumeral fun _ => isNumeral_of_mem_toString)
  | real x => exact reads_unquoted (not_mem_of_isNumeral fun _ => isNumeral_of_mem_text)
  | text s => exact reads_quoteText s
  | blob bytes =>
    show Reads (Literal.quoteBytes bytes).toList _
    rw [Literal.quoteBytes, String.toList_ofList]
    exact reads_blob bytes

theorem toString_bit (b : Bool) :
    toString (if b then (1 : Int64) else 0).toInt = if b then "1" else "0" := by
  cases b <;> decide

theorem tokenOperand_literal (v : Value) : tokenOperand (literalToken v.stored) = some (operand v) := by
  cases v with
  | bool b =>
    show some (Operand.text (String.ofList (toString (if b then (1 : Int64) else 0).toInt).toList)) = _
    rw [toString_bit, String.ofList_toList]
    rfl
  | null => rfl
  | blob bytes => rfl
  | _ => simp [Value.stored, literalToken, tokenOperand, operand]

theorem blank_literal (v : Value) : blank (literalToken v.stored) = literalToken (outline v).stored := by
  cases v <;> rfl

theorem outlines_literal (v : Value) :
    Outlines (Literal.quote v.stored) (Literal.quote (outline v).stored) [operand v] := by
  refine ⟨[literalToken v.stored], reads_literal _, ?_, ?_⟩
  · rw [List.map_singleton, blank_literal]
    exact reads_literal _
  · rw [List.filterMap_cons, tokenOperand_literal]
    rfl

theorem closes_quoteText (s : String) : Closes (Literal.quoteText s).toList := by
  rw [Literal.quoteText, String.toList_ofList]
  exact ⟨_, '\'', rfl, rfl⟩

theorem closes_literal (v : Value) : Closes (Literal.quote v).toList := by
  cases v with
  | null => exact ⟨"nul".toList, 'l', rfl, rfl⟩
  | bool b => exact closes_append _ ⟨[], '\'', rfl, rfl⟩
  | int n => exact closes_append _ ⟨[], '\'', rfl, rfl⟩
  | real x => exact closes_append _ ⟨[], '\'', rfl, rfl⟩
  | text s => exact closes_quoteText s
  | blob bytes =>
    show Closes (Literal.quoteBytes bytes).toList
    rw [Literal.quoteBytes, String.toList_ofList]
    exact ⟨_, '\'', rfl, rfl⟩

theorem opens_literal (v : Value) : Opens (Literal.quote v).toList := by
  cases v with
  | null => exact ⟨'n', "ull".toList, rfl, rfl⟩
  | bool b => exact opens_append (opens_append ⟨'\'', [], rfl, rfl⟩ _) _
  | int n => exact opens_append (opens_append ⟨'\'', [], rfl, rfl⟩ _) _
  | real x => exact opens_append (opens_append ⟨'\'', [], rfl, rfl⟩ _) _
  | text s =>
    show Opens (Literal.quoteText s).toList
    rw [Literal.quoteText, String.toList_ofList]
    exact ⟨'\'', _, rfl, rfl⟩
  | blob bytes =>
    show Opens (Literal.quoteBytes bytes).toList
    rw [Literal.quoteBytes, String.toList_ofList]
    exact ⟨'X', _, rfl, rfl⟩

theorem trim_literal (v : Value) : Text.trim (Literal.quote v) = Literal.quote v :=
  trim_of_opens_closes (opens_literal v) (closes_literal v)

/-! ## Spellings -/

/-- A spelling that quotes in the usual way and whose operators are words. -/
structure Standard (s : Spelling) : Prop where
  quoteName : s.quoteName = Name.quote
  quote : s.quote = Literal.quote
  quoteAll : s.quoteAll = List.map Literal.quote
  known : ∀ {op}, s.isUnknown op = false → op.toList.all isUnquoted = true
  spelt : ∀ {op}, s.isUnknown op = false → (s.operator op).toList.all isUnquoted = true
  nulls : ∀ op, nullsIn (s.operator op) = nullsIn op
  nullOperator : ∀ b, s.operator (Condition.nullOperator b) = Condition.nullOperator b
  listOperator : ∀ b, s.operator (Condition.listOperator b) = Condition.listOperator b

theorem mem_lower {c d : Char} {s : String} (hc : c ∈ s.toList) (hd : d ∈ Text.lowerChar c) :
    d ∈ (Text.lower s).toList := by
  rw [Text.lower, String.toList_ofList]
  exact List.mem_flatMap.mpr ⟨c, hc, hd⟩

theorem lowerChar_ne_nil (c : Char) : Text.lowerChar c ≠ [] := by
  unfold Text.lowerChar
  split
  · exact List.cons_ne_nil _ _
  split
  · exact List.cons_ne_nil _ _
  split <;> exact List.cons_ne_nil _ _

theorem ascii_of_toLower {c : Char} (h : c.toLower.toNat < 0x80) : c.toNat < 0x80 := by
  unfold Char.toLower at h
  split at h
  · rename_i hcapital
    have hle : c.toNat ≤ 'Z'.toNat := UInt32.le_iff_toNat_le.mp hcapital.2
    exact Nat.lt_of_le_of_lt hle (by decide)
  · exact h

theorem lower_of_sameAscii {a b : String} (hb : (Text.lowerAscii b.toList).all (·.toNat < 0x80) = true)
    (h : Text.sameAscii a b = true) : Text.lower a = String.ofList (Text.lowerAscii b.toList) := by
  rw [Text.sameAscii, beq_iff_eq] at h
  rw [← h] at hb ⊢
  have hchar : ∀ c ∈ a.toList, Text.lowerChar c = [c.toLower] := by
    intro c hc
    have hlower : c.toLower.toNat < 0x80 := of_decide_eq_true (List.all_eq_true.mp hb _ (List.mem_map_of_mem hc))
    rw [Text.lowerChar, if_pos (ascii_of_toLower hlower)]
  rw [Text.lower, Text.lowerAscii, List.flatMap_def, List.map_congr_left hchar, ← List.flatMap_def,
    ← List.map_eq_flatMap]

theorem isUnquoted_of_known (ops : List String) {op : String}
    (hops : ∀ o ∈ ops, '`' ∉ o.toList ∧ '\'' ∉ o.toList ∧ 'x' ∉ o.toList)
    (h : Text.lower op ∈ ops) : op.toList.all isUnquoted = true := by
  obtain ⟨htick, hquote, hx⟩ := hops _ h
  rw [List.all_eq_true]
  intro c hc
  simp only [isUnquoted, Bool.and_eq_true, bne_iff_ne]
  refine ⟨⟨?_, ?_⟩, ?_⟩
  · rintro rfl
    exact htick (mem_lower hc (by decide))
  · rintro rfl
    exact hquote (mem_lower hc (by decide))
  · rintro rfl
    exact hx (mem_lower hc (by decide))

theorem generic_known {op : String} (h : Dialect.generic.isUnknown op = false) :
    op.toList.all isUnquoted = true := by
  have h' : (!Dialect.generic.operators.contains (Text.lower op)) = false := h
  exact isUnquoted_of_known Dialect.generic.operators (by decide) (by simpa using h')

theorem sqlite_known {op : String} (h : Dialect.sqlite.isUnknown op = false) :
    op.toList.all isUnquoted = true := by
  have h' : (!Dialect.sqlite.operators.contains (Text.lower op)) = false := h
  exact isUnquoted_of_known Dialect.sqlite.operators (by decide) (by simpa using h')

theorem standard_generic : Standard Dialect.generic.toSpelling where
  quoteName := rfl
  quote := rfl
  quoteAll := rfl
  known := generic_known
  spelt := generic_known
  nulls _ := rfl
  nullOperator _ := rfl
  listOperator _ := rfl

theorem lower_ilike {op : String} (h : Text.sameAscii op "ilike" = true) : Text.lower op = "ilike" :=
  lower_of_sameAscii (by decide) h

theorem nullsIn_ilike {op : String} (h : Text.sameAscii op "ilike" = true) : nullsIn op = [] := by
  apply nullsIn_of_not_mem
  intro hn
  rw [Text.sameAscii, beq_iff_eq] at h
  have : 'n' ∈ Text.lowerAscii op.toList := List.mem_map.mpr ⟨'n', hn, rfl⟩
  rw [h] at this
  exact absurd this (by decide)

theorem standard_sqlite : Standard Dialect.sqlite.toSpelling where
  quoteName := rfl
  quote := rfl
  quoteAll := rfl
  known := sqlite_known
  spelt := by
    intro op h
    simp only [Dialect.sqlite]
    split
    · rfl
    · exact sqlite_known h
  nulls := by
    intro op
    simp only [Dialect.sqlite]
    split
    · rename_i h
      rw [nullsIn_ilike h]
      rfl
    · rfl
  nullOperator b := by cases b <;> rfl
  listOperator b := by cases b <;> rfl

/-! ## Conditions in a row -/

/-- Conditions one after the other, the first one without its joining word. -/
def chain (s : Spelling) : List Expression → String
  | [] => ""
  | [e] => e.condition.compile s
  | e :: e' :: es =>
    e.condition.compile s ++ " " ++ " ".intercalate ((e' :: es).map (Expression.compile s))

theorem trimChars_word_append {w : List Char} (hw : Tight w) (hne : Opens w) (s : List Char) :
    Text.trimChars (w ++ ' ' :: s) =
      if Text.dropBlanksRight (' ' :: s) = [] then w else w ++ Text.dropBlanksRight (' ' :: s) := by
  rw [Text.trimChars, dropWhile_of_opens (hne.append _), dropBlanksRight_append,
    dropBlanksRight_of_last hw.2]

theorem opens_logic (l : Logic) : Opens l.word.toList := by
  cases l
  · exact ⟨'a', _, rfl, rfl⟩
  · exact ⟨'o', _, rfl, rfl⟩

theorem closes_logic (l : Logic) : Closes l.word.toList := by
  cases l
  · exact ⟨"an".toList, 'd', rfl, rfl⟩
  · exact ⟨"o".toList, 'r', rfl, rfl⟩

theorem dropLogic_word (l : Logic) (s : List Char) :
    Expression.dropLogic (l.word.toList ++ ' ' :: s) = Text.trimChars s := by
  have hblank : Text.isBlank ' ' = true := rfl
  have hdrop : Text.trimChars (Text.dropBlanksRight (' ' :: s)) = Text.trimChars s := by
    rw [trimChars_dropBlanksRight, trimChars_cons_blank hblank]
  rw [Expression.dropLogic, trimChars_word_append ((opens_logic l).tight (closes_logic l)) (opens_logic l)]
  by_cases h : Text.dropBlanksRight (' ' :: s) = []
  · rw [if_pos h]
    rw [h] at hdrop
    cases l <;> exact hdrop
  · rw [if_neg h]
    cases l <;> exact hdrop

theorem compileAll_eq_trim (s : Spelling) (es : List Expression) :
    Expression.compileAll s es = Text.trim (chain s es) := by
  rcases es with _ | ⟨e, _ | ⟨e', es⟩⟩
  · rfl
  · have h : " ".intercalate ([e].map (Expression.compile s)) =
        e.logic.word ++ " " ++ e.condition.compile s := by
      simp [Expression.compile]
    rw [Expression.compileAll, h, String.toList_append, String.toList_append, List.append_assoc]
    exact congrArg String.ofList (dropLogic_word e.logic _)
  · have h : " ".intercalate ((e :: e' :: es).map (Expression.compile s)) =
        e.logic.word ++ " " ++ chain s (e :: e' :: es) := by
      simp only [List.map_cons, String.intercalate_cons_cons, chain, Expression.compile,
        String.append_assoc]
    rw [Expression.compileAll, h, String.toList_append, String.toList_append, List.append_assoc]
    exact congrArg String.ofList (dropLogic_word e.logic _)

/-! ## Conditions with values -/

/-- A name that says nothing but a name. -/
def Clean (name : String) : Prop :=
  '`' ∉ name.toList

instance (name : String) : Decidable (Clean name) :=
  inferInstanceAs (Decidable ('`' ∉ name.toList))

theorem clean_trim {name : String} (h : Clean name) : Clean (Text.trim name) := by
  intro htrim
  rw [Text.toList_trim] at htrim
  exact h (mem_of_mem_trimChars htrim)

def conditionOperands : Condition → List Operand
  | .compare _ op v => if v.isNull then [.null] else nullsIn (Text.trim op) ++ [operand v]
  | .nullCheck .. => [.null]
  | .membership _ _ vs => vs.map operand
  | .raw _ => []

/-- A condition as a query keeps it, if it was not a raw one. -/
def Kept (s : Spelling) : Condition → Prop
  | .compare name op v => Clean name ∧ s.isUnknown op = false ∧ Text.trim op = op ∧ v.isNull = false
  | .nullCheck _ name _ => Clean name
  | .membership _ name _ => Clean name
  | .raw _ => False

variable {s : Spelling}

theorem Kept.isRaw {c : Condition} (h : Kept s c) : c.isRaw = false := by
  cases c with
  | raw sql => exact h.elim
  | _ => rfl

variable (hs : Standard s)
include hs

theorem outlines_name {name : String} (h : Clean name) :
    Outlines (s.quoteName name) (s.quoteName name) [] := by
  rw [hs.quoteName]
  exact Name.outlines_quote h

theorem outlines_value (v : Value) :
    Outlines (s.quote v.stored) (s.quote (outline v).stored) [operand v] := by
  rw [hs.quote]
  exact outlines_literal v

theorem outlines_condition {c : Condition} (h : Kept s c) :
    Outlines (c.compile s) ((c.mapValues outline).compile s) (conditionOperands c) := by
  cases c with
  | compare name op v =>
    obtain ⟨hname, hop, htrim, hv⟩ := h
    have hword := outlines_word (hs.spelt hop)
    rw [conditionOperands, hv, htrim, ← hs.nulls op]
    exact ((outlines_name hs hname).link (w := " ") rfl hword).link (w := " ") rfl (outlines_value hs v)
  | nullCheck negated name compared =>
    have hword : Outlines (Condition.nullOperator negated) (Condition.nullOperator negated) [.null] := by
      cases negated
      · exact outlines_word (s := "is null") rfl
      · exact outlines_word (s := "is not null") rfl
    simp only [Condition.compile, Condition.mapValues, hs.nullOperator]
    exact (outlines_name hs h).link (w := " ") rfl hword
  | membership negated name vs =>
    have hword : Outlines (Condition.listOperator negated) (Condition.listOperator negated) [] := by
      cases negated
      · exact outlines_word (s := "in") rfl
      · exact outlines_word (s := "not in") rfl
    have hvalues : Outlines (", ".intercalate (vs.map fun v => Literal.quote v.stored))
        (", ".intercalate (vs.map fun v => Literal.quote (outline v).stored))
        (vs.flatMap fun v => [operand v]) :=
      Outlines.intercalate rfl fun v _ => outlines_literal v
    rw [← List.map_eq_flatMap] at hvalues
    simp only [Condition.compile, Condition.mapValues, hs.listOperator, hs.quoteAll, List.map_map]
    exact ((((outlines_name hs h).link (w := " ") rfl hword).link (w := " (") rfl hvalues).close
      (w := ")") rfl)
  | raw sql => exact h.elim

theorem opens_condition {c : Condition} (h : c.isRaw = false) : Opens (c.compile s).toList := by
  cases c with
  | raw sql => cases h
  | _ =>
    simp only [Condition.compile, hs.quoteName, String.append_assoc]
    exact opens_append (Name.opens_quote _) _

theorem closes_condition {c : Condition} (h : c.isRaw = false) : Closes (c.compile s).toList := by
  cases c with
  | compare name op v =>
    rw [Condition.compile, hs.quote]
    exact closes_append _ (closes_literal _)
  | nullCheck negated name compared =>
    rw [Condition.compile, hs.nullOperator]
    refine closes_append _ ?_
    cases negated
    · exact ⟨"is nul".toList, 'l', rfl, rfl⟩
    · exact ⟨"is not nul".toList, 'l', rfl, rfl⟩
  | membership negated name vs =>
    exact closes_append _ ⟨[], ')', rfl, rfl⟩
  | raw sql => cases h

theorem outlines_expression {e : Expression} (h : Kept s e.condition) :
    Outlines (e.compile s) ((e.mapValues outline).compile s) (conditionOperands e.condition) := by
  have hlead : isLead (e.logic.word ++ " ").toList = true := by
    cases e.logic <;> rfl
  exact (outlines_condition hs h).lead hlead

def operandsOf (es : List Expression) : List Operand :=
  es.flatMap fun e => conditionOperands e.condition

theorem outlines_chain {es : List Expression} (h : ∀ e ∈ es, Kept s e.condition) :
    Outlines (chain s es) (chain s (es.map (Expression.mapValues outline))) (operandsOf es) := by
  rcases es with _ | ⟨e, _ | ⟨e', es⟩⟩
  · exact outlines_empty
  · simpa [chain, operandsOf, Expression.mapValues] using outlines_condition hs (h e List.mem_cons_self)
  · have hfirst := outlines_condition hs (h e List.mem_cons_self)
    have hrest : Outlines (" ".intercalate ((e' :: es).map (Expression.compile s)))
        (" ".intercalate ((e' :: es).map fun e => (e.mapValues outline).compile s))
        (operandsOf (e' :: es)) :=
      Outlines.intercalate rfl fun d hd => outlines_expression hs (h d (List.mem_cons_of_mem _ hd))
    simpa [chain, operandsOf, Expression.mapValues, Function.comp_def] using
      hfirst.link (w := " ") rfl hrest

theorem opens_chain {e : Expression} {es : List Expression} (h : e.condition.isRaw = false) :
    Opens (chain s (e :: es)).toList := by
  cases es with
  | nil => exact opens_condition hs h
  | cons e' es =>
    rw [chain, String.append_assoc]
    exact opens_append (opens_condition hs h) _

theorem closes_chain {e : Expression} {es : List Expression}
    (h : ∀ d ∈ e :: es, d.condition.isRaw = false) : Closes (chain s (e :: es)).toList := by
  cases es with
  | nil => exact closes_condition hs (h e List.mem_cons_self)
  | cons e' es =>
    rw [chain]
    refine closes_append _ (closes_intercalate (by simp) fun x hx => ?_)
    obtain ⟨d, hd, rfl⟩ := List.mem_map.mp hx
    exact closes_append _ (closes_condition hs (h d (List.mem_cons_of_mem _ hd)))

theorem compileAll_eq_chain {es : List Expression} (h : ∀ e ∈ es, e.condition.isRaw = false) :
    Expression.compileAll s es = chain s es := by
  rw [compileAll_eq_trim]
  cases es with
  | nil => rfl
  | cons e es =>
    exact trim_of_opens_closes (opens_chain hs (h e List.mem_cons_self)) (closes_chain hs h)

omit hs in
theorem kept_mapValues {c : Condition} (h : Kept s c) : Kept s (c.mapValues outline) := by
  cases c with
  | compare name op v =>
    obtain ⟨hname, hop, htrim, hv⟩ := h
    exact ⟨hname, hop, htrim, (isNull_outline v).trans hv⟩
  | _ => exact h

omit hs in
theorem kept_map {es : List Expression} (h : ∀ e ∈ es, Kept s e.condition) :
    ∀ e ∈ es.map (Expression.mapValues outline), Kept s e.condition := by
  intro e he
  obtain ⟨d, hd, rfl⟩ := List.mem_map.mp he
  exact kept_mapValues (h d hd)

theorem outlines_compileAll {es : List Expression} (h : ∀ e ∈ es, Kept s e.condition) :
    Outlines (Expression.compileAll s es)
      (Expression.compileAll s (es.map (Expression.mapValues outline))) (operandsOf es) := by
  rw [compileAll_eq_chain hs fun e he => (h e he).isRaw,
    compileAll_eq_chain hs fun e he => (kept_map h e he).isRaw]
  exact outlines_chain hs h

theorem outlines_clause (word : String) (hword : isLead (word ++ " ").toList = true)
    {es : List Expression} (h : ∀ e ∈ es, Kept s e.condition) :
    Outlines (Expression.clause s word es)
      (Expression.clause s word (es.map (Expression.mapValues outline))) (operandsOf es) := by
  cases es with
  | nil => exact outlines_empty
  | cons e es => exact (outlines_compileAll hs h).lead hword

/-! ## Joins -/

def joinOperands (j : Join) : List Operand :=
  match j.condition with
  | .columns _ op _ => nullsIn op
  | .conditions es => operandsOf es

/-- A join as a query keeps it, if there is nothing raw in it. -/
def KeptJoin (s : Spelling) (j : Join) : Prop :=
  Clean j.table ∧
    match j.condition with
    | .columns first op second => Clean first ∧ s.isUnknown op = false ∧ Clean second
    | .conditions es => ∀ e ∈ es, Kept s e.condition

theorem outlines_on {j : Join} (h : KeptJoin s j) :
    Outlines (j.condition.compile s) ((j.mapValues outline).condition.compile s) (joinOperands j) := by
  obtain ⟨type, table, on⟩ := j
  cases on with
  | columns first op second =>
    obtain ⟨-, hfirst, hop, hsecond⟩ := h
    have hword := outlines_word (hs.known hop)
    have h := ((outlines_name hs hfirst).link (w := " ") rfl hword).link (w := " ") rfl
      (outlines_name hs hsecond)
    rwa [List.nil_append, List.append_nil] at h
  | conditions es => exact outlines_compileAll hs h.2

theorem outlines_join {j : Join} (h : KeptJoin s j) :
    Outlines (j.compile s) ((j.mapValues outline).compile s) (joinOperands j) := by
  have hon := outlines_on hs h
  have hlead : isLead (j.type.word ++ " join ").toList = true := by
    cases j.type <;> rfl
  have htable := (outlines_name hs h.1).lead hlead
  simp only [Join.compile]
  by_cases hempty : j.condition.compile s = ""
  · rw [if_pos hempty, if_pos (hon.empty_iff.mp hempty)]
    rw [hempty] at hon
    rwa [hon.operands_of_empty]
  · rw [if_neg hempty, if_neg fun h' => hempty (hon.empty_iff.mpr h')]
    exact htable.link (w := " on ") rfl hon

/-! ## Terms -/

def CleanTerm : Term → Prop
  | .column name => Clean name
  | .raw _ => False

def CleanSelection : Selection → Prop
  | .column name => Clean name
  | .raw _ _ => False

theorem outlines_term {t : Term} (h : CleanTerm t) : Outlines (t.compile s) (t.compile s) [] := by
  cases t with
  | column name => exact outlines_name hs h
  | raw sql => exact h.elim

theorem outlines_selection {t : Selection} (h : CleanSelection t) :
    Outlines (t.compile s) (t.compile s) [] := by
  cases t with
  | column name => exact outlines_name hs h
  | raw sql newName => exact h.elim

end SqlRecord.Outline

import SqlRecord.Clause.Condition
import SqlRecord.Spelling

/-! # The text of conditions -/

namespace SqlRecord

def Condition.compile (s : Spelling) : Condition → String
  | compare name op v => s.quoteName name ++ " " ++ s.operator op ++ " " ++ s.quote v.stored
  | nullCheck negated name _ => s.quoteName name ++ " " ++ s.operator (nullOperator negated)
  | membership negated name vs =>
    s.quoteName name ++ " " ++ s.operator (listOperator negated) ++ " (" ++
      ", ".intercalate (s.quoteAll (vs.map Value.stored)) ++ ")"
  | raw sql => sql

namespace Expression

def compile (s : Spelling) (e : Expression) : String :=
  e.logic.word ++ " " ++ e.condition.compile s

/-- Drops one joining word at the start, and the blanks at both ends. -/
def dropLogic (s : List Char) : List Char :=
  Text.trimChars <|
    match Text.trimChars s with
    | 'a' :: 'n' :: 'd' :: rest => rest
    | 'o' :: 'r' :: rest => rest
    | rest => rest

def compileAll (s : Spelling) (es : List Expression) : String :=
  String.ofList (dropLogic (" ".intercalate (es.map (compile s))).toList)

/-- A clause of conditions behind its keyword. Without conditions there is no clause. -/
def clause (s : Spelling) (keyword : String) (es : List Expression) : String :=
  if es.isEmpty then "" else keyword ++ " " ++ compileAll s es

end Expression

end SqlRecord

import SqlRecord.Error
import SqlRecord.Text.Blank
import SqlRecord.Text.Case

/-! # Conditions -/

namespace SqlRecord

inductive Logic
  | and
  | or
  deriving DecidableEq, Repr

def Logic.word : Logic → String
  | and => "and"
  | or => "or"

/-- A test on one column, or a text that stands for itself. -/
inductive Condition
  | compare (name operator : String) (value : Value)
  /-- `compared` tells that the check was written as a comparison with null. -/
  | nullCheck (negated : Bool) (name : String) (compared : Bool)
  | membership (negated : Bool) (name : String) (values : List Value)
  | raw (sql : String)
  deriving DecidableEq, Repr

namespace Condition

def nullOperator (negated : Bool) : String :=
  if negated then "is not null" else "is null"

def listOperator (negated : Bool) : String :=
  if negated then "not in" else "in"

def name : Condition → String
  | compare name _ _ => name
  | nullCheck _ name _ => name
  | membership _ name _ => name
  | raw sql => sql

def operator : Condition → String
  | compare _ op _ => op
  | nullCheck negated _ _ => nullOperator negated
  | membership negated _ _ => listOperator negated
  | raw _ => ""

def hasNullOperand : Condition → Bool
  | compare _ _ v => v.isNull
  | nullCheck .. => true
  | membership .. => false
  | raw _ => true

def trim : Condition → Condition
  | compare name op v => compare (Text.trim name) (Text.trim op) v
  | nullCheck negated name compared => nullCheck negated (Text.trim name) compared
  | membership negated name vs => membership negated (Text.trim name) vs
  | raw sql => raw (Text.trim sql)

/-- Whether the null check with this operator is the negated one. Other operators make no null
check. -/
def nullCheckOf? (operator : String) : Option Bool :=
  let op := Text.lower operator
  if op = "=" ∨ op = nullOperator false then some false
  else if op = "!=" ∨ op = "<>" ∨ op = nullOperator true then some true
  else none

/-- Makes a null check of a comparison with null, and refuses one that no null check says. -/
def fixNull : Condition → Except QueryError Condition
  | compare name op .null =>
    match nullCheckOf? op with
    | some negated => .ok (nullCheck negated name true)
    | none => .error (.nullComparison name op)
  | c => .ok c

end Condition

structure Expression where
  logic : Logic
  condition : Condition
  deriving DecidableEq, Repr

namespace Expression

def compare (logic : Logic) (name operator : String) (value : Value) : Expression :=
  ⟨logic, .compare name operator value⟩

def equals (logic : Logic) (name : String) (value : Value) : Expression :=
  compare logic name "=" value

def isNull (logic : Logic) (name : String) : Expression :=
  ⟨logic, .nullCheck false name false⟩

def isNotNull (logic : Logic) (name : String) : Expression :=
  ⟨logic, .nullCheck true name false⟩

def isIn (logic : Logic) (name : String) (values : List Value) : Expression :=
  ⟨logic, .membership false name values⟩

def isNotIn (logic : Logic) (name : String) (values : List Value) : Expression :=
  ⟨logic, .membership true name values⟩

/-- A text that stands for itself. It must not come from outside. -/
def raw (logic : Logic) (sql : String) : Expression :=
  ⟨logic, .raw sql⟩

def fixNull (e : Expression) : Except QueryError Expression :=
  e.condition.fixNull.map fun c => ⟨e.logic, c⟩

end Expression

end SqlRecord

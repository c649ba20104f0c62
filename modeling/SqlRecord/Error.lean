import SqlRecord.Value.Basic

/-! # Errors -/

namespace SqlRecord

inductive QueryError
  | invalidOperator (operator : String)
  | nullComparison (column operator : String)
  | invalidOperand (column operator : String)
  | emptyInsert (table : String)
  | emptyUpdate (table : String)
  | unconditionalUpdate (table : String)
  | connection (cause : String)
  deriving DecidableEq, Repr

def QueryError.message : QueryError → String
  | invalidOperator op => "invalid operator: `" ++ op ++ "`"
  | nullComparison column op =>
    "invalid operator `" ++ op ++ "` for null value on `" ++ column ++ "`"
  | invalidOperand column op => "invalid operand for `" ++ column ++ " " ++ op ++ "`"
  | emptyInsert table => "insert into `" ++ table ++ "` has no parameters"
  | emptyUpdate table => "update of `" ++ table ++ "` has no parameters"
  | unconditionalUpdate table =>
    "refusing to update `" ++ table ++ "` without any condition in strict mode"
  | connection cause => "connection error: " ++ cause

end SqlRecord

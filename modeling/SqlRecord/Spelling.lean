import SqlRecord.Literal
import SqlRecord.Name

/-! # Spelling of names, operators and literals -/

namespace SqlRecord

/-- How one kind of database wants the parts of a statement spelt, and which operators it knows. -/
structure Spelling where
  name : String
  operators : List String
  isUnknown : String → Bool := fun op => !operators.contains (Text.lower op)
  operator : String → String := fun op => op
  quoteName : String → String := Name.quote
  quote? : Value → Option String := Literal.quote?
  quote : Value → String := fun v => (quote? v).getD Literal.nullWord
  quoteAll : List Value → List String := fun vs => vs.map quote

end SqlRecord

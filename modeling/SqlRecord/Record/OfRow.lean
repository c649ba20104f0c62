import SqlRecord.Event
import SqlRecord.Row

/-! # Records from rows

A row fills the fields of a default record. A cell that does not fit leaves its field as it was and is
reported. -/

namespace SqlRecord

namespace RecordType

variable {υ : Type}

def fill (t : RecordType υ) (c : Column) (v : Value) (r : Record υ) : Record υ × List Event :=
  match v.text? with
  | none =>
    match r.put c.name .null with
    | (r', .ok _) => (r', [])
    | (r', .error e) => (r', [.keptDefault t.typeName c.name e])
  | some s =>
    match c.type.kind.coerce s with
    | none => (r, [.notCoerced t.typeName c.name s c.type.kind])
    | some v' =>
      match r.put c.name v' with
      | (r', .ok _) => (r', [])
      | (r', .error e) => (r', [.notAssigned t.typeName c.name s e])

/-- Fills the fields of some columns, one after the other. A column that the row does not have is
passed over. -/
def fillAll (t : RecordType υ) (row : Row) : List Column → Record υ → Record υ × List Event
  | [], r => (r, [])
  | c :: cs, r =>
    match row.get? c.name with
    | none => t.fillAll row cs r
    | some v =>
      let (r', es) := t.fill c v r
      let (r'', es') := t.fillAll row cs r'
      (r'', es ++ es')

def ofRow (t : RecordType υ) (row : Row) : Record υ × List Event :=
  t.fillAll row t.initial.columns t.initial

def ofRows (t : RecordType υ) (rows : List Row) : List (Record υ) × List Event :=
  let filled := rows.map t.ofRow
  (filled.map Prod.fst, filled.flatMap Prod.snd)

end RecordType

end SqlRecord

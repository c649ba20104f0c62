import SqlRecord.Database.Affinity
import SqlRecord.Database.Token
import SqlRecord.Text.Case

/-! # Reading statements

Part of the database in memory, which stands in for the database library, so no theorem rests on it. -/

namespace SqlRecord.Database

open Number

/-- Reads something off the front of a list of tokens, if it is there. -/
abbrev Reader (α : Type) := StateT (List Token) Option α

namespace Reader

/-! ## Tokens -/

def isKeyword (word : String) : Token → Bool
  | .word s => Text.sameAscii s word
  | _ => false

def keyword? (word : String) : Reader Bool := do
  match ← get with
  | t :: ts => if isKeyword word t then set ts; return true else return false
  | [] => return false

def keywords? (words : List String) : Reader Bool := do
  let ts ← get
  let n := words.length
  if (ts.take n).length = n ∧ (words.zip ts).all (fun (w, t) => isKeyword w t) then
    set (ts.drop n)
    return true
  else return false

def keyword (word : String) : Reader Unit := do
  guard (← keyword? word)

def symbol? (s : String) : Reader Bool := do
  match ← get with
  | t :: ts => if t = .symbol s then set ts; return true else return false
  | [] => return false

def symbol (s : String) : Reader Unit := do
  guard (← symbol? s)

def reserved : List String :=
  ["select", "from", "where", "and", "or", "not", "in", "is", "null", "order", "limit", "insert",
    "into", "values", "update", "set", "delete", "create", "table", "on", "as", "primary", "default",
    "group", "having", "join", "distinct", "index", "unique", "union", "case", "then", "when",
    "else", "between", "check", "references", "foreign", "collate", "autoincrement"]

def name : Reader String := do
  match ← get with
  | .name s :: ts => set ts; return s
  | .word s :: ts =>
    if reserved.any (Text.sameAscii s) then failure
    else set ts; return s
  | _ => failure

/-! ## Lists -/

def separated {α : Type} (part : Reader α) : Nat → Reader (List α)
  | 0 => failure
  | fuel + 1 => do
    let a ← part
    if ← symbol? "," then return a :: (← separated part fuel) else return [a]

def list {α : Type} (part : Reader α) : Reader (List α) := do
  separated part (← get).length

def parenthesized {α : Type} (part : Reader α) : Reader (List α) := do
  symbol "("
  let ps ← list part
  symbol ")"
  return ps

/-! ## Literals -/

def numberValue (negative : Bool) (digits : List Char) : Option Value :=
  match readNat digits with
  | some n => some (intOrReal (if negative then -n else n))
  | none => (Double.read (if negative then '-' :: digits else digits)).map .real

def literal : Reader Value := do
  match ← get with
  | .text s :: ts => set ts; return .text s
  | .blob b :: ts => set ts; return .blob b
  | .number d :: ts => set ts; liftM (numberValue false d)
  | .symbol "-" :: .number d :: ts => set ts; liftM (numberValue true d)
  | .symbol "+" :: .number d :: ts => set ts; liftM (numberValue false d)
  | t :: ts => if isKeyword "null" t then set ts; return .null else failure
  | [] => failure

def wholeNumber : Reader Int := do
  match ← literal with
  | .int n => return n.toInt
  | _ => failure

/-! ## Expressions -/

def columnName : Reader ColumnName := do
  let n ← name
  if ← symbol? "." then return ⟨some n, ← name⟩ else return ⟨none, n⟩

def atom : Reader (Expr ColumnName) :=
  (Expr.literal <$> literal) <|> (Expr.column <$> columnName)

def members : Reader (List Value) := do
  symbol "("
  if ← symbol? ")" then return []
  let vs ← list literal
  symbol ")"
  return vs

def equality? : Reader (Option Comparison) := do
  if (← symbol? "=") then return some .equal
  if (← symbol? "==") then return some .equal
  if (← symbol? "!=") then return some .unequal
  if (← symbol? "<>") then return some .unequal
  return none

def order? : Reader (Option Comparison) := do
  if (← symbol? "<=") then return some .lessEqual
  if (← symbol? ">=") then return some .greaterEqual
  if (← symbol? "<") then return some .less
  if (← symbol? ">") then return some .greater
  return none

def bitOperation? : Reader (Option BitOperation) := do
  if (← symbol? "&") then return some .and
  if (← symbol? "|") then return some .or
  if (← symbol? "<<") then return some .shiftLeft
  if (← symbol? ">>") then return some .shiftRight
  return none

/-- How tightly parts of an expression are bound, the loosest first. -/
inductive Binding
  | or
  | and
  | not
  | equality
  | order
  | bits
  | atom

mutual

/-- An expression that is bound at least so tightly. -/
def expression : Nat → Binding → Reader (Expr ColumnName)
  | 0, _ => failure
  | n + 1, .or => do more n .or (← expression n .and)
  | n + 1, .and => do more n .and (← expression n .not)
  | n + 1, .not => do
    if ← keyword? "not" then return .not (← expression n .not) else expression n .equality
  | n + 1, .equality => do more n .equality (← expression n .order)
  | n + 1, .order => do more n .order (← expression n .bits)
  | n + 1, .bits => do more n .bits (← expression n .atom)
  | n + 1, .atom => do
    if ← symbol? "(" then
      let e ← expression n .or
      symbol ")"
      return e
    else atom

def more : Nat → Binding → Expr ColumnName → Reader (Expr ColumnName)
  | 0, _, _ => failure
  | n + 1, .or, a => do
    if ← keyword? "or" then more n .or (.or a (← expression n .and)) else return a
  | n + 1, .and, a => do
    if ← keyword? "and" then more n .and (a.both (← expression n .not)) else return a
  | n + 1, .equality, a => do
    if let some c ← equality? then more n .equality (.compare c a (← expression n .order))
    else if ← keywords? ["is", "not", "null"] then more n .equality (.isNull true a)
    else if ← keywords? ["is", "null"] then more n .equality (.isNull false a)
    else if ← keywords? ["not", "in"] then more n .equality (a.among true (← members))
    else if ← keyword? "in" then more n .equality (a.among false (← members))
    else if ← keywords? ["not", "like"] then
      more n .equality (.like true a (← expression n .order))
    else if ← keyword? "like" then more n .equality (.like false a (← expression n .order))
    else return a
  | n + 1, .order, a => do
    if let some c ← order? then more n .order (.compare c a (← expression n .bits)) else return a
  | n + 1, .bits, a => do
    if let some o ← bitOperation? then more n .bits (.bits o a (← expression n .atom))
    else return a
  | _ + 1, .not, a => return a
  | _ + 1, .atom, a => return a

end

/-- An expression. A token is reached over all levels of binding and left over as many. -/
def condition : Reader (Expr ColumnName) := do
  expression (16 * ((← get).length + 1)) .or

def whereClause : Reader (Option (Expr ColumnName)) := do
  if ← keyword? "where" then return some (← condition) else return none

/-! ## Select -/

def count : Reader Item := do
  keyword "count"
  symbol "("
  symbol "*"
  symbol ")"
  return .count

def tableAll : Reader Item := do
  let t ← name
  symbol "."
  symbol "*"
  return .all (some t)

def bareItem : Reader Item :=
  count <|> tableAll <|> (Item.literal <$> literal) <|> (Item.column <$> columnName)

def item : Reader Item := do
  if ← symbol? "*" then return .all none
  else if ← symbol? "(" then
    let i ← bareItem
    symbol ")"
    return i
  else bareItem

def newName : Reader (Option String) := do
  if ← keyword? "as" then return some (← name) else return none

def selectItem : Reader SelectItem := do
  let i ← item
  return ⟨i, ← newName⟩

def orderItem : Reader (ColumnName × Bool) := do
  let c ← columnName
  if ← keyword? "desc" then return (c, true)
  let _ ← keyword? "asc"
  return (c, false)

def countBehind (word : String) : Reader (Option Int) := do
  if ← keyword? word then return some (← wholeNumber) else return none

def select : Reader Select := do
  let items ← list selectItem
  if ← keyword? "from" then
    let source : Source := ⟨← name, ← newName⟩
    let condition ← whereClause
    let order ← if ← keywords? ["order", "by"] then list orderItem else pure []
    let limit ← countBehind "limit"
    let offset ← if limit.isSome then countBehind "offset" else pure none
    return ⟨items, some source, condition, order, limit, offset.getD 0⟩
  else return { items := items }

/-! ## Changes -/

def change : Reader (String × Value) := do
  let c ← name
  symbol "="
  return (c, ← literal)

def conflict : Reader (Option Conflict) := do
  if ← keywords? ["on", "conflict"] then
    let keys ← parenthesized name
    keyword "do"
    if ← keyword? "nothing" then return some ⟨keys, none⟩
    keyword "update"
    keyword "set"
    return some ⟨keys, some (← list change)⟩
  else return none

def insert : Reader Statement := do
  keyword "into"
  let table ← name
  let columns ← if ← keyword? "values" then pure none
    else
      let cs ← parenthesized name
      keyword "values"
      pure (some cs)
  let values ← parenthesized literal
  return .insert table columns values (← conflict)

def update : Reader Statement := do
  let table ← name
  keyword "set"
  let changes ← list change
  return .update table changes (← whereClause)

def delete : Reader Statement := do
  keyword "from"
  let table ← name
  return .delete table (← whereClause)

/-! ## Tables -/

def affinity : Reader Affinity := do
  if ← keyword? "integer" then return .integer
  if ← keyword? "real" then return .real
  if ← keyword? "text" then return .text
  keyword "blob"
  return .blob

def columnRules : Nat → ColumnDef → Reader ColumnDef
  | 0, c => return c
  | n + 1, c => do
    if ← keywords? ["primary", "key"] then
      if c.primary then failure
      let auto ← keyword? "autoincrement"
      columnRules n { c with primary := true, autoIncrement := auto }
    else if ← keywords? ["not", "null"] then columnRules n { c with notNull := true }
    else if ← keyword? "default" then
      let v ← literal
      columnRules n { c with default := v }
    else return c

def columnDef : Reader ColumnDef := do
  let n ← name
  let a ← affinity
  columnRules (← get).length { name := n, affinity := a }

def tableParts : Nat → Reader (List ColumnDef × Option (List String))
  | 0 => failure
  | n + 1 => do
    if ← keywords? ["primary", "key"] then return ([], some (← parenthesized name))
    let c ← columnDef
    if ← symbol? "," then
      let (cs, key) ← tableParts n
      return (c :: cs, key)
    else return ([c], none)

def create : Reader Statement := do
  keyword "table"
  let table ← name
  symbol "("
  let (columns, key) ← tableParts (← get).length
  symbol ")"
  return .create table columns key

def statement : Reader Statement := do
  let s ←
    if ← keyword? "select" then Statement.select <$> select
    else if ← keyword? "insert" then insert
    else if ← keyword? "update" then update
    else if ← keyword? "delete" then delete
    else if ← keyword? "create" then create
    else if ← keyword? "pragma" then Statement.pragma <$> name
    else failure
  guard ((← get).isEmpty || (← symbol? ";"))
  return s

end Reader

end SqlRecord.Database

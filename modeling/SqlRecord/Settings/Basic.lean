import SqlRecord.Number.Integer
import SqlRecord.Number.Range
import SqlRecord.Settings.Json

/-! # Settings of a database -/

namespace SqlRecord

structure Settings where
  url : String := "sqlite::memory:"
  createIfMissing : Bool := true
  foreignKeys : Bool := true
  busyTimeout : UInt64 := 5000
  deriving DecidableEq, Repr

namespace Settings

def ofUrl (url : String) : Settings where
  url := url

def ofEnvironment (url : Option String) : Settings :=
  url.elim {} ofUrl

def busySeconds (s : Settings) : UInt64 :=
  s.busyTimeout / 1000

def busyMilliseconds (s : Settings) : UInt64 :=
  s.busyTimeout % 1000

/-! ## Reading documents -/

def stringOf : Json → Option String
  | .string t => t
  | _ => none

def boolOf : Json → Option Bool
  | .bool b => some b
  | _ => none

/-- A whole number that 64 bits hold, written with digits alone. -/
def wordOf : Json → Option UInt64
  | .number literal =>
    Number.readNat literal >>= Number.word64?
  | _ => none

def names : List String :=
  ["url", "create_if_missing", "foreign_keys", "busy_timeout_ms"]

/-- Changes the setting of this name. Other names change nothing. -/
def set (s : Settings) (name : String) (j : Json) : Option Settings :=
  if name = "url" then (stringOf j).map fun v => { s with url := v }
  else if name = "create_if_missing" then (boolOf j).map fun v => { s with createIfMissing := v }
  else if name = "foreign_keys" then (boolOf j).map fun v => { s with foreignKeys := v }
  else if name = "busy_timeout_ms" then (wordOf j).map fun v => { s with busyTimeout := v }
  else some s

/-- Changes settings by name. A setting must not be given twice. -/
def setMembers (s : Settings) (seen : List String) :
    List (Option String × Json) → Option Settings
  | [] => some s
  | (none, _) :: _ => none
  | (some name, j) :: ms =>
    if seen.contains name then none
    else do
      let s ← s.set name j
      s.setMembers (if names.contains name then name :: seen else seen) ms

def setItems (s : Settings) : List String → List Json → Option Settings
  | _, [] => some s
  | [], _ :: _ => none
  | name :: ns, j :: js => do
    let s ← s.set name j
    s.setItems ns js

/-- Settings from a document, which gives them by name or in order. What it does not give keeps its
default. -/
def read (document : String) : Option Settings :=
  match Json.read document with
  | some (.object ms) => setMembers {} [] ms
  | some (.array js) => setItems {} names js
  | _ => none

end Settings

end SqlRecord

import SqlRecord.Proofs.Parameters
import SqlRecord.Proofs.Statements

/-! # Inserted records read back

An insert statement is decoded into columns and texts, and the row of these fills a record with what the
inserted one holds.
-/

namespace SqlRecord.RoundTrip

open Lexeme Trim Outline

/-! ## Decoding -/

/-- What is behind a beginning, if the list has it. -/
def after {α : Type} [DecidableEq α] : List α → List α → Option (List α)
  | [], s => some s
  | _ :: _, [] => none
  | a :: p, b :: s => if a = b then after p s else none

/-- Items between commas up to a closing parenthesis, and what is behind it. -/
def readList {α : Type} (item : Token → Option α) : List Token → Option (List α × List Token)
  | t :: .mark ',' :: .mark ' ' :: ts => do
    let a ← item t
    let (as, rest) ← readList item ts
    return (a :: as, rest)
  | t :: .mark ')' :: rest => (item t).map fun a => ([a], rest)
  | _ => none

def nameOf : Token → Option String
  | .name s => some (String.ofList s)
  | _ => none

def textOf : Token → Option (Option String)
  | .text s => some (some (String.ofList s))
  | .null => some none
  | _ => none

/-- The columns of an insert statement on a table, with the texts of their literals. -/
def decodeInsert (table sql : String) : Option (List (String × Option String)) := do
  let s ← after ("insert into " ++ Name.quote table ++ " (").toList sql.toList
  let (columns, ts) ← readList nameOf (← tokens s)
  let ts ← after (" values (".toList.map .mark) ts
  let (texts, ts) ← readList textOf ts
  if ts = [] ∧ columns.length = texts.length then some (columns.zip texts) else none

/-- The row that shows these texts. -/
def rowOf (pairs : List (String × Option String)) : Row :=
  ⟨pairs.map fun e => (e.1, Value.ofOption .text e.2)⟩

theorem after_append {α : Type} [DecidableEq α] (p s : List α) : after p (p ++ s) = some s := by
  induction p with
  | nil => cases s <;> rfl
  | cons a p ih => rw [List.cons_append, after, if_pos rfl, ih]

/-- Tokens with commas between them. -/
def listTokens : List Token → List Token
  | [] => []
  | [t] => [t]
  | t :: u :: ts => t :: .mark ',' :: .mark ' ' :: listTokens (u :: ts)

theorem reads_list {α : Type} {text : α → String} {token : α → Token} {xs : List α}
    (h : ∀ x ∈ xs, Reads (text x).toList [token x]) :
    Reads (", ".intercalate (xs.map text)).toList (listTokens (xs.map token)) := by
  induction xs with
  | nil => exact reads_nil
  | cons x xs ih =>
    have hx := h x List.mem_cons_self
    have hxs := ih fun y hy => h y (List.mem_cons_of_mem _ hy)
    cases xs with
    | nil => simpa [listTokens] using hx
    | cons y ys =>
      have htail := reads_lead (w := ", ".toList) rfl hxs
      simp only [List.map_cons, String.intercalate_cons_cons, String.append_assoc, String.toList_append]
      exact hx.append htail rfl

theorem readList_listTokens {α β : Type} (item : Token → Option β) (token : α → Token) (g : α → β)
    {xs : List α} (h : ∀ x ∈ xs, item (token x) = some (g x)) (hne : xs ≠ []) (rest : List Token) :
    readList item (listTokens (xs.map token) ++ .mark ')' :: rest) = some (xs.map g, rest) := by
  induction xs with
  | nil => exact absurd rfl hne
  | cons x xs ih =>
    have hx := h x List.mem_cons_self
    cases xs with
    | nil => simp [listTokens, readList, hx]
    | cons y ys =>
      have htail := ih (fun z hz => h z (List.mem_cons_of_mem _ hz)) (List.cons_ne_nil y ys)
      simp only [List.map_cons, listTokens, List.cons_append, readList, hx] at htail ⊢
      simp [htail]

/-- A name that is quoted as a whole and as it stands. -/
structure Plain (name : String) : Prop where
  notStar : name ≠ "*"
  noTick : '`' ∉ name.toList
  noDot : '.' ∉ name.toList
  noAlias : Name.cutAlias name.toList = none
  trimmed : Text.trim name = name

theorem reads_plain {name : String} (h : Plain name) :
    Reads (Name.quote name).toList [.name name.toList] := by
  have htrim : Text.trimChars name.toList = name.toList := by
    rw [← Text.toList_trim, h.trimmed]
  have hstar : name.toList ≠ ['*'] := fun hs => h.notStar (String.toList_inj.mp hs)
  have hquote := Name.quoteChars_plain hstar (by rw [htrim, cutAt_eq_none.mpr h.noDot]) (by rw [htrim, h.noAlias])
  rw [Name.quote, String.toList_ofList, hquote, htrim]
  exact reads_name h.noTick

theorem nameOf_name (name : String) : nameOf (.name name.toList) = some name := by
  simp [nameOf]

theorem textOf_literal {v : Value} (h : ∀ bytes, v ≠ .blob bytes) : textOf (literalToken v) = some v.text? := by
  cases v with
  | null => rfl
  | blob bytes => exact absurd rfl (h bytes)
  | _ => simp [literalToken, textOf, Value.text?]

theorem decodeInsert_insertStatement {s : Spelling} (hs : Standard s) (table : String) {p : Params}
    (hempty : p.isEmpty = false) (hplain : ∀ c ∈ p.columns, Plain c)
    (hblob : ∀ v ∈ p.values, ∀ bytes, v.stored ≠ .blob bytes) :
    decodeInsert table (s.insertStatement table p) =
      some (p.entries.map fun e => (e.1, e.2.stored.text?)) := by
  have hne : p.entries ≠ [] := by simpa [Params.isEmpty] using hempty
  have hnames : Reads (", ".intercalate (p.entries.map fun e => s.quoteName e.1)).toList
      (listTokens (p.entries.map fun e => .name e.1.toList)) := by
    rw [hs.quoteName]
    exact reads_list fun e he => reads_plain (hplain e.1 (List.mem_map_of_mem he))
  have hvalues : Reads (", ".intercalate (p.entries.map fun e => s.quote e.2.stored)).toList
      (listTokens (p.entries.map fun e => literalToken e.2.stored)) := by
    rw [hs.quote]
    exact reads_list fun e _ => reads_literal e.2.stored
  have htokens : tokens (", ".intercalate (p.entries.map fun e => s.quoteName e.1) ++ ") values (" ++
      ", ".intercalate (p.entries.map fun e => s.quote e.2.stored) ++ ")").toList =
        some (listTokens (p.entries.map fun e => .name e.1.toList) ++ .mark ')' ::
          (" values (".toList.map .mark ++
            (listTokens (p.entries.map fun e => literalToken e.2.stored) ++ [.mark ')']))) := by
    have hend := hvalues.append (reads_lead (w := [')']) rfl reads_nil) rfl
    have hall := hnames.append (reads_lead (w := ") values (".toList) rfl hend) rfl
    simpa [String.toList_append] using hall.tokens
  have htext : (s.insertStatement table p).toList =
      ("insert into " ++ Name.quote table ++ " (").toList ++
        (", ".intercalate (p.entries.map fun e => s.quoteName e.1) ++ ") values (" ++
          ", ".intercalate (p.entries.map fun e => s.quote e.2.stored) ++ ")").toList := by
    rw [← String.toList_append, Spelling.insertStatement, hempty, hs.quoteName]
    simp [Params.columns, Params.values, Spelling.literals, Function.comp_def, String.append_assoc]
  have hcolumns := readList_listTokens nameOf (fun e : String × Value => .name e.1.toList) Prod.fst
    (fun e _ => nameOf_name e.1) hne
  have htexts := readList_listTokens textOf (fun e : String × Value => literalToken e.2.stored)
    (fun e => e.2.stored.text?) (fun e he => textOf_literal (hblob e.2 (List.mem_map_of_mem he))) hne []
  unfold decodeInsert
  rw [htext, after_append, Option.bind_eq_bind, Option.bind_some, htokens]
  simp only [Option.bind_eq_bind, Option.bind_some, hcolumns, after_append, htexts, List.length_map,
    and_self, if_true, List.zip_map']

/-! ## The main result -/

variable {υ : Type}

theorem stored_ne_blob (f : Field) (bytes : List UInt8) : f.value.stored ≠ .blob bytes := by
  obtain ⟨⟨name, field, type, inTable⟩, x⟩ := f
  have hkind : ∀ (k : FieldKind) (x : k.Content), (k.toValue x).stored ≠ .blob bytes := by
    intro k x
    cases k <;> exact nofun
  cases type with
  | required k => exact hkind k x
  | optional k =>
    cases x with
    | none => exact nofun
    | some x => exact hkind k x

theorem text_ofOption (t : Option String) : (Value.ofOption .text t).text? = t := by
  cases t <;> rfl

theorem get_rowOf {p : Params} (h : p.columns.Nodup) {e : String × Value} (he : e ∈ p.entries) :
    (rowOf (p.entries.map fun e => (e.1, e.2.stored.text?))).get? e.1 =
      some (.ofOption .text e.2.stored.text?) := by
  have hkeys : ((rowOf (p.entries.map fun e => (e.1, e.2.stored.text?))).cells.map Prod.fst).Nodup := by
    simpa [rowOf, Params.columns, Function.comp_def] using h
  have hmem : (e.1, Value.ofOption .text e.2.stored.text?) ∈
      (rowOf (p.entries.map fun e => (e.1, e.2.stored.text?))).cells := by
    rw [rowOf, List.map_map]
    exact List.mem_map_of_mem he
  exact Params.lookup_of_mem hkeys hmem

theorem decodeInsert_of_readAll {s : Spelling} (hs : Standard s) (table : String) {r : Record υ}
    (hplain : ∀ c ∈ r.columns, Plain c.name) {p : Params} (hempty : p.isEmpty = false)
    (hfields : ∀ e ∈ p.entries, ∃ f, r.field? e.1 = some f ∧ e.2 = f.value.stored) :
    decodeInsert table (s.insertStatement table p) =
      some (p.entries.map fun e => (e.1, e.2.stored.text?)) := by
  refine decodeInsert_insertStatement hs table hempty ?_ ?_
  · intro c hc
    obtain ⟨e, he, rfl⟩ := List.mem_map.mp hc
    obtain ⟨f, hf, -⟩ := hfields e he
    obtain ⟨hfmem, hfname⟩ := Record.column_of_field hf
    rw [← hfname]
    exact hplain _ (List.mem_map_of_mem hfmem)
  · intro v hv bytes
    obtain ⟨e, he, rfl⟩ := List.mem_map.mp hv
    obtain ⟨f, -, hvalue⟩ := hfields e he
    rw [hvalue, Value.stored_stored]
    exact stored_ne_blob f bytes

/-- The columns and texts of an insert statement fill a record of the same columns with what the inserted
record holds in them, whatever it held by default. -/
theorem inserted_reads_back (m : Model υ) (d : Dialect) (hd : d = .generic ∨ d = .sqlite) (r : Record υ)
    (hcolumns : r.columns = m.initial.columns) (hdistinct : (r.columns.map (·.name)).Nodup)
    (hplain : ∀ c ∈ r.columns, Plain c.name) (hreads : ∀ f ∈ r.fields, f.column.type.ReadsBack f.content)
    (p : Params) (hp : m.insertParams r = .ok p) (sql : String)
    (hsql : (m.query d).insertStatement p = .ok sql) :
    ∃ pairs, decodeInsert m.table sql = some pairs ∧ pairs.map Prod.fst = p.columns ∧
      (∀ c, c ∈ p.columns ↔ c ∈ m.insertColumns r) ∧
      ∀ c ∈ p.columns, ∃ f, r.field? c = some f ∧ (m.ofRow (rowOf pairs)).1.field? c = some f := by
  obtain ⟨s, hs, rfl⟩ := exists_standard hd
  obtain ⟨-, hempty, rfl⟩ := Query.insertStatement_eq_ok hsql
  obtain ⟨hnodup, hfields, hwritten⟩ := Model.readAll_empty (Model.insertParams_eq_ok hp)
  have hdecode := decodeInsert_of_readAll hs m.table hplain hempty hfields
  rw [Model.dialect_query, Model.table_query]
  refine ⟨_, hdecode, by simp [Params.columns, Function.comp_def], hwritten, ?_⟩
  intro c hc
  obtain ⟨e, he, rfl⟩ := List.mem_map.mp hc
  obtain ⟨f, hf, hvalue⟩ := hfields e he
  obtain ⟨hfmem, hfname⟩ := Record.column_of_field hf
  obtain ⟨g, hg, hgcolumn⟩ := Record.exists_field_of_columns hcolumns hf
  have hcell := get_rowOf hnodup he
  have htext : (Value.ofOption .text e.2.stored.text?).text? = f.value.stored.text? := by
    rw [text_ofOption, hvalue, Value.stored_stored]
  refine ⟨f, hf, ?_⟩
  rw [m.toRecordType.field_ofRow _ (hcolumns ▸ hdistinct), hg, Option.map_some,
    Field.fromRow_stored hgcolumn (hreads f hfmem) (hfname ▸ hcell) htext]

/-- A note with values that look like something else, in a model with defaults for all of them. -/
theorem inserted_reads_back_note :
    let note (title : String) (body : Option String) (done : Bool) (size : Int64) (price : Number.Double) :
        Record Unit :=
      ⟨[⟨⟨"title", "title", .required .text, true⟩, title⟩, ⟨⟨"body", "text", .optional .text, true⟩, body⟩,
        ⟨⟨"done", "done", .required .bool, true⟩, done⟩, ⟨⟨"size", "size", .required .long, true⟩, size⟩,
        ⟨⟨"price", "price", .required .double, true⟩, price⟩], ()⟩
    let m : Model Unit :=
      { typeName := "Note", table := "no`te", initial := note "untitled" (some "none") false 7 ⟨0⟩ }
    let r := note " 'null' " none true Int64.minValue ⟨0xBFE0000000000000⟩
    ∃ p sql pairs, m.insertParams r = .ok p ∧ (m.query .sqlite).insertStatement p = .ok sql ∧
      decodeInsert m.table sql = some pairs ∧ p.columns = ["title", "body", "done", "size", "price"] ∧
      ∀ c ∈ p.columns, ∃ f, r.field? c = some f ∧ (m.ofRow (rowOf pairs)).1.field? c = some f := by
  intro note m r
  have hplain : ∀ c ∈ r.columns, Plain c.name := by
    have hnames : ∀ name ∈ ["title", "body", "done", "size", "price"], Plain name := by
      simp only [List.forall_mem_cons]
      refine ⟨?_, ?_, ?_, ?_, ?_, by simp⟩ <;> constructor <;> decide +kernel
    intro c hc
    exact hnames c.name (List.mem_map_of_mem hc)
  have hreads : ∀ f ∈ r.fields, f.column.type.ReadsBack f.content := by
    simp only [r, note, List.forall_mem_cons]
    refine ⟨trivial, fun _ _ => trivial, trivial, trivial, ?_, by simp⟩
    show Number.Double.read _ = some _
    decide +kernel
  obtain ⟨pairs, hdecode, -, -, hfields⟩ := inserted_reads_back m .sqlite (Or.inr rfl) r rfl (by decide)
    hplain hreads _ rfl _ rfl
  exact ⟨_, _, pairs, rfl, rfl, hdecode, rfl, hfields⟩

end SqlRecord.RoundTrip

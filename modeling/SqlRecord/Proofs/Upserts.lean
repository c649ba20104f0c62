import SqlRecord.Proofs.Clauses
import SqlRecord.Proofs.Outcomes

/-! # Upserts

An upsert is an insertion with a conflict clause behind it, and what the clause sets on a conflict is what an
update of the same parameters sets.
-/

namespace SqlRecord

namespace Upserts

open Trim

/-! ## The parts of the statement -/

/-- What an update sets, without the table before it and the conditions behind it. -/
def setText (s : Spelling) (update : Params) : String :=
  "set " ++ s.assignments update

theorem opens_setText (s : Spelling) (update : Params) : Opens (setText s update).toList :=
  opens_append ⟨'s', "et ".toList, rfl, rfl⟩ _

def conflictClause (s : Spelling) (update : Params) (keys : List String) : String :=
  " on conflict (" ++ ", ".intercalate (keys.map s.quoteName) ++ ") " ++
    if update.isEmpty then "do nothing" else "do update " ++ setText s update

theorem conflictAction_eq (s : Spelling) (update : Params) :
    Query.conflictAction s update =
      if update.isEmpty then "do nothing" else "do update " ++ setText s update := by
  unfold Query.conflictAction setText
  rw [← String.append_assoc]
  rfl

theorem upsertText_eq (q : Query) {insert : Params} (hinsert : insert.isEmpty = false) (update : Params)
    (keys : List String) :
    q.upsertText insert update keys =
      q.dialect.toSpelling.insertStatement q.table insert ++ conflictClause q.dialect.toSpelling update keys := by
  unfold Query.upsertText Spelling.insertStatement conflictClause
  rw [conflictAction_eq, hinsert]
  simp only [Bool.false_eq_true, if_false, String.append_assoc]
  rfl

/-! ## The insertion -/

theorem upsertStatement_extends {q : Query} (hd : q.dialect.KeepsAssignments) (insert update : Params)
    (keys : List String) :
    q.upsertStatement insert update keys = (q.insertStatement insert).map fun sql =>
      sql ++ conflictClause q.dialect.toSpelling update keys := by
  rw [q.upsertStatement_eq, q.insertStatement_eq, hd.insertStatement]
  cases q.check with
  | error e => rfl
  | ok =>
    cases hinsert : insert.isEmpty with
    | true => rfl
    | false => exact congrArg Except.ok (upsertText_eq q hinsert update keys)

/-! ## The update -/

variable (s : Spelling) (update : Params)

theorem updateStatement_sets (table : String) :
    s.updateStatement table update "" =
      "update " ++ s.quoteName table ++ " " ++ Text.trim (setText s update) := by
  have hopens : Opens ("update " ++ s.quoteName table ++ " ").toList := by
    rw [String.append_assoc]
    exact opens_append ⟨'u', "pdate ".toList, rfl, rfl⟩ _
  have htext : "update " ++ s.quoteName table ++ " set " ++ s.assignments update =
      "update " ++ s.quoteName table ++ " " ++ setText s update := by
    simp only [setText, String.append_assoc]
    rfl
  rw [Spelling.updateStatement, String.append_empty, trim_append_blank, htext,
    trim_append_of_opens hopens (opens_setText s update)]

variable {s update}

theorem exists_setText {v : Value} (hv : update.values.getLast? = some v) :
    ∃ before, setText s update = before ++ " " ++ s.quote v.stored := by
  obtain ⟨values, hvalues⟩ := List.getLast?_eq_some_iff.mp hv
  obtain ⟨entries, last, hentries, -, hlast⟩ := List.map_eq_append_iff.mp hvalues
  obtain ⟨e, rfl, rfl⟩ := List.map_eq_singleton_iff.mp hlast
  obtain ⟨before, hbefore⟩ := exists_intercalate_concat ", "
    (entries.map fun e => s.quoteName e.1 ++ " = " ++ s.quote e.2.stored)
    (s.quoteName e.1 ++ " = " ++ s.quote e.2.stored)
  refine ⟨"set " ++ before ++ s.quoteName e.1 ++ " =", ?_⟩
  rw [setText, Spelling.assignments, hentries, List.map_append, List.map_singleton, hbefore]
  simp only [String.append_assoc]
  rfl

theorem trim_setText_iff (hl : ∀ v, Text.trim (s.quote v) = s.quote v) (hupdate : update.isEmpty = false) :
    Text.trim (setText s update) = setText s update ↔
      ∀ v ∈ update.values.getLast?, s.quote v.stored ≠ "" := by
  have hopens := opens_setText s update
  have hne : update.values ≠ [] := by simpa [Params.isEmpty, Params.values] using hupdate
  obtain ⟨v, hv⟩ : ∃ v, update.values.getLast? = some v := ⟨_, List.getLast?_eq_some_getLast hne⟩
  obtain ⟨before, hbefore⟩ := exists_setText (s := s) hv
  simp only [hv, Option.mem_def, Option.some.injEq, forall_eq']
  constructor
  · intro htrim hempty
    have hcloses := (closes_of_trim htrim).mpr fun h => by simp [h, Opens] at hopens
    rw [hbefore, hempty, String.append_empty] at hcloses
    exact not_closes_append_blank before hcloses
  · intro hliteral
    have hcloses : Closes (s.quote v.stored).toList := (closes_of_trim (hl _)).mpr hliteral
    apply trim_of_opens_closes hopens
    rw [hbefore]
    exact closes_append _ hcloses

/-! ## The main result -/

/-- An upsert is refused where the insertion is, for the same reason, and is otherwise the insertion with the
conflict clause behind it. What the clause sets is what the update without conditions says behind the table.
Only of a last literal that is empty the update drops the blank before it. -/
theorem upsert_agrees (q : Query) (hd : q.dialect.KeepsAssignments)
    (hl : ∀ v, Text.trim (q.dialect.quote v) = q.dialect.quote v) (insert update : Params)
    (keys : List String) :
    let s := q.dialect.toSpelling
    let updated := q.dialect.updateStatement q.table update ""
    q.upsertStatement insert update keys = (q.insertStatement insert).map (fun sql =>
      sql ++ " on conflict (" ++ ", ".intercalate (keys.map s.quoteName) ++ ") " ++
        if update.isEmpty then "do nothing" else "do update " ++ setText s update) ∧
    (update.isEmpty = false →
      updated = "update " ++ s.quoteName q.table ++ " " ++ Text.trim (setText s update) ∧
      (updated = "update " ++ s.quoteName q.table ++ " " ++ setText s update ↔
        ∀ v ∈ update.values.getLast?, s.quote v.stored ≠ "")) := by
  intro s updated
  have hupdated : updated = "update " ++ s.quoteName q.table ++ " " ++ Text.trim (setText s update) := by
    rw [← updateStatement_sets s update q.table, ← hd.updateStatement]
  refine ⟨?_, fun hupdate => ⟨hupdated, ?_⟩⟩
  · rw [upsertStatement_extends hd]
    unfold conflictClause
    simp only [String.append_assoc]
    rfl
  · rw [hupdated, String.append_right_inj]
    exact trim_setText_iff hl hupdate

/-- The statement that inserts a note or marks it as done, beside the two that it is made of. -/
theorem upsert_agrees_note :
    let q := Query.add { dialect := .sqlite, table := "note" } (.filter (.equals .and "done" (.bool false)))
    let insert := Params.ofList [("id", .int 7), ("title", .text "It's")]
    let update := Params.ofList [("title", .text "It's"), ("done", .bool true)]
    q.dialect.KeepsAssignments ∧ (∀ v, Text.trim (q.dialect.quote v) = q.dialect.quote v) ∧
    update.isEmpty = false ∧
    q.insertStatement insert = .ok "insert into `note` (`id`, `title`) values ('7', 'It''s')" ∧
    q.dialect.updateStatement "note" update "" = "update `note` set `title` = 'It''s', `done` = '1'" ∧
    q.upsertStatement insert update ["id"] =
      .ok ("insert into `note` (`id`, `title`) values ('7', 'It''s') on conflict (`id`) " ++
        "do update set `title` = 'It''s', `done` = '1'") ∧
    q.upsertStatement insert .empty ["id"] =
      .ok "insert into `note` (`id`, `title`) values ('7', 'It''s') on conflict (`id`) do nothing" ∧
    q.upsertStatement .empty update ["id"] = .error (.emptyInsert "note") := by
  intro q insert update
  have hd : q.dialect.KeepsAssignments := ⟨rfl, rfl⟩
  have hl : ∀ v, Text.trim (q.dialect.quote v) = q.dialect.quote v := Outline.trim_literal
  have hinsert : q.insertStatement insert =
      .ok "insert into `note` (`id`, `title`) values ('7', 'It''s')" := by decide +kernel
  have hupsert := (upsert_agrees q hd hl insert update ["id"]).1
  have hnothing := (upsert_agrees q hd hl insert .empty ["id"]).1
  have hnone := (upsert_agrees q hd hl .empty update ["id"]).1
  rw [hinsert] at hupsert hnothing
  exact ⟨hd, hl, rfl, hinsert, by decide +kernel, hupsert.trans (by decide +kernel),
    hnothing.trans (by decide +kernel), hnone.trans (by decide +kernel)⟩

/-- A dialect that writes nothing for null, so that no literal has a blank at its ends. The upsert keeps the blank
before the empty literal and the update does not. -/
theorem blank_before_empty_literal :
    let d : Dialect :=
      { name := "silent", operators := ["="], quote := fun v => if v = .null then "" else "?" }
    let q : Query := { dialect := d, table := "note" }
    let update := Params.ofList [("title", .null)]
    d.KeepsAssignments ∧ (∀ name, Text.trim (d.quoteName name) = d.quoteName name) ∧
    (∀ v, Text.trim (d.quote v) = d.quote v) ∧
    q.upsertStatement (.ofList [("id", .int 7)]) update ["id"] =
      .ok ("insert into `note` (`id`) values (?) on conflict (`id`) do update " ++ "set `title` = ") ∧
    d.updateStatement "note" update "" = "update `note` " ++ "set `title` =" := by
  intro d q update
  refine ⟨⟨rfl, rfl⟩, fun name => ?_, fun v => ?_, by decide +kernel, by decide +kernel⟩
  · exact trim_of_opens_closes (Name.opens_quote name) (Name.closes_quote name)
  · show Text.trim (if v = .null then "" else "?") = if v = .null then "" else "?"
    split <;> rfl

end Upserts

end SqlRecord

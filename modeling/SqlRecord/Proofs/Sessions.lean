import SqlRecord.Query.Run

/-! # Actions step by step

What each action makes of a session, from the ones that a session provides up to those that queries and
models are run with.
-/

namespace SqlRecord

variable {σ ε ε' α β υ : Type}

namespace Action

@[simp]
theorem perform_bind (a : Action σ ε α) (f : α → Action σ ε β) (s : Session σ) :
    perform (a >>= f) s =
      match a.perform s with
      | (.ok x, s') => (f x).perform s'
      | (.error e, s') => (.error e, s') := by
  have hbind : perform (a >>= f) s = ExceptT.bindCont f (a.perform s).1 (a.perform s).2 := rfl
  rw [hbind]
  rcases a.perform s with ⟨_ | x, s'⟩ <;> rfl

@[simp]
theorem perform_pure (x : α) (s : Session σ) : (pure x : Action σ ε α).perform s = (.ok x, s) := rfl

@[simp]
theorem perform_map (f : α → β) (a : Action σ ε α) (s : Session σ) :
    (f <$> a).perform s = ((a.perform s).1.map f, (a.perform s).2) := by
  have hbind : (f <$> a).perform s = (a >>= fun x => pure (f x)).perform s := rfl
  rw [hbind, perform_bind]
  rcases a.perform s with ⟨_ | x, s'⟩ <;> rfl

@[simp]
theorem perform_report (es : List Event) (s : Session σ) :
    (report es : Action σ ε Unit).perform s = (.ok (), { s with events := s.events ++ es }) := rfl

@[simp]
theorem perform_note (sql : String) (s : Session σ) :
    (note sql : Action σ ε Unit).perform s = (.ok (), { s with statements := s.statements ++ [sql] }) := rfl

@[simp]
theorem perform_ofExcept (r : Except ε α) (s : Session σ) : (ofExcept r).perform s = (r, s) := rfl

@[simp]
theorem perform_ofMemory (f : σ → Except ε α × σ) (s : Session σ) :
    (ofMemory f).perform s = ((f s.memory).1, { s with memory := (f s.memory).2 }) := rfl

@[simp]
theorem perform_mapError (f : ε → ε') (a : Action σ ε α) (s : Session σ) :
    (mapError f a).perform s = ((a.perform s).1.mapError f, (a.perform s).2) := rfl

theorem statements_bind {a : Action σ ε α} {f : α → Action σ ε β}
    (h : ∀ x s, ((f x).perform s).2.statements = s.statements) (s : Session σ) :
    ((a >>= f).perform s).2.statements = (a.perform s).2.statements := by
  rw [perform_bind]
  rcases a.perform s with ⟨_ | x, s'⟩
  · rfl
  · exact h x s'

theorem statements_run_bind {a : StateM (Session σ) α} {f : α → StateM (Session σ) β}
    (h : ∀ x s, ((f x).run s).2.statements = s.statements) (s : Session σ) :
    ((a >>= f).run s).2.statements = (a.run s).2.statements :=
  h (a.run s).1 (a.run s).2

theorem ok_of_mapError {f : ε → ε'} {a : Action σ ε α} {s s' : Session σ} {x : α}
    (h : (mapError f a).perform s = (.ok x, s')) : a.perform s = (.ok x, s') := by
  rw [perform_mapError] at h
  rcases ha : a.perform s with ⟨_ | y, t⟩
  · rw [ha] at h
    cases h
  · rw [ha] at h
    cases h
    rfl

end Action

/-! ## Queries -/

theorem Query.statements_run (c : Connection σ) (sql : String) (s : Session σ) :
    ((Query.run c sql).perform s).2.statements = s.statements ++ [sql] := by
  simp [Query.run, Connection.run]

theorem Query.records_eq_ok {q : Query} {c : Connection σ} {t : RecordType υ} {s s' : Session σ}
    {rs : List (Record υ)} (h : (q.records c t).perform s = (.ok rs, s')) :
    ∃ sql rows, q.selectStatement = .ok sql ∧ (c.fetch sql s.memory).1 = .ok rows ∧
      rs = rows.map fun row => (t.ofRow row).1 := by
  unfold Query.records at h
  rw [Action.perform_bind, Action.perform_ofExcept] at h
  cases hsql : q.selectStatement with
  | error e =>
    rw [hsql] at h
    cases h
  | ok sql =>
    rw [hsql] at h
    simp only [Action.perform_bind, Action.perform_report, Connection.records, Connection.rows,
      Action.perform_note, Action.perform_ofMemory] at h
    cases hrows : (c.fetch sql s.memory).1 with
    | error e =>
      rw [hrows] at h
      cases h
    | ok rows =>
      rw [hrows] at h
      cases h
      exact ⟨sql, rows, rfl, hrows, by simp [RecordType.ofRows]⟩

theorem Query.first_eq_ok {q : Query} {c : Connection σ} {t : RecordType υ} {s s' : Session σ}
    {r : Record υ} (h : (q.first c t).perform s = (.ok (some r), s')) :
    ∃ sql rows, (q.add (.limit 1)).selectStatement = .ok sql ∧ (c.fetch sql s.memory).1 = .ok rows ∧
      (rows.map fun row => (t.ofRow row).1).head? = some r := by
  unfold Query.first at h
  rw [Action.perform_bind] at h
  rcases hrun : ((q.add (.limit 1)).records c t).perform s with ⟨_ | rs, s''⟩
  · rw [hrun] at h
    cases h
  · rw [hrun] at h
    obtain ⟨sql, rows, hsql, hrows, rfl⟩ := Query.records_eq_ok hrun
    exact ⟨sql, rows, hsql, hrows, Except.ok.inj (Prod.mk.inj h).1⟩

end SqlRecord

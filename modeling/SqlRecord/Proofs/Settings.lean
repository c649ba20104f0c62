import SqlRecord.Settings.Basic

/-! # Settings given by documents

A document is read exactly if all its names are texts, no setting is given twice, and every setting that is given
has a value of its kind. A setting is then what the document gives it, and else what it was. Other names make no
difference.
-/

namespace SqlRecord

namespace Settings

/-! ## What a document gives -/

abbrev Members := List (Option String × Json)

/-- What a setting becomes that was `x`, if what it is given can be read. -/
def given {α : Type} (read : Json → Option α) (name : String) (x : α) (ms : Members) : Option α :=
  match ms.lookup (some name) with
  | none => some x
  | some j => read j

/-- The settings `s'` are `s` with all that a document gives. -/
structure Given (ms : Members) (s s' : Settings) : Prop where
  url : given stringOf "url" s.url ms = some s'.url
  createIfMissing : given boolOf "create_if_missing" s.createIfMissing ms = some s'.createIfMissing
  foreignKeys : given boolOf "foreign_keys" s.foreignKeys ms = some s'.foreignKeys
  busyTimeout : given wordOf "busy_timeout_ms" s.busyTimeout ms = some s'.busyTimeout

/-- The settings that a document names, as often as it does. -/
def namesIn (ms : Members) : List String :=
  (ms.filterMap Prod.fst).filter (· ∈ names)

section

variable {α : Type} (read : Json → Option α) {n name : String} {ms : Members}

theorem given_cons (n name : String) (x : α) (j : Json) (ms : Members) :
    given read n x ((some name, j) :: ms) = if n = name then read j else given read n x ms := by
  unfold given
  rw [List.lookup_cons]
  by_cases h : n = name
  · rw [if_pos h, h, beq_self_eq_true]
  · have hne : (some n == some name) = false := by simpa using h
    rw [if_neg h, hne]

theorem given_of_not_mem (hn : n ∈ names) (x : α) (h : n ∉ namesIn ms) : given read n x ms = some x := by
  have habsent : ms.lookup (some n) = none := by
    rw [List.lookup_eq_none_iff]
    intro m hm
    rw [bne_iff_ne]
    intro hname
    exact h (List.mem_filter.mpr ⟨List.mem_filterMap.mpr ⟨m, hm, hname.symm⟩, by simpa using hn⟩)
  rw [given, habsent]

theorem given_step (hn : n ∈ names) (h : name ∉ namesIn ms) (x z : α) (j : Json) :
    (∃ y, given read n x [(some name, j)] = some y ∧ given read n y ms = some z) ↔
      given read n x ((some name, j) :: ms) = some z := by
  rw [given_cons, given_cons]
  by_cases hname : n = name
  · subst hname
    simp [given_of_not_mem read hn _ h]
  · simp [hname, given]

end

theorem namesIn_cons (name : String) (j : Json) (ms : Members) :
    namesIn ((some name, j) :: ms) = if name ∈ names then name :: namesIn ms else namesIn ms := by
  simp [namesIn, List.filter_cons]

/-! ## One member after the other -/

variable {s s' : Settings}

theorem given_nil : Given [] s s' ↔ s = s' := by
  constructor
  · rintro ⟨hurl, hcreate, hkeys, htimeout⟩
    obtain ⟨url, create, keys, timeout⟩ := s
    obtain rfl : url = s'.url := Option.some.inj hurl
    obtain rfl : create = s'.createIfMissing := Option.some.inj hcreate
    obtain rfl : keys = s'.foreignKeys := Option.some.inj hkeys
    obtain rfl : timeout = s'.busyTimeout := Option.some.inj htimeout
    rfl
  · rintro rfl
    exact ⟨rfl, rfl, rfl, rfl⟩

theorem set_eq_some_iff {name : String} {j : Json} :
    s.set name j = some s' ↔ Given [(some name, j)] s s' := by
  have hgiven : Given [(some name, j)] s s' ↔
      (if "url" = name then stringOf j else some s.url) = some s'.url ∧
      (if "create_if_missing" = name then boolOf j else some s.createIfMissing) = some s'.createIfMissing ∧
      (if "foreign_keys" = name then boolOf j else some s.foreignKeys) = some s'.foreignKeys ∧
      (if "busy_timeout_ms" = name then wordOf j else some s.busyTimeout) = some s'.busyTimeout := by
    constructor
    · rintro ⟨hurl, hcreate, hkeys, htimeout⟩
      rw [given_cons] at hurl hcreate hkeys htimeout
      exact ⟨hurl, hcreate, hkeys, htimeout⟩
    · rintro ⟨hurl, hcreate, hkeys, htimeout⟩
      constructor <;> rwa [given_cons]
  rw [hgiven]
  obtain ⟨url, create, keys, timeout⟩ := s
  obtain ⟨url', create', keys', timeout'⟩ := s'
  by_cases hname : name ∈ names
  · simp only [names, List.mem_cons, List.not_mem_nil, or_false] at hname
    rcases hname with rfl | rfl | rfl | rfl
    · cases hread : stringOf j <;> simp [set, hread]
    · cases hread : boolOf j <;> simp [set, hread]
    · cases hread : boolOf j <;> simp [set, hread]
    · cases hread : wordOf j <;> simp [set, hread]
  · simp only [names, List.mem_cons, List.not_mem_nil, or_false, not_or] at hname
    simp [set, hname, eq_comm]

theorem given_cons_iff {name : String} {ms : Members} (h : name ∉ namesIn ms) (j : Json) :
    (∃ t, s.set name j = some t ∧ Given ms t s') ↔ Given ((some name, j) :: ms) s s' := by
  simp only [set_eq_some_iff]
  constructor
  · rintro ⟨t, ht, hms⟩
    exact
      ⟨(given_step _ (by decide) h _ _ j).mp ⟨_, ht.url, hms.url⟩,
        (given_step _ (by decide) h _ _ j).mp ⟨_, ht.createIfMissing, hms.createIfMissing⟩,
        (given_step _ (by decide) h _ _ j).mp ⟨_, ht.foreignKeys, hms.foreignKeys⟩,
        (given_step _ (by decide) h _ _ j).mp ⟨_, ht.busyTimeout, hms.busyTimeout⟩⟩
  · rintro ⟨hurl, hcreate, hkeys, htimeout⟩
    obtain ⟨url, hurl, hurl'⟩ := (given_step _ (by decide) h _ _ j).mpr hurl
    obtain ⟨create, hcreate, hcreate'⟩ := (given_step _ (by decide) h _ _ j).mpr hcreate
    obtain ⟨keys, hkeys, hkeys'⟩ := (given_step _ (by decide) h _ _ j).mpr hkeys
    obtain ⟨timeout, htimeout, htimeout'⟩ := (given_step _ (by decide) h _ _ j).mpr htimeout
    exact ⟨⟨url, create, keys, timeout⟩, ⟨hurl, hcreate, hkeys, htimeout⟩,
      ⟨hurl', hcreate', hkeys', htimeout'⟩⟩

theorem setMembers_eq_some_iff {seen : List String} (hseen : ∀ n ∈ seen, n ∈ names) {ms : Members} :
    s.setMembers seen ms = some s' ↔
      (∀ m ∈ ms, m.1 ≠ none) ∧ (∀ n ∈ seen, n ∉ namesIn ms) ∧ (namesIn ms).Nodup ∧ Given ms s s' := by
  induction ms generalizing s seen with
  | nil => simp [setMembers, namesIn, given_nil]
  | cons m ms ih =>
    obtain ⟨name, j⟩ := m
    cases name with
    | none => simp [setMembers]
    | some name =>
      rw [setMembers, namesIn_cons]
      simp only [List.contains_iff_mem]
      by_cases hname : name ∈ names
      · rw [if_pos hname, if_pos hname]
        by_cases hmem : name ∈ seen
        · rw [if_pos hmem]
          simp only [reduceCtorEq, false_iff]
          rintro ⟨-, hnew, -⟩
          exact hnew name hmem List.mem_cons_self
        · have hseen' : ∀ n ∈ name :: seen, n ∈ names := List.forall_mem_cons.mpr ⟨hname, hseen⟩
          rw [if_neg hmem, Option.bind_eq_bind, Option.bind_eq_some_iff]
          simp only [ih hseen', List.forall_mem_cons, List.nodup_cons]
          constructor
          · rintro ⟨t, ht, htexts, ⟨hlater, hnew⟩, hnodup, hgiven⟩
            refine ⟨⟨nofun, htexts⟩, fun n hn => ?_, ⟨hlater, hnodup⟩, ?_⟩
            · rw [List.mem_cons, not_or]
              exact ⟨fun h => hmem (h ▸ hn), hnew n hn⟩
            · exact (given_cons_iff hlater j).mp ⟨t, ht, hgiven⟩
          · rintro ⟨⟨-, htexts⟩, hnew, ⟨hlater, hnodup⟩, hgiven⟩
            obtain ⟨t, ht, hgiven⟩ := (given_cons_iff hlater j).mpr hgiven
            have hnew' : ∀ n ∈ seen, n ∉ namesIn ms := fun n hn h => hnew n hn (List.mem_cons_of_mem _ h)
            exact ⟨t, ht, htexts, ⟨hlater, hnew'⟩, hnodup, hgiven⟩
      · have hmem : name ∉ seen := fun h => hname (hseen name h)
        have hlater : name ∉ namesIn ms := fun h => hname (by simpa using (List.mem_filter.mp h).2)
        rw [if_neg hname, if_neg hname, if_neg hmem, Option.bind_eq_bind, Option.bind_eq_some_iff]
        simp only [ih hseen, List.forall_mem_cons, ← given_cons_iff hlater j]
        constructor
        · rintro ⟨t, ht, htexts, hnew, hnodup, hgiven⟩
          exact ⟨⟨nofun, htexts⟩, hnew, hnodup, t, ht, hgiven⟩
        · rintro ⟨⟨-, htexts⟩, hnew, hnodup, t, ht, hgiven⟩
          exact ⟨t, ht, htexts, hnew, hnodup, hgiven⟩

/-! ## Members without names -/

/-- What is given in order, under the names of the settings. -/
def named (ns : List String) (js : List Json) : Members :=
  (ns.zip js).map fun m => (some m.1, m.2)

theorem mem_of_mem_namesIn {ns : List String} {js : List Json} {n : String}
    (h : n ∈ namesIn (named ns js)) : n ∈ ns := by
  obtain ⟨⟨name, j⟩, hm, hname⟩ := List.mem_filterMap.mp (List.mem_filter.mp h).1
  obtain ⟨⟨n', j'⟩, hzip, heq⟩ := List.mem_map.mp hm
  cases heq
  cases hname
  exact (List.of_mem_zip hzip).1

theorem setItems_eq_some_iff {ns : List String} (hns : ns.Nodup) {js : List Json} :
    s.setItems ns js = some s' ↔ js.length ≤ ns.length ∧ Given (named ns js) s s' := by
  induction js generalizing s ns with
  | nil => simp [setItems, named, given_nil]
  | cons j js ih =>
    cases ns with
    | nil => simp [setItems]
    | cons n ns =>
      obtain ⟨hn, hns⟩ := List.nodup_cons.mp hns
      have hlater : n ∉ namesIn (named ns js) := fun h => hn (mem_of_mem_namesIn h)
      show (s.set n j >>= fun t => t.setItems ns js) = some s' ↔
        (j :: js).length ≤ (n :: ns).length ∧ Given ((some n, j) :: named ns js) s s'
      rw [Option.bind_eq_bind, Option.bind_eq_some_iff, ← given_cons_iff hlater j]
      simp only [ih hns, List.length_cons, Nat.add_le_add_iff_right]
      constructor
      · rintro ⟨t, ht, hlength, hgiven⟩
        exact ⟨hlength, t, ht, hgiven⟩
      · rintro ⟨hlength, t, ht, hgiven⟩
        exact ⟨t, ht, hlength, hgiven⟩

/-! ## The main result -/

/-- The members of a document that can be read: all names are texts and no setting comes twice, or there are no
more items than settings. -/
def Lists (document : Json) (ms : Members) : Prop :=
  match document with
  | .object members => ms = members ∧ (∀ m ∈ ms, m.1 ≠ none) ∧ (namesIn ms).Nodup
  | .array items => ms = named names items ∧ items.length ≤ names.length
  | _ => False

/-- A document gives settings by name or in order. What it gives has to be of the right kind, and what it does not
give keeps its default. -/
theorem read_eq_some_iff (text : String) (s : Settings) :
    read text = some s ↔
      ∃ document ms, Json.read text = some document ∧ Lists document ms ∧ Given ms {} s := by
  unfold read
  cases Json.read text with
  | none => simp
  | some document =>
    cases document with
    | object members =>
      show setMembers {} [] members = some s ↔ _
      rw [setMembers_eq_some_iff (List.forall_mem_nil _)]
      constructor
      · rintro ⟨htexts, -, hnodup, hgiven⟩
        exact ⟨_, members, rfl, ⟨rfl, htexts, hnodup⟩, hgiven⟩
      · rintro ⟨_, _, ⟨⟩, ⟨rfl, htexts, hnodup⟩, hgiven⟩
        exact ⟨htexts, List.forall_mem_nil _, hnodup, hgiven⟩
    | array items =>
      show setItems {} names items = some s ↔ _
      rw [setItems_eq_some_iff (by decide)]
      constructor
      · rintro ⟨hlength, hgiven⟩
        exact ⟨_, _, rfl, ⟨rfl, hlength⟩, hgiven⟩
      · rintro ⟨_, _, ⟨⟩, ⟨rfl, hlength⟩, hgiven⟩
        exact ⟨hlength, hgiven⟩
    | _ => simp [Lists]

example :
    read "[\"sqlite://app.db\", false]" =
      some { url := "sqlite://app.db", createIfMissing := false } := by
  decide +kernel

end Settings

end SqlRecord

import SqlRecord.Proofs.PrintedOperators

/-! # Operators in lower case

Whether an operator is known is asked of its lower-case form in all of Unicode. One character outside ASCII has
a lower-case form in ASCII, the Kelvin sign, so an operator with that sign in it is known and printed with it.
-/

namespace SqlRecord

namespace OperatorCase

open Builder Outline Operators PrintedOperators

/-! ## Characters -/

def kelvin : Char := Char.ofNat 0x212A

def isAscii (c : Char) : Bool := c.toNat < 0x80

/-- The pairs of a run are the Kelvin sign and k, or their small letters are characters outside ASCII. -/
def StaysOutside (r : Text.CaseRun) : Prop :=
  (r.first = 0x212A ∧ r.last = 0x212A) ∨
    0x80 ≤ r.small ∧ (r.small + (r.last - r.first) < 0xD800 ∨
      0xDFFF < r.small ∧ r.small + (r.last - r.first) < 0x110000)

instance (r : Text.CaseRun) : Decidable (StaysOutside r) :=
  inferInstanceAs (Decidable (_ ∨ _))

theorem caseRuns_stay_outside : ∀ r ∈ Text.caseRuns, StaysOutside r := by
  decide +kernel

theorem small_outside {r : Text.CaseRun} (hr : StaysOutside r) {n m : Nat} (h : r.small? n = some m) :
    n = 0x212A ∨ isAscii (Char.ofNat m) = false := by
  unfold Text.CaseRun.small? at h
  split at h
  · rename_i hrange
    cases h
    rcases hr with ⟨hfirst, hlast⟩ | ⟨hsmall, hvalid⟩
    · left
      omega
    · right
      have hvalid : (r.small + (n - r.first)).isValidChar := by
        rcases hvalid with hvalid | hvalid
        · exact Or.inl (by omega)
        · exact Or.inr (by omega)
      have hcode : (Char.ofNat (r.small + (n - r.first))).toNat = r.small + (n - r.first) := by
        rw [Char.ofNat, dif_pos hvalid]
        rfl
      rw [isAscii, hcode]
      exact decide_eq_false (by omega)
  · cases h

theorem ascii_or_kelvin {c : Char} (h : (Text.lowerChar c).all isAscii = true) :
    isAscii c = true ∨ c = kelvin := by
  unfold Text.lowerChar at h
  split at h
  · rename_i hascii
    exact Or.inl (decide_eq_true hascii)
  split at h
  · exact absurd h (by decide)
  split at h
  · rename_i m hsmall
    obtain ⟨r, hr, hsmall⟩ := List.exists_of_findSome?_eq_some hsmall
    rcases small_outside (caseRuns_stay_outside r hr) hsmall with hkelvin | houtside
    · right
      rw [kelvin, ← hkelvin, Char.ofNat_toNat]
    · simp [houtside] at h
  · left
    simpa using h

/-- The character, with k in place of the Kelvin sign. -/
def readKelvin (c : Char) : Char :=
  if c = kelvin then 'k' else c

theorem lowerChar_of_ascii {c : Char} (h : isAscii (readKelvin c) = true) :
    Text.lowerChar c = [(readKelvin c).toLower] := by
  unfold readKelvin at h ⊢
  split
  · rename_i hkelvin
    rw [hkelvin]
    decide +kernel
  · rename_i hne
    rw [if_neg hne] at h
    rw [Text.lowerChar, if_pos (of_decide_eq_true h)]

theorem isAscii_readKelvin {c : Char} (h : (Text.lowerChar c).all isAscii = true) :
    isAscii (readKelvin c) = true := by
  unfold readKelvin
  split
  · rfl
  · rename_i hne
    exact (ascii_or_kelvin h).resolve_right hne

/-! ## Texts -/

def withoutKelvin (s : String) : String :=
  String.ofList (s.toList.map readKelvin)

theorem lower_of_ascii {s : String} (h : ∀ c ∈ s.toList, isAscii (readKelvin c) = true) :
    Text.lower s = String.ofList (Text.lowerAscii (withoutKelvin s).toList) := by
  have hchar : ∀ c ∈ s.toList, Text.lowerChar c = [(readKelvin c).toLower] := fun c hc =>
    lowerChar_of_ascii (h c hc)
  rw [Text.lower, Text.lowerAscii, withoutKelvin, String.toList_ofList, List.map_map, List.flatMap_def,
    List.map_congr_left hchar, ← List.flatMap_def, ← List.map_eq_flatMap]
  rfl

theorem lower_eq_iff {s t : String} (ht : t.toList.all isAscii = true) :
    Text.lower s = t ↔ Text.lowerAscii (withoutKelvin s).toList = t.toList := by
  constructor
  · rintro rfl
    have hascii : ∀ c ∈ s.toList, isAscii (readKelvin c) = true := by
      intro c hc
      apply isAscii_readKelvin
      rw [List.all_eq_true]
      intro d hd
      exact List.all_eq_true.mp ht d (mem_lower hc hd)
    rw [lower_of_ascii hascii, String.toList_ofList]
  · intro h
    have hascii : ∀ c ∈ s.toList, isAscii (readKelvin c) = true := by
      intro c hc
      have hmem : (readKelvin c).toLower ∈ t.toList := by
        rw [← h, withoutKelvin, String.toList_ofList, Text.lowerAscii, List.map_map]
        exact List.mem_map_of_mem hc
      exact decide_eq_true (ascii_of_toLower (of_decide_eq_true (List.all_eq_true.mp ht _ hmem)))
    rw [lower_of_ascii hascii, h, String.ofList_toList]

theorem withoutKelvin_of_not_mem {s : String} (h : kelvin ∉ s.toList) : withoutKelvin s = s := by
  have hchar : ∀ c ∈ s.toList, readKelvin c = c := by
    intro c hc
    unfold readKelvin
    split
    · rename_i hkelvin
      exact absurd (hkelvin ▸ hc) h
    · rfl
  rw [withoutKelvin, List.map_congr_left hchar, List.map_id', String.ofList_toList]

theorem kelvin_not_mem_of_sameAscii {s t : String} (ht : t.toList.all isAscii = true)
    (hsmall : Text.lowerAscii t.toList = t.toList) (h : Text.sameAscii s t = true) : kelvin ∉ s.toList := by
  intro hmem
  rw [Text.sameAscii, beq_iff_eq, hsmall] at h
  have hlower : kelvin ∈ t.toList := by
    rw [← h]
    exact List.mem_map.mpr ⟨kelvin, hmem, rfl⟩
  exact absurd (List.all_eq_true.mp ht kelvin hlower) (by decide)

/-! ## Dialects -/

/-- The text is an operator of the dialect in some ASCII case. -/
def Named (d : Dialect) (op : String) : Prop :=
  ∃ o ∈ d.operators, Text.sameAscii op o = true

instance (d : Dialect) (op : String) : Decidable (Named d op) :=
  inferInstanceAs (Decidable (∃ o ∈ d.operators, _))

/-- A dialect whose operators are in small ASCII letters and spelt as they are or as `like`. -/
structure SmallOperators (d : Dialect) : Prop where
  registration : d.KeepsRegistration
  rewritten : ListsRewritten d
  ascii : ∀ o ∈ d.operators, o.toList.all isAscii = true
  small : ∀ o ∈ d.operators, Text.lowerAscii o.toList = o.toList
  like : "like" ∈ d.operators
  spelt : ∀ op, d.operator op = op ∨ d.operator op = "like"

theorem smallOperators_generic : SmallOperators .generic where
  registration := ⟨rfl, rfl⟩
  rewritten negated := by cases negated <;> decide
  ascii := by decide
  small := by decide
  like := by decide
  spelt _ := Or.inl rfl

theorem smallOperators_sqlite : SmallOperators .sqlite where
  registration := ⟨rfl, rfl⟩
  rewritten negated := by cases negated <;> decide
  ascii := by decide
  small := by decide
  like := by decide
  spelt op := by
    show (if Text.sameAscii op "ilike" then "like" else op) = op ∨ _
    split
    · exact Or.inr (if_pos ‹_›)
    · exact Or.inl rfl

variable {d : Dialect}

theorem listed_iff (hd : SmallOperators d) (op : String) : Listed d op ↔ Named d (withoutKelvin op) := by
  have hsame : ∀ o ∈ d.operators, Text.lower op = o ↔ Text.sameAscii (withoutKelvin op) o = true := by
    intro o ho
    rw [lower_eq_iff (hd.ascii o ho), Text.sameAscii, beq_iff_eq, hd.small o ho]
  constructor
  · intro h
    exact ⟨Text.lower op, h, (hsame _ h).mp rfl⟩
  · rintro ⟨o, ho, h⟩
    rw [Listed, (hsame o ho).mpr h]
    exact ho

theorem named_iff (hd : SmallOperators d) (op : String) :
    Named d op ↔ Listed d op ∧ kelvin ∉ op.toList := by
  constructor
  · rintro ⟨o, ho, h⟩
    have hkelvin := kelvin_not_mem_of_sameAscii (hd.ascii o ho) (hd.small o ho) h
    refine ⟨(listed_iff hd op).mpr ?_, hkelvin⟩
    rw [withoutKelvin_of_not_mem hkelvin]
    exact ⟨o, ho, h⟩
  · rintro ⟨hlisted, hkelvin⟩
    rwa [listed_iff hd, withoutKelvin_of_not_mem hkelvin] at hlisted

theorem named_printed_iff (hd : SmallOperators d) {table : String} {xs : List Clause} {op : String}
    (hop : op ∈ printed ((fresh d table).addAll xs)) : Named d op ↔ kelvin ∉ op.toList := by
  have hlisted : Listed d op → (Named d op ↔ kelvin ∉ op.toList) := fun hlisted => by
    rw [named_iff hd]
    exact and_iff_right hlisted
  rcases mem_printed.mp hop with ⟨j, hj, first, second, hon⟩ | ⟨e, he, hraw, hspelt⟩
  · obtain ⟨type, joined, first', op', second', -, hknown, rfl⟩ :=
      (exists_columns_iff d table xs fun o => o = op).mp ⟨j, hj, first, op, second, hon, rfl⟩
    exact hlisted ((isUnknown_iff hd.registration _).mp hknown)
  · have hdialect : ((fresh d table).addAll xs).dialect = d := addAll_dialect _ xs
    obtain ⟨e₀, haccept⟩ := accepted_of_run he
    have hstored : Listed d e.condition.operator := listed_of_accept hd.registration hd.rewritten haccept hraw
    rw [hdialect] at hspelt
    rcases hd.spelt e.condition.operator with hsame | hlike
    · rw [← hspelt, hsame] at hlisted ⊢
      exact hlisted hstored
    · rw [← hspelt, hlike]
      exact iff_of_true ⟨"like", hd.like, by decide⟩ (by decide)

/-! ## The main result -/

/-- An operator is known exactly if it is listed in some ASCII case once its Kelvin signs are read as k. So it
is listed itself exactly if it has no such sign, and the same goes for every operator that is printed. -/
theorem known_operators (hd : d = .generic ∨ d = .sqlite) :
    (∀ op, d.isUnknown op = false ↔ Named d (withoutKelvin op)) ∧
    (∀ op, Named d op ↔ d.isUnknown op = false ∧ kelvin ∉ op.toList) ∧
    ∀ table xs, ∀ op ∈ printed ((fresh d table).addAll xs), Named d op ↔ kelvin ∉ op.toList := by
  have hsmall : SmallOperators d := by
    rcases hd with rfl | rfl
    · exact smallOperators_generic
    · exact smallOperators_sqlite
  refine ⟨fun op => ?_, fun op => ?_, fun table xs op hop => named_printed_iff hsmall hop⟩
  · rw [isUnknown_iff hsmall.registration, listed_iff hsmall]
  · rw [isUnknown_iff hsmall.registration, named_iff hsmall]

/-- Without the sign, operators in any case are known exactly if they are listed. -/
theorem known_operators_sqlite :
    Dialect.sqlite.isUnknown "Not LIKE" = false ∧ Dialect.sqlite.isUnknown "l\u0130ke" = true ∧
    Named .sqlite "Not LIKE" ∧ ¬ Named .sqlite "l\u0130ke" ∧
    ∀ op ∈ printed ((fresh .sqlite "t").addAll
      [.filter (.compare .and "a" "ILIKE" (.text "x%")), .join .left "u" "b" "<<" "c"]), Named .sqlite op := by
  obtain ⟨hknown, hnamed, hprinted⟩ := known_operators (d := .sqlite) (Or.inr rfl)
  have hlike : Dialect.sqlite.isUnknown "Not LIKE" = false := (hknown _).mpr (by decide +kernel)
  have hdotted : ¬ Named .sqlite (withoutKelvin "l\u0130ke") := by decide +kernel
  refine ⟨hlike, ?_, (hnamed _).mpr ⟨hlike, by decide⟩, ?_, ?_⟩
  · rw [← Bool.not_eq_false, hknown]
    exact hdotted
  · rw [hnamed, hknown]
    exact fun h => hdotted h.1
  · intro op hop
    refine (hprinted _ _ op hop).mpr ?_
    revert op
    decide +kernel

/-- An operator with the sign in it is known, and printed as it was given, even one that has another name in
SQLite. -/
theorem kelvin_operator_printed :
    let q := (fresh .sqlite "t").addAll
      [.filter (.compare .and "a" "li\u212Ae" (.text "x%")), .filter (.compare .or "b" "ILI\u212AE" (.text "y"))]
    q.check = .ok () ∧ printed q = ["li\u212Ae", "ILI\u212AE"] ∧
    q.selectStatement = .ok "select * from `t` where `a` li\u212Ae 'x%' or `b` ILI\u212AE 'y'" ∧
    Dialect.generic.isUnknown "li\u212Ae" = false ∧ Dialect.sqlite.isUnknown "li\u212Ae" = false ∧
    ¬ Named .generic "li\u212Ae" ∧ ∀ op ∈ printed q, ¬ Named .sqlite op := by
  decide +kernel

end OperatorCase

end SqlRecord

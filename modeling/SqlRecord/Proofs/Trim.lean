import Mathlib.Data.List.Induction
import SqlRecord.Text.Blank

/-! # Trimming

A text without blanks at its ends is left as it is, and a blank put at an end of any text is dropped.
-/

namespace SqlRecord.Trim

open Text

/-! ## Tight texts -/

/-- No blank at either end. -/
def Tight (s : List Char) : Prop :=
  (∀ c ∈ s.head?, isBlank c = false) ∧ ∀ c ∈ s.getLast?, isBlank c = false

theorem dropWhile_of_head {s : List Char} (h : ∀ c ∈ s.head?, isBlank c = false) :
    s.dropWhile isBlank = s := by
  cases s with
  | nil => rfl
  | cons c s => rw [List.dropWhile_cons_of_neg (by simp [h c rfl])]

theorem dropBlanksRight_of_last {s : List Char} (h : ∀ c ∈ s.getLast?, isBlank c = false) :
    dropBlanksRight s = s := by
  rw [dropBlanksRight, dropWhile_of_head (by rwa [List.head?_reverse]), List.reverse_reverse]

theorem trimChars_of_tight {s : List Char} (h : Tight s) : trimChars s = s := by
  rw [trimChars, dropWhile_of_head h.1, dropBlanksRight_of_last h.2]

theorem head_dropWhile (s : List Char) : ∀ c ∈ (s.dropWhile isBlank).head?, isBlank c = false := by
  intro c hc
  have := List.head?_dropWhile_not isBlank s
  rw [Option.mem_def] at hc
  simpa [hc] using this

theorem last_dropBlanksRight (s : List Char) :
    ∀ c ∈ (dropBlanksRight s).getLast?, isBlank c = false := by
  rw [dropBlanksRight, List.getLast?_reverse]
  exact head_dropWhile _

theorem head_dropBlanksRight {s : List Char} (h : ∀ c ∈ s.head?, isBlank c = false) :
    ∀ c ∈ (dropBlanksRight s).head?, isBlank c = false := by
  have hprefix : dropBlanksRight s <+: s := by
    rw [dropBlanksRight, ← List.reverse_suffix, List.reverse_reverse]
    exact List.dropWhile_suffix isBlank
  intro c hc
  obtain ⟨t, ht⟩ := hprefix
  apply h c
  rw [← ht, List.head?_append, hc]
  rfl

theorem tight_trimChars (s : List Char) : Tight (trimChars s) :=
  ⟨head_dropBlanksRight (head_dropWhile s), last_dropBlanksRight _⟩

theorem trimChars_trimChars (s : List Char) : trimChars (trimChars s) = trimChars s :=
  trimChars_of_tight (tight_trimChars s)

theorem trim_trim (s : String) : trim (trim s) = trim s := by
  simp [trim, trimChars_trimChars]

theorem mem_of_mem_trimChars {c : Char} {s : List Char} (h : c ∈ trimChars s) : c ∈ s := by
  have h' : c ∈ s.dropWhile isBlank := by
    rw [trimChars, dropBlanksRight, List.mem_reverse] at h
    simpa using (List.dropWhile_sublist isBlank).subset h
  exact (List.dropWhile_sublist isBlank).subset h'

/-! ## Blanks at the ends -/

theorem trimChars_cons_blank {c : Char} (h : isBlank c = true) (s : List Char) :
    trimChars (c :: s) = trimChars s := by
  rw [trimChars, List.dropWhile_cons_of_pos h, trimChars]

theorem dropBlanksRight_append_blank {c : Char} (h : isBlank c = true) (s : List Char) :
    dropBlanksRight (s ++ [c]) = dropBlanksRight s := by
  simp [dropBlanksRight, h]

theorem trimChars_append_blank {c : Char} (h : isBlank c = true) (s : List Char) :
    trimChars (s ++ [c]) = trimChars s := by
  rw [trimChars, trimChars, List.dropWhile_append]
  split
  · rename_i hs
    rw [List.isEmpty_iff.mp hs]
    simp [h]
  · exact dropBlanksRight_append_blank h _

theorem dropBlanksRight_append (a b : List Char) :
    dropBlanksRight (a ++ b) =
      if dropBlanksRight b = [] then dropBlanksRight a else a ++ dropBlanksRight b := by
  simp only [dropBlanksRight, List.reverse_append, List.dropWhile_append, List.isEmpty_iff,
    List.reverse_eq_nil_iff]
  split
  · rfl
  · rw [List.reverse_append, List.reverse_reverse]

theorem trimChars_dropBlanksRight (s : List Char) : trimChars (dropBlanksRight s) = trimChars s := by
  induction s using List.reverseRecOn with
  | nil => rfl
  | append_singleton s c ih =>
    cases hc : isBlank c with
    | true => rw [dropBlanksRight_append_blank hc, trimChars_append_blank hc, ih]
    | false => rw [dropBlanksRight_of_last (by simp [hc])]

/-! ## Texts that do not begin or end with a blank -/

def Opens (s : List Char) : Prop :=
  ∃ c t, s = c :: t ∧ isBlank c = false

def Closes (s : List Char) : Prop :=
  ∃ t c, s = t ++ [c] ∧ isBlank c = false

theorem Opens.append {a : List Char} (h : Opens a) (b : List Char) : Opens (a ++ b) := by
  obtain ⟨c, t, rfl, hc⟩ := h
  exact ⟨c, t ++ b, rfl, hc⟩

theorem Closes.append {b : List Char} (h : Closes b) (a : List Char) : Closes (a ++ b) := by
  obtain ⟨t, c, rfl, hc⟩ := h
  exact ⟨a ++ t, c, by rw [List.append_assoc], hc⟩

theorem opens_append {a : String} (h : Opens a.toList) (b : String) : Opens (a ++ b).toList := by
  rw [String.toList_append]
  exact h.append _

theorem closes_append (a : String) {b : String} (h : Closes b.toList) : Closes (a ++ b).toList := by
  rw [String.toList_append]
  exact h.append _

theorem dropWhile_of_opens {s : List Char} (h : Opens s) : s.dropWhile isBlank = s := by
  obtain ⟨c, t, rfl, hc⟩ := h
  rw [List.dropWhile_cons_of_neg (by simp [hc])]

theorem Opens.tight {s : List Char} (h : Opens s) (h' : Closes s) : Tight s := by
  constructor
  · obtain ⟨c, t, rfl, hc⟩ := h
    rintro _ ⟨⟩
    exact hc
  · obtain ⟨t, c, rfl, hc⟩ := h'
    intro d hd
    rw [List.getLast?_concat] at hd
    cases hd
    exact hc

theorem trim_of_opens_closes {s : String} (h : Opens s.toList) (h' : Closes s.toList) : trim s = s := by
  rw [trim, trimChars_of_tight (h.tight h'), String.ofList_toList]

theorem closes_iff {s : List Char} : Closes s ↔ s ≠ [] ∧ ∀ c ∈ s.getLast?, isBlank c = false := by
  constructor
  · rintro ⟨t, c, rfl, hc⟩
    exact ⟨by simp, by simpa using hc⟩
  · rintro ⟨hne, h⟩
    exact ⟨s.dropLast, s.getLast hne, (List.dropLast_concat_getLast hne).symm,
      h _ (List.getLast?_eq_some_getLast hne)⟩

theorem not_closes_append_blank (s : String) : ¬ Closes (s ++ " ").toList := by
  intro h
  have hlast : Text.isBlank ' ' = false := (closes_iff.mp h).2 ' ' (by simp)
  cases hlast

theorem closes_of_trim {s : String} (h : trim s = s) : Closes s.toList ↔ s ≠ "" := by
  have htrimmed : trimChars s.toList = s.toList := by
    rw [← String.toList_ofList (l := trimChars s.toList)]
    exact congrArg String.toList h
  have htight := tight_trimChars s.toList
  rw [htrimmed] at htight
  rw [closes_iff, ne_eq, String.toList_eq_nil_iff]
  exact and_iff_left htight.2

theorem trimChars_around {m : List Char} (hopens : Opens m) (hcloses : Closes m) (l r : List Char) :
    trimChars (l ++ m ++ r) = l.dropWhile isBlank ++ m ++ dropBlanksRight r := by
  have hleft : (l ++ (m ++ r)).dropWhile isBlank = l.dropWhile isBlank ++ (m ++ r) := by
    rw [List.dropWhile_append]
    split
    · rename_i hnil
      rw [List.isEmpty_iff.mp hnil, dropWhile_of_opens (hopens.append r), List.nil_append]
    · rfl
  rw [trimChars, List.append_assoc, hleft, ← List.append_assoc, dropBlanksRight_append]
  split
  · rename_i hnil
    rw [hnil, List.append_nil, dropBlanksRight_of_last (closes_iff.mp (hcloses.append _)).2]
  · rfl

theorem trimChars_append_of_opens {a b : List Char} (ha : Opens a) (hb : Opens b) :
    trimChars (a ++ b) = a ++ trimChars b := by
  have hne : dropBlanksRight b ≠ [] := by
    obtain ⟨c, t, rfl, hc⟩ := hb
    have hone : dropBlanksRight [c] = [c] := dropBlanksRight_of_last (by simp [hc])
    have hsplit := dropBlanksRight_append [c] t
    rw [List.singleton_append] at hsplit
    rw [hsplit]
    split <;> simp [hone]
  rw [trimChars, dropWhile_of_opens (ha.append b), dropBlanksRight_append, if_neg hne, trimChars,
    dropWhile_of_opens hb]

theorem trim_append_of_opens {a b : String} (ha : Opens a.toList) (hb : Opens b.toList) :
    trim (a ++ b) = a ++ trim b := by
  rw [trim, String.toList_append, trimChars_append_of_opens ha hb, String.ofList_append,
    String.ofList_toList, trim]

theorem trim_append_trim {a b : String} (ha : Opens a.toList) (hb : Opens b.toList) :
    trim (a ++ trim b) = trim (a ++ b) := by
  rw [← trim_append_of_opens ha hb, trim_trim]

theorem trim_append_blank (s : String) : trim (s ++ " ") = trim s := by
  rw [trim, String.toList_append]
  exact congrArg String.ofList (trimChars_append_blank rfl s.toList)

theorem exists_intercalate_concat (w : String) (xs : List String) (x : String) :
    ∃ before, w.intercalate (xs ++ [x]) = before ++ x := by
  by_cases hxs : xs = []
  · exact ⟨"", by simp [hxs]⟩
  · refine ⟨w.intercalate xs ++ w, ?_⟩
    rw [String.intercalate_append_of_ne_nil hxs (List.cons_ne_nil x []), String.intercalate_singleton]

theorem closes_intercalate {w : String} {xs : List String} (hne : xs ≠ [])
    (h : ∀ x ∈ xs, Closes x.toList) : Closes (w.intercalate xs).toList := by
  obtain ⟨before, hbefore⟩ := exists_intercalate_concat w xs.dropLast (xs.getLast hne)
  rw [List.dropLast_concat_getLast hne] at hbefore
  rw [hbefore]
  exact closes_append before (h _ (List.getLast_mem hne))

end SqlRecord.Trim

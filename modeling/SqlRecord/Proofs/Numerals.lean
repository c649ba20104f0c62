import SqlRecord.Number.Double
import SqlRecord.Number.Range
import SqlRecord.Proofs.Trim

/-! # Texts of numbers

What a number is written with, and whole numbers read back.
-/

namespace SqlRecord.Number

open Trim

/-! ## Whole numbers -/

theorem toList_toString_int (n : Int) :
    (toString n).toList = if 0 ≤ n then Nat.toDigits 10 n.toNat else '-' :: Nat.toDigits 10 (-n).toNat := by
  rw [Int.toString_eq_repr, Int.repr_eq_if]
  split
  · exact Nat.toList_repr
  · rw [String.toList_append, Nat.toList_repr]
    rfl

theorem readInt_of_isDigit {s : List Char} (h : ∀ c ∈ s, c.isDigit = true) :
    readInt s = (readNat s).map fun n => (n : Int) := by
  rw [readInt.eq_3]
  · rintro t rfl
    simpa using h '-' (by simp)
  · rintro t rfl
    simpa using h '+' (by simp)

theorem readInt_toString (n : Int) : readInt (toString n).toList = some n := by
  rw [toList_toString_int]
  split
  · rw [readInt_of_isDigit fun c hc => Nat.isDigit_of_mem_toDigits (by decide) (by decide) hc,
      readNat_toDigits]
    show some ((n.toNat : Nat) : Int) = some n
    rw [Int.toNat_of_nonneg ‹_›]
  · rw [readInt, readNat_toDigits]
    show some (-((-n).toNat : Int)) = some n
    rw [Int.toNat_of_nonneg (by omega), Int.neg_neg]

/-! ## The characters of numbers -/

def isNumeral (c : Char) : Bool :=
  c.isDigit || ['-', '.', 'i', 'n', 'f', 'N', 'a'].contains c

theorem isNumeral_of_isDigit {c : Char} (h : c.isDigit = true) : isNumeral c = true := by
  rw [isNumeral, h, Bool.true_or]

theorem isNumeral_of_mem_toDigits {c : Char} {n : Nat} (h : c ∈ Nat.toDigits 10 n) :
    isNumeral c = true :=
  isNumeral_of_isDigit (Nat.isDigit_of_mem_toDigits (by decide) (by decide) h)

theorem isNumeral_of_mem_toString {c : Char} {n : Int} (h : c ∈ (toString n).toList) :
    isNumeral c = true := by
  rw [toList_toString_int] at h
  split at h
  · exact isNumeral_of_mem_toDigits h
  · rcases List.mem_cons.mp h with rfl | h
    · rfl
    · exact isNumeral_of_mem_toDigits h

theorem isNumeral_of_mem_ofPower {c : Char} {d : Nat} {e : Int} (h : c ∈ (Digits.ofPower d e).digits) :
    isNumeral c = true := by
  rw [Digits.ofPower, List.mem_reverse] at h
  have h' := (List.dropWhile_sublist _).subset h
  exact isNumeral_of_mem_toDigits (List.mem_reverse.mp h')

theorem isNumeral_of_mem_search {c : Char} {i : Interval} {tries : Nat} {e : Int}
    (h : c ∈ (i.search tries e).digits) : isNumeral c = true := by
  induction tries generalizing e with
  | zero => exact isNumeral_of_mem_ofPower h
  | succ tries ih =>
    rw [Interval.search] at h
    split at h
    · exact isNumeral_of_mem_ofPower h
    · exact ih h

theorem isNumeral_of_mem_zeros {c : Char} {n : Nat} (h : c ∈ zeros n) : isNumeral c = true := by
  rw [List.eq_of_mem_replicate h]
  rfl

theorem isNumeral_of_mem_plain {c : Char} {d : Digits} (hd : ∀ c ∈ d.digits, isNumeral c = true)
    (h : c ∈ d.plain) : isNumeral c = true := by
  unfold Digits.plain at h
  dsimp only at h
  split at h
  · simp only [List.mem_append, List.mem_cons, List.not_mem_nil, or_false] at h
    obtain ((rfl | rfl) | h) | h := h
    · rfl
    · rfl
    · exact isNumeral_of_mem_zeros h
    · exact hd c h
  split at h
  · rcases List.mem_append.mp h with h | h
    · exact hd c h
    · exact isNumeral_of_mem_zeros h
  · rw [List.mem_append, List.mem_cons] at h
    obtain h | rfl | h := h
    · exact hd c (List.mem_of_mem_take h)
    · rfl
    · exact hd c (List.mem_of_mem_drop h)

theorem isNumeral_of_mem_text {c : Char} {x : Double} (h : c ∈ x.text.toList) : isNumeral c = true := by
  have hsign : ∀ {s : List Char}, c ∈ (if x.negative then ['-'] else []) ++ s →
      (c ∈ s → isNumeral c = true) → isNumeral c = true := by
    intro s hc hs
    rcases List.mem_append.mp hc with hc | hc
    · split at hc
      · rw [List.mem_singleton.mp hc]
        rfl
      · cases hc
    · exact hs hc
  unfold Double.text Double.textWith at h
  dsimp only at h
  split at h
  · exact List.all_eq_true.mp (by decide : "NaN".toList.all isNumeral) c h
  split at h
  · rw [String.toList_ofList] at h
    exact hsign h (List.all_eq_true.mp (by decide : ['i', 'n', 'f'].all isNumeral) c)
  split at h
  · rw [String.toList_ofList] at h
    have hzero : ∀ c ∈ ['0'], isNumeral c = true := List.all_eq_true.mp (by decide)
    exact hsign h fun hc => isNumeral_of_mem_plain hzero hc
  · rw [String.toList_ofList] at h
    exact hsign h fun hc => isNumeral_of_mem_plain (fun _ => isNumeral_of_mem_search) hc

/-! ## Numerals are tight -/

theorem isBlank_of_isNumeral {c : Char} (h : isNumeral c = true) : Text.isBlank c = false := by
  have hrange : 45 ≤ c.toNat ∧ c.toNat ≤ 122 := by
    rw [isNumeral, Bool.or_eq_true, List.contains_iff_mem] at h
    rcases h with h | h
    · simp only [Char.isDigit, Bool.and_eq_true, decide_eq_true_eq] at h
      have h₁ : (48 : Nat) ≤ c.toNat := h.1
      have h₂ : c.toNat ≤ (57 : Nat) := h.2
      omega
    · simp only [List.mem_cons, List.not_mem_nil, or_false] at h
      rcases h with rfl | rfl | rfl | rfl | rfl | rfl | rfl <;> decide
  simp only [Text.isBlank, Bool.or_eq_false_iff, Bool.and_eq_false_iff, decide_eq_false_iff_not,
    beq_eq_false_iff_ne]
  omega

theorem ne_quote_of_isNumeral {c : Char} (h : isNumeral c = true) : c ≠ '\'' := by
  rintro rfl
  exact absurd h (by decide)

theorem tight_of_isNumeral {s : List Char} (h : ∀ c ∈ s, isNumeral c = true) : Tight s :=
  ⟨fun _ hc => isBlank_of_isNumeral (h _ (List.mem_of_mem_head? hc)),
    fun _ hc => isBlank_of_isNumeral (h _ (List.mem_of_mem_getLast? hc))⟩

end SqlRecord.Number

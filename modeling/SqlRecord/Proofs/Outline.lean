import SqlRecord.Proofs.Lexeme
import SqlRecord.Proofs.Trim

/-! # Texts and their outlines

The outline of a value keeps whether it is null and whether it is a blob. A text that is built from
values has an outline too, the one that the outlines of the values give. `Outlines` says that a text
reads as the tokens of its outline with the operands put in, and the lemmas here put such texts together.
-/

namespace SqlRecord.Outline

open Lexeme Trim

/-! ## Operands -/

/-- What a statement says where a value belongs. -/
inductive Operand
  | null
  | text (s : String)
  | blob (bytes : List UInt8)
  deriving DecidableEq, Repr

def operand : Value → Operand
  | .null => .null
  | .bool b => .text (if b then "1" else "0")
  | .int n => .text (toString n.toInt)
  | .real x => .text x.text
  | .text s => .text s
  | .blob bytes => .blob bytes

def tokenOperand : Token → Option Operand
  | .text s => some (.text (String.ofList s))
  | .blob bytes => some (.blob bytes)
  | .null => some .null
  | .name _ => none
  | .mark _ => none

def blank : Token → Token
  | .text _ => .text []
  | .blob _ => .blob []
  | t => t

/-- What is known of a value when only null and blobs are told apart. -/
def outline : Value → Value
  | .null => .null
  | .blob _ => .blob []
  | _ => .text ""

/-- The nulls that a word says by itself. -/
def nullsIn (s : String) : List Operand :=
  (wordTokens s.toList).filterMap tokenOperand

theorem isNull_outline (v : Value) : (outline v).isNull = v.isNull := by
  cases v <;> rfl

/-! ## Putting texts together -/

def Outlines (a b : String) (os : List Operand) : Prop :=
  ∃ ts, Reads a.toList ts ∧ Reads b.toList (ts.map blank) ∧ ts.filterMap tokenOperand = os

theorem outlines_empty : Outlines "" "" [] :=
  ⟨[], reads_nil, reads_nil, rfl⟩

theorem blank_wordTokens (s : List Char) : (wordTokens s).map blank = wordTokens s := by
  induction s using wordTokens.induct with
  | case1 s ih => rw [wordTokens, List.map_cons, ih]; rfl
  | case2 c s h ih => rw [wordTokens.eq_2 _ _ h, List.map_cons, ih]; rfl
  | case3 => rfl

theorem outlines_word {s : String} (h : s.toList.all isUnquoted = true) :
    Outlines s s (nullsIn s) :=
  ⟨_, reads_word h, by rw [blank_wordTokens]; exact reads_word h, rfl⟩

theorem wordTokens_of_not_mem {s : List Char} (h : 'n' ∉ s) : wordTokens s = s.map .mark :=
  (wordTokens_cases s).resolve_right fun h' => h (h'.1 'n' (by decide))

theorem marks_operands (s : List Char) : (s.map Token.mark).filterMap tokenOperand = [] := by
  induction s with
  | nil => rfl
  | cons c s ih => simp [tokenOperand]

theorem nullsIn_of_not_mem {s : String} (h : 'n' ∉ s.toList) : nullsIn s = [] := by
  rw [nullsIn, wordTokens_of_not_mem h, marks_operands]

/-- Every character stands for itself whatever follows the word. -/
def isLead : List Char → Bool
  | [] => true
  | c :: s => (isPlain c || (c == 'n' && s.head?.any (· != 'u'))) && isLead s

theorem reads_lead {w s : List Char} {ts : List Token} (h : isLead w = true) (hs : Reads s ts) :
    Reads (w ++ s) (w.map .mark ++ ts) := by
  induction w with
  | nil => exact hs
  | cons c w ih =>
    simp only [isLead, Bool.and_eq_true, Bool.or_eq_true, beq_iff_eq] at h
    obtain ⟨hc | ⟨rfl, hw⟩, h⟩ := h
    · exact reads_cons hc (ih h)
    · intro rest hrest
      cases w with
      | nil => cases hw
      | cons d w =>
        have hd : d ≠ 'u' := by simpa [List.head?_cons] using hw
        have hnext : next ('n' :: d :: w ++ s ++ rest) = some (.mark 'n', d :: w ++ s ++ rest) := by
          simp [next, hd]
        show tokens ('n' :: d :: w ++ s ++ rest) = _
        rw [tokens_of_next hnext, ih h rest hrest, Option.map_map]
        rfl

theorem Outlines.lead {w a b : String} {os : List Operand} (hw : isLead w.toList = true)
    (h : Outlines a b os) : Outlines (w ++ a) (w ++ b) os := by
  obtain ⟨ts, ha, hb, hos⟩ := h
  refine ⟨w.toList.map .mark ++ ts, ?_, ?_, ?_⟩
  · rw [String.toList_append]
    exact reads_lead hw ha
  · rw [String.toList_append, List.map_append, List.map_map]
    exact reads_lead hw hb
  · rw [List.filterMap_append, marks_operands, List.nil_append, hos]

theorem Outlines.append {a b c d : String} {os us : List Operand} (h : Outlines a b os)
    (h' : Outlines c d us) (hc : stops c.toList = true) (hd : stops d.toList = true) :
    Outlines (a ++ c) (b ++ d) (os ++ us) := by
  obtain ⟨ts, ha, hb, hos⟩ := h
  obtain ⟨ts', ha', hb', hus⟩ := h'
  refine ⟨ts ++ ts', ?_, ?_, ?_⟩
  · rw [String.toList_append]
    exact ha.append ha' hc
  · rw [String.toList_append, List.map_append]
    exact hb.append hb' hd
  · rw [List.filterMap_append, hos, hus]

/-- A word that may stand between two texts. -/
def isLink (w : List Char) : Bool :=
  isLead w && stops w && !w.isEmpty

theorem isLead_of_isLink {w : List Char} (h : isLink w = true) : isLead w = true := by
  simp only [isLink, Bool.and_eq_true] at h
  exact h.1.1

theorem stops_append_link {w : List Char} (h : isLink w = true) (s : List Char) :
    stops (w ++ s) = true := by
  simp only [isLink, Bool.and_eq_true] at h
  obtain ⟨⟨-, hstops⟩, hne⟩ := h
  cases w with
  | nil => cases hne
  | cons c w => exact hstops

theorem stops_link {w : String} (h : isLink w.toList = true) (s : String) :
    stops (w ++ s).toList = true := by
  rw [String.toList_append]
  exact stops_append_link h _

theorem Outlines.link {w a b c d : String} {os us : List Operand} (hw : isLink w.toList = true)
    (h : Outlines a b os) (h' : Outlines c d us) :
    Outlines (a ++ w ++ c) (b ++ w ++ d) (os ++ us) := by
  rw [String.append_assoc, String.append_assoc]
  exact h.append (h'.lead (isLead_of_isLink hw)) (stops_link hw c) (stops_link hw d)

theorem Outlines.close {w a b : String} {os : List Operand} (hw : isLink w.toList = true)
    (h : Outlines a b os) : Outlines (a ++ w) (b ++ w) os := by
  simpa using h.link hw outlines_empty

theorem Outlines.intercalate {α : Type} {w : String} (hw : isLink w.toList = true) {f g : α → String}
    {os : α → List Operand} {xs : List α} (h : ∀ x ∈ xs, Outlines (f x) (g x) (os x)) :
    Outlines (w.intercalate (xs.map f)) (w.intercalate (xs.map g)) (xs.flatMap os) := by
  induction xs with
  | nil => exact outlines_empty
  | cons x xs ih =>
    have hx := h x List.mem_cons_self
    have hxs := ih fun y hy => h y (List.mem_cons_of_mem _ hy)
    cases xs with
    | nil => simpa using hx
    | cons y ys =>
      simp only [List.map_cons, String.intercalate_cons_cons, List.flatMap_cons] at hxs ⊢
      exact hx.link hw hxs

theorem Outlines.tokens {a b : String} {os : List Operand} (h : Outlines a b os) :
    ∃ ts, Lexeme.tokens a.toList = some ts ∧ Lexeme.tokens b.toList = some (ts.map blank) ∧
      ts.filterMap tokenOperand = os := by
  obtain ⟨ts, ha, hb, hos⟩ := h
  exact ⟨ts, ha.tokens, hb.tokens, hos⟩

theorem Outlines.empty_iff {a b : String} {os : List Operand} (h : Outlines a b os) :
    a = "" ↔ b = "" := by
  obtain ⟨ts, ha, hb, -⟩ := h.tokens
  have hnil : ∀ {s : String} {us : List Token}, Lexeme.tokens s.toList = some us → (s = "" ↔ us = []) := by
    intro s us hus
    constructor
    · rintro rfl
      rw [String.toList_empty, tokens_nil] at hus
      cases hus
      rfl
    · rintro rfl
      have := tokens_spell hus
      exact String.toList_inj.mp this.symm
  rw [hnil ha, hnil hb, List.map_eq_nil_iff]

theorem Outlines.operands_of_empty {b : String} {os : List Operand} (h : Outlines "" b os) : os = [] := by
  obtain ⟨ts, ha, -, hos⟩ := h.tokens
  rw [String.toList_empty, tokens_nil] at ha
  cases ha
  exact hos.symm

theorem Outlines.sentence {xs : List (String × String × List Operand)}
    (h : ∀ x ∈ xs, Outlines x.1 x.2.1 x.2.2) :
    Outlines (" ".intercalate ((xs.map fun x => x.1).filter (· ≠ "")))
      (" ".intercalate ((xs.map fun x => x.2.1).filter (· ≠ ""))) (xs.flatMap fun x => x.2.2) := by
  have hkept : xs.filter ((· ≠ "") ∘ fun x => x.2.1) = xs.filter ((· ≠ "") ∘ fun x => x.1) := by
    refine List.filter_congr fun x hx => ?_
    simp [(h x hx).empty_iff]
  have hall : xs.flatMap (fun x => x.2.2) =
      (xs.filter ((· ≠ "") ∘ fun x => x.1)).flatMap fun x => x.2.2 := by
    clear hkept
    induction xs with
    | nil => rfl
    | cons x xs ih =>
      have hx := h x List.mem_cons_self
      rw [List.flatMap_cons, ih fun y hy => h y (List.mem_cons_of_mem _ hy), List.filter_cons]
      split
      · rfl
      · rename_i hempty
        have hempty : x.1 = "" := by simpa using hempty
        rw [hempty] at hx
        rw [hx.operands_of_empty, List.nil_append]
  rw [List.filter_map, List.filter_map, hkept, hall]
  exact Outlines.intercalate rfl fun x hx => h x (List.mem_filter.mp hx).1

end SqlRecord.Outline

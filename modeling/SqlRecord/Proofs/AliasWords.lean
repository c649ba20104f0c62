import Mathlib.Data.List.Infix
import SqlRecord.Proofs.Names

/-! # Where an alias is cut off

The word for an alias is looked for as bytes, in a copy whose capitals are made small, and the name is cut
at the byte where it was found. Every such cut is between two characters: no byte of a character outside
ASCII is a blank, and the copy has every character at the place where the name has it.
-/

namespace SqlRecord.Name

/-! ## The place of a word -/

section

variable {α : Type} [BEq α] [LawfulBEq α]

/-- How much of a text is before the first place of a word in it. -/
def wordIndex (w s : List α) : Option Nat :=
  s.tails.findIdx? w.isPrefixOf

theorem wordIndex_eq_none {w s : List α} : wordIndex w s = none ↔ ¬ w <:+: s := by
  simp only [wordIndex, List.findIdx?_eq_none_iff, List.mem_tails, Bool.eq_false_iff, ne_eq,
    List.isPrefixOf_iff_prefix, List.infix_iff_prefix_suffix, not_exists, not_and]
  exact ⟨fun h t hword hsuffix => h t hsuffix hword, fun h t hsuffix hword => h t hword hsuffix⟩

theorem wordIndex_of_start {w s : List α} (h : w <+: s) : wordIndex w s = some 0 := by
  have hhead : w.isPrefixOf s = true := List.isPrefixOf_iff_prefix.mpr h
  cases s with
  | nil => rw [wordIndex, List.tails, List.findIdx?_cons, if_pos hhead]
  | cons c s => rw [wordIndex, List.tails_cons, List.findIdx?_cons, if_pos hhead]

theorem wordIndex_cons {w s : List α} {c : α} (h : ¬ w <+: c :: s) :
    wordIndex w (c :: s) = (wordIndex w s).map (· + 1) := by
  rw [wordIndex, List.tails_cons, List.findIdx?_cons, if_neg (List.isPrefixOf_iff_prefix.not.mpr h)]
  rfl

theorem wordIndex_append {w s t : List α} {c : α} (h : c ∉ s) :
    wordIndex (c :: w) (s ++ t) = (wordIndex (c :: w) t).map (· + s.length) := by
  induction s with
  | nil => simp
  | cons d s ih =>
    have hd : ¬ c :: w <+: d :: (s ++ t) := fun hstart =>
      h (List.mem_cons.mpr (Or.inl (List.cons_prefix_cons.mp hstart).1))
    rw [List.cons_append, wordIndex_cons hd, ih fun hs => h (List.mem_cons_of_mem d hs), Option.map_map]
    congr 1

end

/-! ## The first alias word -/

/-- The place of the first alias word, whatever the case of its letters. -/
def aliasIndex (s : List Char) : Option Nat :=
  wordIndex aliasWord (Text.lowerAscii s)

theorem lowerAscii_starts_iff {s : List Char} :
    aliasWord <+: Text.lowerAscii s ↔ Text.lowerAscii (s.take 4) = aliasWord := by
  rw [List.prefix_iff_eq_take, Text.lowerAscii, Text.lowerAscii, List.map_take]
  exact eq_comm

theorem cutAlias_eq (s : List Char) :
    cutAlias s = (aliasIndex s).map fun n => (s.take n, s.drop (n + 4)) := by
  induction s with
  | nil => rfl
  | cons c s ih =>
    by_cases hword : Text.lowerAscii ((c :: s).take 4) = aliasWord
    · rw [cutAlias, if_pos hword, aliasIndex, wordIndex_of_start (lowerAscii_starts_iff.mpr hword)]
      rfl
    · have hnext : aliasIndex (c :: s) = (aliasIndex s).map (· + 1) :=
        wordIndex_cons (lowerAscii_starts_iff.not.mpr hword)
      rw [cutAlias, if_neg hword, ih, hnext, Option.map_map, Option.map_map]
      rfl

theorem cutAlias_eq_none {s : List Char} : cutAlias s = none ↔ ¬ aliasWord <:+: Text.lowerAscii s := by
  rw [cutAlias_eq, Option.map_eq_none_iff, aliasIndex, wordIndex_eq_none]

theorem cutAlias_of_aliasIndex {s : List Char} {n : Nat} (h : aliasIndex s = some n) :
    cutAlias s = some (s.take n, s.drop (n + 4)) := by
  rw [cutAlias_eq, h, Option.map_some]

theorem spell_cutAlias {s l r : List Char} (h : cutAlias s = some (l, r)) :
    ∃ w, Text.lowerAscii w = aliasWord ∧ s = l ++ w ++ r := by
  induction s generalizing l with
  | nil => cases h
  | cons c s ih =>
    rw [cutAlias] at h
    split at h
    · rename_i hword
      cases h
      exact ⟨(c :: s).take 4, hword, (List.take_append_drop 4 (c :: s)).symm⟩
    · obtain ⟨l', h', rfl⟩ := Lexeme.of_map_fst h
      obtain ⟨w, hword, rfl⟩ := ih h'
      exact ⟨w, hword, rfl⟩

theorem length_of_aliasIndex {s : List Char} {n : Nat} (h : aliasIndex s = some n) :
    n + 4 ≤ s.length := by
  have hlength := length_of_cutAlias (cutAlias_of_aliasIndex h)
  rw [List.length_take, List.length_drop] at hlength
  omega

/-! ## Bytes -/

def bytes (s : List Char) : List UInt8 :=
  s.flatMap String.utf8EncodeChar

@[simp] theorem bytes_cons (c : Char) (s : List Char) :
    bytes (c :: s) = String.utf8EncodeChar c ++ bytes s :=
  List.flatMap_cons

@[simp] theorem bytes_append (s t : List Char) : bytes (s ++ t) = bytes s ++ bytes t :=
  List.flatMap_append

/-- A text cut behind so many bytes. It is not cut inside a character or behind its end. -/
def splitBytes (n : Nat) : List Char → Option (List Char × List Char)
  | [] => if n = 0 then some ([], []) else none
  | c :: s =>
    if n = 0 then some ([], c :: s)
    else if c.utf8Size ≤ n then (splitBytes (n - c.utf8Size) s).map fun (l, r) => (c :: l, r)
    else none

theorem splitBytes_append (l r : List Char) : splitBytes (bytes l).length (l ++ r) = some (l, r) := by
  induction l with
  | nil => cases r <;> rfl
  | cons c l ih =>
    have hpos := c.utf8Size_pos
    rw [bytes_cons, List.length_append, String.length_utf8EncodeChar, List.cons_append, splitBytes,
      if_neg (by omega), if_pos (by omega), Nat.add_sub_cancel_left, ih]
    rfl

def IsAscii (c : Char) : Prop :=
  c.toNat < 0x80

theorem utf8Size_of_isAscii {c : Char} (h : IsAscii c) : c.utf8Size = 1 :=
  Char.utf8Size_eq_one_iff.mpr (UInt32.le_iff_toNat_le.mpr (Nat.le_of_lt_succ h))

theorem utf8EncodeChar_of_isAscii {c : Char} (h : IsAscii c) :
    String.utf8EncodeChar c = [UInt8.ofNat c.toNat] := by
  rw [String.utf8EncodeChar_eq_singleton (utf8Size_of_isAscii h), Char.toNat, UInt8.ofNat_uInt32ToNat]

theorem le_byte {c : Char} (h : ¬ IsAscii c) : ∀ b ∈ String.utf8EncodeChar c, 0x80 ≤ b.toNat := by
  have hle : ¬ c.val.toNat ≤ 0x7f := fun hle => h (Nat.lt_succ_of_le hle)
  simp only [String.utf8EncodeChar, if_neg hle]
  split_ifs
  all_goals
    simp only [List.forall_mem_cons, List.not_mem_nil, false_implies, implies_true, and_true,
      UInt8.toNat_ofNat']
    omega

theorem toNat_byte {c : Char} (h : IsAscii c) : (UInt8.ofNat c.toNat).toNat = c.toNat :=
  UInt8.toNat_ofNat_of_lt' (Nat.lt_trans h (by decide))

theorem byte_not_mem {a c : Char} (ha : IsAscii a) (hc : ¬ IsAscii c) :
    UInt8.ofNat a.toNat ∉ String.utf8EncodeChar c := by
  intro hmem
  have hle := le_byte hc _ hmem
  rw [toNat_byte ha] at hle
  exact absurd ha (Nat.not_lt_of_le hle)

theorem bytes_starts_iff {w s : List Char} (hw : ∀ c ∈ w, IsAscii c) : bytes w <+: bytes s ↔ w <+: s := by
  induction w generalizing s with
  | nil => exact iff_of_true List.nil_prefix List.nil_prefix
  | cons a w ih =>
    obtain ⟨ha, hw⟩ := List.forall_mem_cons.mp hw
    rw [bytes_cons, utf8EncodeChar_of_isAscii ha, List.singleton_append]
    cases s with
    | nil => exact iff_of_false (by simp [bytes]) (by simp)
    | cons c s =>
      rw [bytes_cons, List.cons_prefix_cons]
      by_cases hc : IsAscii c
      · have hbyte : UInt8.ofNat a.toNat = UInt8.ofNat c.toNat ↔ a = c := by
          rw [← UInt8.toNat_inj, toNat_byte ha, toNat_byte hc, Char.toNat_inj]
        rw [utf8EncodeChar_of_isAscii hc, List.singleton_append, List.cons_prefix_cons, hbyte, ih hw]
      · refine iff_of_false (fun hstart => byte_not_mem ha hc ?_) fun h => hc (h.1 ▸ ha)
        obtain ⟨b, rest, hb⟩ := List.exists_cons_of_ne_nil (String.utf8EncodeChar_ne_nil (c := c))
        rw [hb, List.cons_append] at hstart
        rw [hb, (List.cons_prefix_cons.mp hstart).1]
        exact List.mem_cons_self

theorem wordIndex_bytes {w : List Char} (hw : ∀ c ∈ w, IsAscii c) (hne : w ≠ []) (s : List Char) :
    wordIndex (bytes w) (bytes s) = (wordIndex w s).map fun n => (bytes (s.take n)).length := by
  induction s with
  | nil =>
    obtain ⟨a, w, rfl⟩ := List.exists_cons_of_ne_nil hne
    rw [wordIndex_eq_none.mpr (by simp : ¬ a :: w <:+: [])]
    exact wordIndex_eq_none.mpr (by simp [bytes])
  | cons c s ih =>
    by_cases hstart : w <+: c :: s
    · rw [wordIndex_of_start hstart, wordIndex_of_start ((bytes_starts_iff hw).mpr hstart)]
      rfl
    · have hnone : ¬ bytes w <+: bytes (c :: s) := (bytes_starts_iff hw).not.mpr hstart
      have hskip : wordIndex (bytes w) (bytes (c :: s)) =
          (wordIndex (bytes w) (bytes s)).map (· + c.utf8Size) := by
        rw [bytes_cons] at hnone ⊢
        by_cases hc : IsAscii c
        · rw [utf8EncodeChar_of_isAscii hc, List.singleton_append] at hnone ⊢
          rw [wordIndex_cons hnone, utf8Size_of_isAscii hc]
        · obtain ⟨a, w, rfl⟩ := List.exists_cons_of_ne_nil hne
          have ha : IsAscii a := hw a List.mem_cons_self
          rw [bytes_cons, utf8EncodeChar_of_isAscii ha, List.singleton_append,
            wordIndex_append (byte_not_mem ha hc), String.length_utf8EncodeChar]
      rw [hskip, ih, wordIndex_cons hstart, Option.map_map, Option.map_map]
      congr 1
      funext n
      simp [Nat.add_comm]

/-! ## Cutting at a byte -/

theorem utf8Size_toLower (c : Char) : c.toLower.utf8Size = c.utf8Size := by
  unfold Char.toLower
  split
  · rename_i hcapital
    have hle : c.val.toNat ≤ 'Z'.val.toNat := UInt32.le_iff_toNat_le.mp hcapital.2
    have hc : IsAscii c := Nat.lt_of_le_of_lt hle (by decide)
    rw [utf8Size_of_isAscii hc, Char.utf8Size_eq_one_iff, UInt32.le_iff_toNat_le, UInt32.toNat_add]
    have hz : 'Z'.val.toNat = 90 := rfl
    have hstep : ('a'.val - 'A'.val).toNat = 32 := rfl
    have h127 : (127 : UInt32).toNat = 127 := rfl
    omega
  · rfl

theorem length_bytes_lowerAscii (s : List Char) : (bytes (Text.lowerAscii s)).length = (bytes s).length := by
  induction s with
  | nil => rfl
  | cons c s ih =>
    rw [Text.lowerAscii, List.map_cons, bytes_cons, bytes_cons, List.length_append, List.length_append,
      String.length_utf8EncodeChar, String.length_utf8EncodeChar, utf8Size_toLower, ← Text.lowerAscii, ih]

theorem wordIndex_aliasWord (s : List Char) :
    wordIndex (bytes aliasWord) (bytes (Text.lowerAscii s)) =
      (cutAlias s).map fun (l, _) => (bytes l).length := by
  have hword : ∀ c ∈ aliasWord, IsAscii c := by simp [aliasWord, IsAscii]
  rw [wordIndex_bytes hword (List.cons_ne_nil _ _), ← aliasIndex, cutAlias_eq, Option.map_map]
  congr 1
  funext n
  rw [Text.lowerAscii, ← List.map_take, ← Text.lowerAscii, length_bytes_lowerAscii]
  rfl

/-- The name is cut before the bytes of the first alias word in the small copy, and again behind them.
There is no result where one of the two cuts is inside a character. -/
def cutAliasAtByte (s : List Char) : Option (Option (List Char × List Char)) :=
  match wordIndex (bytes aliasWord) (bytes (Text.lowerAscii s)) with
  | none => some none
  | some n => do
    let (l, _) ← splitBytes n s
    let (_, r) ← splitBytes (n + 4) s
    return some (l, r)

theorem cutAliasAtByte_eq (s : List Char) : cutAliasAtByte s = some (cutAlias s) := by
  rw [cutAliasAtByte, wordIndex_aliasWord]
  cases h : cutAlias s with
  | none => rfl
  | some parts =>
    obtain ⟨l, r⟩ := parts
    obtain ⟨w, hword, rfl⟩ := spell_cutAlias h
    have hlength : (bytes (l ++ w)).length = (bytes l).length + 4 := by
      rw [bytes_append, List.length_append, ← length_bytes_lowerAscii w, hword]
      rfl
    have hbefore : splitBytes (bytes l).length (l ++ w ++ r) = some (l, w ++ r) := by
      rw [List.append_assoc, splitBytes_append]
    have hbehind : splitBytes ((bytes l).length + 4) (l ++ w ++ r) = some (l ++ w, r) := by
      rw [← hlength, splitBytes_append]
    simp only [Option.map_some, hbefore, hbehind]
    rfl

/-- Quoting with every alias cut off at its bytes. -/
def quoteAtBytes (s : List Char) : Option (List Char) :=
  if s = ['*'] then some ['*']
  else
    let t := Text.trimChars s
    match _ : cutAt '.' t with
    | some (l, r) => do return (← quoteAtBytes l) ++ '.' :: (← quoteAtBytes r)
    | none =>
      match _ : cutAliasAtByte t with
      | none => none
      | some (some (l, r)) => do return (← quoteAtBytes l) ++ aliasWord ++ (← quoteAtBytes r)
      | some none => some ('`' :: t ++ ['`'])
termination_by s.length
decreasing_by
  all_goals
    have hle := Text.trimChars_length_le s
    first
    | have := length_of_cutAt ‹_›; grind
    | have := length_of_cutAlias (Option.some_inj.mp ((cutAliasAtByte_eq _).symm.trans ‹_›)); grind

/-- However deep a name is taken apart, no cut is inside a character. -/
theorem quoteAtBytes_eq (s : List Char) : quoteAtBytes s = some (quoteChars s) := by
  induction s using quoteChars.induct with
  | case1 => rw [quoteAtBytes, if_pos rfl, quoteChars_star]
  | case2 s hs t l r hcut ihl ihr =>
    rw [quoteAtBytes, if_neg hs, quoteChars_path hcut]
    dsimp only
    split
    · rename_i h
      cases hcut.symm.trans h
      rw [ihl, ihr]
      rfl
    · rename_i h
      cases hcut.symm.trans h
  | case3 s hs t hcut l r ha ihl ihr =>
    have hbyte : cutAliasAtByte t = some (some (l, r)) := by rw [cutAliasAtByte_eq, ha]
    rw [quoteAtBytes, if_neg hs, quoteChars_alias hs hcut ha]
    dsimp only
    split
    · rename_i h
      cases hcut.symm.trans h
    · split
      · rename_i h
        cases hbyte.symm.trans h
      · rename_i h
        cases hbyte.symm.trans h
        rw [ihl, ihr]
        rfl
      · rename_i h
        cases hbyte.symm.trans h
  | case4 s hs t hcut ha =>
    have hbyte : cutAliasAtByte t = some none := by rw [cutAliasAtByte_eq, ha]
    rw [quoteAtBytes, if_neg hs, quoteChars_plain hs hcut ha]
    dsimp only
    split
    · rename_i h
      cases hcut.symm.trans h
    · split
      · rename_i h
        cases hbyte.symm.trans h
      · rename_i h
        cases hbyte.symm.trans h
      · rfl

end SqlRecord.Name

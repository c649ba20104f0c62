import Mathlib.Data.List.TakeWhile
import SqlRecord.Proofs.NullComparisons
import SqlRecord.Proofs.Segments

/-! # Blanks around names

Blanks around a name, or around a segment of it, change nothing of how it is quoted, unless they stand around
a star: a star stays as it is only where it stands alone, and is the name of a column otherwise.
-/

namespace SqlRecord.PaddedNames

open Name Trim Segments Builder Operators

/-! ## Blanks that are put around a text -/

def Blank (s : List Char) : Prop :=
  ∀ c ∈ s, Text.isBlank c = true

instance : DecidablePred Blank :=
  fun s => List.decidableBAll _ s

theorem trimChars_append_left {a : List Char} (h : Blank a) (s : List Char) :
    Text.trimChars (a ++ s) = Text.trimChars s := by
  rw [Text.trimChars, List.dropWhile_append_of_pos h, Text.trimChars]

theorem trimChars_append_right {b : List Char} (h : Blank b) (s : List Char) :
    Text.trimChars (s ++ b) = Text.trimChars s := by
  have hb : Text.dropBlanksRight b = [] := by
    have hall : ∀ c ∈ b.reverse, Text.isBlank c = true := fun c hc => h c (List.mem_reverse.mp hc)
    rw [Text.dropBlanksRight, ← List.append_nil b.reverse, List.dropWhile_append_of_pos hall]
    rfl
  rw [← trimChars_dropBlanksRight, dropBlanksRight_append, if_pos hb, trimChars_dropBlanksRight]

theorem trimChars_padded {a b : List Char} (ha : Blank a) (hb : Blank b) (s : List Char) :
    Text.trimChars (a ++ s ++ b) = Text.trimChars s := by
  rw [trimChars_append_right hb, trimChars_append_left ha]

theorem trimChars_dropWhile (s : List Char) :
    Text.trimChars (s.dropWhile Text.isBlank) = Text.trimChars s := by
  rw [Text.trimChars, dropWhile_of_head (head_dropWhile s), Text.trimChars]

theorem exists_blanks (t : List Char) :
    ∃ front back, Blank front ∧ Blank back ∧ t = front ++ Text.trimChars t ++ back := by
  let rest := t.dropWhile Text.isBlank
  refine ⟨t.takeWhile Text.isBlank, (rest.reverse.takeWhile Text.isBlank).reverse,
    fun c hc => List.mem_takeWhile_imp hc, fun c hc => List.mem_takeWhile_imp (List.mem_reverse.mp hc), ?_⟩
  have hrest : Text.trimChars t ++ (rest.reverse.takeWhile Text.isBlank).reverse = rest := by
    rw [Text.trimChars, Text.dropBlanksRight, ← List.reverse_append, List.takeWhile_append_dropWhile,
      List.reverse_reverse]
  rw [List.append_assoc, hrest, List.takeWhile_append_dropWhile]

theorem quoteChars_congr {s t : List Char} (hs : s ≠ ['*']) (ht : t ≠ ['*'])
    (h : Text.trimChars s = Text.trimChars t) : quoteChars s = quoteChars t := by
  cases hcut : cutAt '.' (Text.trimChars s) with
  | some parts =>
    obtain ⟨l, r⟩ := parts
    have hcut' : cutAt '.' (Text.trimChars t) = some (l, r) := h ▸ hcut
    rw [quoteChars_path hcut, quoteChars_path hcut']
  | none =>
    have hcut' : cutAt '.' (Text.trimChars t) = none := h ▸ hcut
    cases ha : cutAlias (Text.trimChars s) with
    | some parts =>
      obtain ⟨l, r⟩ := parts
      have ha' : cutAlias (Text.trimChars t) = some (l, r) := h ▸ ha
      rw [quoteChars_alias hs hcut ha, quoteChars_alias ht hcut' ha']
    | none =>
      have ha' : cutAlias (Text.trimChars t) = none := h ▸ ha
      rw [quoteChars_plain hs hcut ha, quoteChars_plain ht hcut' ha', h]

theorem ne_star_of_trimChars {s : List Char} (h : Text.trimChars s ≠ ['*']) : s ≠ ['*'] := by
  rintro rfl
  exact h rfl

theorem padded_ne_star {a b s : List Char} (ha : Blank a) (hb : Blank b) (hs : s ≠ ['*']) :
    a ++ s ++ b ≠ ['*'] := by
  have hstar : ¬ Blank ['*'] := by simp [Blank, Text.isBlank]
  intro h
  rcases List.append_eq_singleton_iff.mp h with ⟨-, rfl⟩ | ⟨h, -⟩
  · exact hstar hb
  · rcases List.append_eq_singleton_iff.mp h with ⟨-, h⟩ | ⟨rfl, -⟩
    · exact hs h
    · exact hstar ha

theorem quoteChars_padded {a b s : List Char} (ha : Blank a) (hb : Blank b) (hs : s ≠ ['*']) :
    quoteChars (a ++ s ++ b) = quoteChars s :=
  quoteChars_congr (padded_ne_star ha hb hs) hs (trimChars_padded ha hb s)

/-! ## A path -/

theorem trimChars_path (l r : List Char) :
    Text.trimChars (l ++ '.' :: r) = l.dropWhile Text.isBlank ++ '.' :: Text.dropBlanksRight r := by
  have hopens : Opens ['.'] := ⟨'.', [], rfl, rfl⟩
  have hcloses : Closes ['.'] := ⟨[], '.', rfl, rfl⟩
  rw [List.append_cons, trimChars_around hopens hcloses, List.append_assoc, List.singleton_append]

theorem quoteChars_append_dot {l : List Char} (h : '.' ∉ l) (r : List Char) :
    quoteChars (l ++ '.' :: r) =
      quoteChars (l.dropWhile Text.isBlank) ++ '.' :: quoteChars (Text.dropBlanksRight r) := by
  apply quoteChars_path
  rw [trimChars_path]
  exact Lexeme.cutAt_append (fun hmem => h ((List.dropWhile_sublist _).subset hmem)) _

/-! ## An alias -/

/-- The first alias word of a text is right behind this part of it. -/
def FreeOfAlias (l : List Char) : Prop :=
  ¬ aliasWord <:+: Text.lowerAscii l ++ [' ', 'a', 's']

theorem length_of_word {w : List Char} (h : Text.lowerAscii w = aliasWord) : w.length = 4 := by
  have hlength := congrArg List.length h
  rwa [Text.lowerAscii, List.length_map] at hlength

theorem lowerAscii_append (s t : List Char) :
    Text.lowerAscii (s ++ t) = Text.lowerAscii s ++ Text.lowerAscii t :=
  List.map_append

theorem isPrefix_append {s : List Char} (h : 4 ≤ s.length) (t : List Char) :
    aliasWord <+: s ++ t ↔ aliasWord <+: s :=
  ⟨fun hstart => List.prefix_of_prefix_length_le hstart (List.prefix_append s t) h,
    fun hstart => hstart.trans (List.prefix_append s t)⟩

theorem freeOfAlias_cons {c : Char} {l : List Char} :
    FreeOfAlias (c :: l) ↔
      ¬ aliasWord <+: Text.lowerAscii (c :: l) ++ [' ', 'a', 's'] ∧ FreeOfAlias l := by
  have hwithin : aliasWord <:+: Text.lowerAscii (c :: l) ++ [' ', 'a', 's'] ↔
      aliasWord <+: Text.lowerAscii (c :: l) ++ [' ', 'a', 's'] ∨
        aliasWord <:+: Text.lowerAscii l ++ [' ', 'a', 's'] := List.infix_cons_iff
  rw [FreeOfAlias, hwithin, not_or, FreeOfAlias]

theorem cutAlias_append {l w : List Char} (hw : Text.lowerAscii w = aliasWord) (r : List Char) :
    cutAlias (l ++ w ++ r) = some (l, r) ↔ FreeOfAlias l := by
  have hlength := length_of_word hw
  induction l with
  | nil =>
    refine iff_of_true ?_ (by show ¬ _ <:+: _; decide)
    obtain ⟨c, w, rfl⟩ := List.exists_cons_of_length_eq_add_one hlength
    have hword : ((c :: w) ++ r).take 4 = c :: w := List.take_left' hlength
    have hrest : (w ++ r).drop 3 = r := List.drop_left' (Nat.succ.inj hlength)
    rw [List.nil_append, List.cons_append, cutAlias, ← List.cons_append, hword, if_pos hw, hrest]
  | cons c l ih =>
    have hstart : Text.lowerAscii ((c :: (l ++ w ++ r)).take 4) = aliasWord ↔
        aliasWord <+: Text.lowerAscii (c :: l) ++ [' ', 'a', 's'] := by
      have hsplit : Text.lowerAscii (c :: (l ++ w ++ r)) =
          (Text.lowerAscii (c :: l) ++ [' ', 'a', 's']) ++ ' ' :: Text.lowerAscii r := by
        rw [← List.cons_append, ← List.cons_append, lowerAscii_append, lowerAscii_append, hw]
        simp [aliasWord]
      rw [← lowerAscii_starts_iff, hsplit, isPrefix_append]
      simp [Text.lowerAscii]
    rw [freeOfAlias_cons, ← hstart, List.cons_append, List.cons_append, cutAlias]
    split
    · rename_i h
      exact iff_of_false (by simp) fun hfree => hfree.1 h
    · rename_i h
      rw [and_iff_right h]
      refine Iff.trans ?_ ih
      cases cutAlias (l ++ w ++ r) with
      | none => simp
      | some parts => simp [Prod.ext_iff]

theorem toLower_blank {c : Char} (h : Text.isBlank c = true) : c.toLower = c := by
  unfold Char.toLower
  rw [dif_neg]
  rintro ⟨hle, hge⟩
  have hle' : 65 ≤ c.toNat := UInt32.le_iff_toNat_le.mp hle
  have hge' : c.toNat ≤ 90 := UInt32.le_iff_toNat_le.mp hge
  simp only [Text.isBlank, Bool.or_eq_true, Bool.and_eq_true, decide_eq_true_eq, beq_iff_eq] at h
  omega

theorem exists_blank {b : List Char} (hb : Blank b) :
    ∃ c t, Text.lowerAscii b ++ [' ', 'a', 's'] = c :: t ∧ Text.isBlank c = true := by
  cases b with
  | nil => exact ⟨' ', ['a', 's'], rfl, rfl⟩
  | cons c b =>
    have hc := hb c List.mem_cons_self
    exact ⟨c.toLower, _, rfl, by rwa [toLower_blank hc]⟩

theorem FreeOfAlias.append {l b : List Char} (h : FreeOfAlias l) (hb : Blank b) : FreeOfAlias (l ++ b) := by
  induction l with
  | nil =>
    induction b with
    | nil => exact h
    | cons c b ih =>
      have hb' : Blank b := fun d hd => hb d (List.mem_cons_of_mem c hd)
      refine freeOfAlias_cons.mpr ⟨fun hstart => ?_, ih hb'⟩
      obtain ⟨d, t, ht, hd⟩ := exists_blank hb'
      rw [Text.lowerAscii, List.map_cons, List.cons_append, ← Text.lowerAscii, ht] at hstart
      simp only [aliasWord, List.cons_prefix_cons] at hstart
      rw [← hstart.2.1] at hd
      cases hd
  | cons c l ih =>
    obtain ⟨hstart, hl⟩ := freeOfAlias_cons.mp h
    rw [List.cons_append, freeOfAlias_cons]
    refine ⟨fun hpadded => hstart ?_, ih hl⟩
    obtain ⟨d, t, ht, hd⟩ := exists_blank hb
    rw [← List.cons_append, lowerAscii_append, List.append_assoc, ht] at hpadded
    -- The blank is too late for the alias word, or stands where the word has a letter or its last blank.
    rcases l with _ | ⟨x, _ | ⟨y, _ | ⟨z, l⟩⟩⟩
    all_goals
      simp only [aliasWord, Text.lowerAscii, List.map_cons, List.map_nil, List.cons_append, List.nil_append,
        List.cons_prefix_cons] at hpadded ⊢
    · rw [← hpadded.2.1] at hd
      cases hd
    · rw [← hpadded.2.2.1] at hd
      cases hd
    · exact ⟨hpadded.1, hpadded.2.1, hpadded.2.2.1, trivial, List.nil_prefix⟩
    · exact ⟨hpadded.1, hpadded.2.1, hpadded.2.2.1, hpadded.2.2.2.1, List.nil_prefix⟩

theorem isBlank_of_toLower {c : Char} (h : c.toLower = ' ') : Text.isBlank c = true := by
  have hc : c = ' ' := by
    unfold Char.toLower at h
    split at h
    · rename_i hcapital
      have hle : 65 ≤ c.val.toNat := UInt32.le_iff_toNat_le.mp hcapital.1
      have hge : c.val.toNat ≤ 90 := UInt32.le_iff_toNat_le.mp hcapital.2
      have hsum : (c.val + 32).toNat = 32 := congrArg Char.toNat h
      rw [UInt32.toNat_add] at hsum
      have hstep : (32 : UInt32).toNat = 32 := rfl
      omega
    · exact h
  rw [hc]
  rfl

theorem ends_of_word {w : List Char} (h : Text.lowerAscii w = aliasWord) :
    ∃ c m d, w = c :: m ++ [d] ∧ Text.isBlank c = true ∧ Text.isBlank d = true := by
  obtain ⟨c, x, y, d, rfl⟩ := List.length_eq_four.mp (length_of_word h)
  simp only [Text.lowerAscii, aliasWord, List.map_cons, List.cons.injEq] at h
  exact ⟨c, [x, y], d, rfl, isBlank_of_toLower h.1, isBlank_of_toLower h.2.2.2.1⟩

theorem blank_of_trimChars {s : List Char} (h : Text.trimChars s = []) : Blank s := by
  obtain ⟨front, back, hfront, hback, hs⟩ := exists_blanks s
  rw [hs, h, List.append_nil]
  exact fun c hc => (List.mem_append.mp hc).elim (hfront c) (hback c)

theorem dot_not_mem_of_blank {s : List Char} (h : Blank s) : '.' ∉ s := fun hmem => by
  cases h '.' hmem

theorem dot_not_mem_of_word {w : List Char} (h : Text.lowerAscii w = aliasWord) : '.' ∉ w := by
  intro hmem
  have hlower : '.' ∈ Text.lowerAscii w := List.mem_map.mpr ⟨'.', hmem, rfl⟩
  rw [h] at hlower
  exact absurd hlower (by decide)

theorem last_of_append {s t : List Char} (h : ∀ c ∈ (s ++ t).getLast?, Text.isBlank c = false) :
    ∀ c ∈ t.getLast?, Text.isBlank c = false := by
  intro c hc
  apply h
  rw [List.getLast?_append, hc]
  rfl

theorem sides_of_word {l w r : List Char} (htight : Tight (l ++ w ++ r))
    (hw : Text.lowerAscii w = aliasWord) :
    Opens l ∧ Text.trimChars r ≠ [] ∧ Text.dropBlanksRight r = r := by
  obtain ⟨c, m, d, rfl, hc, hd⟩ := ends_of_word hw
  refine ⟨?opens, ?behind, dropBlanksRight_of_last (last_of_append htight.2)⟩
  case opens =>
    cases l with
    | nil =>
      rw [htight.1 c rfl] at hc
      cases hc
    | cons x l => exact ⟨x, l, rfl, htight.1 x rfl⟩
  case behind =>
    intro hnil
    have hblank : Blank (d :: r) := List.forall_mem_cons.mpr ⟨hd, blank_of_trimChars hnil⟩
    have hlast := htight.2
    rw [← List.append_assoc, List.append_assoc, List.singleton_append] at hlast
    have hfalse := last_of_append hlast _ (List.getLast?_eq_some_getLast (List.cons_ne_nil d r))
    rw [hblank _ (List.getLast_mem _)] at hfalse
    cases hfalse

theorem quoteChars_append_word {l b w r : List Char} (hl : '.' ∉ l) (hr : '.' ∉ r) (hopens : Opens l)
    (hfree : FreeOfAlias l) (hb : Blank b) (hw : Text.lowerAscii w = aliasWord)
    (hne : Text.trimChars r ≠ []) :
    Text.trimChars (l ++ b ++ w ++ r) = l ++ b ++ w ++ Text.dropBlanksRight r ∧
    quoteChars (l ++ b ++ w ++ r) =
      quoteChars (l ++ b) ++ aliasWord ++ quoteChars (Text.dropBlanksRight r) := by
  have hright : Text.dropBlanksRight r ≠ [] := by
    intro hnil
    rw [← trimChars_dropBlanksRight, hnil] at hne
    exact hne rfl
  have hopens' : Opens (l ++ b ++ w ++ r) := ((hopens.append b).append w).append r
  have htrim : Text.trimChars (l ++ b ++ w ++ r) = l ++ b ++ w ++ Text.dropBlanksRight r := by
    rw [Text.trimChars, dropWhile_of_opens hopens', dropBlanksRight_append, if_neg hright]
  refine ⟨htrim, quoteChars_alias ?notStar ?noDot ?cut⟩
  case notStar =>
    obtain ⟨c, m, d, rfl, -, -⟩ := ends_of_word hw
    intro hstar
    have := congrArg List.length hstar
    simp only [List.length_append, List.length_cons, List.length_nil] at this
    omega
  case noDot =>
    rw [Lexeme.cutAt_eq_none]
    intro hmem
    have hmem := mem_of_mem_trimChars hmem
    simp only [List.mem_append, hl, hr, dot_not_mem_of_blank hb, dot_not_mem_of_word hw, or_self] at hmem
  case cut =>
    rw [htrim]
    exact (cutAlias_append hw _).mpr (hfree.append hb)

/-! ## Padded names -/

/-- The second name is the first one with blanks put around segments of it, but not around a lone star. A
segment is the name itself, what stands before or behind a dot of it, or one side of its first alias word. -/
inductive Padded : List Char → List Char → Prop
  | same (s : List Char) : Padded s s
  | around {s t a b : List Char} (hstar : Text.trimChars s ≠ ['*']) (ha : Blank a) (hb : Blank b)
      (h : Padded s t) : Padded s (a ++ t ++ b)
  | path {l l' r r' : List Char} (hdot : '.' ∉ l) (hl : Padded l l') (hr : Padded r r') :
      Padded (l ++ '.' :: r) (l' ++ '.' :: r')
  | aliased {s l b w r r' : List Char} (hdot : '.' ∉ s) (htrim : Text.trimChars s = l ++ w ++ r)
      (hword : Text.lowerAscii w = aliasWord) (hcut : cutAlias (Text.trimChars s) = some (l, r))
      (hb : Blank b) (hstar : l = ['*'] → b = []) (hr : Padded r r') : Padded s (l ++ b ++ w ++ r')

theorem Padded.mem {s t : List Char} (h : Padded s t) {c : Char} (hc : c ∈ t) :
    c ∈ s ∨ Text.isBlank c = true := by
  induction h with
  | same s => exact Or.inl hc
  | around _ ha hb _ ih =>
    rcases List.mem_append.mp hc with hc | hc
    · exact (List.mem_append.mp hc).elim (fun hc => Or.inr (ha c hc)) ih
    · exact Or.inr (hb c hc)
  | path _ _ _ ihl ihr =>
    simp only [List.mem_append, List.mem_cons] at hc ⊢
    rcases hc with hc | rfl | hc
    · exact (ihl hc).imp_left Or.inl
    · exact Or.inl (Or.inr (Or.inl rfl))
    · exact (ihr hc).imp_left fun hc => Or.inr (Or.inr hc)
  | @aliased s l b w r r' _ htrim _ _ hb _ _ ih =>
    have hwithin : c ∈ l ++ w ++ r → c ∈ s := fun hc => mem_of_mem_trimChars (htrim ▸ hc)
    simp only [List.mem_append] at hc hwithin
    rcases hc with ((hc | hc) | hc) | hc
    · exact Or.inl (hwithin (Or.inl (Or.inl hc)))
    · exact Or.inr (hb c hc)
    · exact Or.inl (hwithin (Or.inl (Or.inr hc)))
    · exact (ih hc).imp_left fun hc => hwithin (Or.inr hc)

theorem Padded.dot_not_mem {s t : List Char} (h : Padded s t) (hs : '.' ∉ s) : '.' ∉ t := by
  intro hdot
  rcases h.mem hdot with hdot | hblank
  · exact hs hdot
  · cases hblank

theorem dot_mem_trimChars (l r : List Char) : '.' ∈ Text.trimChars (l ++ '.' :: r) := by
  rw [trimChars_path]
  exact List.mem_append_right _ List.mem_cons_self

theorem ne_star_of_mem {c : Char} {s : List Char} (h : c ∈ Text.trimChars s) (hc : c ≠ '*') :
    Text.trimChars s ≠ ['*'] := by
  intro hstar
  rw [hstar, List.mem_singleton] at h
  exact hc h

/-- The two names are quoted alike, and neither is a star with or without blanks. -/
structure QuotedAlike (s t : List Char) : Prop where
  quoted : quoteChars t = quoteChars s
  ne_star : Text.trimChars s ≠ ['*']
  ne_star' : Text.trimChars t ≠ ['*']
  blank : Text.trimChars t = [] → Text.trimChars s = []

theorem quoteChars_trimmed {s t : List Char} (h : t = s ∨ QuotedAlike s t) {f : List Char → List Char}
    (hf : ∀ u, Text.trimChars (f u) = Text.trimChars u) : quoteChars (f t) = quoteChars (f s) := by
  rcases h with rfl | h
  · rfl
  · have hmoved : ∀ {u}, Text.trimChars u ≠ ['*'] → quoteChars (f u) = quoteChars u := fun hu =>
      quoteChars_congr (ne_star_of_trimChars (by rwa [hf])) (ne_star_of_trimChars hu) (hf _)
    rw [hmoved h.ne_star, hmoved h.ne_star', h.quoted]

theorem quotedAlike_of_padded {s t : List Char} (h : Padded s t) : t = s ∨ QuotedAlike s t := by
  induction h with
  | same s => exact Or.inl rfl
  | @around s t a b hstar ha hb _ ih =>
    have htrim := trimChars_padded ha hb t
    have hsame : t = s ∨ QuotedAlike s t → Text.trimChars t ≠ ['*'] ∧ quoteChars t = quoteChars s ∧
        (Text.trimChars t = [] → Text.trimChars s = []) := by
      rintro (rfl | h)
      · exact ⟨hstar, rfl, id⟩
      · exact ⟨h.ne_star', h.quoted, h.blank⟩
    obtain ⟨hstar', hquoted, hblank⟩ := hsame ih
    rw [← htrim] at hstar' hblank
    refine Or.inr ⟨?_, hstar, hstar', hblank⟩
    rw [← hquoted]
    exact quoteChars_congr (ne_star_of_trimChars hstar') (ne_star_of_trimChars (htrim ▸ hstar')) htrim
  | @path l l' r r' hdot hl hr ihl ihr =>
    have hquoted : quoteChars (l' ++ '.' :: r') = quoteChars (l ++ '.' :: r) := by
      rw [quoteChars_append_dot hdot, quoteChars_append_dot (hl.dot_not_mem hdot),
        quoteChars_trimmed ihl trimChars_dropWhile, quoteChars_trimmed ihr trimChars_dropBlanksRight]
    have hmem := dot_mem_trimChars l r
    have hmem' := dot_mem_trimChars l' r'
    exact Or.inr ⟨hquoted, ne_star_of_mem hmem (by decide), ne_star_of_mem hmem' (by decide),
      fun hnil => absurd (hnil ▸ hmem') List.not_mem_nil⟩
  | @aliased s l b w r r' hdot htrim hword hcut hb hstar hr ih =>
    have htight : Tight (l ++ w ++ r) := htrim ▸ tight_trimChars s
    have hdot' : '.' ∉ l ++ w ++ r := fun hmem => hdot (mem_of_mem_trimChars (htrim ▸ hmem))
    obtain ⟨hopens, hbehind, hclosed⟩ := sides_of_word htight hword
    have hfree : FreeOfAlias l := (cutAlias_append hword r).mp (htrim ▸ hcut)
    have hl : '.' ∉ l := fun hmem => hdot' (List.mem_append_left _ (List.mem_append_left _ hmem))
    have hr' : '.' ∉ r' := hr.dot_not_mem fun hmem => hdot' (List.mem_append_right _ hmem)
    have hbehind' : Text.trimChars r' ≠ [] := by
      rcases ih with rfl | ih
      · exact hbehind
      · exact fun hnil => hbehind (ih.blank hnil)
    obtain ⟨htrim', hquoted'⟩ := quoteChars_append_word hl hr' hopens hfree hb hword hbehind'
    obtain ⟨c, m, d, hw, hc, -⟩ := ends_of_word hword
    have hmem : c ∈ Text.trimChars s := by rw [htrim, hw]; simp
    have hmem' : c ∈ Text.trimChars (l ++ b ++ w ++ r') := by rw [htrim', hw]; simp
    have hstar' : c ≠ '*' := by
      rintro rfl
      cases hc
    refine Or.inr ⟨?quoted, ne_star_of_mem hmem hstar', ne_star_of_mem hmem' hstar',
      fun hnil => absurd (hnil ▸ hmem') List.not_mem_nil⟩
    case quoted =>
      have hleft : quoteChars (l ++ b) = quoteChars l := by
        by_cases hstar'' : l = ['*']
        · rw [hstar hstar'', List.append_nil]
        · exact quoteChars_padded (a := []) (fun c hc => absurd hc List.not_mem_nil) hb hstar''
      have hright := quoteChars_trimmed ih trimChars_dropBlanksRight
      have hquoted := quoteChars_alias (ne_star_of_trimChars (ne_star_of_mem hmem hstar'))
        (Lexeme.cutAt_eq_none.mpr (htrim ▸ hdot')) hcut
      rw [hquoted', hquoted, hleft, hright, hclosed]

/-! ## Whole names -/

theorem quote_padded_iff {a b : String} (ha : Blank a.toList) (hb : Blank b.toList) (name : String) :
    quote (a ++ name ++ b) = quote name ↔ name ≠ "*" ∨ a = "" ∧ b = "" := by
  have hstar : name = "*" ↔ name.toList = ['*'] := String.toList_inj.symm
  constructor
  · intro h
    by_cases hname : name = "*"
    · subst hname
      have hsame : a ++ "*" ++ b = "*" := quote_eq_star.mp (h.trans (quote_eq_star.mpr rfl))
      have hone : "*".length = 1 := rfl
      have hlength := congrArg String.length hsame
      rw [String.length_append, String.length_append, hone] at hlength
      exact Or.inr ⟨String.length_eq_zero_iff.mp (by omega), String.length_eq_zero_iff.mp (by omega)⟩
    · exact Or.inl hname
  · rintro (hname | ⟨rfl, rfl⟩)
    · rw [quote, quote, String.toList_append, String.toList_append,
        quoteChars_padded ha hb (hstar.not.mp hname)]
    · simp

theorem quote_trim_iff (name : String) :
    quote name = quote (Text.trim name) ↔ (Text.trim name = "*" → name = "*") := by
  constructor
  · intro h htrim
    rw [htrim] at h
    exact quote_eq_star.mp (h.trans (quote_eq_star.mpr rfl))
  · intro h
    by_cases htrim : Text.trim name = "*"
    · rw [h htrim]
      rfl
    · have hstar : Text.trimChars name.toList ≠ ['*'] := by
        rw [← Text.toList_trim]
        exact fun hstar => htrim (String.toList_inj.mp hstar)
      rw [quote, quote, Text.toList_trim,
        quoteChars_congr (ne_star_of_trimChars hstar) hstar (trimChars_trimChars _).symm]

/-! ## Names in a query -/

section

variable {d : Dialect} (hquote : d.quoteName = quote) (hfix : d.fixNull = Expression.fixNull)
include hquote hfix

theorem compile_of_accept {e e' : Expression} (hraw : e.condition.isRaw = false)
    (h : d.accept e = .ok e') :
    ∃ rest, e'.condition.compile d.toSpelling = quote (Text.trim e.condition.name) ++ " " ++ rest := by
  obtain ⟨hname, hkept⟩ := accept_keeps hfix h
  have hcompile := NullComparisons.compile_eq_operand d.toSpelling (hkept.trans hraw)
  rw [hquote, hname, String.append_assoc] at hcompile
  exact ⟨_, hcompile⟩

end

/-- The places of a query that print a name as it is given, and those that print it without the blanks around
it. -/
structure PrintsName (d : Dialect) (table name : String) : Prop where
  select : ((fresh d table).add (.select [name])).selections.map (Selection.compile d.toSpelling) =
    [quote name]
  groupBy : ((fresh d table).add (.groupBy [name])).groups.map (Term.compile d.toSpelling) = [quote name]
  orderBy : ∀ direction, ((fresh d table).add (.orderBy ⟨.column name, direction⟩)).order.map
    (OrderKey.compile d.toSpelling) = [quote name ++ " " ++ direction.word]
  filter : ∀ e, e.condition.isRaw = false → e.condition.name = name →
    ∀ e' ∈ ((fresh d table).add (.filter e)).filters,
      ∃ rest, e'.condition.compile d.toSpelling = quote (Text.trim name) ++ " " ++ rest
  having : ∀ e, e.condition.isRaw = false → e.condition.name = name →
    ∀ e' ∈ ((fresh d table).add (.having e)).havings,
      ∃ rest, e'.condition.compile d.toSpelling = quote (Text.trim name) ++ " " ++ rest
  join : ∀ type joined op second, ∀ j ∈ ((fresh d table).add (.join type joined name op second)).joins,
    j.condition.compile d.toSpelling =
      quote (Text.trim name) ++ " " ++ Text.trim op ++ " " ++ quote (Text.trim second)

theorem printsName {d : Dialect} (hquote : d.quoteName = quote) (hfix : d.fixNull = Expression.fixNull)
    (table name : String) : PrintsName d table name where
  select := by
    show [d.quoteName name] = _
    rw [hquote]
  groupBy := by
    show [d.quoteName name] = _
    rw [hquote]
  orderBy direction := by
    show [d.quoteName name ++ " " ++ direction.word] = _
    rw [hquote]
  filter e hraw hname e' he' := by
    rw [(add_step _ _).filters] at he'
    have hmem : e' ∈ prepared (d.accept e) := by simpa [fresh, filtersOf, acceptedOf] using he'
    rw [← hname]
    exact compile_of_accept hquote hfix hraw (eq_ok_of_mem_prepared hmem)
  having e hraw hname e' he' := by
    rw [(add_step _ _).havings] at he'
    have hmem : e' ∈ prepared (d.accept e) := by simpa [fresh, havingsOf, acceptedOf] using he'
    rw [← hname]
    exact compile_of_accept hquote hfix hraw (eq_ok_of_mem_prepared hmem)
  join type joined op second j hj := by
    rw [(add_step _ _).joins] at hj
    obtain ⟨-, rfl⟩ := mem_joinOf.mp hj
    show d.quoteName _ ++ _ ++ _ ++ _ ++ d.quoteName _ = _
    rw [hquote]

/-! ## The main result -/

/-- Blanks around any name but a lone star, or around any segment of a name that is no star, change nothing of
how it is quoted. So the places of a query that trim a name and those that do not print it alike, but for a
star with blanks around it, which only the former print as a star. -/
theorem blanks_around_names :
    (∀ {s t : List Char}, Padded s t → quote (String.ofList t) = quote (String.ofList s)) ∧
    (∀ name a b : String, Blank a.toList → Blank b.toList →
      (quote (a ++ name ++ b) = quote name ↔ name ≠ "*" ∨ a = "" ∧ b = "")) ∧
    (∀ d : Dialect, d.quoteName = quote → d.fixNull = Expression.fixNull →
      ∀ table name, PrintsName d table name) ∧
    ∀ name, quote name = quote (Text.trim name) ↔ (Text.trim name = "*" → name = "*") := by
  refine ⟨fun {s t} h => ?_, fun name a b ha hb => quote_padded_iff ha hb name,
    fun d hquote hfix table name => printsName hquote hfix table name, quote_trim_iff⟩
  rw [quote, quote, String.toList_ofList, String.toList_ofList]
  rcases quotedAlike_of_padded h with rfl | h
  · rfl
  · rw [h.quoted]

/-- A path with an alias and blanks around all its segments, and a name with blanks in a selection and in a
condition. -/
theorem blanks_around_names_everywhere :
    quote " note . id  AS \t nid" = quote "note.id AS nid" ∧
    quote (" " ++ "id" ++ "\n") = quote "id" ∧
    PrintsName .sqlite "note" " id\n" ∧ quote " id\n" = quote (Text.trim " id\n") := by
  obtain ⟨hpadded, haround, hprints, htrim⟩ := blanks_around_names
  refine ⟨?_, ?_, hprints .sqlite rfl rfl _ _, ?_⟩
  · have hname : Padded "nid".toList (['\t', ' '] ++ "nid".toList ++ []) :=
      .around (by decide) (by decide) (by decide) (.same _)
    have halias : Padded "id AS nid".toList
        ([' '] ++ ("id".toList ++ [' '] ++ " AS ".toList ++ "\t nid".toList) ++ []) :=
      .around (by decide) (by decide) (by decide)
        (.aliased (by decide) (by decide) (by decide) (by decide) (by decide) (by decide) hname)
    have htable : Padded "note".toList ([' '] ++ "note".toList ++ [' ']) :=
      .around (by decide) (by decide) (by decide) (.same _)
    exact hpadded (.path (by decide) htable halias)
  · exact (haround "id" " " "\n" (by decide) (by decide)).mpr (Or.inl (by decide))
  · exact (htrim _).mpr (by decide)

/-- The blanks around a lone star make it the name of a column. -/
theorem padded_star_differs :
    Blank " ".toList ∧ quote (" " ++ "*" ++ " ") ≠ quote "*" ∧
    ((fresh .sqlite "note").add (.select [" * "])).selections.map (Selection.compile Dialect.sqlite.toSpelling) =
      ["`*`"] ∧
    ((fresh .sqlite "note").add (.join .left "tag" " * " "=" "id")).joins.map
      (Join.compile Dialect.sqlite.toSpelling) = ["left join `tag` on * = `id`"] := by
  refine ⟨by decide, ?_, ?_, ?_⟩
  all_goals decide +kernel

end SqlRecord.PaddedNames

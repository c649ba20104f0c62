import SqlRecord.Proofs.Outline

/-! # Quoted names

However a name is put together from parts and aliases, its text begins and ends with a backtick or is a
star, and there is nothing but names in it.
-/

namespace SqlRecord.Name

open Lexeme Trim Outline

/-! ## The cases of quoting -/

theorem quoteChars_path {s l r : List Char} (h : cutAt '.' (Text.trimChars s) = some (l, r)) :
    quoteChars s = quoteChars l ++ '.' :: quoteChars r := by
  have hs : s ≠ ['*'] := by
    rintro rfl
    simp [cutAt, Text.trimChars, Text.dropBlanksRight, Text.isBlank] at h
  rw [quoteChars, if_neg hs]
  dsimp only
  split
  · rename_i h'
    rw [h] at h'
    cases h'
    rfl
  · rename_i h'
    rw [h] at h'
    cases h'

theorem quoteChars_alias {s l r : List Char} (hs : s ≠ ['*'])
    (h : cutAt '.' (Text.trimChars s) = none) (ha : cutAlias (Text.trimChars s) = some (l, r)) :
    quoteChars s = quoteChars l ++ aliasWord ++ quoteChars r := by
  rw [quoteChars, if_neg hs]
  dsimp only
  split
  · rename_i h'
    rw [h] at h'
    cases h'
  · split
    · rename_i h'
      rw [ha] at h'
      cases h'
      rfl
    · rename_i h'
      rw [ha] at h'
      cases h'

theorem quoteChars_plain {s : List Char} (hs : s ≠ ['*'])
    (h : cutAt '.' (Text.trimChars s) = none) (ha : cutAlias (Text.trimChars s) = none) :
    quoteChars s = '`' :: Text.trimChars s ++ ['`'] := by
  rw [quoteChars, if_neg hs]
  dsimp only
  split
  · rename_i h'
    rw [h] at h'
    cases h'
  · split
    · rename_i h'
      rw [ha] at h'
      cases h'
    · rfl

theorem quoteChars_star : quoteChars ['*'] = ['*'] := by
  rw [quoteChars, if_pos rfl]

/-! ## What the cut parts are made of -/

theorem mem_of_cutAt {c d : Char} {s l r : List Char} (h : cutAt c s = some (l, r))
    (hd : d ∈ l ∨ d ∈ r) : d ∈ s := by
  rw [← spell_cutAt h]
  rcases hd with hd | hd
  · exact List.mem_append_left _ hd
  · exact List.mem_append_right _ (List.mem_cons_of_mem _ hd)

theorem mem_of_cutAlias {d : Char} {s l r : List Char} (h : cutAlias s = some (l, r))
    (hd : d ∈ l ∨ d ∈ r) : d ∈ s := by
  induction s generalizing l with
  | nil => cases h
  | cons c s ih =>
    rw [cutAlias] at h
    split at h
    · cases h
      rcases hd with hd | hd
      · cases hd
      · exact List.mem_cons_of_mem _ (List.mem_of_mem_drop hd)
    · obtain ⟨l', h', rfl⟩ := of_map_fst h
      rcases hd with hd | hd
      · rcases List.mem_cons.mp hd with rfl | hd
        · exact List.mem_cons_self
        · exact List.mem_cons_of_mem _ (ih h' (Or.inl hd))
      · exact List.mem_cons_of_mem _ (ih h' (Or.inr hd))

/-! ## The ends -/

/-- What a quoted name begins and ends with. -/
def isEdge (c : Char) : Bool :=
  c == '`' || c == '*'

structure Edged (s : List Char) : Prop where
  head : ∃ c t, s = c :: t ∧ isEdge c = true
  last : ∃ t c, s = t ++ [c] ∧ isEdge c = true

theorem Edged.between {a b : List Char} (ha : Edged a) (m : List Char) (hb : Edged b) :
    Edged (a ++ m ++ b) := by
  obtain ⟨c, t, rfl, hc⟩ := ha.head
  obtain ⟨u, d, rfl, hd⟩ := hb.last
  exact ⟨⟨c, t ++ m ++ (u ++ [d]), rfl, hc⟩, ⟨c :: t ++ m ++ u, d, by simp, hd⟩⟩

theorem edged_quoteChars (s : List Char) : Edged (quoteChars s) := by
  induction s using quoteChars.induct with
  | case1 =>
    rw [quoteChars_star]
    exact ⟨⟨'*', [], rfl, rfl⟩, ⟨[], '*', rfl, rfl⟩⟩
  | case2 s hs t l r h ihl ihr =>
    rw [quoteChars_path h, ← List.singleton_append, ← List.append_assoc]
    exact ihl.between ['.'] ihr
  | case3 s hs t h l r ha ihl ihr =>
    rw [quoteChars_alias hs h ha]
    exact ihl.between aliasWord ihr
  | case4 s hs t h ha =>
    rw [quoteChars_plain hs h ha]
    exact ⟨⟨'`', _, rfl, rfl⟩, ⟨'`' :: t, '`', rfl, rfl⟩⟩

theorem isBlank_of_isEdge {c : Char} (h : isEdge c = true) : Text.isBlank c = false := by
  simp only [isEdge, Bool.or_eq_true, beq_iff_eq] at h
  rcases h with rfl | rfl <;> rfl

theorem opens_quote (name : String) : Opens (quote name).toList := by
  obtain ⟨c, t, h, hc⟩ := (edged_quoteChars name.toList).head
  exact ⟨c, t, by rw [quote, String.toList_ofList, h], isBlank_of_isEdge hc⟩

theorem closes_quote (name : String) : Closes (quote name).toList := by
  obtain ⟨t, c, h, hc⟩ := (edged_quoteChars name.toList).last
  exact ⟨t, c, by rw [quote, String.toList_ofList, h], isBlank_of_isEdge hc⟩

theorem quoteChars_eq_star {s : List Char} : quoteChars s = ['*'] ↔ s = ['*'] := by
  constructor
  · intro h
    fun_cases quoteChars s with
    | case1 hs => exact hs
    | case2 hs t l r hcut =>
      have hmem : '.' ∈ quoteChars s := by simp [quoteChars_path hcut]
      rw [h] at hmem
      cases List.mem_singleton.mp hmem
    | case3 hs t hcut l r ha =>
      have hmem : ' ' ∈ quoteChars s := by simp [quoteChars_alias hs hcut ha, aliasWord]
      rw [h] at hmem
      cases List.mem_singleton.mp hmem
    | case4 hs t hcut ha =>
      rw [quoteChars_plain hs hcut ha] at h
      cases h
  · rintro rfl
    exact quoteChars_star

theorem quote_eq_star {name : String} : quote name = "*" ↔ name = "*" := by
  rw [quote, ← String.toList_inj, String.toList_ofList, ← String.toList_inj]
  exact quoteChars_eq_star

/-! ## Reading -/

theorem outlines_quoteChars (s : List Char) (h : '`' ∉ s) :
    Outlines (String.ofList (quoteChars s)) (String.ofList (quoteChars s)) [] := by
  induction s using quoteChars.induct with
  | case1 =>
    rw [quoteChars_star]
    exact ⟨[.mark '*'], reads_cons rfl reads_nil, reads_cons rfl reads_nil, rfl⟩
  | case2 s hs t l r hcut ihl ihr =>
    have hsub : ∀ c, c ∈ l ∨ c ∈ r → c ∈ s := fun c hc =>
      mem_of_mem_trimChars (mem_of_cutAt hcut hc)
    rw [quoteChars_path hcut, ← List.singleton_append, ← List.append_assoc, String.ofList_append,
      String.ofList_append]
    exact (ihl fun hl => h (hsub _ (Or.inl hl))).link rfl (ihr fun hr => h (hsub _ (Or.inr hr)))
  | case3 s hs t hcut l r ha ihl ihr =>
    have hsub : ∀ c, c ∈ l ∨ c ∈ r → c ∈ s := fun c hc =>
      mem_of_mem_trimChars (mem_of_cutAlias ha hc)
    rw [quoteChars_alias hs hcut ha, String.ofList_append, String.ofList_append]
    exact (ihl fun hl => h (hsub _ (Or.inl hl))).link rfl (ihr fun hr => h (hsub _ (Or.inr hr)))
  | case4 s hs t hcut ha =>
    have hreads : Reads ('`' :: t ++ ['`']) [.name t] :=
      reads_name fun ht => h (mem_of_mem_trimChars ht)
    rw [quoteChars_plain hs hcut ha]
    exact ⟨[.name t], by simpa using hreads, by simpa [blank] using hreads, rfl⟩

theorem outlines_quote {name : String} (h : '`' ∉ name.toList) :
    Outlines (quote name) (quote name) [] :=
  outlines_quoteChars name.toList h

end SqlRecord.Name

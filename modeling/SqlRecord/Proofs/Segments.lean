import SqlRecord.Proofs.AliasWords

/-! # The segments of a quoted name

A name is a row of pieces with dots between them, and a piece a row of segments with alias words between
them. Quoting finds the same pieces and segments as cutting at every dot first and at the alias words of
each piece afterwards, and puts each segment between backticks.
-/

namespace SqlRecord.Segments

open Name Trim Lexeme Outline

/-! ## Cutting a name -/

/-- The segments of a piece: it is trimmed and cut at its first alias word, and both sides are cut again. -/
def segmentsOf (s : List Char) : List (List Char) :=
  let t := Text.trimChars s
  match _ : aliasIndex t with
  | none => [t]
  | some n => segmentsOf (t.take n) ++ segmentsOf (t.drop (n + 4))
termination_by s.length
decreasing_by
  all_goals
    have hle := Text.trimChars_length_le s
    have hindex := length_of_aliasIndex ‹_›
    grind

/-- The pieces of a name, each with its segments. -/
def piecesOf (s : List Char) : List (List (List Char)) :=
  (s.splitOn '.').map segmentsOf

theorem segmentsOf_whole {s : List Char} (h : cutAlias (Text.trimChars s) = none) :
    segmentsOf s = [Text.trimChars s] := by
  rw [cutAlias_eq, Option.map_eq_none_iff] at h
  rw [segmentsOf]
  split
  · rfl
  · rename_i hindex
    cases h.symm.trans hindex

theorem segmentsOf_cut {s l r : List Char} (h : cutAlias (Text.trimChars s) = some (l, r)) :
    segmentsOf s = segmentsOf l ++ segmentsOf r := by
  rw [segmentsOf]
  split
  · rename_i hindex
    rw [cutAlias_eq, hindex] at h
    cases h
  · rename_i n hindex
    cases h.symm.trans (cutAlias_of_aliasIndex hindex)
    rfl

theorem segmentsOf_congr {s t : List Char} (h : Text.trimChars s = Text.trimChars t) :
    segmentsOf s = segmentsOf t := by
  cases hs : cutAlias (Text.trimChars s) with
  | none => rw [segmentsOf_whole hs, segmentsOf_whole (h ▸ hs), h]
  | some parts =>
    have ht : cutAlias (Text.trimChars t) = some (parts.1, parts.2) := h ▸ hs
    rw [segmentsOf_cut hs, segmentsOf_cut ht]

theorem segmentsOf_ne_nil (s : List Char) : segmentsOf s ≠ [] := by
  induction s using segmentsOf.induct with
  | case1 s t h =>
    rw [segmentsOf_whole (by rw [cutAlias_eq, h, Option.map_none])]
    exact List.cons_ne_nil _ _
  | case2 s t n h ih _ =>
    rw [segmentsOf_cut (cutAlias_of_aliasIndex h)]
    exact List.append_ne_nil_of_left_ne_nil ih _

theorem piecesOf_path (l r : List Char) : piecesOf (l ++ '.' :: r) = piecesOf l ++ piecesOf r := by
  rw [piecesOf, List.splitOn_append_cons_self, List.map_append, ← piecesOf, ← piecesOf]

theorem piecesOf_piece {s : List Char} (h : '.' ∉ s) : piecesOf s = [segmentsOf s] := by
  rw [piecesOf, List.splitOn_eq_singleton h, List.map_singleton]

theorem piecesOf_cons_blank {c : Char} (h : Text.isBlank c = true) (s : List Char) :
    piecesOf (c :: s) = piecesOf s := by
  have hdot : c ≠ '.' := by
    rintro rfl
    cases h
  obtain ⟨x, xs, hx⟩ := List.exists_cons_of_ne_nil (List.splitOn_ne_nil '.' s)
  rw [piecesOf, piecesOf, List.splitOn_cons_eq_if_modifyHead, if_neg (by simpa using hdot), hx,
    List.modifyHead_cons, List.map_cons, List.map_cons, segmentsOf_congr (trimChars_cons_blank h x)]

theorem piecesOf_append_blank {c : Char} (h : Text.isBlank c = true) (s : List Char) :
    piecesOf (s ++ [c]) = piecesOf s := by
  by_cases hs : '.' ∈ s
  · obtain ⟨l, r, hsplit⟩ := List.append_of_mem hs
    have hshort : r.length < s.length := by
      rw [hsplit, List.length_append, List.length_cons]
      omega
    rw [hsplit, List.append_assoc, List.cons_append, piecesOf_path, piecesOf_path,
      piecesOf_append_blank h r]
  · have hdot : '.' ∉ s ++ [c] := by
      rw [List.mem_append, List.mem_singleton, not_or]
      refine ⟨hs, ?_⟩
      rintro rfl
      cases h
    rw [piecesOf_piece hdot, piecesOf_piece hs, segmentsOf_congr (trimChars_append_blank h s)]
termination_by s.length
decreasing_by exact hshort

theorem piecesOf_trimChars (s : List Char) : piecesOf (Text.trimChars s) = piecesOf s := by
  have hleft : piecesOf (s.dropWhile Text.isBlank) = piecesOf s := by
    induction s with
    | nil => rfl
    | cons c s ih =>
      cases hc : Text.isBlank c with
      | true => rw [List.dropWhile_cons_of_pos hc, ih, piecesOf_cons_blank hc]
      | false => rw [List.dropWhile_cons_of_neg (by simp [hc])]
  have hright : ∀ t, piecesOf (Text.dropBlanksRight t) = piecesOf t := by
    intro t
    induction t using List.reverseRecOn with
    | nil => rfl
    | append_singleton t c ih =>
      cases hc : Text.isBlank c with
      | true => rw [dropBlanksRight_append_blank hc, ih, piecesOf_append_blank hc]
      | false => rw [dropBlanksRight_of_last (by simp [hc])]
  rw [Text.trimChars, hright, hleft]

/-! ## Segments as they are spelled -/

inductive Segment
  | star
  | quoted (text : List Char)

namespace Segment

def text : Segment → List Char
  | star => ['*']
  | quoted t => t

def spell : Segment → List Char
  | star => ['*']
  | quoted t => '`' :: t ++ ['`']

def token : Segment → Token
  | star => .mark '*'
  | quoted t => .name t

end Segment

def spell (pieces : List (List Segment)) : List Char :=
  ['.'].intercalate (pieces.map fun p => aliasWord.intercalate (p.map Segment.spell))

/-- The names and stars of the pieces, and what stands between them. -/
def tokens (pieces : List (List Segment)) : List Token :=
  [Token.mark '.'].intercalate
    (pieces.map fun p => (aliasWord.map Token.mark).intercalate (p.map fun g => [g.token]))

theorem intercalate_append {α : Type} {w : List α} {xs ys : List (List α)} (hx : xs ≠ []) (hy : ys ≠ []) :
    w.intercalate (xs ++ ys) = w.intercalate xs ++ w ++ w.intercalate ys := by
  induction xs with
  | nil => exact absurd rfl hx
  | cons x xs ih =>
    cases xs with
    | nil => rw [List.singleton_append, List.intercalate_cons_of_ne_nil hy, List.intercalate_singleton]
    | cons y xs =>
      have hnext := ih (List.cons_ne_nil y xs)
      simp only [List.cons_append, List.intercalate_cons_cons, List.append_assoc] at hnext ⊢
      rw [hnext]

theorem reads_intercalate {α : Type} {w : List Char} (hw : isLink w = true) {f : α → List Char}
    {g : α → List Token} {xs : List α} (h : ∀ x ∈ xs, Reads (f x) (g x)) :
    Reads (w.intercalate (xs.map f)) ((w.map Token.mark).intercalate (xs.map g)) := by
  induction xs with
  | nil => exact reads_nil
  | cons x xs ih =>
    have hx := h x List.mem_cons_self
    have hxs := ih fun y hy => h y (List.mem_cons_of_mem _ hy)
    cases xs with
    | nil => simpa using hx
    | cons y ys =>
      simp only [List.map_cons, List.intercalate_cons_cons, List.append_assoc] at hxs ⊢
      exact hx.append (reads_lead (isLead_of_isLink hw) hxs) (stops_append_link hw _)

theorem Segment.reads {g : Segment} (h : '`' ∉ g.text) : Reads g.spell [g.token] := by
  cases g with
  | star => exact reads_cons rfl reads_nil
  | quoted t => exact reads_name h

theorem reads_spell {pieces : List (List Segment)} (h : ∀ p ∈ pieces, ∀ g ∈ p, '`' ∉ g.text) :
    Reads (spell pieces) (tokens pieces) :=
  reads_intercalate (w := ['.']) rfl fun p hp => reads_intercalate rfl fun g hg => Segment.reads (h p hp g hg)

/-! ## Quoting -/

/-- A text in which nothing is left to be cut or trimmed. -/
structure Whole (t : List Char) : Prop where
  noDot : '.' ∉ t
  noAlias : ¬ aliasWord <:+: Text.lowerAscii t
  tight : Tight t

/-- The name is quoted as these pieces, with the segments that the name is cut into. -/
structure Quotes (s : List Char) (pieces : List (List Segment)) : Prop where
  spelled : quoteChars s = spell pieces
  texts : pieces.map (·.map Segment.text) = piecesOf s
  whole : ∀ p ∈ pieces, ∀ g ∈ p, Whole g.text
  within : ∀ p ∈ pieces, ∀ g ∈ p, ∀ c ∈ g.text, c ∈ s

theorem Quotes.ne_nil {s : List Char} {pieces : List (List Segment)} (h : Quotes s pieces) :
    pieces ≠ [] ∧ ∀ p ∈ pieces, p ≠ [] := by
  constructor
  · rintro rfl
    have htexts := h.texts
    rw [piecesOf, List.map_nil, eq_comm, List.map_eq_nil_iff] at htexts
    exact List.splitOn_ne_nil _ _ htexts
  · rintro p hp rfl
    have hmem : [] ∈ pieces.map (·.map Segment.text) := List.mem_map_of_mem hp
    rw [h.texts, piecesOf, List.mem_map] at hmem
    obtain ⟨t, -, ht⟩ := hmem
    exact segmentsOf_ne_nil t ht

theorem spell_append {ps qs : List (List Segment)} (hp : ps ≠ []) (hq : qs ≠ []) :
    spell (ps ++ qs) = spell ps ++ '.' :: spell qs := by
  rw [spell, List.map_append, intercalate_append (List.map_eq_nil_iff.not.mpr hp)
    (List.map_eq_nil_iff.not.mpr hq), ← spell, ← spell, List.append_assoc, List.singleton_append]

theorem spell_piece (p : List Segment) : spell [p] = aliasWord.intercalate (p.map Segment.spell) := by
  rw [spell, List.map_singleton, List.intercalate_singleton]

theorem Quotes.eq_singleton {s : List Char} {pieces : List (List Segment)} (h : Quotes s pieces)
    (hdot : '.' ∉ s) : ∃ p, pieces = [p] ∧ p.map Segment.text = segmentsOf s := by
  have htexts := h.texts
  rw [piecesOf_piece hdot, List.map_eq_singleton_iff] at htexts
  exact htexts

theorem quotes_star : Quotes ['*'] [[.star]] where
  spelled := quoteChars_star
  texts := by
    rw [piecesOf_piece (by decide), segmentsOf_whole rfl]
    rfl
  whole := by
    rintro _ (_ | ⟨_, ⟨⟩⟩) _ (_ | ⟨_, ⟨⟩⟩)
    exact ⟨by decide, by decide, tight_trimChars ['*']⟩
  within := by
    rintro _ (_ | ⟨_, ⟨⟩⟩) _ (_ | ⟨_, ⟨⟩⟩) c hc
    exact hc

theorem Quotes.path {s l r : List Char} {ps qs : List (List Segment)}
    (hcut : cutAt '.' (Text.trimChars s) = some (l, r)) (hl : Quotes l ps) (hr : Quotes r qs) :
    Quotes s (ps ++ qs) where
  spelled := by
    rw [quoteChars_path hcut, hl.spelled, hr.spelled, spell_append hl.ne_nil.1 hr.ne_nil.1]
  texts := by
    rw [List.map_append, hl.texts, hr.texts, ← piecesOf_path, spell_cutAt hcut, piecesOf_trimChars]
  whole p hp := (List.mem_append.mp hp).elim (hl.whole p) (hr.whole p)
  within p hp g hg c hc := mem_of_mem_trimChars (mem_of_cutAt hcut ((List.mem_append.mp hp).imp
    (fun hp => hl.within p hp g hg c hc) fun hp => hr.within p hp g hg c hc))

theorem Quotes.aliased {s l r : List Char} {ps qs : List (List Segment)} (hs : s ≠ ['*'])
    (hcut : cutAt '.' (Text.trimChars s) = none) (ha : cutAlias (Text.trimChars s) = some (l, r))
    (hl : Quotes l ps) (hr : Quotes r qs) : ∃ pieces, Quotes s pieces := by
  have hdot := cutAt_eq_none.mp hcut
  obtain ⟨p, rfl, hp⟩ := hl.eq_singleton fun h => hdot (mem_of_cutAlias ha (Or.inl h))
  obtain ⟨q, rfl, hq⟩ := hr.eq_singleton fun h => hdot (mem_of_cutAlias ha (Or.inr h))
  have hne : p ≠ [] ∧ q ≠ [] :=
    ⟨hl.ne_nil.2 p List.mem_cons_self, hr.ne_nil.2 q List.mem_cons_self⟩
  refine ⟨[p ++ q], ?spelled, ?texts, ?whole, ?within⟩
  case spelled =>
    rw [quoteChars_alias hs hcut ha, hl.spelled, hr.spelled, spell_piece, spell_piece, spell_piece,
      List.map_append, intercalate_append (List.map_eq_nil_iff.not.mpr hne.1)
      (List.map_eq_nil_iff.not.mpr hne.2)]
  case texts =>
    rw [← piecesOf_trimChars, piecesOf_piece hdot, segmentsOf_congr (trimChars_trimChars s),
      segmentsOf_cut ha, ← hp, ← hq, List.map_singleton, List.map_append]
  case whole =>
    intro x hx g hg
    rw [List.mem_singleton.mp hx] at hg
    exact (List.mem_append.mp hg).elim (hl.whole p List.mem_cons_self g)
      (hr.whole q List.mem_cons_self g)
  case within =>
    intro x hx g hg c hc
    rw [List.mem_singleton.mp hx] at hg
    exact mem_of_mem_trimChars (mem_of_cutAlias ha ((List.mem_append.mp hg).imp
      (fun hg => hl.within p List.mem_cons_self g hg c hc)
      fun hg => hr.within q List.mem_cons_self g hg c hc))

theorem quotes_whole {s : List Char} (hs : s ≠ ['*']) (hcut : cutAt '.' (Text.trimChars s) = none)
    (ha : cutAlias (Text.trimChars s) = none) : Quotes s [[.quoted (Text.trimChars s)]] where
  spelled := by
    rw [quoteChars_plain hs hcut ha, spell_piece, List.map_singleton, List.intercalate_singleton,
      Segment.spell]
  texts := by
    rw [← piecesOf_trimChars, piecesOf_piece (cutAt_eq_none.mp hcut),
      segmentsOf_congr (trimChars_trimChars s), segmentsOf_whole ha]
    rfl
  whole := by
    rintro _ (_ | ⟨_, ⟨⟩⟩) _ (_ | ⟨_, ⟨⟩⟩)
    exact ⟨cutAt_eq_none.mp hcut, cutAlias_eq_none.mp ha, tight_trimChars s⟩
  within := by
    rintro _ (_ | ⟨_, ⟨⟩⟩) _ (_ | ⟨_, ⟨⟩⟩) c hc
    exact mem_of_mem_trimChars hc

theorem quotes_quoteChars (s : List Char) : ∃ pieces, Quotes s pieces := by
  induction s using quoteChars.induct with
  | case1 => exact ⟨_, quotes_star⟩
  | case2 s hs t l r hcut ihl ihr =>
    obtain ⟨ps, hl⟩ := ihl
    obtain ⟨qs, hr⟩ := ihr
    exact ⟨_, hl.path hcut hr⟩
  | case3 s hs t hcut l r ha ihl ihr =>
    obtain ⟨ps, hl⟩ := ihl
    obtain ⟨qs, hr⟩ := ihr
    exact hl.aliased hs hcut ha hr
  | case4 s hs t hcut ha => exact ⟨_, quotes_whole hs hcut ha⟩

/-- Quoting never cuts inside a character. What it gives are the pieces of the name with dots between them
and in each piece its segments with alias words between them, each a lone star or a text between backticks
in which nothing is left to be cut or trimmed. Unless there are backticks in the name, it reads as these
names and stars and what stands between them, and as nothing else. -/
theorem quoted_by_segments (name : String) :
    quoteAtBytes name.toList = some (quote name).toList ∧
      ∃ pieces : List (List Segment),
        (quote name).toList = spell pieces ∧
        pieces.map (·.map Segment.text) = piecesOf name.toList ∧
        (pieces ≠ [] ∧ ∀ p ∈ pieces, p ≠ []) ∧
        (∀ p ∈ pieces, ∀ g ∈ p, Whole g.text) ∧
        ('`' ∉ name.toList →
          (∀ p ∈ pieces, ∀ g ∈ p, '`' ∉ g.text) ∧
            Lexeme.tokens (quote name).toList = some (tokens pieces)) := by
  obtain ⟨pieces, h⟩ := quotes_quoteChars name.toList
  rw [quote, String.toList_ofList]
  refine ⟨quoteAtBytes_eq _, pieces, h.spelled, h.texts, h.ne_nil, h.whole, fun hname => ?_⟩
  have htick : ∀ p ∈ pieces, ∀ g ∈ p, '`' ∉ g.text := fun p hp g hg htick =>
    hname (h.within p hp g hg '`' htick)
  refine ⟨htick, ?_⟩
  rw [h.spelled]
  exact (reads_spell htick).tokens

theorem quoted_by_segments_aliased :
    '`' ∉ " user.id AS größe ".toList ∧ quote " user.id AS größe " = "`user`.`id` as `größe`" ∧
      ∃ pieces : List (List Segment),
        (quote " user.id AS größe ").toList = spell pieces ∧
        pieces.map (·.map Segment.text) = [["user".toList], ["id".toList, "größe".toList]] ∧
        (∀ p ∈ pieces, ∀ g ∈ p, '`' ∉ g.text) ∧
        Lexeme.tokens (quote " user.id AS größe ").toList = some (tokens pieces) := by
  have hname : '`' ∉ " user.id AS größe ".toList := by decide
  have hpieces : piecesOf " user.id AS größe ".toList =
      [["user".toList], ["id".toList, "größe".toList]] := by
    decide +kernel
  obtain ⟨-, pieces, hspell, htexts, -, -, hread⟩ := quoted_by_segments " user.id AS größe "
  exact ⟨hname, by decide +kernel, pieces, hspell, htexts.trans hpieces, hread hname⟩

end SqlRecord.Segments

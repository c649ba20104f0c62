import SqlRecord.Literal
import SqlRecord.Name

/-! # The lexemes of a statement

A reader that takes a text apart from the left, knowing nothing of how the text came about: names stand
between backticks, text literals between single quotes with a doubled one for a quote, blob literals
behind an X. `tokens_spell` says that it loses nothing.
-/

namespace SqlRecord.Lexeme

inductive Token
  | name (s : List Char)
  | text (s : List Char)
  | blob (bytes : List UInt8)
  | null
  | mark (c : Char)
  deriving DecidableEq, Repr

/-! ## The reader -/

/-- A text literal without its first quote: what it says, and what is behind it. -/
def cutText : List Char → Option (List Char × List Char)
  | '\'' :: '\'' :: s => (cutText s).map fun (t, r) => ('\'' :: t, r)
  | '\'' :: s => some ([], s)
  | c :: s => (cutText s).map fun (t, r) => (c :: t, r)
  | [] => none

def hexValue (c : Char) : Option Nat :=
  if 48 ≤ c.toNat ∧ c.toNat ≤ 57 then some (c.toNat - 48)
  else if 65 ≤ c.toNat ∧ c.toNat ≤ 70 then some (c.toNat - 55)
  else none

def hexPair (a b : Char) : Option UInt8 := do
  let x ← hexValue a
  let y ← hexValue b
  return UInt8.ofNat (16 * x + y)

/-- A blob literal without its X and first quote: its bytes, and what is behind it. -/
def cutBlob : List Char → Option (List UInt8 × List Char)
  | [] => none
  | ['\''] => some ([], [])
  | [_] => none
  | a :: b :: s =>
    if a = '\'' then some ([], b :: s)
    else
      match hexPair a b with
      | none => none
      | some byte => (cutBlob s).map fun (t, r) => (byte :: t, r)

/-- The first token, and what is behind it. -/
def next : List Char → Option (Token × List Char)
  | [] => none
  | '`' :: s => (Name.cutAt '`' s).map fun (n, r) => (.name n, r)
  | '\'' :: s => (cutText s).map fun (t, r) => (.text t, r)
  | 'X' :: '\'' :: s => (cutBlob s).map fun (t, r) => (.blob t, r)
  | 'n' :: 'u' :: 'l' :: 'l' :: s => some (.null, s)
  | c :: s => some (.mark c, s)

theorem of_map_fst {α β γ : Type} {x : Option (α × γ)} {f : α → β} {u : β} {r : γ}
    (h : (x.map fun (t, r) => (f t, r)) = some (u, r)) : ∃ t, x = some (t, r) ∧ f t = u := by
  obtain ⟨⟨t, r'⟩, hx, e⟩ := Option.map_eq_some_iff.mp h
  cases e
  exact ⟨t, hx, rfl⟩

theorem length_of_cutText {s t r : List Char} (h : cutText s = some (t, r)) : r.length < s.length := by
  induction s using cutText.induct generalizing t with
  | case1 s ih =>
    obtain ⟨t', h', -⟩ := of_map_fst h
    have := ih h'
    simp only [List.length_cons]
    omega
  | case2 s hs =>
    rw [cutText.eq_2 _ hs] at h
    cases h
    simp
  | case3 c s h₁ h₂ ih =>
    rw [cutText.eq_3 _ _ h₁ h₂] at h
    obtain ⟨t', h', -⟩ := of_map_fst h
    have := ih h'
    simp only [List.length_cons]
    omega
  | case4 => cases h

theorem length_of_cutBlob {s r : List Char} {t : List UInt8} (h : cutBlob s = some (t, r)) :
    r.length < s.length := by
  induction s using cutBlob.induct generalizing t with
  | case1 => cases h
  | case2 => cases h; simp
  | case3 c hc => simp [cutBlob] at h
  | case4 b s => simp [cutBlob] at h; simp [← h.2]
  | case5 a b s ha hp => simp [cutBlob, ha, hp] at h
  | case6 a b s ha byte hp ih =>
    simp only [cutBlob, ha, hp, if_false] at h
    obtain ⟨t', h', -⟩ := of_map_fst h
    have := ih h'
    simp only [List.length_cons]
    omega

theorem length_of_next {s r : List Char} {t : Token} (h : next s = some (t, r)) :
    r.length < s.length := by
  unfold next at h
  split at h
  · cases h
  · obtain ⟨n, h', -⟩ := of_map_fst h
    have := Name.length_of_cutAt h'
    simp only [List.length_cons]
    omega
  · obtain ⟨t', h', -⟩ := of_map_fst h
    have := length_of_cutText h'
    simp only [List.length_cons]
    omega
  · obtain ⟨t', h', -⟩ := of_map_fst h
    have := length_of_cutBlob h'
    simp only [List.length_cons]
    omega
  · cases h
    simp only [List.length_cons]
    omega
  · cases h
    simp

/-- All tokens of a text. There are none if a name or literal in it does not end. -/
def tokens (s : List Char) : Option (List Token) :=
  if s = [] then some []
  else
    match _ : next s with
    | none => none
    | some (t, r) => (tokens r).map (t :: ·)
termination_by s.length
decreasing_by exact length_of_next ‹_›

theorem tokens_nil : tokens [] = some [] := by
  rw [tokens]
  rfl

theorem tokens_of_next {s r : List Char} {t : Token} (h : next s = some (t, r)) :
    tokens s = (tokens r).map (t :: ·) := by
  have hs : s ≠ [] := by
    rintro rfl
    cases h
  rw [tokens, if_neg hs]
  split
  · rename_i h'
    rw [h] at h'
    cases h'
  · rename_i h'
    rw [h] at h'
    cases h'
    rfl

/-! ## Nothing is lost -/

def Token.spell : Token → List Char
  | name s => '`' :: s ++ ['`']
  | text s => '\'' :: Literal.doubleQuotes s ++ ['\'']
  | blob bytes => 'X' :: '\'' :: bytes.flatMap Literal.hexByte ++ ['\'']
  | null => "null".toList
  | mark c => [c]

theorem spell_cutAt {c : Char} {s n r : List Char} (h : Name.cutAt c s = some (n, r)) :
    n ++ c :: r = s := by
  induction s generalizing n with
  | nil => cases h
  | cons d s ih =>
    rw [Name.cutAt] at h
    split at h
    · rename_i hd
      cases h
      rw [hd]
      rfl
    · obtain ⟨n', h', rfl⟩ := of_map_fst h
      rw [List.cons_append, ih h']

theorem cutAt_append {c : Char} {l : List Char} (h : c ∉ l) (r : List Char) :
    Name.cutAt c (l ++ c :: r) = some (l, r) := by
  induction l with
  | nil => simp [Name.cutAt]
  | cons d l ih =>
    rw [List.mem_cons, not_or] at h
    rw [List.cons_append, Name.cutAt, if_neg (Ne.symm h.1), ih h.2]
    rfl

theorem cutAt_eq_none {c : Char} {s : List Char} : Name.cutAt c s = none ↔ c ∉ s := by
  induction s with
  | nil => simp [Name.cutAt]
  | cons d s ih =>
    rw [Name.cutAt]
    split
    · rename_i hd
      simp [hd]
    · rename_i hd
      rw [Option.map_eq_none_iff, ih, List.mem_cons, not_or]
      exact (and_iff_right (Ne.symm hd)).symm

theorem spell_cutText {s t r : List Char} (h : cutText s = some (t, r)) :
    Literal.doubleQuotes t ++ '\'' :: r = s := by
  induction s using cutText.induct generalizing t with
  | case1 s ih =>
    obtain ⟨t', h', rfl⟩ := of_map_fst h
    simp [Literal.doubleQuotes, ih h']
  | case2 s hs =>
    rw [cutText.eq_2 _ hs] at h
    cases h
    rfl
  | case3 c s h₁ h₂ ih =>
    rw [cutText.eq_3 _ _ h₁ h₂] at h
    obtain ⟨t', h', rfl⟩ := of_map_fst h
    have hc : c ≠ '\'' := fun hc => h₂ hc
    simp [Literal.doubleQuotes, hc, ih h']
  | case4 => cases h

theorem hexDigit_of_hexValue {c : Char} {x : Nat} (h : hexValue c = some x) :
    Literal.hexDigit x = c ∧ x < 16 := by
  unfold hexValue at h
  split at h
  · cases h
    refine ⟨?_, by omega⟩
    rw [Literal.hexDigit, if_pos (by omega), show 48 + (c.toNat - 48) = c.toNat by omega, Char.ofNat_toNat]
  split at h
  · cases h
    refine ⟨?_, by omega⟩
    rw [Literal.hexDigit, if_neg (by omega), show 55 + (c.toNat - 55) = c.toNat by omega, Char.ofNat_toNat]
  · cases h

theorem hexByte_of_hexPair {a b : Char} {byte : UInt8} (h : hexPair a b = some byte) :
    Literal.hexByte byte = [a, b] := by
  obtain ⟨x, hx, h⟩ := Option.bind_eq_some_iff.mp h
  obtain ⟨y, hy, h⟩ := Option.bind_eq_some_iff.mp h
  cases h
  obtain ⟨ha, hx16⟩ := hexDigit_of_hexValue hx
  obtain ⟨hb, hy16⟩ := hexDigit_of_hexValue hy
  have hn : (UInt8.ofNat (16 * x + y)).toNat = 16 * x + y :=
    UInt8.toNat_ofNat_of_lt' (by show _ < 256; omega)
  rw [Literal.hexByte, hn, show (16 * x + y) / 16 = x by omega, show (16 * x + y) % 16 = y by omega, ha, hb]

theorem spell_cutBlob {s r : List Char} {t : List UInt8} (h : cutBlob s = some (t, r)) :
    t.flatMap Literal.hexByte ++ '\'' :: r = s := by
  induction s using cutBlob.induct generalizing t with
  | case1 => cases h
  | case2 => cases h; rfl
  | case3 c hc => simp [cutBlob] at h
  | case4 b s =>
    simp only [cutBlob, if_true, Option.some.injEq, Prod.mk.injEq] at h
    rw [← h.1, ← h.2]
    rfl
  | case5 a b s ha hp => simp [cutBlob, ha, hp] at h
  | case6 a b s ha byte hp ih =>
    simp only [cutBlob, ha, hp, if_false] at h
    obtain ⟨t', h', rfl⟩ := of_map_fst h
    rw [List.flatMap_cons, hexByte_of_hexPair hp, List.append_assoc, ih h']
    rfl

theorem spell_next {s r : List Char} {t : Token} (h : next s = some (t, r)) : t.spell ++ r = s := by
  unfold next at h
  split at h
  · cases h
  · obtain ⟨n, h', rfl⟩ := of_map_fst h
    simpa [Token.spell] using spell_cutAt h'
  · obtain ⟨t', h', rfl⟩ := of_map_fst h
    simpa [Token.spell] using spell_cutText h'
  · obtain ⟨t', h', rfl⟩ := of_map_fst h
    simpa [Token.spell] using spell_cutBlob h'
  · cases h
    rfl
  · cases h
    rfl

/-- The tokens of a text, written one after the other, are the text. -/
theorem tokens_spell {s : List Char} {ts : List Token} (h : tokens s = some ts) :
    ts.flatMap Token.spell = s := by
  induction s using tokens.induct generalizing ts with
  | case1 =>
    rw [tokens_nil] at h
    cases h
    rfl
  | case2 s hs hn =>
    rw [tokens, if_neg hs] at h
    split at h
    · cases h
    · rename_i h'
      rw [hn] at h'
      cases h'
  | case3 s hs t r hn ih =>
    rw [tokens_of_next hn] at h
    obtain ⟨ts', h', rfl⟩ := Option.map_eq_some_iff.mp h
    rw [List.flatMap_cons, ih h', spell_next hn]

/-! ## Reading in pieces -/

/-- What may follow a piece of a statement without becoming part of its last token. -/
def stops : List Char → Bool
  | [] => true
  | c :: _ => c != '\'' && c != 'u' && c != 'l'

/-- The piece reads as these tokens, and what follows it reads as if it stood alone. -/
def Reads (s : List Char) (ts : List Token) : Prop :=
  ∀ rest, stops rest = true → tokens (s ++ rest) = (tokens rest).map (ts ++ ·)

theorem reads_nil : Reads [] [] := by
  intro rest _
  simp

theorem Reads.tokens {s : List Char} {ts : List Token} (h : Reads s ts) : tokens s = some ts := by
  simpa [tokens_nil] using h [] rfl

theorem Reads.append {a b : List Char} {ts us : List Token} (ha : Reads a ts) (hb : Reads b us)
    (h : stops b = true) : Reads (a ++ b) (ts ++ us) := by
  intro rest hrest
  have hstops : stops (b ++ rest) = true := by
    cases b with
    | nil => exact hrest
    | cons c b => exact h
  rw [List.append_assoc, ha _ hstops, hb _ hrest, Option.map_map]
  simp [Function.comp_def]

def isPlain (c : Char) : Bool :=
  c != '`' && c != '\'' && c != 'X' && c != 'n'

theorem next_of_isPlain {c : Char} (h : isPlain c = true) (s : List Char) :
    next (c :: s) = some (.mark c, s) := by
  simp only [isPlain, Bool.and_eq_true, bne_iff_ne, ne_eq] at h
  obtain ⟨⟨⟨h₁, h₂⟩, h₃⟩, h₄⟩ := h
  unfold next
  split <;> simp_all

theorem reads_cons {c : Char} {s : List Char} {ts : List Token} (h : isPlain c = true)
    (hs : Reads s ts) : Reads (c :: s) (.mark c :: ts) := by
  intro rest hrest
  rw [List.cons_append, tokens_of_next (next_of_isPlain h _), hs rest hrest, Option.map_map]
  rfl

theorem reads_name {s : List Char} (h : '`' ∉ s) : Reads ('`' :: s ++ ['`']) [.name s] := by
  intro rest _
  have hnext : next ('`' :: s ++ ['`'] ++ rest) = some (.name s, rest) := by
    simp [next, cutAt_append h]
  rw [tokens_of_next hnext]
  simp

theorem cutText_doubleQuotes (s : List Char) {rest : List Char} (h : stops rest = true) :
    cutText (Literal.doubleQuotes s ++ '\'' :: rest) = some (s, rest) := by
  induction s with
  | nil =>
    cases rest with
    | nil => rfl
    | cons c rest =>
      have hc : c ≠ '\'' := by
        rintro rfl
        cases h
      rw [Literal.doubleQuotes, List.nil_append, cutText.eq_2]
      rintro s ⟨⟩
      exact hc rfl
  | cons c s ih =>
    by_cases hc : c = '\''
    · subst hc
      simp [Literal.doubleQuotes, cutText, ih]
    · simp only [Literal.doubleQuotes, hc, if_false, List.cons_append]
      rw [cutText.eq_3 _ _ (fun _ hc' => absurd hc' hc) hc, ih]
      rfl

theorem reads_text (s : List Char) :
    Reads ('\'' :: Literal.doubleQuotes s ++ ['\'']) [.text s] := by
  intro rest hrest
  have hnext : next ('\'' :: Literal.doubleQuotes s ++ ['\''] ++ rest) = some (.text s, rest) := by
    simp [next, cutText_doubleQuotes s hrest]
  rw [tokens_of_next hnext]
  simp

theorem hexValue_hexDigit : ∀ n < 16, hexValue (Literal.hexDigit n) = some n := by decide

theorem hexDigit_ne_quote : ∀ n < 16, Literal.hexDigit n ≠ '\'' := by decide

theorem hexPair_hexByte (byte : UInt8) : ∃ a b, Literal.hexByte byte = [a, b] ∧ a ≠ '\'' ∧
    hexPair a b = some byte := by
  have hlt : byte.toNat < 256 := byte.toNat_lt
  refine ⟨_, _, rfl, hexDigit_ne_quote _ (by omega), ?_⟩
  rw [hexPair, hexValue_hexDigit _ (by omega), hexValue_hexDigit _ (by omega)]
  show some (UInt8.ofNat (16 * (byte.toNat / 16) + byte.toNat % 16)) = some byte
  rw [Nat.div_add_mod, UInt8.ofNat_toNat]

theorem cutBlob_hexBytes (bytes : List UInt8) (rest : List Char) :
    cutBlob (bytes.flatMap Literal.hexByte ++ '\'' :: rest) = some (bytes, rest) := by
  induction bytes with
  | nil => cases rest <;> simp [cutBlob]
  | cons byte bytes ih =>
    obtain ⟨a, b, he, ha, hp⟩ := hexPair_hexByte byte
    simp [List.flatMap_cons, he, cutBlob, ha, hp, ih]

theorem reads_blob (bytes : List UInt8) :
    Reads ('X' :: '\'' :: bytes.flatMap Literal.hexByte ++ ['\'']) [.blob bytes] := by
  intro rest _
  have hnext : next ('X' :: '\'' :: bytes.flatMap Literal.hexByte ++ ['\''] ++ rest) =
      some (.blob bytes, rest) := by
    simp [next, cutBlob_hexBytes]
  rw [tokens_of_next hnext]
  simp

/-- The tokens of a text without quotes of any kind: its characters, and the keyword for null. -/
def wordTokens : List Char → List Token
  | 'n' :: 'u' :: 'l' :: 'l' :: s => .null :: wordTokens s
  | c :: s => .mark c :: wordTokens s
  | [] => []

/-- A character that opens no name and no literal. -/
def isUnquoted (c : Char) : Bool :=
  c != '`' && c != '\'' && c != 'X'

/-- Within a word a character that does not begin the keyword for null stands for itself. The keyword does
not come about at the end of the word either, as what follows does not go on with its letters. -/
theorem next_of_isUnquoted {c : Char} {s rest : List Char} (h : isUnquoted c = true)
    (hnull : ∀ s', c = 'n' → s = 'u' :: 'l' :: 'l' :: s' → False) (hrest : stops rest = true) :
    next (c :: s ++ rest) = some (.mark c, s ++ rest) := by
  simp only [isUnquoted, Bool.and_eq_true, bne_iff_ne, ne_eq] at h
  obtain ⟨⟨h₁, h₂⟩, h₃⟩ := h
  unfold next
  split
  case h_5 s' heq =>
    simp only [List.cons_append, List.cons.injEq] at heq
    obtain ⟨hc, heq⟩ := heq
    rcases s with _ | ⟨d, _ | ⟨e, _ | ⟨f, s⟩⟩⟩
    · simp_all [stops]
    · simp_all [stops]
    · simp_all [stops]
    · simp only [List.cons_append, List.cons.injEq] at heq
      obtain ⟨rfl, rfl, rfl, -⟩ := heq
      exact absurd rfl (hnull s hc)
  all_goals simp_all

theorem reads_word {s : List Char} (h : s.all isUnquoted = true) : Reads s (wordTokens s) := by
  induction s using wordTokens.induct with
  | case1 s ih =>
    intro rest hrest
    simp only [List.all_cons, Bool.and_eq_true] at h
    have hnext : next ('n' :: 'u' :: 'l' :: 'l' :: s ++ rest) = some (.null, s ++ rest) := rfl
    rw [wordTokens, tokens_of_next hnext, ih h.2.2.2.2 rest hrest, Option.map_map]
    rfl
  | case2 c s hnull ih =>
    intro rest hrest
    simp only [List.all_cons, Bool.and_eq_true] at h
    rw [wordTokens.eq_2 _ _ hnull, tokens_of_next (next_of_isUnquoted h.1 hnull hrest),
      ih h.2 rest hrest, Option.map_map]
    rfl
  | case3 => exact reads_nil

theorem mem_of_mem_wordTokens {c : Char} {s : List Char} (h : .mark c ∈ wordTokens s) : c ∈ s := by
  induction s using wordTokens.induct with
  | case1 s ih =>
    rcases List.mem_cons.mp h with h | h
    · cases h
    · simp [ih h]
  | case2 d s hnull ih =>
    rw [wordTokens.eq_2 _ _ hnull] at h
    rcases List.mem_cons.mp h with h | h
    · cases h
      exact List.mem_cons_self
    · exact List.mem_cons_of_mem _ (ih h)
  | case3 => cases h

theorem wordTokens_cases (s : List Char) :
    wordTokens s = s.map .mark ∨
      (∀ c ∈ "null".toList, c ∈ s) ∧
        ∃ (w : List Char) (ts : List Token), wordTokens s = w.map .mark ++ .null :: ts := by
  induction s using wordTokens.induct with
  | case1 s ih =>
    exact Or.inr ⟨fun c hc => List.mem_append_left s hc, [], wordTokens s, rfl⟩
  | case2 c s hnull ih =>
    rw [wordTokens.eq_2 _ _ hnull]
    rcases ih with h | ⟨hletters, w, ts, h⟩
    · exact Or.inl (by rw [h, List.map_cons])
    · exact Or.inr ⟨fun d hd => List.mem_cons_of_mem _ (hletters d hd), c :: w, ts,
        by rw [h, List.map_cons, List.cons_append]⟩
  | case3 => exact Or.inl rfl

theorem reads_null : Reads "null".toList [.null] :=
  reads_word (by decide)

end SqlRecord.Lexeme

import SqlRecord.Text.Blank
import SqlRecord.Text.Case

/-! # Names in statements

A name may be a path with dots, and each part may have an alias behind the word "as". Every part is
quoted by itself. -/

namespace SqlRecord.Name

/-- What is before the first `c` and what is after it. -/
def cutAt (c : Char) : List Char → Option (List Char × List Char)
  | [] => none
  | d :: s => if d = c then some ([], s) else (cutAt c s).map fun (l, r) => (d :: l, r)

def aliasWord : List Char :=
  [' ', 'a', 's', ' ']

/-- What is before the first alias word and what is after it, whatever the case of its letters. -/
def cutAlias : List Char → Option (List Char × List Char)
  | [] => none
  | c :: s =>
    if Text.lowerAscii ((c :: s).take 4) = aliasWord then some ([], s.drop 3)
    else (cutAlias s).map fun (l, r) => (c :: l, r)

theorem length_of_cutAt {c : Char} {s l r : List Char} (h : cutAt c s = some (l, r)) :
    l.length + r.length + 1 = s.length := by
  induction s generalizing l with
  | nil => simp [cutAt] at h
  | cons d s ih =>
    simp only [cutAt] at h
    split at h
    · cases h; simp
    · obtain ⟨⟨l', r'⟩, h', e⟩ := Option.map_eq_some_iff.mp h
      cases e
      have := ih h'
      simp only [List.length_cons] at this ⊢
      omega

theorem length_of_cutAlias {s l r : List Char} (h : cutAlias s = some (l, r)) :
    l.length + r.length + 4 = s.length := by
  induction s generalizing l with
  | nil => simp [cutAlias] at h
  | cons d s ih =>
    simp only [cutAlias] at h
    split at h
    · next hw =>
      have hlen := congrArg List.length hw
      simp only [Text.lowerAscii, aliasWord, List.length_map, List.length_take, List.length_cons,
        List.length_nil] at hlen
      cases h
      simp only [List.length_nil, List.length_drop, List.length_cons]
      omega
    · obtain ⟨⟨l', r'⟩, h', e⟩ := Option.map_eq_some_iff.mp h
      cases e
      have := ih h'
      simp only [List.length_cons] at this ⊢
      omega

/-- Quotes a name: a lone star stays, a path is quoted part by part, an alias by itself, and all else
between backticks without the blanks around it. -/
def quoteChars (s : List Char) : List Char :=
  if s = ['*'] then ['*']
  else
    let t := Text.trimChars s
    match _ : cutAt '.' t with
    | some (l, r) => quoteChars l ++ '.' :: quoteChars r
    | none =>
      match _ : cutAlias t with
      | some (l, r) => quoteChars l ++ aliasWord ++ quoteChars r
      | none => '`' :: t ++ ['`']
termination_by s.length
decreasing_by
  all_goals
    have hle := Text.trimChars_length_le s
    first
    | have := length_of_cutAt ‹_›; grind
    | have := length_of_cutAlias ‹_›; grind

/-- Quotes a name. Backticks in it stay as they are, so a name must not come from outside. -/
def quote (name : String) : String :=
  String.ofList (quoteChars name.toList)

end SqlRecord.Name

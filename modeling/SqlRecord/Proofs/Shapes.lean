import SqlRecord.Proofs.Injection
import SqlRecord.Proofs.Operators
import SqlRecord.Proofs.RoundTrip

/-! # Shapes of conditions

The text of one condition is a null check, a comparison with a literal, a list of literals or a comparison of
two columns. The reader here finds out which one, and the texts that are compiled read as what they were made of.
-/

namespace SqlRecord.Shapes

open Builder Lexeme Outline RoundTrip Trim

/-! ## Names -/

/-- A part of a name: one that is quoted, or the star. -/
def isPart : Token → Bool
  | .name _ => true
  | .mark c => c == '*'
  | _ => false

def aliasTokens : List Token :=
  Name.aliasWord.map .mark

/-- What may stand between two parts of a name. -/
def IsJoint (joint : List Token) : Prop :=
  joint = [.mark '.'] ∨ joint = aliasTokens

inductive IsName : List Token → Prop
  | part {t : Token} (h : isPart t = true) : IsName [t]
  | joined {t : Token} {joint n : List Token} (h : isPart t = true) (hjoint : IsJoint joint) (hn : IsName n) :
      IsName (t :: (joint ++ n))

/-- The longest name at the beginning, and what is behind it. -/
def readName : List Token → Option (List Token × List Token)
  | t :: .mark '.' :: ts =>
    if isPart t then (readName ts).map fun (n, r) => (t :: ([.mark '.'] ++ n), r) else none
  | t :: .mark ' ' :: .mark 'a' :: .mark 's' :: .mark ' ' :: ts =>
    if isPart t then (readName ts).map fun (n, r) => (t :: (aliasTokens ++ n), r) else none
  | t :: ts => if isPart t then some ([t], ts) else none
  | [] => none

/-- What may follow a name without becoming part of it. -/
def isNameEnd : List Token → Bool
  | .mark '.' :: _ => false
  | .mark ' ' :: .mark 'a' :: .mark 's' :: .mark ' ' :: _ => false
  | _ => true

theorem IsName.append {a joint b : List Token} (ha : IsName a) (hjoint : IsJoint joint) (hb : IsName b) :
    IsName (a ++ (joint ++ b)) := by
  induction ha with
  | part h =>
    rw [List.singleton_append]
    exact IsName.joined h hjoint hb
  | joined h hjoint' hn ih =>
    rw [List.cons_append, List.append_assoc]
    exact IsName.joined h hjoint' ih

theorem readName_of_not_part {t : Token} (h : isPart t = false) (ts : List Token) : readName (t :: ts) = none := by
  unfold readName
  split <;> rename_i heq <;> cases heq <;> rw [h] <;> rfl

theorem readName_append {n : List Token} (h : IsName n) {rest : List Token} (hrest : isNameEnd rest = true) :
    readName (n ++ rest) = some (n, rest) := by
  induction h with
  | part h =>
    rw [List.singleton_append]
    unfold readName
    split
    · rename_i heq
      cases heq
      cases hrest
    · rename_i heq
      cases heq
      cases hrest
    · rename_i heq
      cases heq
      rw [if_pos h]
    · rename_i heq
      cases heq
  | @joined t joint n h hjoint hn ih =>
    rcases hjoint with rfl | rfl
    · show readName (t :: .mark '.' :: (n ++ rest)) = _
      rw [readName, if_pos h, ih]
      rfl
    · show readName (t :: .mark ' ' :: .mark 'a' :: .mark 's' :: .mark ' ' :: (n ++ rest)) = _
      rw [readName, if_pos h, ih]
      rfl

theorem isName_of_readName {ts n r : List Token} (h : readName ts = some (n, r)) : IsName n ∧ n ++ r = ts := by
  induction ts using readName.induct generalizing n with
  | case1 t ts hpart ih =>
    rw [readName, if_pos hpart] at h
    obtain ⟨n', hn', rfl⟩ := of_map_fst (f := fun n => t :: ([.mark '.'] ++ n)) h
    obtain ⟨hname, htokens⟩ := ih hn'
    exact ⟨.joined hpart (Or.inl rfl) hname, by simp [htokens]⟩
  | case2 t ts hpart =>
    rw [readName, if_neg hpart] at h
    cases h
  | case3 t ts hpart ih =>
    rw [readName, if_pos hpart] at h
    obtain ⟨n', hn', rfl⟩ := of_map_fst (f := fun n => t :: (aliasTokens ++ n)) h
    obtain ⟨hname, htokens⟩ := ih hn'
    exact ⟨.joined hpart (Or.inr rfl) hname, by simp [aliasTokens, Name.aliasWord, htokens]⟩
  | case4 t ts hpart =>
    rw [readName, if_neg hpart] at h
    cases h
  | case5 t ts hdot halias hpart =>
    rw [readName.eq_3 _ _ hdot halias, if_pos hpart] at h
    cases h
    exact ⟨.part hpart, rfl⟩
  | case6 t ts hdot halias hpart =>
    rw [readName_of_not_part (eq_false_of_ne_true hpart)] at h
    cases h
  | case7 => cases h

theorem exists_isName (s : List Char) (h : '`' ∉ s) :
    ∃ ts, Reads (Name.quoteChars s) ts ∧ IsName ts := by
  induction s using Name.quoteChars.induct with
  | case1 =>
    rw [Name.quoteChars_star]
    exact ⟨[.mark '*'], reads_cons rfl reads_nil, .part rfl⟩
  | case2 s hs t l r hcut ihl ihr =>
    have hsub : ∀ c, c ∈ l ∨ c ∈ r → c ∈ s := fun c hc => mem_of_mem_trimChars (Name.mem_of_cutAt hcut hc)
    obtain ⟨a, hreads, ha⟩ := ihl fun hl => h (hsub _ (Or.inl hl))
    obtain ⟨b, hreads', hb⟩ := ihr fun hr => h (hsub _ (Or.inr hr))
    rw [Name.quoteChars_path hcut]
    exact ⟨_, hreads.append (reads_lead (w := ['.']) rfl hreads') rfl, ha.append (Or.inl rfl) hb⟩
  | case3 s hs t hcut l r halias ihl ihr =>
    have hsub : ∀ c, c ∈ l ∨ c ∈ r → c ∈ s := fun c hc => mem_of_mem_trimChars (Name.mem_of_cutAlias halias hc)
    obtain ⟨a, hreads, ha⟩ := ihl fun hl => h (hsub _ (Or.inl hl))
    obtain ⟨b, hreads', hb⟩ := ihr fun hr => h (hsub _ (Or.inr hr))
    rw [Name.quoteChars_alias hs hcut halias, List.append_assoc]
    exact ⟨_, hreads.append (reads_lead (w := Name.aliasWord) rfl hreads') rfl, ha.append (Or.inr rfl) hb⟩
  | case4 s hs t hcut halias =>
    rw [Name.quoteChars_plain hs hcut halias]
    exact ⟨[.name t], reads_name fun ht => h (mem_of_mem_trimChars ht), .part rfl⟩

/-- What a quoted name is read as. -/
def nameTokens (name : String) : List Token :=
  (tokens (Name.quote name).toList).getD []

theorem reads_nameTokens {name : String} (h : Clean name) :
    Reads (Name.quote name).toList (nameTokens name) ∧ IsName (nameTokens name) := by
  obtain ⟨ts, hreads, hname⟩ := exists_isName name.toList h
  have hquote : (Name.quote name).toList = Name.quoteChars name.toList := String.toList_ofList
  rw [← hquote] at hreads
  have htokens : nameTokens name = ts := by rw [nameTokens, hreads.tokens, Option.getD_some]
  rw [htokens]
  exact ⟨hreads, hname⟩

/-! ## Operators -/

/-- A character that goes on with an operator. -/
def isWordChar (c : Char) : Bool :=
  c != '*' && c != '(' && c != ')'

/-- The marks up to what cannot be part of an operator, and what is behind them. -/
def cutWord : List Token → List Char × List Token
  | .mark c :: ts => if isWordChar c then (c :: (cutWord ts).1, (cutWord ts).2) else ([], .mark c :: ts)
  | ts => ([], ts)

/-- The text between two blanks. -/
def between : List Char → Option String
  | ' ' :: w => if w.getLast? = some ' ' then some (String.ofList w.dropLast) else none
  | _ => none

/-- What may follow an operator without becoming part of it. -/
def isWordEnd : List Token → Bool
  | .mark c :: _ => !isWordChar c
  | _ => true

theorem cutWord_append {w : List Char} (hw : ∀ c ∈ w, isWordChar c = true) {rest : List Token}
    (hrest : isWordEnd rest = true) : cutWord (w.map .mark ++ rest) = (w, rest) := by
  induction w with
  | nil =>
    rcases rest with _ | ⟨t, ts⟩
    · rfl
    cases t with
    | mark c =>
      have hc : isWordChar c = false := by simpa [isWordEnd] using hrest
      rw [List.map_nil, List.nil_append, cutWord, hc]
      rfl
    | _ => rfl
  | cons c w ih =>
    have hc := hw c List.mem_cons_self
    rw [List.map_cons, List.cons_append, cutWord, if_pos hc, ih fun d hd => hw d (List.mem_cons_of_mem _ hd)]

theorem append_cutWord (ts : List Token) : (cutWord ts).1.map .mark ++ (cutWord ts).2 = ts := by
  induction ts using cutWord.induct with
  | case1 c ts hc ih =>
    rw [cutWord, if_pos hc, List.map_cons, List.cons_append, ih]
  | case2 c ts hc =>
    rw [cutWord, if_neg hc]
    rfl
  | case3 ts hts =>
    rw [cutWord.eq_2 _ hts]
    rfl

theorem between_blanks (w : List Char) : between (' ' :: (w ++ [' '])) = some (String.ofList w) := by
  simp [between]

theorem eq_of_between {w : List Char} {op : String} (h : between w = some op) :
    w = (" " ++ op ++ " ").toList := by
  unfold between at h
  split at h
  · rename_i w
    split at h
    · rename_i hlast
      cases h
      obtain ⟨v, rfl⟩ := List.getLast?_eq_some_iff.mp hlast
      simp
    · cases h
  · cases h

/-- An operator that checks for null. -/
def checksNull (op : String) : Bool :=
  Text.lower op = Condition.nullOperator false ∨ Text.lower op = Condition.nullOperator true

/-- An operator that stands between two sides: the spelling knows it, and it asks for no null and no list. -/
def isComparison (s : Spelling) (op : String) : Bool :=
  !s.isUnknown op && !checksNull op && !Dialect.wantsList op

theorem checksNull_iff {op : String} :
    checksNull op = true ↔ ∃ negated, Text.lower op = Condition.nullOperator negated := by
  simp [checksNull]

theorem wantsList_iff {op : String} :
    Dialect.wantsList op = true ↔ ∃ negated, Text.lower op = Condition.listOperator negated := by
  simp [Dialect.wantsList]

theorem isComparison_iff {s : Spelling} {op : String} :
    isComparison s op = true ↔ s.isUnknown op = false ∧ checksNull op = false ∧ Dialect.wantsList op = false := by
  simp [isComparison, and_assoc]

/-! ## The reader -/

/-- What is tested, and what it is tested for. -/
inductive Shape
  | nullCheck (negated : Bool) (name : List Token)
  | compare (name : List Token) (operator : String) (literal : Token)
  | membership (negated : Bool) (name : List Token) (literals : List Token)
  | columns (first : List Token) (operator : String) (second : List Token)
  deriving DecidableEq, Repr

def literal? : Token → Option Token
  | .text s => some (.text s)
  | .blob bytes => some (.blob bytes)
  | .null => some .null
  | _ => none

/-- Literals with commas between them up to a closing parenthesis that nothing follows. There may be none. -/
def readMembers (ts : List Token) : Option (List Token) :=
  if ts = [.mark ')'] then some []
  else
    match readList literal? ts with
    | some (literals, []) => some literals
    | _ => none

/-- Which of two words it is, the negated one or the other. -/
def negation? (plain negated word : String) : Option Bool :=
  if word = plain then some false else if word = negated then some true else none

/-- What is behind a name and a word. -/
def readOperand (s : Spelling) (name : List Token) (word : String) : List Token → Option Shape
  | [.null] => (negation? "is" "is not" word).map fun negated => .nullCheck negated name
  | .mark '(' :: ts => do
    let negated ← negation? (Condition.listOperator false) (Condition.listOperator true) word
    return .membership negated name (← readMembers ts)
  | [.text t] => if isComparison s word then some (.compare name word (.text t)) else none
  | [.blob bytes] => if isComparison s word then some (.compare name word (.blob bytes)) else none
  | ts =>
    match readName ts with
    | some (second, []) => if isComparison s word then some (.columns name word second) else none
    | _ => none

/-- The shape of a text, if it is the text of one condition. -/
def Shape.read (s : Spelling) (text : String) : Option Shape := do
  let (name, ts) ← readName (← tokens text.toList)
  readOperand s name (← between (cutWord ts).1) (cutWord ts).2

/-! ## Nothing is lost -/

theorem eq_of_literal {t u : Token} (h : literal? t = some u) : u = t := by
  unfold literal? at h
  split at h <;> cases h <;> rfl

theorem listTokens_of_readList {ts xs rest : List Token} (h : readList literal? ts = some (xs, rest)) :
    xs ≠ [] ∧ (∀ t ∈ xs, literal? t = some t) ∧ listTokens xs ++ .mark ')' :: rest = ts := by
  induction ts using readList.induct generalizing xs with
  | case1 t ts ih =>
    rw [readList] at h
    obtain ⟨a, ha, h⟩ := Option.bind_eq_some_iff.mp h
    obtain ⟨⟨as, rest'⟩, has, h⟩ := Option.bind_eq_some_iff.mp h
    cases h
    obtain rfl := eq_of_literal ha
    obtain ⟨hne, hall, htokens⟩ := ih has
    obtain ⟨b, bs, rfl⟩ := List.exists_cons_of_ne_nil hne
    refine ⟨List.cons_ne_nil _ _, List.forall_mem_cons.mpr ⟨ha, hall⟩, ?_⟩
    rw [listTokens, List.cons_append, List.cons_append, List.cons_append, htokens]
  | case2 t rest' =>
    rw [readList] at h
    obtain ⟨a, ha, h⟩ := Option.map_eq_some_iff.mp h
    cases h
    obtain rfl := eq_of_literal ha
    exact ⟨List.cons_ne_nil _ _, List.forall_mem_singleton.mpr ha, rfl⟩
  | case3 ts h₁ h₂ =>
    rw [readList.eq_3 _ _ h₁ h₂] at h
    cases h

theorem listTokens_of_readMembers {ts xs : List Token} (h : readMembers ts = some xs) :
    (∀ t ∈ xs, literal? t = some t) ∧ listTokens xs ++ [.mark ')'] = ts := by
  unfold readMembers at h
  split at h
  · rename_i hnone
    cases h
    exact ⟨List.forall_mem_nil _, hnone.symm⟩
  · split at h
    · rename_i hlist
      cases h
      exact (listTokens_of_readList hlist).2
    · cases h

theorem eq_of_negation {plain negated word : String} {b : Bool} (h : negation? plain negated word = some b) :
    word = if b then negated else plain := by
  unfold negation? at h
  split at h
  · rename_i hword
    cases h
    exact hword
  · split at h
    · rename_i hword
      cases h
      exact hword
    · cases h

/-- A literal that is something. -/
def isOperand : Token → Bool
  | .text _ => true
  | .blob _ => true
  | _ => false

/-- A shape of names, literals and operators that compare. -/
def Shape.WellFormed (s : Spelling) : Shape → Prop
  | nullCheck _ n => IsName n
  | compare n op t => IsName n ∧ isComparison s op = true ∧ isOperand t = true
  | membership _ n ts => IsName n ∧ ∀ t ∈ ts, literal? t = some t
  | columns n op m => IsName n ∧ isComparison s op = true ∧ IsName m

/-- What a shape consists of behind its name. -/
def Shape.operand : Shape → List Token
  | nullCheck negated _ => (if negated then " is not " else " is ").toList.map .mark ++ [.null]
  | compare _ op t => (" " ++ op ++ " ").toList.map .mark ++ [t]
  | membership negated _ ts =>
    (" " ++ Condition.listOperator negated ++ " (").toList.map .mark ++ (listTokens ts ++ [.mark ')'])
  | columns _ op m => (" " ++ op ++ " ").toList.map .mark ++ m

def Shape.name : Shape → List Token
  | nullCheck _ n => n
  | compare n _ _ => n
  | membership _ n _ => n
  | columns n _ _ => n

theorem readOperand_sound {s : Spelling} {n : List Token} (hn : IsName n) {word : String} {ts : List Token}
    {shape : Shape} (h : readOperand s n word ts = some shape) :
    shape.WellFormed s ∧ shape.name = n ∧ shape.operand = (" " ++ word ++ " ").toList.map .mark ++ ts := by
  unfold readOperand at h
  split at h
  · obtain ⟨negated, hword, rfl⟩ := Option.map_eq_some_iff.mp h
    rw [eq_of_negation hword]
    refine ⟨hn, rfl, ?_⟩
    cases negated <;> rfl
  · obtain ⟨negated, hword, h⟩ := Option.bind_eq_some_iff.mp h
    obtain ⟨xs, hxs, h⟩ := Option.bind_eq_some_iff.mp h
    cases h
    obtain ⟨hall, htokens⟩ := listTokens_of_readMembers hxs
    rw [eq_of_negation hword, ← htokens]
    refine ⟨⟨hn, hall⟩, rfl, ?_⟩
    cases negated <;> rfl
  · obtain ⟨hword, hshape⟩ := Option.ite_none_right_eq_some.mp h
    cases hshape
    exact ⟨⟨hn, hword, rfl⟩, rfl, rfl⟩
  · obtain ⟨hword, hshape⟩ := Option.ite_none_right_eq_some.mp h
    cases hshape
    exact ⟨⟨hn, hword, rfl⟩, rfl, rfl⟩
  · split at h
    · rename_i second hsecond
      obtain ⟨hword, hshape⟩ := Option.ite_none_right_eq_some.mp h
      cases hshape
      obtain ⟨hname, htokens⟩ := isName_of_readName hsecond
      rw [← htokens, List.append_nil]
      exact ⟨⟨hn, hword, hname⟩, rfl, rfl⟩
    · cases h

theorem read_sound {s : Spelling} {text : String} {shape : Shape} (h : Shape.read s text = some shape) :
    shape.WellFormed s ∧ (shape.name ++ shape.operand).flatMap Token.spell = text.toList := by
  unfold Shape.read at h
  obtain ⟨ts, htokens, h⟩ := Option.bind_eq_some_iff.mp h
  obtain ⟨⟨n, rest⟩, hname, h⟩ := Option.bind_eq_some_iff.mp h
  obtain ⟨word, hword, h⟩ := Option.bind_eq_some_iff.mp h
  obtain ⟨hn, hts⟩ := isName_of_readName hname
  obtain ⟨hwell, hshape, hoperand⟩ := readOperand_sound hn h
  refine ⟨hwell, ?_⟩
  rw [hshape, hoperand, ← eq_of_between hword, append_cutWord, hts]
  exact tokens_spell htokens

/-! ## Reading what is compiled -/

theorem isNameEnd_blank {t : Token} (h : t ≠ .mark 'a') (ts : List Token) :
    isNameEnd (.mark ' ' :: t :: ts) = true := by
  unfold isNameEnd
  split
  · rename_i heq
    cases heq
  · rename_i heq
    cases heq
    exact absurd rfl h
  · rfl

theorem isWordEnd_of_readName {ts : List Token} {x : List Token × List Token} (h : readName ts = some x) :
    isWordEnd ts = true := by
  rcases ts with _ | ⟨t, ts⟩
  · rfl
  cases t with
  | mark c =>
    by_cases hc : c = '*'
    · subst hc
      rfl
    · rw [readName_of_not_part (by simpa [isPart] using hc)] at h
      cases h
  | _ => rfl

section

variable {s : Spelling} {name word : String} (n : List Token)

theorem readOperand_literal {v : Value} (h : v.isNull = false) :
    readOperand s n word [literalToken v.stored] =
      if isComparison s word then some (.compare n word (literalToken v.stored)) else none := by
  cases v with
  | null => cases h
  | _ => rfl

theorem readOperand_name {ts second : List Token} (h : readName ts = some (second, [])) :
    readOperand s n word ts = if isComparison s word then some (.columns n word second) else none := by
  unfold readOperand
  split
  · cases h
  · rw [readName_of_not_part rfl] at h
    cases h
  · cases h
  · cases h
  · simp only [h]

theorem readOperand_null (t : Token) (ts : List Token) : readOperand s n word (.null :: t :: ts) = none := by
  have hname : readName (.null :: t :: ts) = none := readName_of_not_part rfl _
  simp only [readOperand, hname]

theorem readMembers_listTokens (vs : List Value) :
    readMembers (listTokens (vs.map fun v => literalToken v.stored) ++ [.mark ')']) =
      some (vs.map fun v => literalToken v.stored) := by
  cases vs with
  | nil => rfl
  | cons v vs =>
    have hliteral : ∀ x ∈ v :: vs, literal? (literalToken x.stored) = some (literalToken x.stored) := by
      intro x _
      cases x <;> rfl
    have hread := readList_listTokens literal? (fun v => literalToken v.stored) (fun v => literalToken v.stored)
      hliteral (List.cons_ne_nil v vs) []
    have hsome : listTokens ((v :: vs).map fun v => literalToken v.stored) ++ [.mark ')'] ≠ [.mark ')'] := by
      intro hnil
      rw [List.append_left_eq_self.mp hnil] at hread
      cases hread
    rw [readMembers, if_neg hsome, hread]

theorem readOperand_list (negated : Bool) (vs : List Value) :
    readOperand s n (Condition.listOperator negated)
        (.mark '(' :: (listTokens (vs.map fun v => literalToken v.stored) ++ [.mark ')'])) =
      some (.membership negated n (vs.map fun v => literalToken v.stored)) := by
  cases negated <;> simp [readOperand, negation?, Condition.listOperator, readMembers_listTokens]

omit n

theorem read_of_reads (hname : Clean name) {text : String} {ts : List Token} (hreads : Reads text.toList ts)
    (hstops : stops text.toList = true) (hend : isNameEnd ts = true) :
    Shape.read s (Name.quote name ++ text) =
      (between (cutWord ts).1).bind fun word => readOperand s (nameTokens name) word (cutWord ts).2 := by
  obtain ⟨hquoted, hisName⟩ := reads_nameTokens hname
  have htokens : tokens (Name.quote name ++ text).toList = some (nameTokens name ++ ts) := by
    rw [String.toList_append]
    exact (hquoted.append hreads hstops).tokens
  unfold Shape.read
  rw [htokens]
  show (readName (nameTokens name ++ ts) >>= _) = _
  rw [readName_append hisName hend]
  rfl

/-- What opens a name, a literal, a list or an alias word, and what ends a list. -/
def foreign : List Char :=
  ['`', '\'', 'X', '*', '(', ')', 'a']

theorem of_not_foreign {c : Char} (h : c ∉ foreign) : isUnquoted c = true ∧ isWordChar c = true ∧ c ≠ 'a' := by
  simp only [foreign, List.mem_cons, List.not_mem_nil, or_false, not_or] at h
  obtain ⟨htick, hquote, hx, hstar, hopen, hclose, ha⟩ := h
  simp [isUnquoted, isWordChar, htick, hquote, hx, hstar, hopen, hclose, ha]

theorem cutWord_operator {op : List Char} (hop : ∀ c ∈ op, isWordChar c = true) {ts : List Token}
    (hend : isWordEnd ts = true) :
    cutWord (wordTokens op ++ .mark ' ' :: ts) = (op ++ [' '], ts) ∨
      'u' ∈ op ∧ ∃ w t us, cutWord (wordTokens op ++ .mark ' ' :: ts) = (w, .null :: t :: us) := by
  rcases wordTokens_cases op with hword | ⟨hletters, w, us, hword⟩
  · have hmarks : wordTokens op ++ .mark ' ' :: ts = (op ++ [' ']).map Token.mark ++ ts := by simp [hword]
    have hall : ∀ c ∈ op ++ [' '], isWordChar c = true :=
      List.forall_mem_append.mpr ⟨hop, List.forall_mem_singleton.mpr rfl⟩
    rw [hmarks, cutWord_append hall hend]
    exact Or.inl rfl
  · obtain ⟨t, rest, hrest⟩ := List.exists_cons_of_ne_nil (l := us ++ .mark ' ' :: ts) (by simp)
    have hmarks : wordTokens op ++ .mark ' ' :: ts = w.map Token.mark ++ .null :: t :: rest := by
      rw [hword, List.append_assoc, List.cons_append, hrest]
    have hall : ∀ c ∈ w, isWordChar c = true := by
      intro c hc
      apply hop c (mem_of_mem_wordTokens _)
      rw [hword]
      exact List.mem_append_left _ (List.mem_map_of_mem hc)
    rw [hmarks, cutWord_append hall rfl]
    exact Or.inr ⟨hletters 'u' (by decide), w, t, rest, rfl⟩

theorem read_compared (hname : Clean name) {op : String} (hop : ∀ c ∈ op.toList, c ∉ foreign)
    (hnull : isComparison s op = true → 'u' ∉ op.toList) {text : String} {ts : List Token}
    (hreads : Reads text.toList ts) (hend : isWordEnd ts = true) {f : List Token → Shape}
    (hoperand : ∀ n, readOperand s n op ts = if isComparison s op then some (f n) else none) :
    Shape.read s (Name.quote name ++ " " ++ op ++ " " ++ text) =
      if isComparison s op then some (f (nameTokens name)) else none := by
  have hchars : ∀ c ∈ op.toList, isUnquoted c = true ∧ isWordChar c = true ∧ c ≠ 'a' :=
    fun c hc => of_not_foreign (hop c hc)
  have hword : Reads op.toList (wordTokens op.toList) :=
    reads_word (List.all_eq_true.mpr fun c hc => (hchars c hc).1)
  have hall : Reads (" " ++ (op ++ (" " ++ text))).toList
      (.mark ' ' :: (wordTokens op.toList ++ .mark ' ' :: ts)) := by
    have h := reads_cons (c := ' ') rfl (hword.append (reads_cons (c := ' ') rfl hreads) rfl)
    simpa using h
  have hends : isNameEnd (.mark ' ' :: (wordTokens op.toList ++ .mark ' ' :: ts)) = true := by
    cases htokens : wordTokens op.toList with
    | nil => exact isNameEnd_blank (by simp) ts
    | cons t us =>
      apply isNameEnd_blank
      rintro rfl
      exact (hchars 'a' (mem_of_mem_wordTokens (htokens ▸ List.mem_cons_self))).2.2 rfl
  have hstops : stops (" " ++ (op ++ (" " ++ text))).toList = true := by simp [stops]
  have hblank : isWordChar ' ' = true := rfl
  rw [String.append_assoc, String.append_assoc, String.append_assoc, read_of_reads hname hall hstops hends,
    cutWord, if_pos hblank]
  rcases cutWord_operator (fun c hc => (hchars c hc).2.1) hend with hcut | ⟨hu, w, t, us, hcut⟩
  · rw [hcut, between_blanks, String.ofList_toList]
    exact hoperand _
  · have hno : isComparison s op = false := by
      by_contra hyes
      exact hnull (eq_true_of_ne_false hyes) hu
    rw [hcut, hno, if_neg Bool.false_ne_true]
    simp only [readOperand_null]
    cases between (' ' :: w) <;> rfl

theorem read_listed (hname : Clean name) (negated : Bool) {text : String} {ts : List Token}
    (hreads : Reads text.toList ts) :
    Shape.read s (Name.quote name ++ (" " ++ Condition.listOperator negated ++ " (" ++ text)) =
      readOperand s (nameTokens name) (Condition.listOperator negated) (.mark '(' :: ts) := by
  have hlead : isLead (" " ++ Condition.listOperator negated ++ " (").toList = true := by
    cases negated <;> rfl
  have hall := reads_lead hlead hreads
  rw [← String.toList_append] at hall
  have hstops : stops (" " ++ Condition.listOperator negated ++ " (" ++ text).toList = true := by simp [stops]
  have hend : isNameEnd ((" " ++ Condition.listOperator negated ++ " (").toList.map .mark ++ ts) = true := by
    cases negated <;> rfl
  have hcut : cutWord ((" " ++ Condition.listOperator negated ++ " (").toList.map .mark ++ ts) =
      (' ' :: ((Condition.listOperator negated).toList ++ [' ']), .mark '(' :: ts) := by
    cases negated <;> rfl
  rw [read_of_reads hname hall hstops hend, hcut, between_blanks, String.ofList_toList, Option.bind_some]

end

end SqlRecord.Shapes

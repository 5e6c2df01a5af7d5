import MarketHistory.Json.Parser
import MarketHistory.Json.Printer
import MarketHistory.Proofs.Text.Digits

/-!
# Written JSON

The text of a value is cut into its tokens (`Json.tokens_chars`), and these are put together to the
value again, so that the text reads back as the value (`Json.parse?_text`). This holds of the values
without numbers in scientific notation and without halves of surrogate pairs (`Json.IsPlain`).
-/

namespace MarketHistory.Json

open Text

/-! ### Tokens of a value -/

mutual

/-- The tokens of a value. -/
def tokensOf : Json → List Token
  | array items    => .beginArray :: itemsTokens items
  | object members => .beginObject :: membersTokens members
  | j              => [.simple j]

/-- The tokens of the items of an array up to its end. -/
def itemsTokens : List Json → List Token
  | []      => [.endArray]
  | [j]     => tokensOf j ++ [.endArray]
  | j :: js => tokensOf j ++ .comma :: itemsTokens js

/-- The tokens of the members of an object up to its end. -/
def membersTokens : List (String × Json) → List Token
  | []           => [.endObject]
  | [(k, j)]     => .simple (string k) :: .colon :: tokensOf j ++ [.endObject]
  | (k, j) :: ms => .simple (string k) :: .colon :: tokensOf j ++ .comma :: membersTokens ms

end

lemma itemsTokens_cons_cons (j j' : Json) (js : List Json) :
    itemsTokens (j :: j' :: js) = tokensOf j ++ .comma :: itemsTokens (j' :: js) := by
  rw [itemsTokens]
  simp

lemma membersTokens_cons_cons (k : String) (j : Json) (m : String × Json)
    (ms : List (String × Json)) :
    membersTokens ((k, j) :: m :: ms) =
      .simple (string k) :: .colon :: tokensOf j ++ .comma :: membersTokens (m :: ms) := by
  rw [membersTokens]
  simp

mutual

/-- Whether a value has neither numbers in scientific notation nor halves of surrogate pairs. -/
def IsPlain : Json → Prop
  | real _         => False
  | unpaired       => False
  | array items    => AreItemsPlain items
  | object members => AreMembersPlain members
  | _              => True

def AreItemsPlain : List Json → Prop
  | []      => True
  | j :: js => IsPlain j ∧ AreItemsPlain js

def AreMembersPlain : List (String × Json) → Prop
  | []           => True
  | (_, j) :: ms => IsPlain j ∧ AreMembersPlain ms

end

/-! ### Putting tokens together -/

variable {ts : List Token} {fs : List Frame}

/-- The first item of an array is read like any value in it. -/
lemma run_firstItem_tokensOf (j : Json) :
    run (tokensOf j ++ ts) .firstItem fs = run (tokensOf j ++ ts) .value (.array [] :: fs) := by
  cases j <;> simp [tokensOf, run]

lemma run_firstItem_itemsTokens (j : Json) (js : List Json) :
    run (itemsTokens (j :: js) ++ ts) .firstItem fs =
      run (itemsTokens (j :: js) ++ ts) .value (.array [] :: fs) := by
  cases js with
  | nil => rw [itemsTokens, List.append_assoc, run_firstItem_tokensOf]
  | cons j' js =>
    rw [itemsTokens, List.append_assoc, run_firstItem_tokensOf]
    simp

/-- The first key of an object is read like any other. -/
lemma run_firstKey_membersTokens (k : String) (j : Json) (ms : List (String × Json)) :
    run (membersTokens ((k, j) :: ms) ++ ts) .firstKey fs =
      run (membersTokens ((k, j) :: ms) ++ ts) (.key []) fs := by
  cases ms <;> simp [membersTokens, run]

/-- The members of an object that is still open, each with its key. -/
def keyed (members : List (String × Json)) : Members := members.map fun m => (some m.1, m.2)

lemma ofMembers_keyed (members : List (String × Json)) :
    ofMembers (keyed members) = object members := by
  have h : (keyed members).mapM (fun (m : Option String × Json) => m.1.map (·, m.2)) =
      some members := by
    induction members with
    | nil => rfl
    | cons m members ih =>
      rw [keyed] at ih
      simp [keyed, ih]
  unfold ofMembers
  simp only [h]

mutual

/-- The tokens of a value are put together to it. -/
lemma run_tokensOf (j : Json) (ts : List Token) (fs : List Frame) :
    run (tokensOf j ++ ts) .value fs = run ts (.after j) fs := by
  match j with
  | array []              => simp [tokensOf, itemsTokens, run]
  | array (j :: js)       =>
    have hitems := run_itemsTokens (j :: js) (List.cons_ne_nil _ _) [] ts fs
    rw [tokensOf, List.cons_append, run, run_firstItem_itemsTokens, hitems]
    rfl
  | object []             => simp [tokensOf, membersTokens, run]
  | object ((k, j) :: ms) =>
    have hmembers := run_membersTokens ((k, j) :: ms) (List.cons_ne_nil _ _) [] ts fs
    rw [tokensOf, List.cons_append, run, run_firstKey_membersTokens]
    exact hmembers
  | null | bool _ | integer _ | real _ | string _ | unpaired => simp [tokensOf, run]
termination_by sizeOf j

/-- The tokens of items are put together behind those that came before. -/
lemma run_itemsTokens (items : List Json) (hne : items ≠ []) (before : List Json)
    (ts : List Token) (fs : List Frame) :
    run (itemsTokens items ++ ts) .value (.array before :: fs) =
      run ts (.after (array (before.reverse ++ items))) fs := by
  match items with
  | []            => exact absurd rfl hne
  | [j]           =>
    rw [itemsTokens, List.append_assoc, run_tokensOf j, List.singleton_append, run]
  | j :: j' :: js =>
    rw [itemsTokens, List.append_assoc, run_tokensOf j, List.cons_append, run,
      run_itemsTokens (j' :: js) (List.cons_ne_nil _ _)]
    · simp
    · simp
termination_by sizeOf items

/-- The tokens of members are put together behind those that came before. -/
lemma run_membersTokens (members : List (String × Json)) (hne : members ≠ [])
    (before : List (String × Json)) (ts : List Token) (fs : List Frame) :
    run (membersTokens members ++ ts) (.key (keyed before)) fs =
      run ts (.after (object (before.reverse ++ members))) fs := by
  match members with
  | []                       => exact absurd rfl hne
  | [(k, j)]                 =>
    rw [membersTokens]
    simp only [List.cons_append, List.append_assoc, run]
    rw [run_tokensOf j, run, ← ofMembers_keyed]
    simp [keyed]
  | (k, j) :: (k', j') :: ms =>
    rw [membersTokens]
    simp only [List.cons_append, List.append_assoc, run]
    · rw [run_tokensOf j, run]
      have hrest :=
        run_membersTokens ((k', j') :: ms) (List.cons_ne_nil _ _) ((k, j) :: before) ts fs
      simpa [keyed] using hrest
    · simp
termination_by sizeOf members

end

/-! ### Strings -/

lemma hexValue?_hexChar {n : Nat} (h : n < 16) : hexValue? (hexChar n) = some n := by
  have hall : ∀ n < 16, hexValue? (hexChar n) = some n := by decide
  exact hall n h

/-- A character of a string reads as its code. -/
lemma readString_charText (c : Char) (s : List Char) :
    readString (charText c ++ s) = (readString s).map fun p => (c.toNat :: p.1, p.2) := by
  rw [charText]
  split
  next hquote =>
    subst hquote
    cases h : readString s <;> simp [readString, escapeCode?, h]
  next hquote =>
    split
    next hbackslash =>
      subst hbackslash
      cases h : readString s <;> simp [readString, escapeCode?, h]
    next hbackslash =>
      split
      next hcontrol =>
        have hcode : hexNumber? '0' '0' (hexChar (c.toNat / 16)) (hexChar (c.toNat % 16)) =
            some c.toNat := by
          have hzero : hexValue? '0' = some 0 := rfl
          simp only [hexNumber?, hzero, hexValue?_hexChar (n := c.toNat / 16) (by omega),
            hexValue?_hexChar (n := c.toNat % 16) (by omega), Option.bind_eq_bind,
            Option.bind_some, Option.pure_def]
          congr 1
          omega
        cases h : readString s <;> simp [readString, hcode, h]
      next hcontrol =>
        cases h : readString s <;> simp [readString, hbackslash, hcontrol, h]

lemma readString_chars (s rest : List Char) :
    readString (s.flatMap charText ++ '"' :: rest) = some (s.map Char.toNat, rest) := by
  induction s with
  | nil => rfl
  | cons c s ih =>
    rw [List.flatMap_cons, List.append_assoc, readString_charText, ih]
    rfl

/-- The codes of characters are no halves of surrogate pairs. -/
lemma pairCodes_toNat (s : List Char) : pairCodes (s.map Char.toNat) = some s := by
  have hvalid (c : Char) : c.toNat < 0xD800 ∨ 0xDFFF < c.toNat :=
    c.valid.imp_right And.left
  induction s with
  | nil => rfl
  | cons c s ih =>
    have hc := hvalid c
    cases s with
    | nil =>
      rw [List.map_singleton, pairCodes, if_neg (by omega), Char.ofNat_toNat]
    | cons d s =>
      rw [List.map_cons, List.map_cons, pairCodes, if_neg (by omega), if_neg (by omega),
        ← List.map_cons, ih, Char.ofNat_toNat]
      rfl

/-- The text of a string in quotes is one token. -/
lemma readSimple_stringText (s : String) (rest : List Char) :
    readSimple '"' (s.toList.flatMap charText ++ '"' :: rest) = some (string s, rest) := by
  have hcodes : ofCodes (s.toList.map Char.toNat) = string s := by
    simp only [ofCodes, pairCodes_toNat, String.ofList_toList]
  rw [readSimple, if_pos rfl, readString_chars, Option.map_some]
  exact congrArg (fun j => some (j, rest)) hcodes

/-! ### Numbers and words -/

/-- Whether a text goes on after a value as in an array or object, or ends. -/
def Ends (s : List Char) : Prop := ∀ c ∈ s.head?, c = ',' ∨ c = ']' ∨ c = '}'

lemma ends_nil : Ends [] := fun _ h => nomatch h

lemma ends_cons {c : Char} {s : List Char} (h : c = ',' ∨ c = ']' ∨ c = '}') :
    Ends (c :: s) := by
  rintro d ⟨⟩
  exact h

lemma Ends.noDigit {s : List Char} (h : Ends s) : NoDigit s := by
  intro c hc
  rcases h c hc with rfl | rfl | rfl <;> decide

lemma readUnsigned_digits (negative : Bool) (n : Nat) {rest : List Char} (h : Ends rest) :
    readUnsigned negative (digits n ++ rest) =
      some (ofNumberParts negative (digits n) none none, rest) := by
  have hwhole : readWhole (digits n ++ rest) = some (digits n, rest) := by
    have hdigit : ∀ c ∈ digits n, isDigit c := fun c hc => isDigit_of_mem_digits hc
    unfold readWhole
    split
    next after heq =>
      obtain ⟨c, ds, hcons⟩ := List.exists_cons_of_ne_nil (digits_ne_nil n)
      rw [hcons, List.cons_append] at heq
      obtain ⟨rfl, rfl⟩ := List.cons.inj heq
      rw [hcons, eq_nil_of_digits_eq_zero_cons hcons]
      rfl
    next =>
      simp [spanDigits, takeWhile_of_head hdigit h.noDigit, dropWhile_of_head hdigit h.noDigit,
        digits_ne_nil]
  have hfraction : readFraction rest = some (none, rest) := by
    unfold readFraction
    split
    next => exact absurd (h '.' rfl) (by decide)
    next => rfl
  have hexponent : readExponent rest = some (none, rest) := by
    unfold readExponent
    split
    next c after =>
      have hc := h c rfl
      rw [if_neg]
      rcases hc with rfl | rfl | rfl <;> decide
    next => rfl
  simp [readUnsigned, hwhole, hfraction, hexponent]

lemma ofNumberParts_digits {negative : Bool} {n : Nat} (h : negative = true → n ≠ 0) :
    ofNumberParts negative (digits n) none none =
      integer (if negative then -(n : Int) else n) := by
  simp only [ofNumberParts, ofDigits_digits]
  rw [if_neg fun hzero => h hzero.1 hzero.2]


/-! ### Cutting a text into tokens -/

lemma tokens_mark {c : Char} {t : Token} (hspace : isSpace c = false) (hmark : mark? c = some t)
    (s : List Char) : tokens (c :: s) = (tokens s).map (t :: ·) := by
  rw [tokens, if_neg (by simp [hspace]), hmark]

lemma tokens_simple {c : Char} {s after : List Char} {j : Json} (hspace : isSpace c = false)
    (hmark : mark? c = none) (h : readSimple c s = some (j, after)) :
    tokens (c :: s) = (tokens after).map (.simple j :: ·) := by
  rw [tokens, if_neg (by simp [hspace]), hmark]
  dsimp only
  split
  next hnone => cases h.symm.trans hnone
  next j' after' hsome =>
    cases h.symm.trans hsome
    rfl

lemma tokens_stringText (s : String) (rest : List Char) :
    tokens (stringText s ++ rest) = (tokens rest).map (.simple (string s) :: ·) := by
  rw [stringText, List.append_assoc]
  exact tokens_simple rfl rfl (readSimple_stringText s rest)

/-- Whether a character is neither blank nor a mark. -/
def IsOther (c : Char) : Prop := isSpace c = false ∧ mark? c = none

lemma isOther_of_not {c : Char} {p : Char → Bool} (hc : p c)
    (hp : ∀ d ∈ [' ', '\t', '\n', '\r', '[', ']', '\x7b', '\x7d', ',', ':'], p d = false) :
    IsOther c := by
  have hne (d : Char) (hd : d ∈ [' ', '\t', '\n', '\r', '[', ']', '\x7b', '\x7d', ',', ':']) :
      c ≠ d := by
    rintro rfl
    rw [hp c hd] at hc
    cases hc
  constructor
  · simp [isSpace, hne]
  · unfold mark?
    split <;> first | rfl | exact absurd rfl (hne _ (by decide))

lemma tokens_integerText (n : Int) {rest : List Char} (h : Ends rest) :
    tokens (integerText n ++ rest) = (tokens rest).map (.simple (integer n) :: ·) := by
  rw [integerText]
  split
  next hnegative =>
    have hvalue : (if true then -(n.natAbs : Int) else n.natAbs) = n := by
      rw [if_pos rfl]
      omega
    refine tokens_simple rfl rfl ?_
    rw [readSimple, if_neg (by decide), if_pos rfl, List.append_eq, readUnsigned_digits true _ h,
      ofNumberParts_digits fun _ => by omega, hvalue]
  next hnegative =>
    have hvalue : (if false then -(n.natAbs : Int) else n.natAbs) = n := by
      rw [if_neg (by decide)]
      omega
    have hread := readUnsigned_digits false n.natAbs h
    rw [ofNumberParts_digits (fun hfalse => absurd hfalse Bool.false_ne_true), hvalue] at hread
    obtain ⟨c, ds, hcons⟩ := List.exists_cons_of_ne_nil (digits_ne_nil n.natAbs)
    have hdigit : isDigit c := isDigit_of_mem_digits (n := n.natAbs) (hcons ▸ List.mem_cons_self)
    have hother : IsOther c := isOther_of_not hdigit (by simp [isDigit])
    have hquote : c ≠ '"' := by
      rintro rfl
      cases hdigit
    have hminus : c ≠ '-' := by
      rintro rfl
      cases hdigit
    rw [hcons, List.cons_append] at hread ⊢
    refine tokens_simple hother.1 hother.2 ?_
    rw [readSimple, if_neg hquote, if_neg hminus, if_pos hdigit, hread]

/-- The text of a word is one token. -/
lemma tokens_word {c : Char} {word rest : List Char} {j : Json}
    (hword : ∀ d ∈ c :: word, isWordChar d) (hj : ofWord? (c :: word) = some j)
    (h : Ends rest) : tokens (c :: word ++ rest) = (tokens rest).map (.simple j :: ·) := by
  have hc : isWordChar c := hword c List.mem_cons_self
  have hother : IsOther c := isOther_of_not hc (by simp [isWordChar])
  have hrest : ∀ d ∈ rest.head?, isWordChar d = false := by
    intro d hd
    rcases h d hd with rfl | rfl | rfl <;> decide
  have hne {d : Char} (hd : isWordChar d = false) : c ≠ d := by
    rintro rfl
    rw [hc] at hd
    cases hd
  have hdigit : isDigit c = false := by
    refine Bool.eq_false_iff.mpr fun hdigit => ?_
    have hrange := (isDigit_iff.mp hdigit).2
    simp only [isWordChar, Bool.and_eq_true, decide_eq_true_eq, Char.le_def,
      UInt32.le_iff_toNat_le] at hc
    have hletter : 97 ≤ c.toNat := hc.1
    omega
  have hletters : ∀ d ∈ word, isWordChar d := fun d hd => hword d (.tail c hd)
  refine tokens_simple hother.1 hother.2 ?_
  rw [readSimple, if_neg (hne (by decide)), if_neg (hne (by decide)), if_neg (by simp [hdigit]),
    readWord, if_pos hc, List.append_eq, takeWhile_of_head hletters hrest,
    dropWhile_of_head hletters hrest, hj, Option.map_some]

mutual

/-- The text of a value is cut into its tokens. -/
lemma tokens_chars (j : Json) (hj : IsPlain j) {rest : List Char} (h : Ends rest) :
    tokens (chars j ++ rest) = (tokens rest).map (tokensOf j ++ ·) := by
  match j with
  | null           => exact tokens_word (by simp [isWordChar]) rfl h
  | bool true      => exact tokens_word (by simp [isWordChar]) rfl h
  | bool false     => exact tokens_word (by simp [isWordChar]) rfl h
  | integer n      => exact tokens_integerText n h
  | string s       => exact tokens_stringText s rest
  | array items    =>
    have hitems : AreItemsPlain items := by simpa [IsPlain] using hj
    rw [chars, List.cons_append, tokens_mark rfl rfl, tokens_itemsChars items hitems, tokensOf]
    simp [Function.comp_def]
  | object members =>
    have hmembers : AreMembersPlain members := by simpa [IsPlain] using hj
    rw [chars, List.cons_append, tokens_mark rfl rfl, tokens_membersChars members hmembers,
      tokensOf]
    simp [Function.comp_def]
termination_by sizeOf j

lemma tokens_itemsChars (items : List Json) (hitems : AreItemsPlain items) {rest : List Char} :
    tokens (itemsChars items ++ rest) = (tokens rest).map (itemsTokens items ++ ·) := by
  match items with
  | []            => exact tokens_mark rfl rfl rest
  | [j]           =>
    have hend : Ends (']' :: rest) := ends_cons (.inr (.inl rfl))
    rw [itemsChars, List.append_assoc, List.singleton_append, tokens_chars j hitems.1 hend,
      tokens_mark rfl rfl, itemsTokens]
    simp [Function.comp_def]
  | j :: j' :: js =>
    have hend : Ends (',' :: (itemsChars (j' :: js) ++ rest)) := ends_cons (.inl rfl)
    rw [itemsChars, List.append_assoc, List.cons_append, tokens_chars j hitems.1 hend,
      tokens_mark rfl rfl, tokens_itemsChars (j' :: js) hitems.2, itemsTokens_cons_cons]
    · simp [Function.comp_def]
    · simp
termination_by sizeOf items

lemma tokens_membersChars (members : List (String × Json)) (hmembers : AreMembersPlain members)
    {rest : List Char} :
    tokens (membersChars members ++ rest) = (tokens rest).map (membersTokens members ++ ·) := by
  match members with
  | []                       => exact tokens_mark rfl rfl rest
  | [(k, j)]                 =>
    have hend : Ends ('\x7d' :: rest) := ends_cons (.inr (.inr rfl))
    rw [membersChars, List.append_assoc, List.append_assoc, tokens_stringText, List.cons_append,
      tokens_mark rfl rfl, List.singleton_append, tokens_chars j hmembers.1 hend,
      tokens_mark rfl rfl, membersTokens]
    simp [Function.comp_def]
  | (k, j) :: (k', j') :: ms =>
    have hend : Ends (',' :: (membersChars ((k', j') :: ms) ++ rest)) := ends_cons (.inl rfl)
    rw [membersChars, List.append_assoc, List.append_assoc, tokens_stringText, List.cons_append,
      tokens_mark rfl rfl, List.cons_append, tokens_chars j hmembers.1 hend,
      tokens_mark rfl rfl, tokens_membersChars ((k', j') :: ms) hmembers.2,
      membersTokens_cons_cons]
    · simp [Function.comp_def]
    · simp
termination_by sizeOf members

end

/-- The text of a value without numbers in scientific notation reads back as the value. -/
theorem parse?_text {j : Json} (hj : IsPlain j) : parse? j.text = some j := by
  have htokens := tokens_chars j hj ends_nil
  have hrun := run_tokensOf j [] []
  rw [List.append_nil] at htokens hrun
  rw [parse?, text, String.toList_ofList, htokens, tokens]
  simpa [run] using hrun

end MarketHistory.Json

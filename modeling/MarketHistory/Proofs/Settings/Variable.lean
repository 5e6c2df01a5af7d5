import MarketHistory.Proofs.Text.Digits
import MarketHistory.Settings.Environment
import Mathlib.Tactic.ByContra

/-!
# The texts of variables

A text that reads neither as a truth value nor as a number stands for itself (`Environment.Plain`).
Every text whose lower case form is a name is one, as long as the name starts with a letter and is
no word for a truth value or a number (`Environment.plain_of_lower_eq`).
-/

namespace MarketHistory

/-! ### Lower case of ASCII texts -/

namespace Text

lemma isLower_iff {c : Char} : c.isLower ↔ 97 ≤ c.toNat ∧ c.toNat ≤ 122 := by
  show (decide ('a'.val ≤ c.val) && decide (c.val ≤ 'z'.val)) = true ↔ _
  rw [Bool.and_eq_true, decide_eq_true_eq, decide_eq_true_eq, UInt32.le_iff_toNat_le,
    UInt32.le_iff_toNat_le]
  rfl

lemma lowerAfter_of_ascii {before s : List Char} (h : ∀ c ∈ s, c.toNat < 128) :
    lowerAfter before s = s.map Char.toLower := by
  induction s generalizing before with
  | nil => rfl
  | cons c s ih =>
    have hc : c.toNat < 128 := h c List.mem_cons_self
    have hsigma : c ≠ 'Σ' := by
      rintro rfl
      exact absurd hc (by decide)
    rw [lowerAfter, if_neg hsigma, lowerChar, if_pos hc, ih fun d hd => h d (.tail c hd)]
    rfl

lemma toLower_of_not_upper {c : Char} (h : ¬(c.val ≥ 'A'.val ∧ c.val ≤ 'Z'.val)) :
    c.toLower = c := dif_neg h

lemma toNat_lt_of_toLower {c : Char} (h : c.toLower.toNat < 128) : c.toNat < 128 := by
  by_cases hupper : c.val ≥ 'A'.val ∧ c.val ≤ 'Z'.val
  · exact Nat.lt_of_le_of_lt (UInt32.le_iff_toNat_le.mp hupper.2) (by decide)
  · rwa [toLower_of_not_upper hupper] at h

/-- A text is in ASCII if all its characters are in lower case, and then so are its lower case
forms. -/
lemma lower_of_map_toLower {text : String} {s : List Char} (h : text.toList.map Char.toLower = s)
    (hs : ∀ c ∈ s, c.toNat < 128) : lower text = String.ofList s := by
  subst h
  rw [lower, lowerAfter_of_ascii fun c hc =>
    toNat_lt_of_toLower (hs c.toLower (List.mem_map_of_mem hc))]

end Text

namespace Environment

open Text

/-- Whether a text reads neither as a truth value nor as a number. -/
structure Plain (text : String) : Prop where
  ne_true  : lower text ≠ "true"
  ne_false : lower text ≠ "false"
  integer  : integer? text = none
  binary64 : Binary64.ofText? text = none

lemma valueOf_of_plain {text : String} (h : Plain text) : valueOf text = .string text := by
  unfold valueOf
  split
  next heq => exact absurd heq h.ne_true
  next heq => exact absurd heq h.ne_false
  next => rw [h.integer, h.binary64]

/-! ### Names -/

/-- Whether a name starts with a small letter. -/
def StartsWithLetter (name : String) : Prop := name.toList.head?.any Char.isLower

instance (name : String) : Decidable (StartsWithLetter name) := inferInstanceAs (Decidable (_ = _))

/-- A text starts neither with a digit, a sign nor a point if its lower case form starts with a
letter. -/
lemma exists_cons_of_lower_eq {text name : String} (h : lower text = name)
    (hname : StartsWithLetter name) :
    ∃ c rest, text.toList = c :: rest ∧ isDigit c = false ∧ c ≠ '+' ∧ c ≠ '-' ∧ c ≠ '.' := by
  have hlist : lowerAfter [] text.toList = name.toList := by
    rw [← h, lower, String.toList_ofList]
  rw [StartsWithLetter, ← hlist] at hname
  cases htext : text.toList with
  | nil => simp [htext, lowerAfter] at hname
  | cons c rest =>
    -- an ASCII character that is no capital letter is its own lower case form
    have hself (hascii : c.toNat < 65) : False := by
      have hlower : c.toLower = c := toLower_of_not_upper fun h =>
        absurd (UInt32.le_iff_toNat_le.mp h.1) (Nat.not_le.mpr hascii)
      have hsigma : c ≠ 'Σ' := by
        rintro rfl
        exact absurd hascii (by decide)
      rw [htext, lowerAfter, if_neg hsigma, lowerChar, if_pos (by omega), hlower] at hname
      have hletter : 97 ≤ c.toNat := (isLower_iff.mp (by simpa using hname)).1
      omega
    have hne {d : Char} (hd : d.toNat < 65) : c ≠ d := by
      rintro rfl
      exact hself hd
    refine ⟨c, rest, rfl, ?_, hne (by decide), hne (by decide), hne (by decide)⟩
    refine Bool.eq_false_iff.mpr fun hdigit => hself ?_
    have := (isDigit_iff.mp hdigit).2
    omega

/-- A number starts with a digit or a point. -/
lemma ofUnsigned?_eq_none {c : Char} {rest : List Char} (hdigit : isDigit c = false)
    (hpoint : c ≠ '.') (negative : Bool) : Binary64.ofUnsigned? negative (c :: rest) = none := by
  unfold Binary64.ofUnsigned?
  extract_lets isMark mantissa whole fraction next
  have hbad : ((whole ++ fraction).isEmpty || !(whole ++ fraction).all isDigit) = true := by
    by_cases hmark : isMark c = true
    · have hempty : mantissa = [] := by simp [mantissa, hmark]
      simp [whole, fraction, hempty]
    · have hcons : mantissa = c :: rest.takeWhile (!isMark ·) := by simp [mantissa, hmark]
      simp [whole, hcons, hpoint, hdigit]
  have hnone (exponent : Int) : next exponent = none := if_pos hbad
  split <;> simp [hnone]

/-- The words for truth values and numbers. -/
def words : List String := ["true", "false", "inf", "infinity", "nan"]

lemma plain_of_lower_eq {text name : String} (h : lower text = name)
    (hname : StartsWithLetter name) (hwords : name ∉ words) : Plain text := by
  obtain ⟨c, rest, htext, hdigit, hplus, hminus, hpoint⟩ := exists_cons_of_lower_eq h hname
  have hne {word : String} (hword : word ∈ words) : lower text ≠ word :=
    fun heq => hwords (h ▸ heq ▸ hword)
  refine ⟨hne (by decide), hne (by decide), ?_, ?_⟩
  · simp [integer?, readInt?, readNat?, htext, hplus, hminus, hdigit]
  · have hword (s : List Char) (hs : ∀ c ∈ s, c.toNat < 128) (hmem : String.ofList s ∈ words) :
        (c :: rest).map Char.toLower ≠ s := fun heq =>
      hne hmem (lower_of_map_toLower (htext ▸ heq) hs)
    have hinf := hword ['i', 'n', 'f'] (by simp) (by decide)
    have hinfinity := hword ['i', 'n', 'f', 'i', 'n', 'i', 't', 'y'] (by simp) (by decide)
    have hnan := hword ['n', 'a', 'n'] (by simp) (by decide)
    simp only [Binary64.ofText?, htext]
    split
    next heq => exact absurd (List.cons.inj heq).1 hplus
    next heq => exact absurd (List.cons.inj heq).1 hminus
    next =>
      rw [if_neg (not_or.mpr ⟨hinf, hinfinity⟩), if_neg hnan, ofUnsigned?_eq_none hdigit hpoint]

lemma valueOf_of_lower_eq {text name : String} (h : lower text = name)
    (hname : StartsWithLetter name) (hwords : name ∉ words) : valueOf text = .string text :=
  valueOf_of_plain (plain_of_lower_eq h hname hwords)

/-! ### Numbers -/

/-- Digits are a whole number if it has 64 bits. -/
lemma valueOf_of_digits {text : String} {n : Nat} (h : readNat? text.toList = some n)
    (hsize : n < 9223372036854775808) : valueOf text = .integer n := by
  have hdigits : text.toList ≠ [] ∧ ∀ c ∈ text.toList, isDigit c := by
    by_contra hnot
    rw [readNat?, if_neg (by simpa using hnot)] at h
    cases h
  have hne {name : String} (hname : StartsWithLetter name) : lower text ≠ name := by
    intro heq
    obtain ⟨c, rest, htext, hdigit, -⟩ := exists_cons_of_lower_eq heq hname
    have hmem : isDigit c := hdigits.2 c (htext ▸ List.mem_cons_self)
    rw [hdigit] at hmem
    cases hmem
  have hread : readInt? text.toList = some (n : Int) := by
    unfold readInt?
    split
    next heq => exact absurd (hdigits.2 '+' (heq ▸ List.mem_cons_self)) (by decide)
    next heq => exact absurd (hdigits.2 '-' (heq ▸ List.mem_cons_self)) (by decide)
    next => rw [h]; rfl
  have hint : integer? text = some (n : Int) := by
    simp only [integer?, hread]
    exact if_pos (by omega)
  unfold valueOf
  split
  next heq => exact absurd heq (hne (by decide))
  next heq => exact absurd heq (hne (by decide))
  next => rw [hint]

end Environment

end MarketHistory

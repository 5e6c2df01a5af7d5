import MarketHistory.Text.Digits
import Mathlib.Tactic.ByContra
import Mathlib.Tactic.Ring

/-!
# Written numbers

The digits of a number denote it, also with zeros in front (`ofDigits_padded`), and they are taken
off the front of a text in one piece (`takeDigits_of_digits`).
-/

namespace MarketHistory.Text

lemma isDigit_iff {c : Char} : isDigit c ↔ 48 ≤ c.toNat ∧ c.toNat ≤ 57 := by
  simp only [isDigit, Bool.and_eq_true, decide_eq_true_eq, Char.le_def, UInt32.le_iff_toNat_le]
  rfl

/-! ### Digits of a number -/

lemma isDigit_of_mem_digits {n : Nat} {c : Char} (h : c ∈ digits n) : isDigit c := by
  have hdigit := Nat.isDigit_of_mem_toDigits (by decide) (Nat.le_refl 10) h
  rw [Char.isDigit, Bool.and_eq_true, decide_eq_true_eq, decide_eq_true_eq, ge_iff_le,
    UInt32.le_iff_toNat_le, UInt32.le_iff_toNat_le] at hdigit
  exact isDigit_iff.mpr hdigit

lemma digits_ne_nil (n : Nat) : digits n ≠ [] :=
  List.ne_nil_of_length_pos Nat.length_toDigits_pos

lemma ofDigits_digits (n : Nat) : ofDigits (digits n) = n :=
  Nat.ofDigitChars_toDigits (by decide) (Nat.le_refl 10)

lemma foldl_digits (n : Nat) (ds : List Char) :
    ds.foldl (fun n c => 10 * n + digitValue c) n = n * 10 ^ ds.length + ofDigits ds := by
  rw [ofDigits]
  induction ds generalizing n with
  | nil => simp
  | cons c ds ih =>
    rw [List.foldl_cons, ih, List.foldl_cons, ih (10 * 0 + digitValue c), List.length_cons]
    ring

lemma ofDigits_append (ds es : List Char) :
    ofDigits (ds ++ es) = ofDigits ds * 10 ^ es.length + ofDigits es := by
  rw [ofDigits, List.foldl_append, foldl_digits]
  rfl

lemma ofDigits_cons (c : Char) (ds : List Char) :
    ofDigits (c :: ds) = digitValue c * 10 ^ ds.length + ofDigits ds := by
  rw [← List.singleton_append, ofDigits_append]
  simp [ofDigits]

lemma ofDigits_lt {ds : List Char} (hds : ∀ c ∈ ds, isDigit c) :
    ofDigits ds < 10 ^ ds.length := by
  induction ds with
  | nil => decide
  | cons c ds ih =>
    have hvalue : digitValue c ≤ 9 := by
      have hc := isDigit_iff.mp (hds c List.mem_cons_self)
      have hzero : '0'.toNat = 48 := rfl
      rw [digitValue, hzero]
      omega
    have hrest := ih fun d hd => hds d (.tail c hd)
    have hscaled := Nat.mul_le_mul_right (10 ^ ds.length) hvalue
    rw [ofDigits_cons, List.length_cons, Nat.pow_succ]
    omega

/-- The digits of a number have no zero in front, but for the single one of zero itself. -/
lemma eq_nil_of_digits_eq_zero_cons {n : Nat} {ds : List Char} (h : digits n = '0' :: ds) :
    ds = [] := by
  by_contra hne
  have hds : ∀ c ∈ ds, isDigit c := fun c hc =>
    isDigit_of_mem_digits (n := n) (h ▸ List.mem_cons_of_mem _ hc)
  have hvalue : n = ofDigits ds := by
    have hzero : digitValue '0' = 0 := rfl
    rw [← ofDigits_digits n, h, ofDigits_cons, hzero, Nat.zero_mul, Nat.zero_add]
  have hlength : (digits n).length ≤ ds.length :=
    (Nat.length_toDigits_le_iff (by decide) (List.length_pos_iff.mpr hne)).mpr
      (hvalue ▸ ofDigits_lt hds)
  rw [h, List.length_cons] at hlength
  omega

/-! ### Zeros in front -/

lemma isDigit_of_mem_padded {width n : Nat} {c : Char} (h : c ∈ padded width n) : isDigit c := by
  rcases List.mem_append.mp h with h | h
  · rw [List.eq_of_mem_replicate h]
    rfl
  · exact isDigit_of_mem_digits h

lemma length_padded {width n : Nat} : (padded width n).length = max width (digits n).length := by
  rw [padded, List.length_append, List.length_replicate]
  omega

lemma length_padded_of_lt {width n : Nat} (hwidth : 0 < width) (h : n < 10 ^ width) :
    (padded width n).length = width := by
  rw [length_padded]
  exact Nat.max_eq_left ((Nat.length_toDigits_le_iff (by decide) hwidth).mpr h)

lemma padded_ne_nil (width n : Nat) : padded width n ≠ [] :=
  List.append_ne_nil_of_right_ne_nil _ (digits_ne_nil n)

/-- Zeros in front do not count. -/
lemma ofDigits_padded (width n : Nat) : ofDigits (padded width n) = n := by
  have hzeros (k : Nat) : ofDigits (List.replicate k '0') = 0 := by
    induction k with
    | zero => rfl
    | succ k ih =>
      have hzero : digitValue '0' = 0 := rfl
      rw [List.replicate_succ, ofDigits_cons, ih, hzero, Nat.zero_mul]
  rw [padded, ofDigits_append, hzeros, ofDigits_digits]
  omega

/-! ### Taking digits off a text -/

/-- Whether a text does not go on with a digit. -/
def NoDigit (s : List Char) : Prop := ∀ c ∈ s.head?, isDigit c = false

lemma noDigit_nil : NoDigit [] := fun _ h => nomatch h

lemma noDigit_cons {c : Char} {s : List Char} (h : isDigit c = false) : NoDigit (c :: s) := by
  rintro d ⟨⟩
  exact h

lemma takeDigits_of_noDigit {s : List Char} (h : NoDigit s) (limit : Nat) :
    takeDigits limit s = ([], s) := by
  cases limit with
  | zero => rfl
  | succ limit =>
    cases s with
    | nil => rfl
    | cons c s => rw [takeDigits, if_neg (by simp [h c rfl])]

/-- Digits are taken in one piece if there are not too many of them and no more follow that could
be taken. -/
lemma takeDigits_of_digits {ds rest : List Char} {limit : Nat} (hds : ∀ c ∈ ds, isDigit c)
    (hlimit : ds.length ≤ limit) (hrest : ds.length = limit ∨ NoDigit rest) :
    takeDigits limit (ds ++ rest) = (ds, rest) := by
  induction ds generalizing limit with
  | nil =>
    rcases hrest with rfl | hrest
    · rfl
    · exact takeDigits_of_noDigit hrest limit
  | cons c ds ih =>
    obtain ⟨limit, rfl⟩ : ∃ k, limit = k + 1 := ⟨limit - 1, by simp at hlimit; omega⟩
    rw [List.length_cons] at hlimit hrest
    rw [List.cons_append, takeDigits, if_pos (hds c List.mem_cons_self),
      ih (fun d hd => hds d (.tail c hd)) (by omega) (hrest.imp_left (by omega))]

lemma length_takeDigits_le (limit : Nat) (s : List Char) :
    (takeDigits limit s).1.length ≤ limit := by
  fun_induction takeDigits limit s <;> simp_all

/-! ### Splitting a text -/

section Splitting

variable {p : Char → Bool} {cs rest : List Char} (hcs : ∀ c ∈ cs, p c)
  (hrest : ∀ c ∈ rest.head?, p c = false)
include hcs hrest

lemma takeWhile_of_head : (cs ++ rest).takeWhile p = cs := by
  rw [List.takeWhile_append_of_pos hcs]
  cases rest with
  | nil => simp
  | cons c rest => rw [List.takeWhile_cons_of_neg (by simp [hrest c rfl]), List.append_nil]

lemma dropWhile_of_head : (cs ++ rest).dropWhile p = rest := by
  rw [List.dropWhile_append_of_pos hcs]
  cases rest with
  | nil => rfl
  | cons c rest => rw [List.dropWhile_cons_of_neg (by simp [hrest c rfl])]

end Splitting

end MarketHistory.Text

import MarketHistory.Number.Decimal
import MarketHistory.Proofs.Text.Digits

/-!
# Written decimal numbers

The text of a decimal number reads back as the number with all its places, but for the sign of a
zero (`Decimal.ofText?_text`). Positional notation gives no zero a sign
(`Decimal.not_isSignedZero_of_ofPositional?`).
-/

namespace MarketHistory.Decimal

open Text

/-- The number without the sign of a zero. -/
def plain (d : Decimal) : Decimal := { d with negative := d.negative && d.magnitude != 0 }

/-- Whether the number is a zero with a sign. -/
def IsSignedZero (d : Decimal) : Prop := d.negative = true ∧ d.magnitude = 0

lemma plain_eq_self_iff (d : Decimal) : d.plain = d ↔ ¬d.IsSignedZero := by
  obtain ⟨negative, magnitude, scale, h₁, h₂⟩ := d
  cases negative <;> simp [plain, IsSignedZero]

lemma plain_plain (d : Decimal) : d.plain.plain = d.plain := by
  rw [plain_eq_self_iff]
  rintro ⟨hnegative, hzero⟩
  rw [plain, Bool.and_eq_true, bne_iff_ne] at hnegative
  exact hnegative.2 hzero

lemma ofParts?_eq_plain (d : Decimal) : ofParts? d.negative d.magnitude d.scale = some d.plain :=
  dif_pos ⟨d.magnitude_lt, d.scale_le⟩

/-! ### Reading digits -/

section Reading

variable (negative any : Bool) (magnitude scale : Nat)

lemma readDigits_cons_whole {c : Char} (hc : isDigit c)
    (hsize : 10 * magnitude + digitValue c < 2 ^ 96) (rest : List Char) :
    readDigits negative ⟨false, any, magnitude, 0⟩ (c :: rest) =
      readDigits negative ⟨false, true, 10 * magnitude + digitValue c, 0⟩ rest := by
  have hfits : ¬Nat.pow 2 96 ≤ 10 * magnitude + digitValue c := Nat.not_le.mpr hsize
  rw [readDigits, if_pos hc]
  dsimp only
  rw [if_neg hfits, if_neg (fun h => nomatch h.1)]
  rfl

/-- The last place is the 28th; no digits may follow it. -/
lemma readDigits_cons_fraction {c : Char} (hc : isDigit c)
    (hsize : 10 * magnitude + digitValue c < 2 ^ 96) {rest : List Char}
    (hscale : scale + rest.length < 28) :
    readDigits negative ⟨true, any, magnitude, scale⟩ (c :: rest) =
      readDigits negative ⟨true, true, 10 * magnitude + digitValue c, scale + 1⟩ rest := by
  have hfits : ¬Nat.pow 2 96 ≤ 10 * magnitude + digitValue c := Nat.not_le.mpr hsize
  rw [readDigits, if_pos hc]
  dsimp only
  rw [if_neg hfits, if_pos (rfl : true = true)]
  split
  next hlast =>
    have hnil : rest = [] := List.eq_nil_of_length_eq_zero (by have := hlast.2; omega)
    subst hnil
    rfl
  next => rfl

lemma le_foldl_digits (ds : List Char) : magnitude ≤ magnitude * 10 ^ ds.length + ofDigits ds :=
  Nat.le_trans (Nat.le_mul_of_pos_right _ (Nat.pow_pos (by decide))) (Nat.le_add_right _ _)

lemma foldl_digits_cons (c : Char) (ds : List Char) :
    magnitude * 10 ^ (c :: ds).length + ofDigits (c :: ds) =
      (10 * magnitude + digitValue c) * 10 ^ ds.length + ofDigits ds := by
  rw [ofDigits_cons, List.length_cons]
  ring

variable {ds : List Char}

/-- Digits before the point are put behind those read so far. -/
lemma readDigits_whole (hds : ∀ c ∈ ds, isDigit c)
    (hsize : magnitude * 10 ^ ds.length + ofDigits ds < 2 ^ 96) (rest : List Char) :
    readDigits negative ⟨false, any, magnitude, 0⟩ (ds ++ rest) =
      readDigits negative
        ⟨false, any || !ds.isEmpty, magnitude * 10 ^ ds.length + ofDigits ds, 0⟩ rest := by
  induction ds generalizing any magnitude with
  | nil => simp [ofDigits]
  | cons c ds ih =>
    rw [foldl_digits_cons] at hsize ⊢
    rw [List.cons_append, readDigits_cons_whole _ _ _ (hds c List.mem_cons_self)
      (Nat.lt_of_le_of_lt (le_foldl_digits _ ds) hsize),
      ih _ _ (fun d hd => hds d (.tail c hd)) hsize]
    simp

/-- Digits after the point are places, of which there may be 28. -/
lemma readDigits_fraction (hds : ∀ c ∈ ds, isDigit c)
    (hsize : magnitude * 10 ^ ds.length + ofDigits ds < 2 ^ 96)
    (hscale : scale + ds.length ≤ 28) :
    readDigits negative ⟨true, true, magnitude, scale⟩ ds =
      ofParts? negative (magnitude * 10 ^ ds.length + ofDigits ds) (scale + ds.length) := by
  induction ds generalizing magnitude scale with
  | nil => simp [readDigits, Reading.close, ofDigits]
  | cons c ds ih =>
    rw [foldl_digits_cons] at hsize ⊢
    rw [List.length_cons] at hscale
    rw [readDigits_cons_fraction _ _ _ _ (hds c List.mem_cons_self)
      (Nat.lt_of_le_of_lt (le_foldl_digits _ ds) hsize) (by omega),
      ih _ _ (fun d hd => hds d (.tail c hd)) hsize (by omega), List.length_cons]
    congr 1
    omega

end Reading

/-! ### Reading back -/

/-- A number without a point reads back. -/
lemma readDigits_digits (negative : Bool) {n : Nat} (hn : n < 2 ^ 96) :
    readDigits negative ⟨false, false, 0, 0⟩ (digits n) = ofParts? negative n 0 := by
  have hvalue : 0 * 10 ^ (digits n).length + ofDigits (digits n) = n := by
    rw [ofDigits_digits, Nat.zero_mul, Nat.zero_add]
  have hread := readDigits_whole negative false 0 (fun c hc => isDigit_of_mem_digits hc)
    (hvalue.symm ▸ hn) []
  rw [List.append_nil, hvalue] at hread
  rw [hread]
  simp [readDigits, Reading.close, digits_ne_nil n]

/-- Digits with a point between them read as their places say. -/
lemma readDigits_point (negative : Bool) {whole places : List Char}
    (hwhole : ∀ c ∈ whole, isDigit c) (hne : whole ≠ []) (hplaces : ∀ c ∈ places, isDigit c)
    (hsize : ofDigits (whole ++ places) < 2 ^ 96) (hscale : places.length ≤ 28) :
    readDigits negative ⟨false, false, 0, 0⟩ (whole ++ ['.'] ++ places) =
      ofParts? negative (ofDigits (whole ++ places)) places.length := by
  rw [ofDigits_append] at hsize ⊢
  have hvalue : 0 * 10 ^ whole.length + ofDigits whole = ofDigits whole := by
    rw [Nat.zero_mul, Nat.zero_add]
  have hfits := Nat.lt_of_le_of_lt (le_foldl_digits (ofDigits whole) places) hsize
  have hany : (false || !whole.isEmpty) = true := by simpa using hne
  have hpoint (p : Reading) (h : p.point = false) :
      readDigits negative p ('.' :: places) =
        readDigits negative { p with point := true } places := by
    rw [readDigits, if_neg (by decide), if_pos ⟨rfl, by rw [h]; rfl⟩]
  rw [List.append_assoc, List.singleton_append,
    readDigits_whole negative false 0 hwhole (hvalue.symm ▸ hfits), hvalue, hany, hpoint _ rfl,
    readDigits_fraction negative _ 0 hplaces hsize (by omega), Nat.zero_add]

/-- A number with places has digits on both sides of the point. -/
lemma exists_unsignedChars_eq (magnitude : Nat) {scale : Nat} (hscale : scale ≠ 0) :
    ∃ whole places : List Char, unsignedChars magnitude scale = whole ++ ['.'] ++ places ∧
      whole ≠ [] ∧ (∀ c ∈ whole, isDigit c) ∧ (∀ c ∈ places, isDigit c) ∧
      places.length = scale ∧ ofDigits (whole ++ places) = magnitude := by
  have hlength : scale + 1 ≤ (padded (scale + 1) magnitude).length := by
    rw [length_padded]
    exact Nat.le_max_left ..
  have hdigit : ∀ c ∈ padded (scale + 1) magnitude, isDigit c :=
    fun c hc => isDigit_of_mem_padded hc
  have hvalue := ofDigits_padded (scale + 1) magnitude
  rw [unsignedChars, if_neg hscale]
  generalize padded (scale + 1) magnitude = ds at hlength hdigit hvalue
  refine ⟨ds.take (ds.length - scale), ds.drop (ds.length - scale), rfl, ?_,
    fun c hc => hdigit c (List.mem_of_mem_take hc), fun c hc => hdigit c (List.mem_of_mem_drop hc),
    ?_, ?_⟩
  · rw [← List.length_pos_iff, List.length_take]
    omega
  · rw [List.length_drop]
    omega
  · rw [List.take_append_drop, hvalue]

/-- The text of a number without its sign reads back. -/
lemma readDigits_unsignedChars (d : Decimal) (negative : Bool) :
    readDigits negative ⟨false, false, 0, 0⟩ (unsignedChars d.magnitude d.scale) =
      ofParts? negative d.magnitude d.scale := by
  by_cases hscale : d.scale = 0
  · rw [unsignedChars, if_pos hscale, readDigits_digits negative d.magnitude_lt, hscale]
  · obtain ⟨whole, places, heq, hne, hwhole, hplaces, hlength, hvalue⟩ :=
      exists_unsignedChars_eq d.magnitude hscale
    rw [heq, readDigits_point negative hwhole hne hplaces (hvalue.symm ▸ d.magnitude_lt)
      (hlength.symm ▸ d.scale_le), hvalue, hlength]

/-- The text of a number without its sign starts with a digit. -/
lemma exists_unsignedChars_eq_cons (magnitude scale : Nat) :
    ∃ c rest, unsignedChars magnitude scale = c :: rest ∧ isDigit c := by
  by_cases hscale : scale = 0
  · rw [unsignedChars, if_pos hscale]
    obtain ⟨c, rest, h⟩ := List.exists_cons_of_ne_nil (digits_ne_nil magnitude)
    exact ⟨c, rest, h, isDigit_of_mem_digits (n := magnitude) (h ▸ List.mem_cons_self)⟩
  · obtain ⟨whole, places, heq, hne, hwhole, -⟩ := exists_unsignedChars_eq magnitude hscale
    obtain ⟨c, ds, rfl⟩ := List.exists_cons_of_ne_nil hne
    exact ⟨c, _, heq, hwhole c List.mem_cons_self⟩

/-- The text of a number reads back as the number, except that a zero has no sign. -/
theorem ofText?_text (d : Decimal) : ofText? d.text = some d.plain := by
  have hread : ofPositional? d.chars = some d.plain := by
    rw [← ofParts?_eq_plain, ← readDigits_unsignedChars d d.negative, chars]
    obtain ⟨c, rest, hcons, hdigit⟩ := exists_unsignedChars_eq_cons d.magnitude d.scale
    rw [hcons]
    cases d.negative with
    | true => rfl
    | false =>
      unfold ofPositional?
      split
      next heq =>
        obtain ⟨rfl, -⟩ := List.cons.inj heq
        cases hdigit
      next heq =>
        obtain ⟨rfl, -⟩ := List.cons.inj heq
        cases hdigit
      next => rfl
  rw [ofText?, text, String.toList_ofList, hread]
  rfl

/-! ### Zeros with a sign -/

lemma not_isSignedZero_of_ofParts? {negative : Bool} {magnitude scale : Nat} {d : Decimal}
    (h : ofParts? negative magnitude scale = some d) : ¬d.IsSignedZero := by
  unfold ofParts? at h
  split at h
  next =>
    cases h
    simp [IsSignedZero]
  next => cases h

lemma not_isSignedZero_of_roundBy {negative : Bool} {p : Reading} {rest : List Char} {d : Decimal}
    (h : p.roundBy negative rest = some d) : ¬d.IsSignedZero := by
  unfold Reading.roundBy at h
  split_ifs at h <;> exact not_isSignedZero_of_ofParts? h

lemma not_isSignedZero_of_readDigits {negative : Bool} {p : Reading} {s : List Char} {d : Decimal}
    (h : readDigits negative p s = some d) : ¬d.IsSignedZero := by
  induction s generalizing p with
  | nil =>
    rw [readDigits, Reading.close] at h
    split at h
    next => exact not_isSignedZero_of_ofParts? h
    next => cases h
  | cons c s ih =>
    rw [readDigits] at h
    dsimp only at h
    split_ifs at h
    all_goals first | exact not_isSignedZero_of_roundBy h | exact ih h

/-- A number in positional notation is not read as a zero with a minus sign. -/
lemma not_isSignedZero_of_ofPositional? {s : List Char} {d : Decimal}
    (h : ofPositional? s = some d) : ¬d.IsSignedZero := by
  unfold ofPositional? at h
  split at h
  · split_ifs at h
    exact not_isSignedZero_of_readDigits h
  · split_ifs at h
    exact not_isSignedZero_of_readDigits h
  · exact not_isSignedZero_of_readDigits h

end MarketHistory.Decimal

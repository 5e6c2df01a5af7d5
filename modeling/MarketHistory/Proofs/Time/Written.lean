import MarketHistory.Proofs.Text.Digits
import MarketHistory.Proofs.Time.Order
import MarketHistory.Time.Notation
import Mathlib.Tactic.ByContra

/-!
# Written dates and times

The texts of dates and times read back as what they stand for (`Date.ofText?_text`,
`TimeOfDay.ofText?_text`, `Instant.ofText?_text`). For a time of day this asks that a leap second
ends a minute, as it does in every time of day that was read (`TimeOfDay.IsClock`).
-/

namespace MarketHistory

/-! ### Scans -/

namespace Text.Scan

variable {α β : Type} {cs cs' rest : List Char}

/-- Whether a scan takes the characters `cs` off the front of a text that goes on with `rest`, for
the value `a`. -/
def Takes (scan : Scan α) (cs : List Char) (a : α) (rest : List Char) : Prop :=
  scan (cs ++ rest) = some (a, rest)

lemma Takes.bind {x : Scan α} {f : α → Scan β} {a : α} {b : β}
    (hx : Takes x cs a (cs' ++ rest)) (hf : Takes (f a) cs' b rest) :
    Takes (x >>= f) (cs ++ cs') b rest := by
  show (x (cs ++ cs' ++ rest)).bind (fun p => f p.1 p.2) = _
  rw [List.append_assoc, hx]
  exact hf

/-- A scan that takes nothing may come first. -/
lemma Takes.bind_nil {x : Scan α} {f : α → Scan β} {a : α} {b : β}
    (hx : Takes x [] a (cs ++ rest)) (hf : Takes (f a) cs b rest) : Takes (x >>= f) cs b rest :=
  hx.bind hf

/-- A scan that takes nothing may come last. -/
lemma Takes.bind_end {x : Scan α} {f : α → Scan β} {a : α} {b : β}
    (hx : Takes x cs a rest) (hf : Takes (f a) [] b rest) : Takes (x >>= f) cs b rest := by
  have h : Takes (x >>= f) (cs ++ []) b rest := hx.bind hf
  rwa [List.append_nil] at h

lemma takes_pure (a : α) : Takes (pure a) [] a rest := rfl

lemma takes_lift {o : Option α} {a : α} (h : o = some a) : Takes (liftM o) [] a rest := by
  subst h
  rfl

lemma Takes.orElse {x y : Scan α} {a : α} (hx : Takes x cs a rest) :
    Takes (x <|> y) cs a rest := by
  show (x (cs ++ rest) <|> y (cs ++ rest)) = _
  rw [hx]
  rfl

lemma whole_of_takes {scan : Scan α} {a : α} (h : Takes scan cs a []) :
    whole scan (String.ofList cs) = some a := by
  rw [Takes, List.append_nil] at h
  rw [whole, String.toList_ofList, h]
  rfl

/-! ### What a scan found -/

lemma bind_eq_some_iff {x : Scan α} {f : α → Scan β} {s : List Char} {p : β × List Char} :
    (x >>= f) s = some p ↔ ∃ a t, x s = some (a, t) ∧ f a t = some p := by
  show (x s).bind (fun q => f q.1 q.2) = some p ↔ _
  rw [Option.bind_eq_some_iff, Prod.exists]

lemma lift_eq_some_iff {o : Option α} {s : List Char} {p : α × List Char} :
    (liftM o : Scan α) s = some p ↔ o = some p.1 ∧ p.2 = s := by
  show (o.bind fun a => some (a, s)) = some p ↔ _
  obtain ⟨a, t⟩ := p
  cases o <;> simp [eq_comm]

lemma orElse_eq_some {x y : Scan α} {s : List Char} {p : α × List Char}
    (h : (x <|> y) s = some p) : x s = some p ∨ y s = some p := by
  change (x s <|> y s) = some p at h
  cases hx : x s with
  | none => exact .inr (by simpa [hx] using h)
  | some q => exact .inl (by simpa [hx] using h)

lemma exists_of_whole {scan : Scan α} {s : String} {a : α} (h : whole scan s = some a) :
    ∃ t, scan s.toList = some (a, t) := by
  unfold whole at h
  split at h
  next b t heq =>
    split at h
    next =>
      cases h
      exact ⟨t, heq⟩
    next => cases h
  next => cases h

/-! ### Marks and numbers -/

/-- Whether a text does not start with a blank. -/
def NoBlank (s : List Char) : Prop := ∀ c ∈ s.head?, isBlank c = false

lemma noBlank_cons {c : Char} {s : List Char} (h : isBlank c = false) : NoBlank (c :: s) := by
  rintro d ⟨⟩
  exact h

lemma isBlank_of_isDigit {c : Char} (h : isDigit c) : isBlank c = false := by
  have hc := isDigit_iff.mp h
  simp only [isBlank, Bool.or_eq_false_iff, Bool.and_eq_false_iff, decide_eq_false_iff_not,
    beq_eq_false_iff_ne]
  omega

lemma noBlank_of_digits {ds : List Char} (hds : ∀ c ∈ ds, isDigit c) (hne : ds ≠ []) :
    NoBlank (ds ++ rest) := by
  obtain ⟨c, ds, rfl⟩ := List.exists_cons_of_ne_nil hne
  exact noBlank_cons (isBlank_of_isDigit (hds c List.mem_cons_self))

lemma takes_blanks (h : NoBlank rest) : Takes blanks [] () rest := by
  show some ((), dropBlanks rest) = _
  cases rest with
  | nil => rfl
  | cons c rest => rw [dropBlanks, List.dropWhile_cons_of_neg (by simp [h c rfl])]

lemma takes_get (s : List Char) : Takes get [] s s := rfl

lemma takes_char (c : Char) : Takes (char c) [c] () rest := by
  show (if c = c then _ else _ : Scan Unit) (c :: rest) = _
  rw [if_pos rfl]
  rfl

lemma takes_one {p : Char → Bool} {c : Char} (hc : p c) : Takes (one p) [c] c rest := by
  show (if p c then _ else _ : Scan Char) (c :: rest) = _
  rw [if_pos hc]
  rfl

section Numbers

variable {ds : List Char} (hds : ∀ c ∈ ds, isDigit c) (hne : ds ≠ [])
include hds hne

lemma takes_number {limit : Nat} (hlimit : ds.length ≤ limit)
    (hrest : ds.length = limit ∨ NoDigit rest) : Takes (number limit) ds (ofDigits ds) rest := by
  refine (takes_get (ds ++ rest)).bind_nil ?_
  rw [takeDigits_of_digits hds hlimit hrest]
  dsimp only
  rw [if_neg (by simpa using hne)]
  rfl

lemma takes_longNumber (hrest : NoDigit rest) : Takes longNumber ds (ofDigits ds) rest :=
  takes_number hds hne (by simp) (.inr hrest)

end Numbers

lemma takes_padded {width n : Nat} (hwidth : 0 < width) (hn : n < 10 ^ width) :
    Takes (number width) (padded width n) n rest := by
  have hlength := length_padded_of_lt hwidth hn
  have h : Takes (number width) (padded width n) (ofDigits (padded width n)) rest :=
    takes_number (fun c hc => isDigit_of_mem_padded hc) (padded_ne_nil width n) hlength.le
      (.inl hlength)
  rwa [ofDigits_padded] at h

lemma noBlank_padded (width n : Nat) : NoBlank (padded width n ++ rest) :=
  noBlank_of_digits (fun _ hc => isDigit_of_mem_padded hc) (padded_ne_nil width n)

lemma takes_set (cs s : List Char) : Takes (set s) cs () s := rfl

end Text.Scan

open Text Text.Scan

variable {rest : List Char}

/-! ### Dates -/

namespace Date

/-- A year outside 0 to 9999 has a sign, and then any number of digits. -/
lemma takes_scanYear (year : Int) (hrest : NoDigit rest) :
    Takes scanYear (yearText year) year rest := by
  have hlong (n : Nat) : Takes longNumber (padded 4 n) n rest := by
    have h := takes_longNumber (fun _ hc => isDigit_of_mem_padded hc) (padded_ne_nil 4 n) hrest
    rwa [ofDigits_padded] at h
  rw [scanYear, yearText]
  split
  next hrange =>
    obtain ⟨c, ds, hcons⟩ := List.exists_cons_of_ne_nil (padded_ne_nil 4 year.toNat)
    have hdigit : isDigit c := isDigit_of_mem_padded (hcons ▸ List.mem_cons_self)
    have hnumber : Takes (number 4) (padded 4 year.toNat) year.toNat rest :=
      takes_padded (by decide) (by omega)
    refine (takes_blanks (noBlank_padded _ _)).bind_nil ((takes_get _).bind_nil ?_)
    split
    next heq =>
      rw [hcons] at heq
      obtain ⟨rfl, -⟩ := List.cons.inj heq
      cases hdigit
    next heq =>
      rw [hcons] at heq
      obtain ⟨rfl, -⟩ := List.cons.inj heq
      cases hdigit
    next =>
      refine hnumber.bind_end ?_
      have hyear : ((year.toNat : Nat) : Int) = year := by omega
      exact congrArg (fun y => some (y, rest)) hyear
  next hrange =>
    by_cases hnegative : year < 0
    · rw [if_pos hnegative]
      refine (takes_blanks (noBlank_cons (by decide))).bind_nil ((takes_get _).bind_nil ?_)
      refine (takes_set ['-'] _).bind ((hlong year.natAbs).bind_end ?_)
      have hyear : -((year.natAbs : Nat) : Int) = year := by omega
      exact congrArg (fun y => some (y, rest)) hyear
    · rw [if_neg hnegative]
      refine (takes_blanks (noBlank_cons (by decide))).bind_nil ((takes_get _).bind_nil ?_)
      refine (takes_set ['+'] _).bind ((hlong year.natAbs).bind_end ?_)
      have hyear : ((year.natAbs : Nat) : Int) = year := by omega
      exact congrArg (fun y => some (y, rest)) hyear

/-- A mark and a number of two digits after it. -/
lemma takes_scanNext {mark : Char} (hmark : isBlank mark = false) {n : Nat} (hn : n < 100) :
    Takes (scanNext mark) (mark :: padded 2 n) n rest :=
  (takes_blanks (noBlank_cons hmark)).bind_nil <|
    (takes_char mark).bind <| (takes_blanks (noBlank_padded 2 n)).bind_nil <|
      takes_padded (by decide) hn

lemma takes_scan (d : Date) : Takes scan d.chars d rest := by
  have hmonth := d.month_le
  have hday : d.day ≤ 31 := Nat.le_trans d.day_le (daysInMonth_le d.year d.month)
  have hchars : d.chars =
      yearText d.year ++ ('-' :: padded 2 d.month ++ ('-' :: padded 2 d.day)) := by
    simp [chars]
  rw [hchars]
  refine (takes_scanYear d.year (noDigit_cons (by decide))).bind ?_
  refine (takes_scanNext (by decide) (by omega)).bind ?_
  refine (takes_scanNext (by decide) (by omega)).bind_end ?_
  exact takes_lift (ofNumbers?_self d)

/-- The text of a date reads back as the date. -/
theorem ofText?_text (d : Date) : ofText? d.text = some d := whole_of_takes (takes_scan d)

end Date

/-! ### Times of day -/

namespace TimeOfDay

/-- Whether a leap second ends a minute. -/
def IsClock (t : TimeOfDay) : Prop := t.nano < 1000000000 ∨ t.second % 60 = 59

lemma takes_scanHourMinute {hour minute : Nat} (hhour : hour < 100) (hminute : minute < 100) :
    Takes scanHourMinute (padded 2 hour ++ ':' :: padded 2 minute) (hour, minute) rest :=
  (takes_blanks (by simpa using noBlank_padded 2 hour)).bind_nil <|
    (takes_padded (by decide) hhour).bind <|
      (Date.takes_scanNext (by decide) hminute).bind_end rfl

/-- The fraction of a second starts with a point if there is one. -/
def NoFraction (s : List Char) : Prop := NoDigit s ∧ s.head? ≠ some '.'

lemma takes_scanFraction {nano : Nat} (hnano : nano < 1000000000) (hrest : NoFraction rest) :
    Takes scanFraction (fractionText nano) nano rest := by
  have hpoint {width n : Nat} (hwidth : width ≤ 9) (hpos : 0 < width) (hn : n < 10 ^ width)
      (hvalue : n * 10 ^ (9 - width) = nano) :
      Takes scanFraction ('.' :: padded width n) nano rest := by
    have hlength := length_padded_of_lt hpos hn
    have htake : takeDigits 9 (padded width n ++ rest) = (padded width n, rest) :=
      takeDigits_of_digits (fun _ hc => isDigit_of_mem_padded hc) (by omega) (.inr hrest.1)
    have hdrop : rest.dropWhile isDigit = rest := by
      simpa using dropWhile_of_head (fun _ hc => absurd hc List.not_mem_nil) hrest.1
    refine (takes_get _).bind_nil ?_
    split
    next heq =>
      obtain ⟨-, rfl⟩ := List.cons.inj heq
      rw [List.append_eq, htake]
      dsimp only
      rw [hdrop, ofDigits_padded, hlength, if_neg (by simpa using padded_ne_nil width n), ← hvalue]
      rfl
    next hne => exact absurd rfl (hne _)
  rw [fractionText]
  split
  next hzero =>
    subst hzero
    refine (takes_get _).bind_nil ?_
    rw [List.nil_append]
    split
    next => exact absurd rfl hrest.2
    next => exact takes_pure 0
  next =>
    split
    next hmilli => exact hpoint (by decide) (by decide) (by omega) (by omega)
    next =>
      split
      next hmicro => exact hpoint (by decide) (by decide) (by omega) (by omega)
      next => exact hpoint (by decide) (by decide) (by omega) (by omega)

lemma takes_scanSecond {second nano : Nat} (hsecond : second < 100) (hnano : nano < 1000000000)
    (hrest : NoFraction rest) :
    Takes scanSecond (':' :: padded 2 second ++ fractionText nano) (second, nano) rest :=
  (Date.takes_scanNext (by decide) hsecond).bind <| (takes_scanFraction hnano hrest).bind_end rfl

/-- The numbers of a clock give its reading. -/
lemma ofClock?_of_isClock {t : TimeOfDay} (h : t.IsClock) :
    ofClock? (t.second / 3600) (t.second / 60 % 60) (t.second % 60 + t.nano / 1000000000)
      (t.nano % 1000000000) = some t := by
  obtain ⟨second, nano, hsecond, hnano⟩ := t
  rw [IsClock] at h
  dsimp only at h ⊢
  rw [ofClock?, if_pos (by omega)]
  dsimp only
  split
  next hleap =>
    have hs : second / 3600 * 3600 + second / 60 % 60 * 60 + 59 = second := by omega
    have hn : 1000000000 + nano % 1000000000 = nano := by omega
    rw [hs, hn]
    exact dif_pos ⟨hsecond, hnano⟩
  next hleap =>
    have hs : second / 3600 * 3600 + second / 60 % 60 * 60 +
        (second % 60 + nano / 1000000000) = second := by omega
    have hn : nano % 1000000000 = nano := by omega
    rw [hs, hn]
    exact dif_pos ⟨hsecond, hnano⟩

lemma chars_eq (t : TimeOfDay) :
    t.chars = (padded 2 (t.second / 3600) ++ ':' :: padded 2 (t.second / 60 % 60)) ++
      (':' :: padded 2 (t.second % 60 + t.nano / 1000000000) ++
        fractionText (t.nano % 1000000000)) := by
  simp [chars, clockChars]

/-- The text of a time of day reads back as that time. -/
theorem ofText?_text {t : TimeOfDay} (h : t.IsClock) : ofText? t.text = some t := by
  have hrest : NoFraction [] := ⟨noDigit_nil, by simp⟩
  have hminute : t.second / 60 % 60 < 100 := by omega
  have hhour : t.second / 3600 < 100 := by have := t.second_lt; omega
  have hsecond : t.second % 60 + t.nano / 1000000000 < 100 := by have := t.nano_lt; omega
  have hnano : t.nano % 1000000000 < 1000000000 := Nat.mod_lt _ (by decide)
  rw [ofText?, text]
  refine whole_of_takes ?_
  rw [chars_eq]
  exact (takes_scanHourMinute hhour hminute).bind <|
    (takes_scanSecond hsecond hnano hrest).orElse.bind_end (takes_lift (ofClock?_of_isClock h))

lemma isClock_of_ofNumbers? {second nano : Nat} {t : TimeOfDay}
    (h : ofNumbers? second nano = some t) (hclock : nano < 1000000000 ∨ second % 60 = 59) :
    t.IsClock := by
  unfold ofNumbers? at h
  split at h
  next =>
    cases h
    exact hclock
  next => cases h

/-- The numbers of a clock show a leap second at the end of a minute only. -/
lemma isClock_of_ofClock? {hour minute second nano : Nat} {t : TimeOfDay}
    (h : ofClock? hour minute second nano = some t) (hnano : nano < 1000000000) : t.IsClock := by
  unfold ofClock? at h
  split at h
  next hrange =>
    dsimp only at h
    split at h
    next => exact isClock_of_ofNumbers? h (.inr (by omega))
    next => exact isClock_of_ofNumbers? h (.inl hnano)
  next => cases h

/-- At most nine digits of a fraction count. -/
lemma lt_of_scanFraction {s s' : List Char} {nano : Nat}
    (h : scanFraction s = some (nano, s')) : nano < 1000000000 := by
  obtain ⟨t, t', hget, hscan⟩ := bind_eq_some_iff.mp h
  cases hget
  split at hscan
  next rest =>
    have hvalue : ofDigits (takeDigits 9 rest).1 < 10 ^ (takeDigits 9 rest).1.length :=
      ofDigits_lt fun c hc => isDigit_of_mem_takeDigits hc
    have hlength := length_takeDigits_le 9 rest
    generalize takeDigits 9 rest = p at hscan hvalue hlength
    obtain ⟨ds, after⟩ := p
    by_cases hempty : ds.isEmpty = true
    · simp only [hempty, if_true] at hscan
      cases hscan
    · rw [Bool.not_eq_true] at hempty
      simp only [hempty] at hscan
      obtain rfl : ofDigits ds * 10 ^ (9 - ds.length) = nano := by
        cases hscan
        rfl
      calc ofDigits ds * 10 ^ (9 - ds.length)
          < 10 ^ ds.length * 10 ^ (9 - ds.length) :=
            Nat.mul_lt_mul_of_pos_right hvalue (Nat.pow_pos (by decide))
        _ = 10 ^ 9 := by rw [← Nat.pow_add, Nat.add_sub_cancel' hlength]
        _ = 1000000000 := rfl
  next =>
    cases hscan
    decide

lemma lt_of_scanSecond {s s' : List Char} {p : Nat × Nat}
    (h : scanSecond s = some (p, s')) : p.2 < 1000000000 := by
  obtain ⟨second, t, -, h⟩ := bind_eq_some_iff.mp h
  obtain ⟨nano, t', hnano, h⟩ := bind_eq_some_iff.mp h
  cases h
  exact lt_of_scanFraction hnano

/-- A time of day that was read shows a leap second at the end of a minute only. -/
lemma isClock_of_ofText? {s : String} {t : TimeOfDay} (h : ofText? s = some t) : t.IsClock := by
  rw [ofText?] at h
  obtain ⟨rest, h⟩ := exists_of_whole h
  obtain ⟨⟨hour, minute⟩, s₁, -, h⟩ := bind_eq_some_iff.mp h
  obtain ⟨⟨second, nano⟩, s₂, hsecond, h⟩ := bind_eq_some_iff.mp h
  refine isClock_of_ofClock? (lift_eq_some_iff.mp h).1 ?_
  rcases orElse_eq_some hsecond with hsecond | hnone
  · exact lt_of_scanSecond hsecond
  · cases hnone
    decide

end TimeOfDay

/-! ### Instants -/

namespace Instant

lemma takes_scanOffset : Takes scanOffset ['Z'] 0 rest :=
  (takes_get _).bind_nil ((takes_set ['Z'] rest).bind_end rfl)

/-- The text of an instant reads back as the instant. -/
theorem ofText?_text {t : Instant} (h : t.time.IsClock) : ofText? t.text = some t := by
  obtain ⟨date, time⟩ := t
  have hrest : TimeOfDay.NoFraction ['Z'] := ⟨noDigit_cons (by decide), by decide⟩
  have hminute : time.second / 60 % 60 < 100 := by omega
  have hhour : time.second / 3600 < 100 := by have := time.second_lt; omega
  have hsecond : time.second % 60 + time.nano / 1000000000 < 100 := by have := time.nano_lt; omega
  have hnano : time.nano % 1000000000 < 1000000000 := Nat.mod_lt _ (by decide)
  have hself : atOffset? ⟨date, time⟩ (-0) = some ⟨date, time⟩ := atOffset?_zero _
  have htakes : Takes scan (date.chars ++ (['T'] ++ (time.chars ++ ['Z']))) ⟨date, time⟩ [] := by
    rw [TimeOfDay.chars_eq, List.append_assoc]
    refine (Date.takes_scan date).bind <| (takes_one (by decide)).bind <|
      (TimeOfDay.takes_scanHourMinute hhour hminute).bind <|
      (TimeOfDay.takes_scanSecond hsecond hnano hrest).bind <|
      (takes_blanks (noBlank_cons (by decide))).bind_nil <| takes_scanOffset.bind_end <|
      (takes_lift (TimeOfDay.ofClock?_of_isClock h)).bind_nil <| takes_lift hself
  rw [ofText?, text]
  simpa using whole_of_takes htakes

lemma minutes_of_scanSignedOffset {s s' : List Char} {offset : Int}
    (h : scanSignedOffset s = some (offset, s')) : offset % 60 = 0 := by
  obtain ⟨sign, s₁, -, h⟩ := bind_eq_some_iff.mp h
  obtain ⟨hours, s₂, -, h⟩ := bind_eq_some_iff.mp h
  obtain ⟨-, s₃, -, h⟩ := bind_eq_some_iff.mp h
  obtain ⟨minutes, s₄, -, h⟩ := bind_eq_some_iff.mp h
  split at h
  next => cases h
  next =>
    obtain rfl : (if sign == '+' then ((hours * 3600 + minutes * 60 : Int))
        else -(hours * 3600 + minutes * 60)) = offset := by
      cases h
      rfl
    split <;> omega

/-- Offsets are whole minutes. -/
lemma minutes_of_scanOffset {s s' : List Char} {offset : Int}
    (h : scanOffset s = some (offset, s')) : offset % 60 = 0 := by
  obtain ⟨t, t', hget, h⟩ := bind_eq_some_iff.mp h
  cases hget
  split at h
  next => cases h; rfl
  next => cases h; rfl
  next =>
    split at h
    next => cases h; rfl
    next => exact minutes_of_scanSignedOffset h
  next => cases h

/-- An instant that was read shows a leap second at the end of a minute only. -/
lemma isClock_of_ofText? {s : String} {t : Instant} (h : ofText? s = some t) :
    t.time.IsClock := by
  obtain ⟨rest, h⟩ := exists_of_whole h
  obtain ⟨date, s₁, -, h⟩ := bind_eq_some_iff.mp h
  obtain ⟨mark, s₂, -, h⟩ := bind_eq_some_iff.mp h
  obtain ⟨⟨hour, minute⟩, s₃, -, h⟩ := bind_eq_some_iff.mp h
  obtain ⟨⟨second, nano⟩, s₄, hsecond, h⟩ := bind_eq_some_iff.mp h
  obtain ⟨-, s₅, -, h⟩ := bind_eq_some_iff.mp h
  obtain ⟨offset, s₆, hoffset, h⟩ := bind_eq_some_iff.mp h
  obtain ⟨time, s₇, htime, h⟩ := bind_eq_some_iff.mp h
  have hclock := TimeOfDay.isClock_of_ofClock? (lift_eq_some_iff.mp htime).1
    (TimeOfDay.lt_of_scanSecond hsecond)
  have hminutes := minutes_of_scanOffset hoffset
  obtain ⟨day, -, rfl⟩ := Option.map_eq_some_iff.mp (lift_eq_some_iff.mp h).1
  refine hclock.imp_right fun hsecond => ?_
  have hsame : time.second % 60 = 59 := hsecond
  show ((time.second + -offset) % 86400).toNat % 60 = 59
  omega

end Instant

end MarketHistory

import MarketHistory.Proofs.Settings.Tree
import MarketHistory.Proofs.Settings.Variable
import MarketHistory.Settings.Load
import Mathlib.Logic.Function.Basic

/-!
# Assignments of settings

Each setting has a place in the tree of settings, and a type of values (`Setting`). An assignment
gives values to some of the settings. Here it is said when a document (`Toml.Assigns`) and when the
variables of the environment (`Environment.Assigns`) make an assignment; what they write for a value
is read as that value (`Setting.read_of_writes`, `Setting.read_of_spells`).
-/

namespace MarketHistory

/-- A setting. -/
inductive Setting where
  | resolution | fillForward | extendedHours | normalization
  | initialPeriods | minimumResolution | escalation | defaultEscalation
  | level | format
  | timeZone
deriving DecidableEq

namespace Setting

/-- The values that a setting can have. -/
abbrev Value : Setting → Type
  | resolution        => Resolution
  | fillForward       => Bool
  | extendedHours     => Bool
  | normalization     => Normalization
  | initialPeriods    => Nat
  | minimumResolution => Resolution
  | escalation        => List LookbackBudget
  | defaultEscalation => Nat
  | level             => String
  | format            => String
  | timeZone          => TimeZone

/-- The value that a setting has. -/
def get (s : Settings) : (x : Setting) → x.Value
  | resolution        => s.defaults.resolution
  | fillForward       => s.defaults.fillForward
  | extendedHours     => s.defaults.extendedHours
  | normalization     => s.defaults.normalization
  | initialPeriods    => s.lookback.initialPeriods
  | minimumResolution => s.lookback.minimumResolution
  | escalation        => s.lookback.escalation
  | defaultEscalation => s.lookback.defaultEscalation
  | level             => s.logging.level
  | format            => s.logging.format
  | timeZone          => s.timeZone

/-- Where a setting stands. -/
def place : Setting → SettingTree.Place
  | resolution        => ⟨some "universe", "resolution"⟩
  | fillForward       => ⟨some "universe", "fill_forward"⟩
  | extendedHours     => ⟨some "universe", "extended_market_hours"⟩
  | normalization     => ⟨some "universe", "normalization_mode"⟩
  | initialPeriods    => ⟨some "last_known_price", "initial_periods"⟩
  | minimumResolution => ⟨some "last_known_price", "minimum_resolution"⟩
  | escalation        => ⟨some "last_known_price", "escalation"⟩
  | defaultEscalation => ⟨some "last_known_price", "default_escalation_periods"⟩
  | level             => ⟨some "logging", "level"⟩
  | format            => ⟨some "logging", "format"⟩
  | timeZone          => ⟨none, "time_zone"⟩

/-- Reads a value of a setting. -/
def read : (x : Setting) → RawValue → Option x.Value
  | resolution        => RawValue.named? Resolution.ofName?
  | fillForward       => RawValue.bool?
  | extendedHours     => RawValue.bool?
  | normalization     => RawValue.named? Normalization.ofName?
  | initialPeriods    => RawValue.count?
  | minimumResolution => RawValue.named? Resolution.ofName?
  | escalation        => RawValue.list? LookbackBudget.ofRaw?
  | defaultEscalation => RawValue.count?
  | level             => RawValue.string?
  | format            => RawValue.string?
  | timeZone          => fun v => v.string?.bind TimeZone.ofName?

end Setting

/-- Values of some of the settings. -/
abbrev Assignment := (x : Setting) → Option x.Value

/-! ### In documents -/

namespace Toml

/-- Whether a value names something, in any case. -/
def Names (name : String) (t : Toml) : Prop := ∃ s, t = .string s ∧ Text.lower s = name

/-- Whether a value is a table with a look-back budget. -/
def IsBudget (b : LookbackBudget) (t : Toml) : Prop :=
  ∃ r, Names b.resolution.name r ∧
    (t = .table [("resolution", r), ("periods", .integer b.periods)] ∨
      t = .table [("periods", .integer b.periods), ("resolution", r)])

end Toml

/-- Whether a value in a document is that of a setting. -/
def Setting.Writes : (x : Setting) → x.Value → Toml → Prop
  | .resolution        => fun (r : Resolution) => Toml.Names r.name
  | .fillForward       => fun (b : Bool) t => t = .bool b
  | .extendedHours     => fun (b : Bool) t => t = .bool b
  | .normalization     => fun (n : Normalization) => Toml.Names n.name
  | .initialPeriods    => fun (n : Nat) t => t = .integer n
  | .minimumResolution => fun (r : Resolution) => Toml.Names r.name
  | .escalation        => fun (bs : List LookbackBudget) t =>
    ∃ items, t = .array items ∧ List.Forall₂ Toml.IsBudget bs items
  | .defaultEscalation => fun (n : Nat) t => t = .integer n
  | .level             => fun (s : String) t => t = .string s
  | .format            => fun (s : String) t => t = .string s
  | .timeZone          => fun (z : TimeZone) t => t = .string z.name

namespace Toml

lemma named?_of_names {α : Type} {ofName? : String → Option α} {name : String} {a : α}
    (hname : ofName? name = some a) {t : Toml} (h : Names name t) :
    RawValue.named? ofName? (RawValue.ofToml t) = some a := by
  obtain ⟨s, rfl, hs⟩ := h
  rw [RawValue.ofToml, RawValue.named?, hs, hname]

lemma count?_ofToml (n : Nat) : RawValue.count? (RawValue.ofToml (.integer n)) = some n := by
  simp [RawValue.ofToml, RawValue.count?]

lemma ofRaw?_of_isBudget {b : LookbackBudget} {t : Toml} (h : IsBudget b t) :
    LookbackBudget.ofRaw? (RawValue.ofToml t) = some b := by
  obtain ⟨r, hr, rfl | rfl⟩ := h <;>
    simp [RawValue.ofToml, RawValue.ofEntries, LookbackBudget.ofRaw?, RawValue.fields?,
      RawValue.count?, Record.fieldsByName?, Record.required?,
      named?_of_names (Resolution.ofName?_name _) hr]

lemma list?_of_budgets {bs : List LookbackBudget} {items : List Toml}
    (h : List.Forall₂ IsBudget bs items) :
    RawValue.list? LookbackBudget.ofRaw? (RawValue.ofToml (.array items)) = some bs := by
  rw [RawValue.ofToml, RawValue.list?]
  induction h with
  | nil => rfl
  | cons hb _ ih =>
    rw [RawValue.ofItems, List.mapM_cons, ofRaw?_of_isBudget hb, ih]
    rfl

end Toml

namespace Setting

/-- What a document has for a value of a setting is read as that value. -/
lemma read_of_writes {x : Setting} {v : x.Value} {t : Toml} (h : x.Writes v t) :
    x.read (RawValue.ofToml t) = some v := by
  cases x with
  | resolution | minimumResolution => exact Toml.named?_of_names (Resolution.ofName?_name v) h
  | fillForward | extendedHours => rw [show t = .bool v from h]; rfl
  | normalization => exact Toml.named?_of_names (Normalization.ofName?_name v) h
  | initialPeriods | defaultEscalation =>
    rw [show t = .integer (Nat.cast v) from h]
    exact Toml.count?_ofToml v
  | escalation =>
    obtain ⟨items, rfl, hitems⟩ := h
    exact Toml.list?_of_budgets hitems
  | level | format => rw [show t = .string v from h]; rfl
  | timeZone =>
    rw [show t = .string (TimeZone.name v) from h]
    exact TimeZone.ofName?_name v

lemma isTable_of_writes {x : Setting} {v : x.Value} {t : Toml} (h : x.Writes v t) :
    (RawValue.ofToml t).isTable = false := by
  cases x with
  | resolution | minimumResolution | normalization =>
    obtain ⟨s, rfl, -⟩ := h
    rfl
  | escalation =>
    obtain ⟨items, rfl, -⟩ := h
    rfl
  | _ =>
    cases h
    rfl

end Setting

namespace Toml

open SettingTree

/-- The values in a document with their places: those in its tables and those by themselves. -/
def leaves (entries : List (String × Toml)) : List (Place × Toml) :=
  entries.flatMap fun e =>
    match e.2 with
    | .table members => members.map fun m => (⟨some e.1, m.1⟩, m.2)
    | t              => [(⟨none, e.1⟩, t)]

/-- Whether a document makes an assignment: it holds values for the settings that are assigned and
nothing else, and its tables are not empty. -/
structure Assigns (entries : List (String × Toml)) (F : Assignment) : Prop where
  notEmpty (name : String) : (name, .table []) ∉ entries
  sound {p : Place} {t : Toml} (h : (p, t) ∈ leaves entries) :
    ∃ x v, F x = some v ∧ p = x.place ∧ x.Writes v t
  complete (x : Setting) (h : (F x).isSome) : ∃ t, (x.place, t) ∈ leaves entries

end Toml

/-! ### In the environment -/

/-- The variable of a setting, in lower case. -/
def Setting.variableName (x : Setting) : String :=
  "history__" ++ "__".intercalate x.place.path

namespace Environment

/-- Whether a text stands for a truth value. -/
def SpellsBool (b : Bool) (text : String) : Prop :=
  Text.lower text ∈ (if b then ["true", "on", "yes"] else ["false", "off", "no"]) ∨
    text = if b then "1" else "0"

/-- Whether a text is a number in digits. -/
def SpellsCount (n : Nat) (text : String) : Prop := Text.readNat? text.toList = some n

/-- Whether a text stands for itself. -/
def SpellsText (s text : String) : Prop := text = s ∧ Plain s

end Environment

open Environment in
/-- Whether the text of a variable is a value of a setting. A list of budgets has no text. -/
def Setting.Spells : (x : Setting) → x.Value → String → Prop
  | .resolution        => fun (r : Resolution) text => Text.lower text = r.name
  | .fillForward       => SpellsBool
  | .extendedHours     => SpellsBool
  | .normalization     => fun (n : Normalization) text => Text.lower text = n.name
  | .initialPeriods    => SpellsCount
  | .minimumResolution => fun (r : Resolution) text => Text.lower text = r.name
  | .escalation        => fun _ _ => False
  | .defaultEscalation => SpellsCount
  | .level             => SpellsText
  | .format            => SpellsText
  | .timeZone          => fun (z : TimeZone) => SpellsText z.name

namespace Environment

lemma isTable_valueOf (text : String) : (valueOf text).isTable = false := by
  unfold valueOf
  split
  · rfl
  · rfl
  · split <;> rfl

lemma bool?_of_spellsBool {b : Bool} {text : String} (h : SpellsBool b text) :
    (valueOf text).bool? = some b := by
  rcases h with h | rfl
  · have hplain {name : String} (heq : Text.lower text = name) (hname : StartsWithLetter name)
        (hwords : name ∉ words) : valueOf text = .string text :=
      valueOf_of_lower_eq heq hname hwords
    cases b with
    | true =>
      obtain heq | heq | heq : Text.lower text = "true" ∨ Text.lower text = "on" ∨
          Text.lower text = "yes" := by simpa using h
      · simp [valueOf, heq, RawValue.bool?]
      · rw [hplain heq (by decide) (by decide)]
        simp [RawValue.bool?, heq]
      · rw [hplain heq (by decide) (by decide)]
        simp [RawValue.bool?, heq]
    | false =>
      obtain heq | heq | heq : Text.lower text = "false" ∨ Text.lower text = "off" ∨
          Text.lower text = "no" := by simpa using h
      · simp [valueOf, heq, RawValue.bool?]
      · rw [hplain heq (by decide) (by decide)]
        simp [RawValue.bool?, heq]
      · rw [hplain heq (by decide) (by decide)]
        simp [RawValue.bool?, heq]
  · cases b <;> rfl

lemma named?_of_lower_eq {α : Type} {ofName? : String → Option α} {text name : String} {a : α}
    (h : Text.lower text = name) (hname : ofName? name = some a)
    (hletter : StartsWithLetter name) (hwords : name ∉ words) :
    (valueOf text).named? ofName? = some a := by
  rw [valueOf_of_lower_eq h hletter hwords, RawValue.named?, h, hname]

lemma count?_of_spellsCount {n : Nat} {text : String} (h : SpellsCount n text)
    (hsize : n < 9223372036854775808) : (valueOf text).count? = some n := by
  rw [valueOf_of_digits h hsize]
  simp [RawValue.count?]

end Environment

/-- Whether a count has less than 64 bits, so that it is a whole number of the environment. -/
def Setting.IsSmall : (x : Setting) → x.Value → Prop
  | .initialPeriods    => fun (n : Nat) => n < 9223372036854775808
  | .defaultEscalation => fun (n : Nat) => n < 9223372036854775808
  | _                  => fun _ => True

open Environment in
/-- What a variable has for a value of a setting is read as that value. -/
lemma Setting.read_of_spells {x : Setting} {v : x.Value} {text : String} (h : x.Spells v text)
    (hsmall : x.IsSmall v) : x.read (valueOf text) = some v := by
  cases x with
  | resolution | minimumResolution =>
    have hname : StartsWithLetter (Resolution.name v) ∧ Resolution.name v ∉ words := by
      cases v <;> decide
    exact named?_of_lower_eq h (Resolution.ofName?_name v) hname.1 hname.2
  | fillForward | extendedHours => exact bool?_of_spellsBool h
  | normalization =>
    have hname : StartsWithLetter (Normalization.name v) ∧ Normalization.name v ∉ words := by
      cases v <;> decide
    exact named?_of_lower_eq h (Normalization.ofName?_name v) hname.1 hname.2
  | initialPeriods | defaultEscalation => exact count?_of_spellsCount h hsmall
  | escalation => cases h
  | level | format =>
    obtain ⟨rfl, hplain⟩ := h
    exact congrArg RawValue.string? (valueOf_of_plain hplain)
  | timeZone =>
    obtain ⟨rfl, hplain⟩ := h
    show (RawValue.string? _).bind TimeZone.ofName? = _
    rw [valueOf_of_plain hplain]
    exact TimeZone.ofName?_name v

namespace Environment

/-- Whether variables make an assignment: those whose names begin like those of settings hold
values of the settings that are assigned. -/
structure Assigns (environment : List (String × String)) (E : Assignment) :
    Prop where
  sound {name text : String} (h : (name, text) ∈ environment)
    (hstart : "history__".toList <+: (Text.lower name).toList) :
    ∃ x v, E x = some v ∧ Text.lower name = x.variableName ∧ x.Spells v text
  complete (x : Setting) (h : (E x).isSome) :
    ∃ name text, (name, text) ∈ environment ∧ Text.lower name = x.variableName

end Environment

end MarketHistory

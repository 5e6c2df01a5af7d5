import MarketHistory.Settings.Tree
import Mathlib.Data.List.Nodup
import Mathlib.Tactic.Tauto

/-!
# Values in the tree of settings

What stands at a place, which is a name at the top or in a group, after a value is put at a place
(`SettingTree.at?_put`). A table is put value by value (`SettingTree.put_table`), and names stay
apart (`SettingTree.Distinct.put`).
-/

namespace MarketHistory

namespace SettingTree

/-! ### Names -/

/-- The names in a tree. -/
abbrev names (t : SettingTree) : List String := t.map Prod.fst

lemma mem_names_alter {name other : String} {f : Option RawValue → RawValue} {t : SettingTree} :
    other ∈ (t.alter name f).names ↔ other = name ∨ other ∈ t.names := by
  fun_induction alter name f t with
  | case1 => simp
  | case2 e rest h => simp [h]
  | case3 e rest h ih =>
    simp only [names, List.map_cons, List.mem_cons] at ih ⊢
    rw [ih]
    tauto

lemma nodup_names_alter {name : String} {f : Option RawValue → RawValue} {t : SettingTree}
    (h : t.names.Nodup) : (t.alter name f).names.Nodup := by
  fun_induction alter name f t with
  | case1 => simp
  | case2 e rest heq => simpa [heq] using h
  | case3 e rest hne ih =>
    rw [names, List.map_cons, List.nodup_cons] at h ⊢
    refine ⟨fun hmem => ?_, ih h.2⟩
    rcases mem_names_alter.mp hmem with heq | hmem
    · exact hne heq
    · exact h.1 hmem

/-- Of two changes at one name the second finds what the first made. -/
lemma alter_alter (name : String) (f g : Option RawValue → RawValue) (t : SettingTree) :
    (t.alter name f).alter name g = t.alter name fun old => g (some (f old)) := by
  fun_induction alter name f t with
  | case1 => simp [alter]
  | case2 e rest h => simp [alter, h]
  | case3 e rest h ih => simp [alter, h, ih]

lemma lookup_alter (name other : String) (f : Option RawValue → RawValue) (t : SettingTree) :
    (t.alter name f).lookup other =
      if other = name then some (f (t.lookup name)) else t.lookup other := by
  split
  next h => rw [h, lookup_alter_self]
  next h => exact lookup_alter_of_ne h f t

/-! ### Places -/

/-- Where a setting stands: in a group or by itself. -/
structure Place where
  group : Option String
  name  : String
deriving DecidableEq

/-- The names that lead to a place. -/
def Place.path (p : Place) : List String := p.group.toList ++ [p.name]

/-- Whether the names that lead to a place are in lower case. -/
def Place.IsLower (p : Place) : Prop := ∀ name ∈ p.path, Text.lower name = name

/-- The tree with a value set at a place. -/
def put (t : SettingTree) (p : Place) (v : RawValue) : SettingTree :=
  t.set (p.path.map PathStep.name) v

/-- The value at a place. -/
def at? (t : SettingTree) (p : Place) : Option RawValue :=
  match p.group with
  | none       => t.lookup p.name
  | some group => (RawValue.entries (t.lookup group)).lookup p.name

/-- A table with entries is set entry by entry. -/
lemma put_table (group : String) (e : String × RawValue) (entries : List (String × RawValue))
    (t : SettingTree) :
    t.put ⟨none, group⟩ (.table (e :: entries)) =
      (e :: entries).foldl (fun t e => t.put ⟨some group, e.1⟩ e.2) t := by
  induction entries generalizing e t with
  | nil => rfl
  | cons e' entries ih =>
    rw [List.foldl_cons, ← ih]
    exact (alter_alter (Text.lower group) (setAt e.2 [.name e.1])
      (overlay (.table (e' :: entries))) t).symm

end SettingTree

/-- Whether a value is a table. -/
def RawValue.isTable : RawValue → Bool
  | table _ => true
  | _       => false

namespace SettingTree

variable {p q : Place} {v : RawValue}

lemma overlay_of_isTable_eq_false (hv : v.isTable = false) (old : Option RawValue) :
    overlay v old = v := by
  cases v with
  | table _ => cases hv
  | _ => rfl

/-- A value that is no table is put at the top or into a group. -/
lemma lookup_put (hp : p.IsLower) (hv : v.isTable = false) (t : SettingTree) (name : String) :
    (t.put p v).lookup name =
      if p = ⟨none, name⟩ then some v
      else if p.group = some name then
        some (.table (alter p.name (fun _ => v) (RawValue.entries (t.lookup name))))
      else t.lookup name := by
  obtain ⟨group, last⟩ := p
  have hoverlay := funext (overlay_of_isTable_eq_false hv)
  cases group with
  | none =>
    show (t.alter (Text.lower last) (overlay v)).lookup name = _
    rw [hp last (List.mem_singleton_self last), hoverlay, lookup_alter]
    by_cases h : name = last
    · simp [h]
    · simp [h, Ne.symm h]
  | some group =>
    show (t.alter (Text.lower group) fun old =>
      .table (alter (Text.lower last) (overlay v) (RawValue.entries old))).lookup name = _
    rw [hp group (by simp [Place.path]), hp last (by simp [Place.path]), hoverlay, lookup_alter]
    by_cases h : name = group
    · simp [h]
    · simp [h, Ne.symm h]

/-- A value that is no table changes what stands at its place, and at no other, provided that
neither place lies in the other. -/
lemma at?_put (hp : p.IsLower) (hpq : p.group ≠ some q.name) (hqp : q.group ≠ some p.name)
    (hv : v.isTable = false) (t : SettingTree) :
    (t.put p v).at? q = if q = p then some v else t.at? q := by
  obtain ⟨group, name⟩ := p
  obtain ⟨group', name'⟩ := q
  cases group' with
  | none =>
    rw [at?, lookup_put hp hv, if_neg hpq]
    simp only [at?, eq_comm]
  | some group' =>
    have hne : (⟨group, name⟩ : Place) ≠ ⟨none, group'⟩ := fun h =>
      hqp (congrArg (fun r : Place => some r.name) h).symm
    simp only [at?, lookup_put hp hv, if_neg hne]
    by_cases hgroup : group = some group'
    · subst hgroup
      simp [lookup_alter, RawValue.entries]
    · simp [hgroup, Ne.symm hgroup]

/-! ### Names that stay apart -/

/-- No two names in the tree are the same, neither at its top nor in a group. -/
structure Distinct (t : SettingTree) : Prop where
  top : t.names.Nodup
  inGroup (group : String) : (names (RawValue.entries (t.lookup group))).Nodup

lemma Distinct.put {t : SettingTree} (h : t.Distinct) (hp : p.IsLower)
    (hv : v.isTable = false) : (t.put p v).Distinct where
  top := by
    obtain ⟨group, name⟩ := p
    cases group with
    | none => exact nodup_names_alter h.top
    | some group => exact nodup_names_alter h.top
  inGroup group := by
    rw [lookup_put hp hv]
    split
    next =>
      have hnil : RawValue.entries (some v) = [] := by
        cases v with
        | table _ => cases hv
        | _ => rfl
      rw [hnil]
      exact List.nodup_nil
    next =>
      split
      next => exact nodup_names_alter (h.inGroup group)
      next => exact h.inGroup group

end SettingTree

end MarketHistory

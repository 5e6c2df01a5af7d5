import Mathlib
import MarketHistory.Proofs.Record.Fields
import MarketHistory.Proofs.Settings.Assignment

/-!
# Settings from several sources

The tree of settings holds the values of an assignment (`SettingTree.Holds`): this is so before any
value is set, and setting the values of a source puts them over those from before
(`SettingTree.Holds.setAll`). What is read from the tree are the assigned values, and the usual ones
for all other settings, except that logging is assigned as a whole or not at all
(`SettingTree.Holds.ofRaw?_eq`). So what is loaded from a file and variables of the environment has
the values of the variables, then those of the file, then the usual ones
(`Settings.load_follows_assignments`).
-/

namespace MarketHistory

open SettingTree

/-! ### Assignments -/

namespace Assignment

/-- The assignment with the values of `E` over those of `F`. -/
def or (E F : Assignment) : Assignment := fun x => (E x).or (F x)

lemma or_none (E : Assignment) : E.or (fun _ => none) = E := by
  funext x
  exact Option.or_none

lemma none_or (F : Assignment) : or (fun _ => none) F = F := by
  funext x
  exact Option.none_or

/-- The value that a setting has by an assignment: the usual one if none is assigned. -/
def value (A : Assignment) (x : Setting) : x.Value := (A x).getD (x.get .usual)

/-- The settings by an assignment. -/
def settings (A : Assignment) : Settings where
  defaults := ⟨A.value .resolution, A.value .fillForward, A.value .extendedHours,
    A.value .normalization⟩
  lookback := ⟨A.value .initialPeriods, A.value .minimumResolution, A.value .escalation,
    A.value .defaultEscalation⟩
  logging := ⟨A.value .level, A.value .format⟩
  timeZone := A.value .timeZone

lemma get_settings (A : Assignment) (x : Setting) : x.get A.settings = A.value x := by
  cases x <;> rfl

/-- Whether logging is assigned as a whole or not at all. -/
def LoggingWhole (A : Assignment) : Prop := (A .level).isSome = (A .format).isSome

instance (A : Assignment) : Decidable A.LoggingWhole := inferInstanceAs (Decidable (_ = _))

end Assignment

/-! ### Places of settings -/

namespace Setting

/-- The steps to the place of a setting. -/
def steps (x : Setting) : List PathStep := x.place.path.map PathStep.name

lemma place_eq_iff {x y : Setting} : x.place = y.place ↔ x = y := by
  cases x <;> cases y <;> simp [place]

lemma steps_eq_iff {x y : Setting} : x.steps = y.steps ↔ x = y := by
  cases x <;> cases y <;> simp [steps, place, Place.path]

lemma group_ne_name (x y : Setting) : x.place.group ≠ some y.place.name := by
  cases x <;> cases y <;> simp [place]

lemma isLower_place (x : Setting) : x.place.IsLower := by
  cases x <;> simp only [Place.IsLower, Place.path, place, Option.toList, List.cons_append,
    List.nil_append, List.forall_mem_cons, List.not_mem_nil, IsEmpty.forall_iff, implies_true,
    and_true] <;> decide +kernel

end Setting

/-! ### Values in the tree -/

namespace SettingTree

/-- A tree holds the values of an assignment. Its groups are tables with assigned settings. -/
structure Holds (t : SettingTree) (A : Assignment) : Prop where
  distinct : t.Distinct
  read (x : Setting) : (t.at? x.place).map x.read = (A x).map some
  group {x : Setting} {name : String} (hname : x.place.group = some name) {v : RawValue}
    (hv : t.lookup name = some v) :
    v.isTable ∧ ∃ y : Setting, y.place.group = some name ∧ (A y).isSome

lemma holds_nil : Holds [] fun _ => none where
  distinct := ⟨List.nodup_nil, fun _ => List.nodup_nil⟩
  read x := by cases x <;> rfl
  group _ _ hv := by cases hv

namespace Holds

variable {t : SettingTree} {A : Assignment}

lemma put (h : t.Holds A) {x : Setting} {v : x.Value} {raw : RawValue}
    (hread : x.read raw = some v) (hraw : raw.isTable = false) :
    (t.put x.place raw).Holds (Function.update A x (some v)) where
  distinct := h.distinct.put x.isLower_place hraw
  read y := by
    rw [at?_put x.isLower_place (x.group_ne_name y) (y.group_ne_name x) hraw]
    by_cases hxy : y = x
    · subst hxy
      rw [if_pos rfl, Function.update_self, Option.map_some, Option.map_some, hread]
    · rw [if_neg (mt Setting.place_eq_iff.mp hxy), Function.update_of_ne hxy, h.read]
  group {y name} hname w hw := by
    have hgrown {z : Setting} (hz : (A z).isSome) :
        (Function.update A x (some v) z).isSome := by
      by_cases hzx : z = x
      · subst hzx
        rw [Function.update_self]
        rfl
      · rwa [Function.update_of_ne hzx]
    rw [lookup_put x.isLower_place hraw] at hw
    split at hw
    next heq => exact absurd (by rw [hname, heq]) (y.group_ne_name x)
    next =>
      split at hw
      next hgroup =>
        cases hw
        exact ⟨rfl, x, hgroup, by rw [Function.update_self]; rfl⟩
      next =>
        obtain ⟨htable, z, hz, hassigned⟩ := h.group hname hw
        exact ⟨htable, z, hz, hgrown hassigned⟩

/-! ### Reading -/

open Record

lemma orDefault? (h : t.Holds A) (x : Setting) :
    Record.orDefault? x.read (x.get .usual) (t.at? x.place) = some (A.value x) := by
  have hread := h.read x
  cases hraw : t.at? x.place with
  | none =>
    rw [hraw, Option.map_none, eq_comm, Option.map_eq_none_iff] at hread
    rw [Assignment.value, hread]
    rfl
  | some raw =>
    rw [hraw, Option.map_some] at hread
    obtain ⟨v, hv, heq⟩ := Option.map_eq_some_iff.mp hread.symm
    rw [Assignment.value, hv]
    exact heq.symm

lemma required? (h : t.Holds A) (x : Setting) :
    Record.required? x.read (t.at? x.place) = A x := by
  have hread := h.read x
  cases hraw : t.at? x.place with
  | none =>
    rw [hraw, Option.map_none, eq_comm, Option.map_eq_none_iff] at hread
    exact hread.symm
  | some raw =>
    rw [hraw, Option.map_some] at hread
    obtain ⟨v, hv, heq⟩ := Option.map_eq_some_iff.mp hread.symm
    rw [hv]
    exact heq.symm

/-- A group without settings reads as the usual one if each of its settings has a default. -/
lemma orDefault?_group {α : Type} (h : t.Holds A) {x : Setting} {name : String}
    (hname : x.place.group = some name) {read : RawValue → Option α} {usual : α}
    (husual : read (.table []) = some usual) :
    Record.orDefault? read usual (t.lookup name) =
      read (.table (RawValue.entries (t.lookup name))) := by
  cases hlookup : t.lookup name with
  | none => exact husual.symm
  | some v =>
    cases v with
    | table es => rfl
    | _ => cases (h.group hname hlookup).1

lemma defaults_eq (h : t.Holds A) :
    Record.orDefault? UniverseSettings.ofRaw? .usual (t.lookup "universe") =
      some A.settings.defaults := by
  have husual : UniverseSettings.ofRaw? (.table []) = some .usual := rfl
  rw [h.orDefault?_group (x := .resolution) rfl husual, UniverseSettings.ofRaw?, RawValue.fields?,
    fieldsByName?_of_nodup (h.distinct.inGroup "universe")]
  have hresolution := h.orDefault? .resolution
  have hfillForward := h.orDefault? .fillForward
  have hextendedHours := h.orDefault? .extendedHours
  have hnormalization := h.orDefault? .normalization
  simp only [Setting.get, Setting.read, at?, Setting.place, Settings.usual]
    at hresolution hfillForward hextendedHours hnormalization
  simp [Assignment.settings, hresolution, hfillForward, hextendedHours, hnormalization]

lemma lookback_eq (h : t.Holds A) :
    Record.orDefault? Lookback.ofRaw? .usual (t.lookup "last_known_price") =
      some A.settings.lookback := by
  have husual : Lookback.ofRaw? (.table []) = some .usual := rfl
  rw [h.orDefault?_group (x := .initialPeriods) rfl husual, Lookback.ofRaw?, RawValue.fields?,
    fieldsByName?_of_nodup (h.distinct.inGroup "last_known_price")]
  have hinitialPeriods := h.orDefault? .initialPeriods
  have hminimumResolution := h.orDefault? .minimumResolution
  have hescalation := h.orDefault? .escalation
  have hdefaultEscalation := h.orDefault? .defaultEscalation
  simp only [Setting.get, Setting.read, at?, Setting.place, Settings.usual]
    at hinitialPeriods hminimumResolution hescalation hdefaultEscalation
  simp [Assignment.settings, hinitialPeriods, hminimumResolution, hescalation, hdefaultEscalation]

/-- The parts of the logging settings have no defaults of their own. -/
lemma logging_eq (h : t.Holds A) :
    Record.orDefault? LoggingSettings.ofRaw? .usual (t.lookup "logging") =
      if A.LoggingWhole then some A.settings.logging else none := by
  have hlevel := h.required? .level
  have hformat := h.required? .format
  cases hlookup : t.lookup "logging" with
  | none =>
    simp only [at?, Setting.place, hlookup] at hlevel hformat
    have hlevel' : A .level = none := hlevel.symm
    have hformat' : A .format = none := hformat.symm
    simp only [Assignment.LoggingWhole, Assignment.settings, Assignment.value, hlevel', hformat']
    rfl
  | some v =>
    obtain ⟨htable, y, hy, hassigned⟩ := h.group (x := .level) rfl hlookup
    have hnodup := h.distinct.inGroup "logging"
    have hsome : (A .level).isSome ∨ (A .format).isSome := by
      cases y with
      | level => exact .inl hassigned
      | format => exact .inr hassigned
      | _ => simp [Setting.place] at hy
    cases v with
    | table es =>
      rw [hlookup] at hnodup
      simp only [at?, Setting.place, hlookup, Setting.read, RawValue.entries]
        at hlevel hformat hnodup
      show LoggingSettings.ofRaw? (.table es) = _
      rw [LoggingSettings.ofRaw?, RawValue.fields?, fieldsByName?_of_nodup hnodup]
      simp only [List.map_cons, List.map_nil, Option.bind_eq_bind, Option.bind_some, hlevel,
        hformat]
      cases hl : A .level <;> cases hf : A .format <;>
        simp_all [Assignment.LoggingWhole, Assignment.settings, Assignment.value]
    | _ => cases htable

/-- The settings are read if logging is assigned as a whole or not at all. -/
lemma ofRaw?_eq (h : t.Holds A) :
    Settings.ofRaw? (.table t) = if A.LoggingWhole then some A.settings else none := by
  have htimeZone : Record.orDefault? (fun v : RawValue => v.string?.bind TimeZone.ofName?)
      Settings.usual.timeZone (t.lookup "time_zone") = some (A.value .timeZone) :=
    h.orDefault? .timeZone
  rw [Settings.ofRaw?, RawValue.fields?, fieldsByName?_of_nodup h.distinct.top]
  simp only [List.map_cons, List.map_nil, Option.bind_eq_bind, Option.bind_some, Settings.usual,
    h.defaults_eq, h.lookback_eq, h.logging_eq]
  rw [Settings.usual] at htimeZone
  split
  next => simp [htimeZone, Assignment.settings]
  next => rfl

end Holds

end SettingTree

/-! ### Values of a source -/

/-- Whether steps lead to an assigned setting and the value with them is read as the assigned
one. -/
def Assignment.Sets (G : Assignment) (e : List PathStep × RawValue) : Prop :=
  ∃ x v, G x = some v ∧ e.1 = x.steps ∧ x.read e.2 = some v ∧ e.2.isTable = false

namespace SettingTree.Holds

variable {t : SettingTree} {A G : Assignment} {source : List (List PathStep × RawValue)}

/-- Values that are set one after the other are held in the place of those from before. -/
lemma foldl_set (h : t.Holds A) (hsource : ∀ e ∈ source, G.Sets e) :
    (source.foldl (fun t e => t.set e.1 e.2) t).Holds fun x =>
      if x.steps ∈ source.map Prod.fst then G x else A x := by
  induction source generalizing t A with
  | nil => exact h
  | cons e source ih =>
    obtain ⟨x, v, hx, hsteps, hread, htable⟩ := hsource e List.mem_cons_self
    have hput : (t.set e.1 e.2).Holds (Function.update A x (some v)) := by
      rw [hsteps]
      exact h.put hread htable
    have hrest := ih hput fun e' he' => hsource e' (.tail e he')
    rw [List.foldl_cons]
    convert hrest using 2 with y
    simp only [List.map_cons, List.mem_cons, hsteps, Setting.steps_eq_iff]
    by_cases hyx : y = x
    · subst hyx
      rw [if_pos (.inl rfl), Function.update_self, hx, ite_self]
    · simp only [Function.update_of_ne hyx, hyx, false_or]

/-- A source that holds the values of `G` and nothing else puts them over those from before. -/
lemma setAll (h : t.Holds A) (hsource : ∀ e ∈ source, G.Sets e)
    (hcomplete : ∀ x, (G x).isSome → x.steps ∈ source.map Prod.fst) :
    (source.foldl (fun t e => t.set e.1 e.2) t).Holds (G.or A) := by
  convert h.foldl_set hsource using 1
  funext x
  split
  next hmem =>
    obtain ⟨e, he, hsteps⟩ := List.mem_map.mp hmem
    obtain ⟨y, v, hy, hsteps', -⟩ := hsource e he
    obtain rfl := Setting.steps_eq_iff.mp (hsteps.symm.trans hsteps')
    rw [Assignment.or, hy, Option.some_or]
  next hmem =>
    have hnone : G x = none := by
      by_contra hne
      exact hmem (hcomplete x (Option.isSome_iff_ne_none.mpr hne))
    rw [Assignment.or, hnone, Option.none_or]

end SettingTree.Holds

/-! ### Documents -/

namespace Toml

open RawValue

lemma ofEntries_eq_map (entries : List (String × Toml)) :
    ofEntries entries = entries.map fun e => (e.1, ofToml e.2) := by
  induction entries with
  | nil => rfl
  | cons e entries ih => rw [ofEntries, ih, List.map_cons]

/-- The steps to the values in a document. -/
def steps (entries : List (String × Toml)) : List (List PathStep × RawValue) :=
  (leaves entries).map fun e => (e.1.path.map PathStep.name, ofToml e.2)

/-- The tables of a document are set value by value. -/
lemma setAll_ofEntries (t : SettingTree) {entries : List (String × Toml)}
    (hname : ∀ e ∈ entries, PathStep.ofKey e.1 = [.name e.1])
    (hempty : ∀ name, (name, .table []) ∉ entries) :
    t.setAll (ofEntries entries) = (steps entries).foldl (fun t e => t.set e.1 e.2) t := by
  induction entries generalizing t with
  | nil => rfl
  | cons e entries ih =>
    have hrest := fun t : SettingTree =>
      ih t (fun e' he' => hname e' (.tail e he')) fun name hmem => hempty name (.tail e hmem)
    have hsteps : steps (e :: entries) = steps [e] ++ steps entries := by
      simp [steps, leaves]
    rw [hsteps, List.foldl_append, ← hrest, ofEntries, SettingTree.setAll, List.foldl_cons,
      hname e List.mem_cons_self]
    congr 1
    obtain ⟨name, v⟩ := e
    cases v with
    | table members =>
      cases members with
      | nil => exact absurd List.mem_cons_self (hempty name)
      | cons m members =>
        show t.put ⟨none, name⟩ (.table ((m.1, ofToml m.2) :: ofEntries members)) = _
        rw [SettingTree.put_table, ofEntries_eq_map]
        simp only [steps, leaves, List.flatMap_cons, List.flatMap_nil, List.append_nil,
          List.map_map, List.map_cons, List.foldl_cons, List.foldl_map]
        rfl
    | _ => rfl

variable {entries : List (String × Toml)} {F : Assignment}

lemma Assigns.sets (h : Assigns entries F) : ∀ e ∈ steps entries, F.Sets e := by
  intro e he
  obtain ⟨⟨p, t⟩, hmem, rfl⟩ := List.mem_map.mp he
  obtain ⟨x, v, hx, rfl, hwrites⟩ := h.sound hmem
  exact ⟨x, v, hx, rfl, Setting.read_of_writes hwrites, Setting.isTable_of_writes hwrites⟩

lemma Assigns.mem_steps (h : Assigns entries F) (x : Setting) (hx : (F x).isSome) :
    x.steps ∈ (steps entries).map Prod.fst := by
  obtain ⟨t, hmem⟩ := h.complete x hx
  exact List.mem_map.mpr ⟨_, List.mem_map.mpr ⟨_, hmem, rfl⟩, rfl⟩

/-- The names at the top of a document that makes an assignment are those of groups and of
settings by themselves. -/
lemma Assigns.ofKey (h : Assigns entries F) {e : String × Toml} (he : e ∈ entries) :
    PathStep.ofKey e.1 = [.name e.1] := by
  obtain ⟨name, v⟩ := e
  have hplace {p : SettingTree.Place} {t : Toml} (hmem : (p, t) ∈ leaves entries)
      (hp : p.group.getD p.name = name) : PathStep.ofKey name = [.name name] := by
    obtain ⟨x, -, -, rfl, -⟩ := h.sound hmem
    subst hp
    cases x <;> decide +kernel
  have hleaf {e' : SettingTree.Place × Toml} (hmem : e' ∈ leaves [(name, v)]) :
      e' ∈ leaves entries := by
    rw [leaves, List.mem_flatMap]
    exact ⟨_, he, by simpa [leaves] using hmem⟩
  cases v with
  | table members =>
    cases members with
    | nil => exact absurd he (h.notEmpty name)
    | cons m members => exact hplace (hleaf List.mem_cons_self) rfl
  | _ => exact hplace (hleaf (List.mem_singleton_self _)) rfl

end Toml

/-! ### The environment -/

namespace Environment

/-- The key of a variable leads to the setting of the variable. -/
lemma key?_of_variable {name : String} {x : Setting} (h : Text.lower name = x.variableName) :
    ∃ key, key? name = some key ∧ PathStep.ofKey key = x.steps := by
  rw [key?, h]
  refine ⟨".".intercalate x.place.path, ?_, ?_⟩ <;> cases x <;> decide +kernel

lemma isPrefix_of_key? {name key : String} (h : key? name = some key) :
    "history__".toList <+: (Text.lower name).toList := by
  unfold key? at h
  split at h
  next rest heq => exact ⟨rest, heq.symm⟩
  next => cases h

/-- The steps to the values of variables. -/
def steps (environment : List (String × String)) : List (List PathStep × RawValue) :=
  (settings environment).map fun e => (PathStep.ofKey e.1, e.2)

variable {environment : List (String × String)} {E : Assignment}

lemma mem_steps_iff {e : List PathStep × RawValue} :
    e ∈ steps environment ↔ ∃ name text key, (name, text) ∈ environment ∧
      key? name = some key ∧ e = (PathStep.ofKey key, valueOf text) := by
  simp only [steps, settings, List.mem_map, List.mem_filterMap]
  constructor
  · rintro ⟨e', ⟨⟨name, text⟩, hmem, hmap⟩, rfl⟩
    obtain ⟨key, hkey, rfl⟩ := Option.map_eq_some_iff.mp hmap
    exact ⟨name, text, key, hmem, hkey, rfl⟩
  · rintro ⟨name, text, key, hmem, hkey, rfl⟩
    exact ⟨(key, valueOf text), ⟨(name, text), hmem, by rw [hkey, Option.map_some]⟩, rfl⟩

lemma Assigns.sets (h : Assigns environment E) (hsmall : ∀ x v, E x = some v → x.IsSmall v) :
    ∀ e ∈ steps environment, E.Sets e := by
  intro e he
  obtain ⟨name, text, key, hmem, hkey, rfl⟩ := mem_steps_iff.mp he
  obtain ⟨x, v, hx, hname, hspells⟩ := h.sound hmem (isPrefix_of_key? hkey)
  obtain ⟨key', hkey', hsteps⟩ := key?_of_variable hname
  obtain rfl : key' = key := Option.some.inj (hkey'.symm.trans hkey)
  exact ⟨x, v, hx, hsteps, Setting.read_of_spells hspells (hsmall x v hx), isTable_valueOf text⟩

lemma Assigns.mem_steps (h : Assigns environment E) (x : Setting) (hx : (E x).isSome) :
    x.steps ∈ (steps environment).map Prod.fst := by
  obtain ⟨name, text, hmem, hname⟩ := h.complete x hx
  obtain ⟨key, hkey, hsteps⟩ := key?_of_variable hname
  exact List.mem_map.mpr ⟨_, mem_steps_iff.mpr ⟨name, text, key, hmem, hkey, rfl⟩, hsteps⟩

end Environment

/-! ### Loading -/

lemma Assignment.Sets.all_isNear {G : Assignment} {e : List PathStep × RawValue}
    (h : G.Sets e) : e.1.all PathStep.isNear := by
  obtain ⟨x, -, -, hsteps, -⟩ := h
  rw [hsteps, Setting.steps, List.all_map, List.all_eq_true]
  exact fun _ _ => rfl

namespace Settings

variable {text : String} {entries : List (String × Toml)} {environment : List (String × String)}
variable {F E : Assignment}

lemma load_eq (hparse : Toml.parse? text = some entries) (hF : Toml.Assigns entries F)
    (hE : Environment.Assigns environment E) (hsmall : ∀ x v, E x = some v → x.IsSmall v) :
    load (some text) environment =
      if (E.or F).LoggingWhole then .ok (E.or F).settings else .error .invalidValue := by
  have hnear : ((RawValue.ofEntries entries ++ Environment.settings environment).all
      fun e => (PathStep.ofKey e.1).all (·.isNear)) = true := by
    rw [List.all_append, Bool.and_eq_true, List.all_eq_true, List.all_eq_true]
    constructor
    · intro e he
      rw [Toml.ofEntries_eq_map] at he
      obtain ⟨e', he', rfl⟩ := List.mem_map.mp he
      rw [hF.ofKey he']
      rfl
    · intro e he
      exact (hE.sets hsmall _ (List.mem_map_of_mem he)).all_isNear
  have hholds : (SettingTree.setAll [] (RawValue.ofEntries entries ++
      Environment.settings environment)).Holds (E.or F) := by
    have hfile := holds_nil.setAll hF.sets hF.mem_steps
    rw [← Toml.setAll_ofEntries [] (fun _ => hF.ofKey) hF.notEmpty, Assignment.or_none] at hfile
    have hboth := hfile.setAll (hE.sets hsmall) hE.mem_steps
    rw [Environment.steps, List.foldl_map] at hboth
    rw [SettingTree.setAll, List.foldl_append]
    exact hboth
  simp only [load, hparse, hnear, if_true, ofTree, hholds.ofRaw?_eq]
  by_cases hwhole : (E.or F).LoggingWhole
  · simp only [if_pos hwhole]
  · simp only [if_neg hwhole]

/-- What is loaded follows an assignment: loading succeeds exactly if logging is assigned as a whole
or not at all, and then each setting has the value assigned to it, else its usual one. -/
structure Follows (loaded : Except SettingsError Settings) (A : Assignment) : Prop where
  succeeds_iff : (∃ s, loaded = .ok s) ↔ ((A .level).isSome ↔ (A .format).isSome)
  get_eq {s : Settings} (h : loaded = .ok s) (x : Setting) :
    x.get s = (A x).getD (x.get Settings.usual)

lemma follows_of_eq {loaded : Except SettingsError Settings} {A : Assignment}
    (h : loaded = if A.LoggingWhole then .ok A.settings else .error .invalidValue) :
    Follows loaded A where
  succeeds_iff := by
    rw [← Bool.eq_iff_iff]
    constructor
    · rintro ⟨s, hs⟩
      by_contra hwhole
      have hnot : ¬A.LoggingWhole := hwhole
      rw [h, if_neg hnot] at hs
      cases hs
    · intro hwhole
      exact ⟨A.settings, h.trans (if_pos hwhole)⟩
  get_eq {s} hs x := by
    rw [h] at hs
    split at hs
    next =>
      obtain rfl := Except.ok.inj hs
      exact A.get_settings x
    next => cases hs

/-- What is loaded from a document that makes an assignment `F` and variables that make an
assignment `E` follows `E` over `F`. A document alone is the case without variables. -/
theorem load_follows_assignments (hparse : Toml.parse? text = some entries)
    (hF : Toml.Assigns entries F) (hE : Environment.Assigns environment E)
    (hsmall : ∀ x v, E x = some v → x.IsSmall v) :
    Follows (load (some text) environment) (fun x => (E x).or (F x)) ∧
      Follows (ofText text) F := by
  refine ⟨follows_of_eq (load_eq hparse hF hE hsmall), follows_of_eq ?_⟩
  have hnone : Environment.Assigns [] fun _ => none :=
    { sound := fun hmem => nomatch hmem
      complete := fun _ h => nomatch h }
  have h := load_eq hparse hF hnone (fun _ _ h => nomatch h)
  rwa [Assignment.none_or] at h

/-- A file with settings. -/
def sampleText : String :=
  "time_zone = \"UTC\"\n[universe]\nresolution = \"Hour\"\n[last_known_price]\n" ++
  "escalation = [\x7b resolution = \"daily\", periods = 5 \x7d]\n[logging]\nlevel = \"debug\"\n"

/-- The document in the file. -/
def sampleEntries : List (String × Toml) := [
  ("time_zone", .string "UTC"),
  ("universe", .table [("resolution", .string "Hour")]),
  ("last_known_price", .table [
    ("escalation", .array [.table [("resolution", .string "daily"), ("periods", .integer 5)]])]),
  ("logging", .table [("level", .string "debug")])]

/-- The values in the file. -/
def sampleFile : Assignment
  | .resolution => some Resolution.hour
  | .escalation => some [⟨.daily, 5⟩]
  | .level      => some "debug"
  | .timeZone   => some TimeZone.utc
  | _           => none

/-- Variables with settings and one of another program. -/
def sampleEnvironment : List (String × String) := [
  ("HISTORY__UNIVERSE__RESOLUTION", "daily"),
  ("PATH", "/bin"),
  ("HISTORY__LOGGING__FORMAT", "json")]

/-- The values in the variables. -/
def sampleVariables : Assignment
  | .resolution => some Resolution.daily
  | .format     => some "json"
  | _           => none

set_option maxRecDepth 2000 in
lemma parse?_sampleText : Toml.parse? sampleText = some sampleEntries := by cbv

lemma assigns_sampleFile : Toml.Assigns sampleEntries sampleFile where
  notEmpty := by simp [sampleEntries]
  sound {p t} h := by
    simp only [sampleEntries, Toml.leaves, List.flatMap_cons, List.flatMap_nil, List.map_cons,
      List.map_nil, List.cons_append, List.nil_append, List.mem_cons, Prod.mk.injEq,
      List.not_mem_nil, or_false] at h
    rcases h with ⟨rfl, rfl⟩ | ⟨rfl, rfl⟩ | ⟨rfl, rfl⟩ | ⟨rfl, rfl⟩
    · exact ⟨.timeZone, _, rfl, rfl, rfl⟩
    · exact ⟨.resolution, _, rfl, rfl, "Hour", rfl, by decide +kernel⟩
    · refine ⟨.escalation, _, rfl, rfl, _, rfl, .cons ?_ .nil⟩
      exact ⟨.string "daily", ⟨"daily", rfl, by decide +kernel⟩, .inl rfl⟩
    · exact ⟨.level, _, rfl, rfl, rfl⟩
  complete x h := by
    cases x with
    | resolution | escalation | level | timeZone =>
      simp [sampleEntries, Toml.leaves, Setting.place]
    | _ => cases h

lemma assigns_sampleEnvironment : Environment.Assigns sampleEnvironment sampleVariables where
  sound {name text} h hstart := by
    simp only [sampleEnvironment, List.mem_cons, Prod.mk.injEq, List.not_mem_nil, or_false] at h
    rcases h with ⟨rfl, rfl⟩ | ⟨rfl, rfl⟩ | ⟨rfl, rfl⟩
    · have hlower : Text.lower "daily" = "daily" := by decide +kernel
      exact ⟨.resolution, _, rfl, by decide +kernel, hlower⟩
    · exact absurd hstart (by decide +kernel)
    · exact ⟨.format, _, rfl, by decide +kernel, rfl,
        ⟨by decide +kernel, by decide +kernel, by decide +kernel, by decide +kernel⟩⟩
  complete x h := by
    cases x with
    | resolution => exact ⟨_, _, .head _, by decide +kernel⟩
    | format => exact ⟨_, _, .tail _ (.tail _ (.head _)), by decide +kernel⟩
    | _ => cases h

/-- The file has a level and the environment a format, so that logging is whole. The resolution is
that of the environment. -/
theorem load_sample :
    (∃ s, load (some sampleText) sampleEnvironment = .ok s) ∧
      ∀ s, load (some sampleText) sampleEnvironment = .ok s →
        s.defaults.resolution = .daily ∧ s.logging.level = "debug" ∧ s.logging.format = "json" ∧
          s.lookback.escalation = [⟨.daily, 5⟩] ∧ s.lookback.defaultEscalation = 1440 ∧
          s.timeZone = .utc := by
  have hsmall : ∀ x v, sampleVariables x = some v → x.IsSmall v := by
    intro x v h
    cases x <;> trivial
  obtain ⟨hload, -⟩ := load_follows_assignments parse?_sampleText assigns_sampleFile
    assigns_sampleEnvironment hsmall
  refine ⟨hload.succeeds_iff.mpr Iff.rfl, fun s hs => ?_⟩
  have hget := hload.get_eq hs
  exact ⟨hget .resolution, hget .level, hget .format, hget .escalation, hget .defaultEscalation,
    hget .timeZone⟩

/-- A count of 64 bits in a variable, which is read as a number with a fraction. -/
theorem load_large_count :
    let environment := [("HISTORY__LAST_KNOWN_PRICE__INITIAL_PERIODS", "9223372036854775809")]
    let E : Assignment
      | .initialPeriods => some (9223372036854775809 : Nat)
      | _               => none
    9223372036854775809 < UInt64.size ∧ Environment.Assigns environment E ∧
      Toml.parse? "" = some [] ∧ ∃ s, load (some "") environment = .ok s ∧
        s.lookback.initialPeriods = 9223372036854775808 := by
  intro environment E
  refine ⟨by decide, ⟨?_, ?_⟩, by cbv, ?_⟩
  · intro name text h hstart
    obtain ⟨rfl, rfl⟩ := Prod.mk.inj (List.mem_singleton.mp h)
    exact ⟨.initialPeriods, _, rfl, by decide +kernel, rfl⟩
  · intro x h
    cases x with
    | initialPeriods => exact ⟨_, _, .head _, by decide +kernel⟩
    | _ => cases h
  · have hload : load (some "") environment =
        .ok { Settings.usual with lookback.initialPeriods := 9223372036854775808 } := by
      decide +kernel
    exact ⟨_, hload, rfl⟩

end Settings

end MarketHistory

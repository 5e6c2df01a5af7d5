import MarketHistory.Record.Fields
import Mathlib.Data.List.Nodup

/-!
# Fields of members that differ in name

Where no two members have the same name, the fields of a record are the members of their names
(`fieldsByName?_of_nodup`), and all members in their order if the record has just these fields
(`fieldsByName?_names`).
-/

namespace MarketHistory.Record

variable {α : Type}

lemma filter_of_nodup {members : List (String × α)} (h : (members.map Prod.fst).Nodup)
    (name : String) :
    members.filter (·.1 == name) = (members.lookup name).toList.map (Prod.mk name) := by
  induction members with
  | nil => rfl
  | cons m members ih =>
    obtain ⟨key, a⟩ := m
    rw [List.map_cons, List.nodup_cons] at h
    by_cases hkey : key = name
    · subst hkey
      have hnone : members.filter (·.1 == key) = [] := by
        rw [List.filter_eq_nil_iff]
        intro m hm heq
        exact h.1 (List.mem_map.mpr ⟨m, hm, eq_of_beq heq⟩)
      rw [List.lookup_cons_self, List.filter_cons, if_pos (beq_self_eq_true key), hnone]
      rfl
    · rw [List.filter_cons_of_neg (by simpa using hkey), ih h.2, List.lookup_cons,
        beq_eq_false_iff_ne.mpr (Ne.symm hkey)]

/-- Where no two members have the same name, the fields are the members of their names. -/
lemma fieldsByName?_of_nodup {members : List (String × α)} (h : (members.map Prod.fst).Nodup)
    (names : List String) :
    fieldsByName? names members = some (names.map fun name => members.lookup name) := by
  induction names with
  | nil => rfl
  | cons name names ih =>
    rw [fieldsByName?, List.mapM_cons, filter_of_nodup h]
    rw [fieldsByName?] at ih
    cases hlookup : members.lookup name <;> simp [ih, hlookup]

lemma lookup_of_mem {members : List (String × α)} (h : (members.map Prod.fst).Nodup)
    {m : String × α} (hm : m ∈ members) : members.lookup m.1 = some m.2 := by
  induction members with
  | nil => cases hm
  | cons m' members ih =>
    rw [List.map_cons, List.nodup_cons] at h
    rcases List.mem_cons.mp hm with rfl | hm
    · exact List.lookup_cons_self
    · have hne : m.1 ≠ m'.1 := fun heq => h.1 (heq ▸ List.mem_map_of_mem hm)
      rw [List.lookup_cons, beq_eq_false_iff_ne.mpr hne]
      exact ih h.2 hm

/-- The fields of a record that has just the names of the members. -/
lemma fieldsByName?_names {members : List (String × α)} (h : (members.map Prod.fst).Nodup) :
    fieldsByName? (members.map Prod.fst) members = some (members.map fun m => some m.2) := by
  rw [fieldsByName?_of_nodup h, List.map_map]
  exact congrArg some (List.map_congr_left fun m hm => lookup_of_mem h hm)

end MarketHistory.Record

/-!
# Sorted maps

A finite map kept as the list of its entries by strictly increasing key, so that two maps with
the same look-ups are the same value and every listing of a map is in key order.
-/

namespace MarketHistory

/-- A finite map, listed by strictly increasing key. -/
structure SortedMap (κ ν : Type) [Ord κ] where
  /-- The entries, in key order. -/
  entries : List (κ × ν)
  /-- Keys strictly increase along the entries. -/
  ordered : entries.Pairwise fun a b => compare a.1 b.1 = .lt

namespace SortedMap

variable {κ ν : Type} [Ord κ]

/-- The map without entries. -/
def empty : SortedMap κ ν := ⟨[], .nil⟩

instance : Inhabited (SortedMap κ ν) := ⟨empty⟩

/-- The keys, in order. -/
def keys (m : SortedMap κ ν) : List κ := m.entries.map (·.1)

/-- The values, in the order of their keys. -/
def values (m : SortedMap κ ν) : List ν := m.entries.map (·.2)

/-- The number of keys. -/
def size (m : SortedMap κ ν) : Nat := m.entries.length

/-- The value at a key. -/
def get? (m : SortedMap κ ν) (k : κ) : Option ν :=
  (m.entries.find? fun e => compare k e.1 == .eq).map (·.2)

/-- Whether a key has a value. -/
def contains (m : SortedMap κ ν) (k : κ) : Bool :=
  (m.get? k).isSome

/-! ### Change at one key -/

/-- The entries with the value at `k` replaced by `f` of what was there. -/
def alterEntries (k : κ) (f : Option ν → ν) : List (κ × ν) → List (κ × ν)
  | []        => [(k, f none)]
  | e :: rest =>
    match compare k e.1 with
    | .lt => (k, f none) :: e :: rest
    | .eq => (k, f (some e.2)) :: rest
    | .gt => e :: alterEntries k f rest

theorem mem_alterEntries {k : κ} {f : Option ν → ν} {x : κ × ν} :
    ∀ {es : List (κ × ν)}, x ∈ alterEntries k f es → x.1 = k ∨ x ∈ es
  | [], h => by simp_all [alterEntries]
  | e :: rest, h => by
    rw [alterEntries] at h
    split at h
    · rcases List.mem_cons.1 h with rfl | h
      · exact .inl rfl
      · exact .inr h
    · rcases List.mem_cons.1 h with rfl | h
      · exact .inl rfl
      · exact .inr (.tail _ h)
    · rcases List.mem_cons.1 h with rfl | h
      · exact .inr (.head _)
      · exact (mem_alterEntries h).imp id (.tail _)

variable [Std.TransOrd κ]

theorem alterEntries_ordered {k : κ} {f : Option ν → ν} :
    ∀ {es : List (κ × ν)}, es.Pairwise (fun a b => compare a.1 b.1 = .lt) →
      (alterEntries k f es).Pairwise fun a b => compare a.1 b.1 = .lt
  | [], _ => by simp [alterEntries]
  | e :: rest, h => by
    obtain ⟨hd, tl⟩ := List.pairwise_cons.1 h
    rw [alterEntries]
    split
    next hk =>
      refine List.pairwise_cons.2 ⟨fun x hx => ?_, h⟩
      rcases List.mem_cons.1 hx with rfl | hx
      · exact hk
      · exact Std.TransCmp.lt_trans hk (hd x hx)
    next hk =>
      exact List.pairwise_cons.2 ⟨fun x hx => Std.TransCmp.lt_of_eq_of_lt hk (hd x hx), tl⟩
    next hk =>
      refine List.pairwise_cons.2 ⟨fun x hx => ?_, alterEntries_ordered tl⟩
      rcases mem_alterEntries hx with hx | hx
      · exact hx ▸ Std.OrientedCmp.gt_iff_lt.1 hk
      · exact hd x hx

/-- The map with the value at `k` replaced by `f` of what was there. -/
def alter (m : SortedMap κ ν) (k : κ) (f : Option ν → ν) : SortedMap κ ν :=
  ⟨alterEntries k f m.entries, alterEntries_ordered m.ordered⟩

/-- The map with the value at `k` set to `v`. -/
def insert (m : SortedMap κ ν) (k : κ) (v : ν) : SortedMap κ ν :=
  m.alter k fun _ => v

/-- The map with the value at `k` set to `v` if `k` had none. -/
def insertNew (m : SortedMap κ ν) (k : κ) (v : ν) : SortedMap κ ν :=
  m.alter k (·.getD v)

/-- The map with `v` added at the end of the list at `k`. -/
def push {α : Type} (m : SortedMap κ (List α)) (k : κ) (v : α) : SortedMap κ (List α) :=
  m.alter k fun vs => vs.getD [] ++ [v]

omit [Std.TransOrd κ] in
theorem filter_ordered {m : SortedMap κ ν} (p : κ × ν → Bool) :
    (m.entries.filter p).Pairwise fun a b => compare a.1 b.1 = .lt :=
  m.ordered.sublist List.filter_sublist

omit [Std.TransOrd κ] in
/-- The map without the key `k`. -/
def erase (m : SortedMap κ ν) (k : κ) : SortedMap κ ν :=
  ⟨m.entries.filter fun e => compare k e.1 != .eq, filter_ordered _⟩

/-! ### Look-up after a change -/

omit [Std.TransOrd κ] in
@[simp]
theorem get?_empty (k : κ) : (empty : SortedMap κ ν).get? k = none := rfl

omit [Std.TransOrd κ] in
/-- A key below all others is not found. -/
theorem find?_eq_none_of_lt {k : κ} {es : List (κ × ν)} (h : ∀ e ∈ es, compare k e.1 = .lt) :
    es.find? (fun e => compare k e.1 == .eq) = none := by
  rw [List.find?_eq_none]
  intro e he
  simp [h e he]

theorem find?_alterEntries {k k' : κ} {f : Option ν → ν} :
    ∀ {es : List (κ × ν)}, es.Pairwise (fun a b => compare a.1 b.1 = .lt) →
      ((alterEntries k f es).find? fun e => compare k' e.1 == .eq).map (·.2) =
        if compare k' k = .eq then
          some (f ((es.find? fun e => compare k e.1 == .eq).map (·.2)))
        else (es.find? fun e => compare k' e.1 == .eq).map (·.2)
  | [], _ => by by_cases h : compare k' k = .eq <;> simp [alterEntries, h]
  | e :: rest, hs => by
    obtain ⟨hd, tl⟩ := List.pairwise_cons.1 hs
    rw [alterEntries]
    split
    next hk =>
      have hlt : ∀ x ∈ e :: rest, compare k x.1 = .lt := by
        intro x hx
        rcases List.mem_cons.1 hx with rfl | hx
        · exact hk
        · exact Std.TransCmp.lt_trans hk (hd x hx)
      rw [find?_eq_none_of_lt hlt]
      by_cases h : compare k' k = .eq <;> simp [List.find?_cons, h]
    next hk =>
      by_cases h : compare k' k = .eq
      · simp [h, hk]
      · have h' : ¬compare k' e.1 = .eq := fun h' =>
          h (Std.TransCmp.eq_trans h' (Std.OrientedCmp.eq_symm hk))
        simp [h, h']
    next hk =>
      have ih := @find?_alterEntries k k' f rest tl
      by_cases h : compare k' k = .eq
      · have h' : ¬compare k' e.1 = .eq := by
          rw [Std.TransCmp.congr_left h, hk]; decide
        rw [if_pos h] at ih ⊢
        simp [h', hk, ih]
      · rw [if_neg h] at ih ⊢
        by_cases h' : compare k' e.1 = .eq
        · simp [h']
        · simp [h', ih]

/-- The value at a key after the one at `k` is altered. -/
theorem get?_alter (m : SortedMap κ ν) (k k' : κ) (f : Option ν → ν) :
    (m.alter k f).get? k' = if compare k' k = .eq then some (f (m.get? k)) else m.get? k' :=
  find?_alterEntries m.ordered

/-- The value at a key after the one at `k` is set. -/
theorem get?_insert [Std.LawfulEqOrd κ] [DecidableEq κ] (m : SortedMap κ ν) (k k' : κ) (v : ν) :
    (m.insert k v).get? k' = if k' = k then some v else m.get? k' := by
  rw [insert, get?_alter]
  simp only [Std.LawfulEqOrd.compare_eq_iff_eq]

/-- The value at a key after `k` is given one. -/
theorem get?_insertNew [Std.LawfulEqOrd κ] [DecidableEq κ] (m : SortedMap κ ν) (k k' : κ) (v : ν) :
    (m.insertNew k v).get? k' = if k' = k then some ((m.get? k).getD v) else m.get? k' := by
  rw [insertNew, get?_alter]
  simp only [Std.LawfulEqOrd.compare_eq_iff_eq]

/-- The list at a key after `v` is added to the one at `k`. -/
theorem get?_push {α : Type} [Std.LawfulEqOrd κ] [DecidableEq κ] (m : SortedMap κ (List α))
    (k k' : κ) (v : α) :
    (m.push k v).get? k' = if k' = k then some ((m.get? k).getD [] ++ [v]) else m.get? k' := by
  rw [push, get?_alter]
  simp only [Std.LawfulEqOrd.compare_eq_iff_eq]

/-- The value at a key after `k` is erased. -/
theorem get?_erase (m : SortedMap κ ν) (k k' : κ) :
    (m.erase k).get? k' = if compare k' k = .eq then none else m.get? k' := by
  unfold get? erase
  by_cases h : compare k' k = .eq
  · rw [if_pos h, Option.map_eq_none_iff, List.find?_eq_none]
    intro e he
    rw [List.mem_filter] at he
    rw [Std.TransCmp.congr_left h]
    simpa using he.2
  · rw [if_neg h, List.find?_filter]
    congr 2
    funext e
    by_cases he : compare k' e.1 = .eq
    · have : ¬compare k e.1 = .eq := fun hk =>
        h (Std.TransCmp.eq_trans he (Std.OrientedCmp.eq_symm hk))
      simp [he, this]
    · simp [he]

/-! ### Entries and look-up -/

omit [Std.TransOrd κ] in
/-- The entries are the pairs of a key and the value found at it. -/
theorem mem_entries_iff [Std.LawfulEqOrd κ] {m : SortedMap κ ν} {k : κ} {v : ν} :
    (k, v) ∈ m.entries ↔ m.get? k = some v := by
  unfold get?
  have h := m.ordered
  generalize m.entries = es at h
  induction es with
  | nil => simp
  | cons e rest ih =>
    obtain ⟨hd, tl⟩ := List.pairwise_cons.1 h
    by_cases hk : compare k e.1 = .eq
    · have := Std.LawfulEqOrd.eq_of_compare hk
      subst this
      simp only [List.mem_cons, List.find?_cons, hk, beq_self_eq_true, Option.map_some,
        Option.some.injEq]
      constructor
      · rintro (h | h)
        · exact congrArg Prod.snd h.symm
        · have := hd _ h
          rw [Std.ReflOrd.compare_self] at this
          cases this
      · rintro rfl
        exact .inl rfl
    · have hne : (k, v) ≠ e := by
        rintro rfl
        exact hk Std.ReflOrd.compare_self
      simp [hk, hne, ih tl]

omit [Std.TransOrd κ] in
theorem pairwise_keys (m : SortedMap κ ν) : m.keys.Pairwise fun a b => compare a b = .lt :=
  List.pairwise_map.2 m.ordered

omit [Std.TransOrd κ] in
theorem mem_keys_iff [Std.LawfulEqOrd κ] (m : SortedMap κ ν) {k : κ} :
    k ∈ m.keys ↔ m.contains k = true := by
  simp [keys, contains, get?]

/-- Two maps with the same look-ups are the same. -/
theorem ext_get? [Std.LawfulEqOrd κ] {m n : SortedMap κ ν} (h : ∀ k, m.get? k = n.get? k) :
    m = n := by
  have nodup (l : SortedMap κ ν) : l.entries.Nodup :=
    l.ordered.imp fun {a b} hab => by
      rintro rfl
      rw [Std.ReflOrd.compare_self] at hab
      cases hab
  have hp : m.entries.Perm n.entries := (List.perm_ext_iff_of_nodup (nodup m) (nodup n)).2
    fun x => by
      obtain ⟨k, v⟩ := x
      rw [mem_entries_iff, mem_entries_iff, h]
  have he : m.entries = n.entries := hp.eq_of_pairwise
    (fun a b _ _ hab hba => by
      rw [Std.OrientedOrd.eq_swap, hba] at hab
      cases hab)
    m.ordered n.ordered
  cases m; cases n; simp_all

end SortedMap

end MarketHistory

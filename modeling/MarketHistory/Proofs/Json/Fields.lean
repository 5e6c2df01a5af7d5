import MarketHistory.Json.Fields
import MarketHistory.Json.Kept
import MarketHistory.Proofs.Json.Written
import MarketHistory.Proofs.Record.Fields

/-!
# Fields written and read again

A record that is written with all its members is read member by member (`Json.fields?_bind`,
`Json.required?_bind`, `Json.orDefault?_bind`), and what holds of the values that its fields can
have holds of each record that is read (`Json.forall_mem_bind`). An object that is read by its tag
is first kept; where its members are kept as they are, they are what is read
(`Json.tagged?_of_kept`).
-/

namespace MarketHistory.Json

open Record

variable {α β : Type}

/-! ### Values of fields -/

lemma string?_string (s : String) : string? (string s) = some s := rfl

lemma bool?_bool (b : Bool) : bool? (bool b) = some b := rfl

lemma count?_integer {n : Nat} (h : n < UInt64.size) : count? (integer n) = some n := by
  rw [count?, if_pos (by omega), Int.toNat_natCast]

lemma lt_of_mem_count? (j : Json) : ∀ n ∈ count? j, n < UInt64.size := by
  intro n hn
  cases j with
  | integer m =>
    rw [Option.mem_def, count?, Option.ite_none_right_eq_some, Option.some.injEq] at hn
    omega
  | _ => cases hn

lemma list?_ofList {read : Json → Option α} {f : α → Json} {g : α → α} {items : List α}
    (h : ∀ a ∈ items, read (f a) = some (g a)) :
    list? read (ofList f items) = some (items.map g) := by
  rw [ofList, list?]
  induction items with
  | nil => rfl
  | cons a items ih =>
    rw [List.map_cons, List.mapM_cons, h a List.mem_cons_self,
      ih fun b hb => h b (.tail a hb)]
    rfl

lemma list?_ofList_self {read : Json → Option α} {f : α → Json} {items : List α}
    (h : ∀ a ∈ items, read (f a) = some a) : list? read (ofList f items) = some items := by
  rw [list?_ofList (g := id) h, List.map_id]

/-- What holds of all items that can be read holds of the items of a list. -/
lemma forall_mem_list? {read : Json → Option α} {P : α → Prop} (h : ∀ j, ∀ a ∈ read j, P a)
    (j : Json) : ∀ items ∈ list? read j, ∀ a ∈ items, P a := by
  intro items hitems
  cases j with
  | array js =>
    rw [Option.mem_def, list?] at hitems
    induction js generalizing items with
    | nil =>
      cases hitems
      exact fun a ha => nomatch ha
    | cons j js ih =>
      rw [List.mapM_cons] at hitems
      obtain ⟨a, hread, hitems⟩ := Option.bind_eq_some_iff.mp hitems
      obtain ⟨as, hreads, hitems⟩ := Option.bind_eq_some_iff.mp hitems
      cases hitems
      exact List.forall_mem_cons.mpr ⟨h j a hread, ih as hreads⟩
  | _ => cases hitems

lemma nullable?_of_ne_null {read : Json → Option α} {j : Json} {a : α} (hne : j ≠ null)
    (h : read j = some a) : nullable? read j = some (some a) := by
  rw [nullable?, h, Option.map_some]
  exact hne

/-! ### Records that were written -/

section Written

variable {names : List String} {members : List (String × Json)} {least : Nat}
variable {fields : List (Option Json) → Option β} {r : Option β}

/-- A record that is written with all its members is read from their values. -/
lemma fields?_bind (hnames : members.map Prod.fst = names) (hnodup : names.Nodup)
    (h : fields (members.map fun m => some m.2) = r) :
    fields? least names (object members) >>= fields = r := by
  subst hnames
  rw [fields?, fieldsByName?_names hnodup]
  exact h

variable {read : Json → Option α} {j : Json} {a d : α} {rest : α → Option β}
variable (hread : read j = some a) (h : rest a = r)
include hread h

lemma required?_bind : required? read (some j) >>= rest = r := by
  show (read j).bind rest = r
  rw [hread]
  exact h

lemma orDefault?_bind : orDefault? read d (some j) >>= rest = r := by
  show (read j).bind rest = r
  rw [hread]
  exact h

end Written

lemma optional?_bind {read : Json → Option α} {f : α → Json} {g : α → α} {a : Option α}
    {rest : Option α → Option β} {r : Option β} (hne : ∀ a, f a ≠ null)
    (hread : ∀ a, read (f a) = some (g a)) (h : rest (a.map g) = r) :
    optional? read (a.map f) >>= rest = r := by
  cases a with
  | none => exact h
  | some a => exact orDefault?_bind (nullable?_of_ne_null (hne a) (hread a)) h

/-! ### Records that were read -/

section Read

variable {read : Json → Option α} {P : α → Prop} {Q : β → Prop}

/-- What follows from each value that a field can have holds of the record. -/
lemma forall_mem_bind {x : Option α} {rest : α → Option β} (hx : ∀ a ∈ x, P a)
    (h : ∀ a, P a → ∀ b ∈ rest a, Q b) : ∀ b ∈ x >>= rest, Q b := by
  intro b hb
  obtain ⟨a, ha, hb⟩ := Option.bind_eq_some_iff.mp hb
  exact h a (hx a ha) b hb

lemma forall_mem_bind_any {x : Option α} {rest : α → Option β} (h : ∀ a, ∀ b ∈ rest a, Q b) :
    ∀ b ∈ x >>= rest, Q b :=
  forall_mem_bind (P := fun _ => True) (fun _ _ => trivial) fun a _ => h a

lemma forall_mem_required? (h : ∀ j, ∀ a ∈ read j, P a) (field : Option Json) :
    ∀ a ∈ required? read field, P a := by
  intro a ha
  obtain ⟨j, -, ha⟩ := Option.bind_eq_some_iff.mp ha
  exact h j a ha

lemma forall_mem_orDefault? {d : α} (h : ∀ j, ∀ a ∈ read j, P a) (hd : P d)
    (field : Option Json) : ∀ a ∈ orDefault? read d field, P a := by
  cases field with
  | none =>
    rintro _ ⟨⟩
    exact hd
  | some j => exact h j

end Read

/-! ### Values that are kept -/

lemma keepMembers?_of_kept {members : List (String × Json)} {levels : Nat}
    (h : ∀ m ∈ members, keep? levels m.2 = some m.2) :
    keepMembers? levels members = some members := by
  induction members with
  | nil => rfl
  | cons m members ih =>
    obtain ⟨hm, hmembers⟩ := List.forall_mem_cons.mp h
    rw [keepMembers?, hm, ih hmembers]
    rfl

/-- An object of several members that are kept as they are is kept as it is. -/
lemma keep?_object {members : List (String × Json)} {levels : Nat} (hlength : 1 < members.length)
    (h : ∀ m ∈ members, keep? levels m.2 = some m.2) :
    keep? (levels + 1) (object members) = some (object members) := by
  rw [keep?, if_neg (Nat.succ_ne_zero levels), Nat.add_sub_cancel, keepMembers?_of_kept h]
  split
  next heq => cases heq
  next heq =>
    cases heq
    exact absurd hlength (Nat.lt_irrefl 1)
  next heq => cases heq; rfl

/-- An object with a tag is read as its tag and its other members. -/
lemma tagged?_of_kept {tag : String} {members : List (String × Json)} {levels : Nat}
    (hne : members ≠ []) (htag : ∀ m ∈ members, m.1 ≠ "type")
    (h : ∀ m ∈ members, keep? levels m.2 = some m.2) :
    tagged? (levels + 1) (object (("type", string tag) :: members)) =
      some (tag, object members) := by
  have hlength : 1 < (("type", string tag) :: members).length :=
    Nat.succ_lt_succ (List.length_pos_iff.mpr hne)
  have hkept : ∀ m ∈ ("type", string tag) :: members, keep? levels m.2 = some m.2 :=
    List.forall_mem_cons.mpr ⟨rfl, h⟩
  have htags : (("type", string tag) :: members).filter (·.1 == "type") =
      [("type", string tag)] := by
    rw [List.filter_cons_of_pos rfl,
      List.filter_eq_nil_iff.mpr fun m hm heq => htag m hm (eq_of_beq heq)]
  have hothers : (("type", string tag) :: members).filter (·.1 != "type") = members := by
    rw [List.filter_cons_of_neg (by simp)]
    exact List.filter_eq_self.mpr fun m hm => bne_iff_ne.mpr (htag m hm)
  rw [tagged?, keep?_object hlength hkept, Option.bind_eq_bind, Option.bind_some]
  simp only [htags, hothers]
  rfl

/-! ### Plain values -/

lemma isPlain_ofList {f : α → Json} (h : ∀ a, IsPlain (f a)) (items : List α) :
    IsPlain (ofList f items) := by
  rw [ofList, IsPlain]
  induction items with
  | nil => exact trivial
  | cons a items ih => exact ⟨h a, ih⟩

lemma areMembersPlain_iff {members : List (String × Json)} :
    AreMembersPlain members ↔ ∀ m ∈ members, IsPlain m.2 := by
  induction members with
  | nil => simp [AreMembersPlain]
  | cons m members ih => rw [AreMembersPlain, ih, List.forall_mem_cons]

lemma isPlain_ofOption {f : α → Json} (h : ∀ a, IsPlain (f a)) (a : Option α) :
    IsPlain (ofOption f a) := by
  cases a with
  | none => exact trivial
  | some a => exact h a

end MarketHistory.Json

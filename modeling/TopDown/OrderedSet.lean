/-!
Finite sets that remember the order their members came in. A member put in again keeps its place,
so every operation extends the list it starts from.
-/

set_option autoImplicit false

namespace TopDown

structure OrderedSet (α : Type) where
  toList : List α
  nodup : toList.Nodup

namespace OrderedSet

variable {α : Type}

def empty : OrderedSet α := ⟨[], List.nodup_nil⟩

instance : EmptyCollection (OrderedSet α) := ⟨empty⟩

instance : Inhabited (OrderedSet α) := ⟨empty⟩

instance : Membership α (OrderedSet α) := ⟨fun set value => value ∈ set.toList⟩

def size (set : OrderedSet α) : Nat := set.toList.length

theorem mem_to_list (set : OrderedSet α) (value : α) : value ∈ set.toList ↔ value ∈ set := Iff.rfl

theorem not_mem_empty (value : α) : ¬ value ∈ (∅ : OrderedSet α) := List.not_mem_nil

theorem ext_list (left right : OrderedSet α) (same : left.toList = right.toList) : left = right := by
  cases left
  cases right
  cases same
  rfl

def singleton (value : α) : OrderedSet α := ⟨[value], by simp⟩

theorem mem_singleton (value other : α) : other ∈ singleton value ↔ other = value :=
  List.mem_singleton

variable [DecidableEq α]

instance (value : α) (set : OrderedSet α) : Decidable (value ∈ set) :=
  inferInstanceAs (Decidable (value ∈ set.toList))

def insert (set : OrderedSet α) (value : α) : OrderedSet α :=
  if present : value ∈ set.toList then set
  else
    ⟨set.toList ++ [value], by
      refine List.nodup_append.mpr ⟨set.nodup, by simp, ?_⟩
      intro old oldMember new newMember same
      exact present (by simpa [same, List.mem_singleton.mp newMember] using oldMember)⟩

def insertAll (set : OrderedSet α) (values : List α) : OrderedSet α := values.foldl insert set

def ofList (values : List α) : OrderedSet α := insertAll ∅ values

def union (left right : OrderedSet α) : OrderedSet α := left.insertAll right.toList

instance : Union (OrderedSet α) := ⟨union⟩

-- The members of a set in the order of a second one, those it lacks last and in their own order.
def inOrderOf (set order : OrderedSet α) : List α :=
  order.toList.filter (· ∈ set) ++ set.toList.filter (· ∉ order)

def Subset (left right : OrderedSet α) : Prop := ∀ value ∈ left.toList, value ∈ right.toList

instance : HasSubset (OrderedSet α) := ⟨Subset⟩

instance (left right : OrderedSet α) : Decidable (left ⊆ right) :=
  inferInstanceAs (Decidable (∀ value ∈ left.toList, value ∈ right.toList))

theorem to_list_insert (set : OrderedSet α) (value : α) :
    (set.insert value).toList = if value ∈ set then set.toList else set.toList ++ [value] := by
  unfold insert
  split
  · rename_i present
    simp [← mem_to_list, present]
  · rename_i absent
    simp [← mem_to_list, absent]

theorem insert_of_mem (set : OrderedSet α) (value : α) (present : value ∈ set) :
    set.insert value = set := by
  simp only [insert, dif_pos ((mem_to_list set value).mpr present)]

theorem mem_insert (set : OrderedSet α) (value other : α) :
    other ∈ set.insert value ↔ other ∈ set ∨ other = value := by
  rw [← mem_to_list, to_list_insert]
  split
  · rename_i present
    exact ⟨Or.inl, fun either => either.elim id (fun same => same ▸ present)⟩
  · simp [mem_to_list]

theorem prefix_insert (set : OrderedSet α) (value : α) :
    set.toList <+: (set.insert value).toList := by
  rw [to_list_insert]
  split
  · exact List.prefix_refl _
  · exact List.prefix_append _ _

theorem insert_all_cons (set : OrderedSet α) (value : α) (values : List α) :
    set.insertAll (value :: values) = (set.insert value).insertAll values := rfl

theorem mem_insert_all (set : OrderedSet α) (values : List α) (other : α) :
    other ∈ set.insertAll values ↔ other ∈ set ∨ other ∈ values := by
  induction values generalizing set with
  | nil => simp [insertAll]
  | cons value rest ih => rw [insert_all_cons, ih, mem_insert, List.mem_cons, or_assoc]

theorem prefix_insert_all (set : OrderedSet α) (values : List α) :
    set.toList <+: (set.insertAll values).toList := by
  induction values generalizing set with
  | nil => exact List.prefix_refl _
  | cons value rest ih => exact (prefix_insert set value).trans (ih (set.insert value))

theorem insert_all_of_subset (set : OrderedSet α) (values : List α)
    (present : ∀ value ∈ values, value ∈ set) : set.insertAll values = set := by
  induction values with
  | nil => rfl
  | cons value rest ih =>
      rw [insert_all_cons, insert_of_mem set value (present value (by simp))]
      exact ih (fun other member => present other (by simp [member]))

theorem mem_of_list (values : List α) (other : α) : other ∈ ofList values ↔ other ∈ values := by
  rw [ofList, mem_insert_all]
  simp [not_mem_empty]

theorem mem_union (left right : OrderedSet α) (value : α) :
    value ∈ left ∪ right ↔ value ∈ left ∨ value ∈ right := mem_insert_all _ _ _

theorem mem_in_order_of (set order : OrderedSet α) (value : α) :
    value ∈ set.inOrderOf order ↔ value ∈ set := by
  simp only [inOrderOf, List.mem_append, List.mem_filter, mem_to_list, decide_eq_true_eq]
  by_cases known : value ∈ order <;> simp [known]

theorem size_insert_all (set : OrderedSet α) (values : List α) :
    set.size ≤ (set.insertAll values).size := (prefix_insert_all set values).length_le

-- A list without repetitions is no longer than a list that holds all its members.
theorem length_le_of_nodup (values : List α) (nodup : values.Nodup) (bounds : List α)
    (inside : ∀ value ∈ values, value ∈ bounds) : values.length ≤ bounds.length := by
  induction values generalizing bounds with
  | nil => exact Nat.zero_le _
  | cons value rest ih =>
      obtain ⟨fresh, restNodup⟩ := List.nodup_cons.mp nodup
      have member := inside value (by simp)
      have restInside : ∀ other ∈ rest, other ∈ bounds.erase value := by
        intro other otherMember
        have different : other ≠ value := fun same => fresh (same ▸ otherMember)
        exact (List.mem_erase_of_ne different).mpr (inside other (by simp [otherMember]))
      have shorter := ih restNodup (bounds.erase value) restInside
      rw [List.length_erase_of_mem member] at shorter
      have positive := List.length_pos_of_mem member
      simp only [List.length_cons]
      omega

theorem size_le_of_subset (left right : OrderedSet α) (inside : left ⊆ right) :
    left.size ≤ right.size := length_le_of_nodup left.toList left.nodup right.toList inside

end OrderedSet

end TopDown

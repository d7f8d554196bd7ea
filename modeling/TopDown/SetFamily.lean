import TopDown.OrderedSet
/-!
Families of finite sets, one row for each index, kept as one ordered set of pairs. A row lists its
members in the order they came in.
-/

set_option autoImplicit false

namespace TopDown

structure SetFamily (ι β : Type) where
  index : OrderedSet ι
  pairs : OrderedSet (ι × β)
  indexed : ∀ pair ∈ pairs, pair.1 ∈ index

namespace SetFamily

variable {ι β : Type}

-- Every index has an empty row.
def ofIndex (index : OrderedSet ι) : SetFamily ι β :=
  ⟨index, ∅, fun pair member => absurd member (OrderedSet.not_mem_empty pair)⟩

def size (family : SetFamily ι β) : Nat := family.pairs.size

variable [DecidableEq ι]

theorem nodup_row (pairs : List (ι × β)) (nodup : pairs.Nodup) (target : ι) :
    ((pairs.filter (·.1 = target)).map (·.2)).Nodup := by
  induction pairs with
  | nil => exact List.nodup_nil
  | cons pair rest ih =>
      obtain ⟨fresh, restNodup⟩ := List.nodup_cons.mp nodup
      by_cases same : pair.1 = target
      · rw [List.filter_cons_of_pos (by simpa using same), List.map_cons]
        refine List.nodup_cons.mpr ⟨?_, ih restNodup⟩
        intro again
        obtain ⟨other, otherMember, otherValue⟩ := List.mem_map.mp again
        obtain ⟨otherRest, otherIndex⟩ := List.mem_filter.mp otherMember
        have equal : other = pair := Prod.ext ((of_decide_eq_true otherIndex).trans same.symm) otherValue
        exact fresh (equal ▸ otherRest)
      · rw [List.filter_cons_of_neg (by simpa using same)]
        exact ih restNodup

def row (family : SetFamily ι β) (target : ι) : OrderedSet β :=
  ⟨(family.pairs.toList.filter (·.1 = target)).map (·.2),
    nodup_row family.pairs.toList family.pairs.nodup target⟩

def row? (family : SetFamily ι β) (target : ι) : Option (OrderedSet β) :=
  if target ∈ family.index then some (family.row target) else none

theorem mem_row (family : SetFamily ι β) (target : ι) (value : β) :
    value ∈ family.row target ↔ (target, value) ∈ family.pairs := by
  rw [← OrderedSet.mem_to_list, ← OrderedSet.mem_to_list]
  simp only [row, List.mem_map, List.mem_filter, decide_eq_true_eq]
  constructor
  · rintro ⟨⟨index, other⟩, ⟨member, rfl⟩, rfl⟩
    exact member
  · intro member
    exact ⟨(target, value), ⟨member, rfl⟩, rfl⟩

variable [DecidableEq β]

instance (family : SetFamily ι β) (target : ι) (value : β) :
    Decidable (value ∈ family.row target) := inferInstance

def insertAll (family : SetFamily ι β) (target : ι) (values : List β) : SetFamily ι β :=
  ⟨family.index.insert target, family.pairs.insertAll (values.map (target, ·)), by
    intro pair member
    rw [OrderedSet.mem_insert]
    rcases (OrderedSet.mem_insert_all _ _ _).mp member with old | new
    · exact Or.inl (family.indexed pair old)
    · obtain ⟨value, _, rfl⟩ := List.mem_map.mp new
      exact Or.inr rfl⟩

-- Row by row inclusion; the indices do not matter, since an absent row reads as empty.
def Below (left right : SetFamily ι β) : Prop :=
  ∀ target value, value ∈ left.row target → value ∈ right.row target

-- The same indices and the same rows, in whatever order.
def SameMembers (left right : SetFamily ι β) : Prop :=
  (left.index ⊆ right.index ∧ right.index ⊆ left.index) ∧
    (left.pairs ⊆ right.pairs ∧ right.pairs ⊆ left.pairs)

instance (left right : SetFamily ι β) : Decidable (left.SameMembers right) :=
  inferInstanceAs (Decidable ((_ ∧ _) ∧ (_ ∧ _)))

theorem mem_row_insert_all (family : SetFamily ι β) (target : ι) (values : List β) (other : ι)
    (value : β) : value ∈ (family.insertAll target values).row other ↔
      value ∈ family.row other ∨ (other = target ∧ value ∈ values) := by
  rw [mem_row, mem_row, insertAll, OrderedSet.mem_insert_all]
  simp only [List.mem_map, Prod.mk.injEq]
  constructor
  · rintro (old | ⟨fresh, member, rfl, rfl⟩)
    · exact Or.inl old
    · exact Or.inr ⟨rfl, member⟩
  · rintro (old | ⟨rfl, member⟩)
    · exact Or.inl old
    · exact Or.inr ⟨value, member, rfl, rfl⟩

theorem size_insert_all (family : SetFamily ι β) (target : ι) (values : List β) :
    family.size ≤ (family.insertAll target values).size := OrderedSet.size_insert_all _ _

theorem length_product {γ δ : Type} (left : List γ) (right : List δ) :
    (left.flatMap (fun a => right.map (a, ·))).length = left.length * right.length := by
  induction left with
  | nil => simp
  | cons a rest ih => simp [ih, Nat.succ_mul, Nat.add_comm]

-- A family inside a table has no more pairs than the table has cells.
theorem size_le_product (family : SetFamily ι β) (indices : List ι) (values : List β)
    (inside : ∀ index value, value ∈ family.row index → index ∈ indices ∧ value ∈ values) :
    family.size ≤ indices.length * values.length := by
  rw [size, OrderedSet.size, ← length_product]
  refine OrderedSet.length_le_of_nodup _ family.pairs.nodup _ ?_
  rintro ⟨index, value⟩ member
  obtain ⟨row, column⟩ := inside index value ((mem_row family index value).mpr member)
  exact List.mem_flatMap.mpr ⟨index, row, List.mem_map_of_mem column⟩

theorem below_insert_all (family : SetFamily ι β) (target : ι) (values : List β) :
    family.Below (family.insertAll target values) :=
  fun other value member => (mem_row_insert_all family target values other value).mpr (Or.inl member)

end SetFamily

end TopDown

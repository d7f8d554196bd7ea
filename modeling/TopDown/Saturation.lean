import TopDown.SetFamily
/-!
Systems of inclusions between the rows of a set family. A pass carries out every inclusion once, in
order and in place; saturation repeats passes until one adds nothing. It ends because a pass that
adds a pair stays inside the product of the indices and values that were known beforehand.
-/

set_option autoImplicit false

namespace TopDown

variable {ι β : Type} [DecidableEq ι]

/-- The row of `target` has to hold whatever `source` reads off the family. -/
structure Inclusion (ι β : Type) [DecidableEq ι] where
  target : ι
  source : SetFamily ι β → List β
  constants : List β
  drawn : ∀ family, ∀ value ∈ source family,
    value ∈ constants ∨ ∃ index, value ∈ family.row index

namespace Inclusion

def Holds (inclusion : Inclusion ι β) (family : SetFamily ι β) : Prop :=
  ∀ value ∈ inclusion.source family, value ∈ family.row inclusion.target

def Closed (inclusions : List (Inclusion ι β)) (family : SetFamily ι β) : Prop :=
  ∀ inclusion ∈ inclusions, inclusion.Holds family

def targets (inclusions : List (Inclusion ι β)) (family : SetFamily ι β) : OrderedSet ι :=
  .ofList (inclusions.map (·.target) ++ family.pairs.toList.map (·.1))

theorem mem_targets (inclusions : List (Inclusion ι β)) (family : SetFamily ι β) (index : ι) :
    index ∈ targets inclusions family ↔
      (∃ inclusion ∈ inclusions, inclusion.target = index) ∨ ∃ value, value ∈ family.row index := by
  rw [targets, OrderedSet.mem_of_list, List.mem_append, List.mem_map, List.mem_map]
  simp only [OrderedSet.mem_to_list, SetFamily.mem_row, Prod.exists, exists_and_right, exists_eq_right]

variable [DecidableEq β]

def apply (family : SetFamily ι β) (inclusion : Inclusion ι β) : SetFamily ι β :=
  family.insertAll inclusion.target (inclusion.source family)

def pass (inclusions : List (Inclusion ι β)) (family : SetFamily ι β) : SetFamily ι β :=
  inclusions.foldl apply family

def values (inclusions : List (Inclusion ι β)) (family : SetFamily ι β) : OrderedSet β :=
  .ofList (inclusions.flatMap (·.constants) ++ family.pairs.toList.map (·.2))

-- How many pairs the family can hold at most, however many passes are made.
def capacity (inclusions : List (Inclusion ι β)) (family : SetFamily ι β) : Nat :=
  (targets inclusions family).size * (values inclusions family).size

theorem size_pass (inclusions : List (Inclusion ι β)) (family : SetFamily ι β) :
    family.size ≤ (pass inclusions family).size := by
  induction inclusions generalizing family with
  | nil => exact Nat.le_refl _
  | cons inclusion rest ih =>
      exact Nat.le_trans (SetFamily.size_insert_all _ _ _) (ih (apply family inclusion))

theorem mem_values (inclusions : List (Inclusion ι β)) (family : SetFamily ι β) (value : β) :
    value ∈ values inclusions family ↔
      (∃ inclusion ∈ inclusions, value ∈ inclusion.constants) ∨ ∃ index, value ∈ family.row index := by
  rw [values, OrderedSet.mem_of_list, List.mem_append, List.mem_flatMap, List.mem_map]
  simp only [OrderedSet.mem_to_list, SetFamily.mem_row, Prod.exists, exists_eq_right]

theorem mem_apply (inclusion : Inclusion ι β) (family : SetFamily ι β) (index : ι) (value : β) :
    value ∈ (apply family inclusion).row index ↔
      value ∈ family.row index ∨ (index = inclusion.target ∧ value ∈ inclusion.source family) :=
  SetFamily.mem_row_insert_all _ _ _ _ _

-- A pass stays inside the known indices and values.
theorem pass_inside (inclusions system : List (Inclusion ι β)) (family base : SetFamily ι β)
    (part : ∀ inclusion ∈ inclusions, inclusion ∈ system)
    (start : ∀ index value, value ∈ family.row index →
      index ∈ targets system base ∧ value ∈ values system base) :
    ∀ index value, value ∈ (pass inclusions family).row index →
      index ∈ targets system base ∧ value ∈ values system base := by
  induction inclusions generalizing family with
  | nil => exact start
  | cons inclusion rest ih =>
      refine ih (apply family inclusion) (fun other member => part other (by simp [member])) ?_
      intro index value member
      rcases (mem_apply inclusion family index value).mp member with old | ⟨rfl, new⟩
      · exact start index value old
      · have known := part inclusion (by simp)
        refine ⟨(mem_targets _ _ _).mpr (Or.inl ⟨inclusion, known, rfl⟩), ?_⟩
        rcases inclusion.drawn family value new with constant | ⟨source, present⟩
        · exact (mem_values _ _ _).mpr (Or.inl ⟨inclusion, known, constant⟩)
        · exact (start source value present).2

theorem pass_known (inclusions : List (Inclusion ι β)) (family : SetFamily ι β) :
    ∀ index value, value ∈ (pass inclusions family).row index →
      index ∈ targets inclusions family ∧ value ∈ values inclusions family :=
  pass_inside inclusions inclusions family family (fun _ member => member)
    (fun index value member => ⟨(mem_targets _ _ _).mpr (Or.inr ⟨value, member⟩),
      (mem_values _ _ _).mpr (Or.inr ⟨index, member⟩)⟩)

theorem capacity_pass (inclusions : List (Inclusion ι β)) (family : SetFamily ι β) :
    capacity inclusions (pass inclusions family) ≤ capacity inclusions family := by
  refine Nat.mul_le_mul (OrderedSet.size_le_of_subset _ _ ?_) (OrderedSet.size_le_of_subset _ _ ?_)
  · intro index member
    rcases (mem_targets _ _ _).mp member with target | ⟨value, present⟩
    · exact (mem_targets _ _ _).mpr (Or.inl target)
    · exact (pass_known inclusions family index value present).1
  · intro value member
    rcases (mem_values _ _ _).mp member with constant | ⟨index, present⟩
    · exact (mem_values _ _ _).mpr (Or.inl constant)
    · exact (pass_known inclusions family index value present).2

theorem size_le_capacity (inclusions : List (Inclusion ι β)) (family : SetFamily ι β) :
    family.size ≤ capacity inclusions family :=
  family.size_le_product _ _ fun index value present =>
    ⟨(mem_targets _ _ _).mpr (Or.inr ⟨value, present⟩), (mem_values _ _ _).mpr (Or.inr ⟨index, present⟩)⟩

theorem room_shrinks (inclusions : List (Inclusion ι β)) (family : SetFamily ι β)
    (grown : ¬ (pass inclusions family).size = family.size) :
    capacity inclusions (pass inclusions family) - (pass inclusions family).size <
      capacity inclusions family - family.size := by
  have larger := size_pass inclusions family
  have bounded := size_le_capacity inclusions (pass inclusions family)
  have shrunk := capacity_pass inclusions family
  omega

/-- Passes until one adds nothing, with the number of passes made. -/
def saturate (inclusions : List (Inclusion ι β)) (family : SetFamily ι β) : SetFamily ι β × Nat :=
  let next := pass inclusions family
  if next.size = family.size then (next, 1)
  else
    let (final, passes) := saturate inclusions next
    (final, passes + 1)
termination_by capacity inclusions family - family.size
decreasing_by
  rename_i grown
  change ¬ (pass inclusions family).size = family.size at grown
  exact room_shrinks inclusions family grown

end Inclusion

end TopDown

import TopDown.Saturation
/-!
What saturation arrives at. Passes only add pairs, so what every inclusion keeps holds of the final
family too. The last pass adds nothing, and for inclusions that are monotone this means that the
final family is closed under all of them.
-/

set_option autoImplicit false

namespace TopDown

variable {ι β : Type} [DecidableEq ι]

namespace SetFamily

theorem below_refl (family : SetFamily ι β) : family.Below family := fun _ _ member => member

theorem below_trans (small middle large : SetFamily ι β) (lower : small.Below middle)
    (upper : middle.Below large) : small.Below large :=
  fun target value member => upper target value (lower target value member)

theorem row_of_pairs (left right : SetFamily ι β) (same : left.pairs = right.pairs) (target : ι) :
    left.row target = right.row target := by
  simp only [row, same]

end SetFamily

namespace OrderedSet

variable {α : Type} [DecidableEq α]

theorem insert_all_of_size (set : OrderedSet α) (values : List α)
    (same : (set.insertAll values).size = set.size) : set.insertAll values = set :=
  ext_list _ _ ((prefix_insert_all set values).eq_of_length same.symm).symm

end OrderedSet

namespace Inclusion

-- More in the family means no less in what the inclusion reads off it.
def Monotone (inclusion : Inclusion ι β) : Prop :=
  ∀ small large, small.Below large → ∀ value ∈ inclusion.source small, value ∈ inclusion.source large

variable [DecidableEq β]

theorem below_apply (inclusion : Inclusion ι β) (family : SetFamily ι β) :
    family.Below (apply family inclusion) := SetFamily.below_insert_all _ _ _

-- A pass that adds no pair adds none with its first inclusion and none with the others.
theorem pass_of_size (inclusion : Inclusion ι β) (rest : List (Inclusion ι β)) (family : SetFamily ι β)
    (same : (pass (inclusion :: rest) family).size = family.size) :
    (apply family inclusion).pairs = family.pairs ∧
      (pass rest (apply family inclusion)).size = (apply family inclusion).size := by
  have head : family.size ≤ (apply family inclusion).size := SetFamily.size_insert_all _ _ _
  have tail := size_pass rest (apply family inclusion)
  have total : (pass rest (apply family inclusion)).size = family.size := same
  have middle : (apply family inclusion).size = family.size := Nat.le_antisymm (total ▸ tail) head
  exact ⟨OrderedSet.insert_all_of_size _ _ middle, total.trans middle.symm⟩

theorem pairs_pass_of_size (inclusions : List (Inclusion ι β)) (family : SetFamily ι β)
    (same : (pass inclusions family).size = family.size) :
    (pass inclusions family).pairs = family.pairs := by
  induction inclusions generalizing family with
  | nil => rfl
  | cons inclusion rest ih =>
      obtain ⟨kept, later⟩ := pass_of_size inclusion rest family same
      exact (ih (apply family inclusion) later).trans kept

theorem closed_of_pass_size (inclusions : List (Inclusion ι β)) (family : SetFamily ι β)
    (monotone : ∀ inclusion ∈ inclusions, inclusion.Monotone)
    (same : (pass inclusions family).size = family.size) : Closed inclusions family := by
  induction inclusions generalizing family with
  | nil => exact fun _ member => nomatch member
  | cons inclusion rest ih =>
      obtain ⟨kept, later⟩ := pass_of_size inclusion rest family same
      have closed := ih (apply family inclusion) (fun other member => monotone other (by simp [member])) later
      intro other member value wanted
      rw [← SetFamily.row_of_pairs _ _ kept]
      rcases List.mem_cons.mp member with rfl | further
      · exact (mem_apply other family _ value).mpr (Or.inr ⟨rfl, wanted⟩)
      · exact closed other further value
          (monotone other member family _ (below_apply inclusion family) value wanted)

omit [DecidableEq β] in
theorem closed_of_pairs (inclusions : List (Inclusion ι β)) (left right : SetFamily ι β)
    (monotone : ∀ inclusion ∈ inclusions, inclusion.Monotone) (same : left.pairs = right.pairs)
    (closed : Closed inclusions right) : Closed inclusions left := by
  intro inclusion member value wanted
  have below : left.Below right := fun target other present =>
    SetFamily.row_of_pairs _ _ same target ▸ present
  rw [SetFamily.row_of_pairs _ _ same]
  exact closed inclusion member value (monotone inclusion member left right below value wanted)

-- A predicate on families that every inclusion keeps is kept by saturation.
theorem saturate_keeps (inclusions : List (Inclusion ι β)) (family : SetFamily ι β)
    (kept : SetFamily ι β → Prop)
    (step : ∀ inclusion ∈ inclusions, ∀ other, kept other → kept (apply other inclusion))
    (start : kept family) : kept (saturate inclusions family).1 := by
  have whole : ∀ other, kept other → kept (pass inclusions other) := by
    intro other holds
    exact List.foldlRecOn inclusions apply holds fun current known inclusion member =>
      step inclusion member current known
  induction family using saturate.induct inclusions with
  | case1 family next same =>
      rw [saturate, if_pos same]
      exact whole family start
  | case2 family next grown final passes found ih =>
      rw [saturate, if_neg grown]
      exact ih (whole family start)

theorem mem_index_apply (inclusion : Inclusion ι β) (family : SetFamily ι β) (index : ι) :
    index ∈ (apply family inclusion).index ↔ index ∈ family.index ∨ index = inclusion.target :=
  OrderedSet.mem_insert _ _ _

-- Where every row that is asked for is there from the beginning, no row comes in.
theorem mem_index_saturate (inclusions : List (Inclusion ι β)) (family : SetFamily ι β)
    (targets : ∀ inclusion ∈ inclusions, inclusion.target ∈ family.index) (index : ι) :
    index ∈ (saturate inclusions family).1.index ↔ index ∈ family.index := by
  refine saturate_keeps inclusions family
    (fun other => ∀ index, index ∈ other.index ↔ index ∈ family.index) ?_ (fun _ => Iff.rfl) index
  intro inclusion known other same index
  rw [mem_index_apply, same index]
  exact or_iff_left_of_imp fun new => new ▸ targets inclusion known

theorem below_saturate (inclusions : List (Inclusion ι β)) (family : SetFamily ι β) :
    family.Below (saturate inclusions family).1 :=
  saturate_keeps inclusions family family.Below
    (fun inclusion _ other below => SetFamily.below_trans _ _ _ below (below_apply inclusion other))
    family.below_refl

-- Members that every inclusion justifies from justified ones are the only ones to come in.
theorem saturate_sound (inclusions : List (Inclusion ι β)) (family : SetFamily ι β)
    (justified : ι → β → Prop)
    (step : ∀ inclusion ∈ inclusions, ∀ other : SetFamily ι β,
      (∀ index value, value ∈ other.row index → justified index value) →
        ∀ value ∈ inclusion.source other, justified inclusion.target value)
    (start : ∀ index value, value ∈ family.row index → justified index value) :
    ∀ index value, value ∈ (saturate inclusions family).1.row index → justified index value := by
  refine saturate_keeps inclusions family
    (fun other => ∀ index value, value ∈ other.row index → justified index value) ?_ start
  intro inclusion known other holds index value member
  rcases (mem_apply inclusion other index value).mp member with old | ⟨rfl, new⟩
  · exact holds index value old
  · exact step inclusion known other holds value new

-- Passes do not lead out of a closed family.
theorem saturate_below (inclusions : List (Inclusion ι β)) (family closed : SetFamily ι β)
    (monotone : ∀ inclusion ∈ inclusions, inclusion.Monotone) (holds : Closed inclusions closed)
    (start : family.Below closed) : (saturate inclusions family).1.Below closed := by
  refine saturate_sound inclusions family (fun index value => value ∈ closed.row index) ?_ start
  intro inclusion known other below value wanted
  exact holds inclusion known value (monotone inclusion known other closed below value wanted)

theorem saturate_closed (inclusions : List (Inclusion ι β)) (family : SetFamily ι β)
    (monotone : ∀ inclusion ∈ inclusions, inclusion.Monotone) :
    Closed inclusions (saturate inclusions family).1 := by
  induction family using saturate.induct inclusions with
  | case1 family next same =>
      rw [saturate, if_pos same]
      exact closed_of_pairs _ _ family monotone (pairs_pass_of_size _ _ same)
        (closed_of_pass_size _ _ monotone same)
  | case2 family next grown final passes found ih =>
      rw [saturate, if_neg grown]
      exact ih

end Inclusion

end TopDown

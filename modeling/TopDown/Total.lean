/-!
The sum of a measure over a list, and how bounds on the measure carry over to the sum.
-/

set_option autoImplicit false

namespace TopDown

def total {α : Type} (measure : α → Nat) : List α → Nat
  | [] => 0
  | first :: rest => measure first + total measure rest

theorem total_append {α : Type} (measure : α → Nat) (front back : List α) :
    total measure (front ++ back) = total measure front + total measure back := by
  induction front with
  | nil => exact (Nat.zero_add _).symm
  | cons first rest ih =>
      rw [List.cons_append, total, total, ih]
      omega

theorem total_map {α β : Type} (measure : β → Nat) (change : α → β) (values : List α) :
    total measure (values.map change) = total (fun value => measure (change value)) values := by
  induction values with
  | nil => rfl
  | cons first rest ih => rw [List.map_cons, total, total, ih]

theorem total_attach {α : Type} (measure : α → Nat) (values : List α) :
    total (fun value => measure value.1) values.attach = total measure values :=
  (total_map measure Subtype.val values.attach).symm.trans
    (congrArg (total measure) (List.attach_map_subtype_val values))

theorem total_le_of_bound {α : Type} (measure : α → Nat) (bound : Nat) (values : List α)
    (bounded : ∀ value ∈ values, measure value ≤ bound) : total measure values ≤ values.length * bound := by
  induction values with
  | nil => exact Nat.zero_le _
  | cons first rest ih =>
      have head := bounded first List.mem_cons_self
      have tail := ih (fun value member => bounded value (List.mem_cons_of_mem _ member))
      rw [total, List.length_cons, Nat.succ_mul]
      omega

theorem total_mono {α : Type} (small large : α → Nat) (values : List α)
    (ordered : ∀ value ∈ values, small value ≤ large value) : total small values ≤ total large values := by
  induction values with
  | nil => exact Nat.le_refl _
  | cons first rest ih =>
      have head := ordered first List.mem_cons_self
      have tail := ih (fun value member => ordered value (List.mem_cons_of_mem _ member))
      rw [total, total]
      omega

theorem length_le_total {α : Type} (measure : α → Nat) (values : List α)
    (positive : ∀ value ∈ values, 0 < measure value) : values.length ≤ total measure values := by
  induction values with
  | nil => exact Nat.le_refl _
  | cons first rest ih =>
      have head := positive first List.mem_cons_self
      have tail := ih (fun value member => positive value (List.mem_cons_of_mem _ member))
      rw [total, List.length_cons]
      omega

end TopDown

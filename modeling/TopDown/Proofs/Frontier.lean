import Mathlib.Data.List.Basic
import TopDown.Proofs.Derivation
import TopDown.Proofs.Growth
/-!
The frontier of a tree: its childless nodes from left to right. Growing a childless node puts the
new children in its place, so a frontier without repetitions changes at one place only.
-/

set_option autoImplicit false

namespace TopDown.Tree

theorem children_induction (tree : Tree) (motive : Nat → Prop)
    (step : ∀ id, (∀ child ∈ tree.children id, motive child) → motive id) (id : Nat) : motive id :=
  step id fun child _ => children_induction tree motive step child
termination_by tree.size - id
decreasing_by
  have bounds := tree.child_bounds id child (by assumption)
  have inside : tree.size = tree.nodes.size := rfl
  omega

def frontier (tree : Tree) (id : Nat) : List Nat :=
  if tree.children id = [] then [id]
  else (tree.children id).attach.flatMap fun child => tree.frontier child.1
termination_by tree.size - id
decreasing_by
  have bounds := tree.child_bounds id child.1 child.2
  have inside : tree.size = tree.nodes.size := rfl
  omega

-- What the frontier reads, left to right; a childless non-terminal reads as nothing.
def reading (tree : Tree) (ids : List Nat) : List Char := ids.filterMap fun id => (tree.symbol id).read?

theorem reading_append (tree : Tree) (front back : List Nat) :
    tree.reading (front ++ back) = tree.reading front ++ tree.reading back := List.filterMap_append

theorem reading_singleton (tree : Tree) (id : Nat) : tree.reading [id] = (tree.symbol id).read?.toList := by
  rw [reading, List.filterMap_cons]
  cases (tree.symbol id).read? <;> rfl

theorem reading_congr (small large : Tree) (ids : List Nat)
    (same : ∀ id ∈ ids, large.symbol id = small.symbol id) : large.reading ids = small.reading ids := by
  refine List.filterMap_congr fun id member => ?_
  rw [same id member]

theorem frontier_of_childless (tree : Tree) (id : Nat) (childless : tree.children id = []) :
    tree.frontier id = [id] := by
  rw [frontier, if_pos childless]

theorem frontier_of_children (tree : Tree) (id : Nat) (some : tree.children id ≠ []) :
    tree.frontier id = (tree.children id).flatMap tree.frontier := by
  rw [frontier, if_neg some]
  exact congrArg List.flatten List.attach_map_val

theorem childless_of_mem_frontier (tree : Tree) (id leaf : Nat) (member : leaf ∈ tree.frontier id) :
    tree.children leaf = [] := by
  induction id using tree.children_induction with
  | step id ih =>
      by_cases childless : tree.children id = []
      · rw [frontier_of_childless tree id childless] at member
        rw [List.mem_singleton.mp member]
        exact childless
      · rw [frontier_of_children tree id childless] at member
        obtain ⟨child, known, further⟩ := List.mem_flatMap.mp member
        exact ih child known further

theorem inside_of_mem_frontier (tree : Tree) (id leaf : Nat) (inside : id < tree.size)
    (member : leaf ∈ tree.frontier id) : leaf < tree.size := by
  induction id using tree.children_induction with
  | step id ih =>
      by_cases childless : tree.children id = []
      · rw [frontier_of_childless tree id childless] at member
        rw [List.mem_singleton.mp member]
        exact inside
      · rw [frontier_of_children tree id childless] at member
        obtain ⟨child, known, further⟩ := List.mem_flatMap.mp member
        exact ih child known (tree.child_bounds id child known).2 further

-- What a childless node gives way to when it grows a form.
def sprout (tree : Tree) (target : Nat) (form : Form) (leaf : Nat) : List Nat :=
  if leaf = target ∧ form ≠ [] then List.range' tree.size form.length else [leaf]

theorem frontier_of_singletons (tree : Tree) (ids : List Nat)
    (childless : ∀ id ∈ ids, tree.children id = []) : ids.flatMap tree.frontier = ids := by
  induction ids with
  | nil => rfl
  | cons id rest ih =>
      rw [List.flatMap_cons, frontier_of_childless tree id (childless id (by simp)),
        ih (fun other member => childless other (by simp [member]))]
      rfl

theorem sprout_elsewhere (tree : Tree) (target : Nat) (form : Form) (ids : List Nat) (absent : target ∉ ids) :
    ids.flatMap (tree.sprout target form) = ids := by
  induction ids with
  | nil => rfl
  | cons id rest ih =>
      have different : id ≠ target := fun same => absent (by simp [same])
      rw [List.flatMap_cons, ih (fun member => absent (by simp [member])), sprout,
        if_neg (fun both => different both.1)]
      rfl

section Grow

variable (tree : Tree) (target position : Nat) (form : Form) (inside : target < tree.size)
  (childless : tree.children target = [])

include inside childless

theorem frontier_grow_target :
    (tree.grow target position form).frontier target = tree.sprout target form target := by
  have children := children_grow tree target position form inside target
  rw [if_pos rfl, childless, List.nil_append] at children
  cases form with
  | nil => rw [frontier_of_childless _ target children, sprout, if_neg (by simp)]
  | cons first rest =>
      rw [frontier_of_children _ target (by simp [children]), children, sprout, if_pos (by simp)]
      refine frontier_of_singletons _ _ ?_
      intro id new
      have bounds := List.mem_range'_1.mp new
      rw [children_grow tree target position _ inside id, if_neg (by omega),
        children_of_size_le tree id bounds.1]

theorem frontier_grow (id : Nat) (old : id < tree.size) :
    (tree.grow target position form).frontier id = (tree.frontier id).flatMap (tree.sprout target form) := by
  induction id using tree.children_induction with
  | step id ih =>
      by_cases same : id = target
      · subst same
        rw [frontier_grow_target tree id position form inside childless, frontier_of_childless tree id childless]
        simp
      · have kept := children_grow tree target position form inside id
        rw [if_neg same] at kept
        by_cases leaf : tree.children id = []
        · rw [frontier_of_childless _ id (kept.trans leaf), frontier_of_childless tree id leaf]
          simp [sprout, same]
        · rw [frontier_of_children _ id (kept ▸ leaf), frontier_of_children tree id leaf, kept, List.flatMap_assoc]
          refine congrArg List.flatten (List.map_congr_left ?_)
          intro child member
          exact ih child member (tree.child_bounds id child member).2

-- The frontier changes only where the grown node stands in it.
theorem frontier_grow_split (id : Nat) (old : id < tree.size) (front back : List Nat)
    (split : tree.frontier id = front ++ target :: back) (nodup : (tree.frontier id).Nodup) :
    (tree.grow target position form).frontier id = front ++ tree.sprout target form target ++ back := by
  rw [split] at nodup
  obtain ⟨_, tail, apart⟩ := List.nodup_append.mp nodup
  have later := (List.nodup_cons.mp tail).1
  rw [frontier_grow tree target position form inside childless id old, split, List.flatMap_append,
    List.flatMap_cons, sprout_elsewhere tree target form front, sprout_elsewhere tree target form back later,
    List.append_assoc]
  exact fun member => apart target member target (by simp) rfl

end Grow

theorem leaves_from_frontier (tree : Tree) (pending : List Nat)
    (childless : ∀ id char, tree.symbol id = .terminal char → tree.children id = []) :
    tree.leavesFrom pending = (pending.flatMap tree.frontier).filterMap fun id => (tree.symbol id).terminal? := by
  induction pending using leavesFrom.induct tree with
  | case1 => simp [leavesFrom]
  | case2 id pending ih =>
      rw [leavesFrom, ih, List.flatMap_append, List.flatMap_cons, List.filterMap_append, List.filterMap_append,
        ← List.append_assoc]
      refine congrArg (· ++ _) ?_
      by_cases leaf : tree.children id = []
      · rw [frontier_of_childless tree id leaf, leaf]
        cases known : tree.symbol id <;> simp [known, Symbol.terminal?]
      · rw [frontier_of_children tree id leaf]
        cases known : tree.symbol id with
        | terminal char => exact absurd (childless id char known) leaf
        | _ => rfl

theorem read_of_not_end (symbol : Symbol) (other : symbol ≠ .endOfInput) : symbol.read? = symbol.terminal? := by
  cases symbol with
  | endOfInput => exact absurd rfl other
  | _ => rfl

theorem leaves_of_reading (tree : Tree) (rooted : 0 < tree.size)
    (childless : ∀ id char, tree.symbol id = .terminal char → tree.children id = [])
    (unended : ∀ id, id < tree.size → tree.symbol id ≠ .endOfInput) :
    tree.leaves = tree.reading (tree.frontier 0) := by
  rw [leaves, leaves_from_frontier tree [0] childless, List.flatMap_singleton, reading]
  refine List.filterMap_congr fun id member => ?_
  exact (read_of_not_end _ (unended id (inside_of_mem_frontier tree 0 id rooted member))).symm

end TopDown.Tree

import Mathlib.Data.List.Sort
import TopDown.Proofs.Preorder
import TopDown.Proofs.Spelling
/-!
The tree that an indented listing shows. A line hangs from the nearest line above it that is indented by two spaces
less, and so the listing of a tree is read back as that tree.
-/

set_option autoImplicit false

namespace TopDown

namespace Outline

def indent (line : List Char) : Nat := (line.takeWhile (· = ' ')).length

def label (line : List Char) : Symbol := Symbol.ofChar ((line.dropWhile (· = ' ')).headD ' ')

def indentAt (lines : List (List Char)) (row : Nat) : Nat := indent (lines.getD row [])

/-- The upper row is the nearest one above the lower row that is indented by two spaces less. -/
structure Hangs (lines : List (List Char)) (upper lower : Nat) : Prop where
  above : upper < lower
  less : indentAt lines upper + 2 = indentAt lines lower
  nearest : ∀ between < lower, upper < between → indentAt lines between + 2 ≠ indentAt lines lower

instance (lines : List (List Char)) (upper lower : Nat) : Decidable (Hangs lines upper lower) :=
  decidable_of_iff
    (upper < lower ∧ indentAt lines upper + 2 = indentAt lines lower ∧
      ∀ between < lower, upper < between → indentAt lines between + 2 ≠ indentAt lines lower)
    ⟨fun ⟨above, less, nearest⟩ => ⟨above, less, nearest⟩, fun ⟨above, less, nearest⟩ => ⟨above, less, nearest⟩⟩

-- The rows that hang from a row, from top to bottom.
def below (lines : List (List Char)) (row : Nat) : List Nat := (List.range lines.length).filter (Hangs lines row)

/-- The tree that is read from a row of a listing. -/
def rebuild (lines : List (List Char)) (row : Nat) : SyntaxTree :=
  .node (label (lines.getD row [])) ((below lines row).attach.map fun lower => rebuild lines lower.1)
termination_by lines.length - row
decreasing_by
  obtain ⟨inside, hangs⟩ := List.mem_filter.mp lower.2
  have bound := List.mem_range.mp inside
  have above := (of_decide_eq_true hangs).above
  omega

theorem rebuild_eq (lines : List (List Char)) (row : Nat) :
    rebuild lines row = .node (label (lines.getD row [])) ((below lines row).map (rebuild lines)) := by
  rw [rebuild, List.attach_map_val]

theorem mem_below (lines : List (List Char)) (row lower : Nat) :
    lower ∈ below lines row ↔ lower < lines.length ∧ Hangs lines row lower := by
  rw [below, List.mem_filter, List.mem_range, decide_eq_true_iff]

-- A row hangs from one row only.
theorem hangs_unique (lines : List (List Char)) (one other lower : Nat) (here : Hangs lines one lower)
    (there : Hangs lines other lower) : one = other := by
  rcases Nat.lt_trichotomy one other with less | same | more
  · exact absurd there.less (here.nearest other there.above less)
  · exact same
  · exact absurd here.less (there.nearest one here.above more)

theorem hangs_of_split (front between back : List (List Char)) (upper lower : List Char)
    (less : indent upper + 2 = indent lower) (deeper : ∀ line ∈ between, indent lower ≤ indent line) :
    Hangs (front ++ upper :: between ++ lower :: back) front.length (front.length + 1 + between.length) := by
  have first : indentAt (front ++ upper :: between ++ lower :: back) front.length = indent upper := by
    simp [indentAt]
  have last : indentAt (front ++ upper :: between ++ lower :: back) (front.length + 1 + between.length) =
      indent lower := by
    rw [indentAt, List.getD_eq_getElem?_getD, List.getElem?_append_right (by simp; omega)]
    simp [Nat.add_right_comm, Nat.add_assoc]
  refine ⟨by omega, by rw [first, last, less], fun row inside behind same => ?_⟩
  have known : (front ++ upper :: between ++ lower :: back).getD row [] ∈ between := by
    have offset : row - front.length = (row - front.length - 1) + 1 := by omega
    have place : row - front.length - 1 < between.length := by omega
    rw [List.getD_eq_getElem?_getD, List.getElem?_append_left (by simp; omega), List.getElem?_append_right (by omega),
      offset, List.getElem?_cons_succ, List.getElem?_eq_getElem place]
    exact List.getElem_mem place
  rw [last, indentAt] at same
  have bound := deeper _ known
  omega

end Outline

namespace Tree

open Outline

variable (tree : Tree)

-- The nodes in depth-first order, each on a line of its own.
def listing : List (List Char) := (tree.preorder 0).map fun id => (tree.line id).toList

-- The characters on the nodes tell the symbols, and none is a space.
def Told : Prop :=
  ∀ id, id < tree.size → (tree.symbol id).char ≠ ' ' ∧ Symbol.ofChar (tree.symbol id).char = tree.symbol id

theorem indent_line (id : Nat) (other : (tree.symbol id).char ≠ ' ') :
    indent (tree.line id).toList = 2 * tree.level id := by
  rw [indent, line_chars, List.takeWhile_append_of_pos (by simp)]
  simp [other]

theorem label_line (id : Nat) (other : (tree.symbol id).char ≠ ' ') :
    label (tree.line id).toList = Symbol.ofChar (tree.symbol id).char := by
  rw [label, line_chars, List.dropWhile_append_of_pos (by simp)]
  simp [other]

section Listed

variable (hung : tree.Hung) (told : tree.Told)

include hung told

theorem told_of_listed (id : Nat) (member : id ∈ tree.preorder 0) :
    (tree.symbol id).char ≠ ' ' ∧ Symbol.ofChar (tree.symbol id).char = tree.symbol id :=
  told id ((mem_preorder_root tree hung id).mp member)

theorem hangs_of_child (id child : Nat) (member : id ∈ tree.preorder 0) (known : child ∈ tree.children id) :
    Hangs tree.listing ((tree.preorder 0).idxOf id) ((tree.preorder 0).idxOf child) := by
  obtain ⟨front, between, back, order, deeper⟩ := preorder_between tree hung 0 id child member known
  have level := level_of_child tree hung id child known
  have solid : ∀ node ∈ tree.preorder 0, indent (tree.line node).toList = 2 * tree.level node := fun node listed =>
    tree.indent_line node (told_of_listed tree hung told node listed).1
  have apart := nodup_preorder tree hung 0
  rw [order] at apart solid
  have further : child ∉ front ++ id :: between := fun inside =>
    (List.nodup_append.mp apart).2.2 child inside child List.mem_cons_self rfl
  have before : id ∉ front := fun inside =>
    (List.nodup_append.mp (List.nodup_append.mp apart).1).2.2 id inside id List.mem_cons_self rfl
  have first : (tree.preorder 0).idxOf id = (front.map fun node => (tree.line node).toList).length := by
    rw [order, List.append_assoc, List.idxOf_append_of_notMem before, List.cons_append, List.idxOf_cons_self,
      List.length_map, Nat.add_zero]
  have second : (tree.preorder 0).idxOf child = (front.map fun node => (tree.line node).toList).length + 1 +
      (between.map fun node => (tree.line node).toList).length := by
    rw [order, List.idxOf_append_of_notMem further, List.idxOf_cons_self]
    simp only [List.length_append, List.length_cons, List.length_map]
    omega
  rw [first, second, listing, order]
  simp only [List.map_append, List.map_cons]
  apply hangs_of_split
  · rw [solid id (by simp), solid child (by simp), level]
    omega
  · refine List.forall_mem_map.mpr fun node inside => ?_
    rw [solid child (by simp), solid node (by simp [inside])]
    exact Nat.mul_le_mul_left 2 (deeper node inside)

-- The rows below a node are those of its children, in their order.
theorem below_listing (id : Nat) (member : id ∈ tree.preorder 0) :
    below tree.listing ((tree.preorder 0).idxOf id) = (tree.children id).map (tree.preorder 0).idxOf := by
  have ascending : ((tree.children id).map (tree.preorder 0).idxOf).Pairwise (· < ·) :=
    List.pairwise_map.mpr ((OrderedSet.index_ascending _ (nodup_preorder tree hung 0)).sublist
      (tree.children_sublist 0 id member))
  refine (List.pairwise_lt_range.filter _).eq_of_mem_iff ascending fun row => ?_
  rw [← below, mem_below, List.mem_map, listing, List.length_map]
  constructor
  · rintro ⟨inside, hangs⟩
    have place : (tree.preorder 0).idxOf (tree.preorder 0)[row] = row :=
      (nodup_preorder tree hung 0).idxOf_getElem row inside
    have listed := List.getElem_mem inside
    generalize (tree.preorder 0)[row] = node at place listed
    by_cases root : node = 0
    · have top : (tree.preorder 0).idxOf 0 = 0 := by rw [preorder_eq, List.idxOf_cons_self]
      rw [root, top] at place
      exact absurd hangs.above (by omega)
    · obtain ⟨parent, known, child⟩ := tree.parent_of_mem_preorder 0 node listed root
      have own := hangs_of_child tree hung told parent node known child
      rw [place] at own
      have same := (List.idxOf_inj known).mp (hangs_unique _ _ _ _ own hangs)
      exact ⟨node, same ▸ child, place⟩
  · rintro ⟨child, known, rfl⟩
    have listed := tree.child_of_mem_preorder 0 id child member known
    exact ⟨List.idxOf_lt_length_iff.mpr listed, hangs_of_child tree hung told id child member known⟩

theorem rebuild_listing (id : Nat) (member : id ∈ tree.preorder 0) :
    rebuild tree.listing ((tree.preorder 0).idxOf id) = tree.subtree id := by
  induction id using tree.children_induction with
  | step id ih =>
      have inside := List.idxOf_lt_length_iff.mpr member
      have row : tree.listing.getD ((tree.preorder 0).idxOf id) [] = (tree.line id).toList := by
        rw [listing, List.getD_eq_getElem?_getD, List.getElem?_map, List.getElem?_eq_getElem inside,
          List.getElem_idxOf inside]
        rfl
      have spoken := told_of_listed tree hung told id member
      rw [rebuild_eq, row, tree.label_line id spoken.1, spoken.2, below_listing tree hung told id member,
        List.map_map, subtree_eq]
      refine congrArg (SyntaxTree.node _) (List.map_congr_left fun child known => ?_)
      exact ih child known (tree.child_of_mem_preorder 0 id child member known)

theorem rebuild_root : rebuild tree.listing 0 = tree.nested := by
  have whole := rebuild_listing tree hung told 0 ((tree.mem_preorder 0 0).mpr (Or.inl rfl))
  rwa [preorder_eq, List.idxOf_cons_self] at whole

theorem leaves_listing : tree.listing.filterMap (fun line => (label line).terminal?) = tree.leaves := by
  rw [leaves_preorder, listing, List.filterMap_map]
  refine List.filterMap_congr fun id member => ?_
  have spoken := told_of_listed tree hung told id member
  rw [Function.comp_apply, tree.label_line id spoken.1, spoken.2]

end Listed

end Tree

end TopDown

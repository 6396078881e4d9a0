import Montage.Composition

/-! # The place of a layer

Layers are sorted by depth, and layers of one depth keep the order of their declaration. So the place of a
layer can be told without sorting: it is the number of layers of lower depth, and of those of its own depth
that are declared before it.
-/

namespace Montage.Layer

/-- The number of layers that are painted before the one of an index. -/
def rank (depths : List Int) (index : Nat) (depth : Int) : Nat :=
  depths.countP (· < depth) + (depths.take index).countP (· = depth)

variable {layers : List Layer} {index : Nat} {layer : Layer}

/-- One more layer before all others moves up those that are not below it. -/
theorem rank_cons (first : Int) (depths : List Int) (index : Nat) (depth : Int) :
    rank (first :: depths) (index + 1) depth =
      rank depths index depth + if first ≤ depth then 1 else 0 := by
  rw [rank, rank, List.take_succ_cons, List.countP_cons, List.countP_cons]
  rcases Int.lt_trichotomy first depth with under | rfl | beyond
  · simp [under, Int.le_of_lt under, Int.ne_of_lt under, Nat.add_right_comm]
  · simp [Nat.add_assoc]
  · simp [Int.lt_asymm beyond, Int.not_le.mpr beyond, Int.ne_of_gt beyond]

/-- Where a layer is to be found once all are in order. -/
theorem getElem?_inOrder (declared : layers[index]? = some layer) :
    (inOrder layers)[rank (layers.map depth) index layer.depth]? = some layer := by
  have trans (a b c : Layer) : decide (a.depth ≤ b.depth) = true →
      decide (b.depth ≤ c.depth) = true → decide (a.depth ≤ c.depth) = true := by
    simp only [decide_eq_true_eq]
    exact Int.le_trans
  have total (a b : Layer) : (decide (a.depth ≤ b.depth) || decide (b.depth ≤ a.depth)) = true := by
    simpa using Int.le_total a.depth b.depth
  induction layers generalizing index with
  | nil => contradiction
  | cons first rest ih =>
    obtain ⟨lower, upper, sorted, others, strict⟩ := List.mergeSort_cons trans total first rest
    have depths := List.pairwise_mergeSort trans total (first :: rest)
    have same := List.mergeSort_perm rest fun a b => decide (a.depth ≤ b.depth)
    rw [others] at same
    rw [sorted] at depths
    have below (other : Layer) (member : other ∈ lower) : other.depth < first.depth := by
      simpa using strict other member
    have above (other : Layer) (member : other ∈ upper) : first.depth ≤ other.depth :=
      of_decide_eq_true (List.rel_of_pairwise_cons (List.pairwise_append.mp depths).2.1 member)
    rw [inOrder, sorted]
    cases index with
    | zero =>
      obtain rfl := Option.some.inj declared
      -- Before the first that is declared come exactly those of lower depth.
      have counted : rank ((first :: rest).map depth) 0 first.depth = lower.length := by
        rw [rank, List.take_zero, List.countP_nil, Nat.add_zero, List.countP_map, List.countP_cons,
          ← same.countP_eq, List.countP_append, List.countP_eq_length.mpr, List.countP_eq_zero.mpr]
        · simp
        · intro other member
          simpa using above other member
        · intro other member
          simpa using below other member
      rw [counted, List.getElem?_append_right (Nat.le_refl _), Nat.sub_self]
      rfl
    | succ index =>
      replace declared : rest[index]? = some layer := declared
      have found := ih declared
      rw [inOrder, others] at found
      rw [List.map_cons, rank_cons]
      generalize rank (rest.map depth) index layer.depth = place at found ⊢
      by_cases early : place < lower.length
      · rw [List.getElem?_append_left early] at found
        have under := below layer (List.mem_of_getElem? found)
        rw [if_neg (by omega), Nat.add_zero, List.getElem?_append_left early, found]
      · rw [List.getElem?_append_right (by omega)] at found
        have upward := above layer (List.mem_of_getElem? found)
        rw [if_pos upward, List.getElem?_append_right (by omega), Nat.succ_sub (by omega),
          List.getElem?_cons_succ, found]

end Montage.Layer

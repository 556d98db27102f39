import Mathlib.Analysis.SpecialFunctions.Sqrt
import Mathlib.Data.List.GetD
import Paryty.Lib.Grouping
import Paryty.Lib.Numerals
import Paryty.Lib.Pairs

/-!
# Repulsion in the graph layout

`computeLayout` of `frontend/src/engine/processing/layout.ts` pushes the nodes of a graph apart: in
small graphs each pair of nodes, in large ones each node from the cells of a quad tree.

The tree holds every node once and its cells have the right masses and centers (`places_build`),
but the force of a cell draws the node towards it: where no cell is approximated it is the
opposite of what the pairs do (`barnesHutForce_eq`). `tree_agrees_iff`: the two agree only where there
is nothing to push.

Coordinates are those of an ordered field with a root, and the reals in the results.
-/

namespace Paryty.Frontend.Repulsion

open scoped Lib.Numerals

/-! ## The code -/

section Code

variable {𝕜 : Type*} [Field 𝕜] [LinearOrder 𝕜]

/-- `WorkerNode`, once it has a position. -/
structure WorkerNode (𝕜 : Type*) where
  id : String
  x : 𝕜
  y : 𝕜

/-- `QuadTreeNode`; a cell without nodes is `null`. -/
inductive QuadTree (𝕜 : Type*)
  | null
  | leaf (cx cy : 𝕜) (mass : ℕ) (size : 𝕜) (nodeIds : List String)
  | cell (cx cy : 𝕜) (mass : ℕ) (size : 𝕜) (nw ne sw se : QuadTree 𝕜)

inductive Quadrant
  | nw
  | ne
  | sw
  | se
deriving DecidableEq

def quadrant (centerX centerY : 𝕜) (n : WorkerNode 𝕜) : Quadrant :=
  if n.x < centerX ∧ n.y < centerY then .nw
  else if n.x ≥ centerX ∧ n.y < centerY then .ne
  else if n.x < centerX ∧ n.y ≥ centerY then .sw
  else .se

def meanX (nodes : List (WorkerNode 𝕜)) : 𝕜 := (nodes.map WorkerNode.x).sum / nodes.length

def meanY (nodes : List (WorkerNode 𝕜)) : 𝕜 := (nodes.map WorkerNode.y).sum / nodes.length

def leafOf (nodes : List (WorkerNode 𝕜)) (size : 𝕜) : QuadTree 𝕜 :=
  .leaf (meanX nodes) (meanY nodes) nodes.length size (nodes.map WorkerNode.id)

/-- `buildQuadTree`; `levels` counts down what `depth` has left to the limit. -/
def buildQuadTree : (levels : ℕ) → (nodes : List (WorkerNode 𝕜)) → (centerX centerY size : 𝕜) →
    QuadTree 𝕜
  | 0, nodes, _, _, size => if nodes.length = 0 then .null else leafOf nodes size
  | levels + 1, nodes, centerX, centerY, size =>
    if nodes.length = 0 then .null
    else if nodes.length ≤ 1 then leafOf nodes size
    else
      let half := size / 2
      let part := fun q => nodes.filter fun n => quadrant centerX centerY n = q
      .cell (meanX nodes) (meanY nodes) nodes.length size
        (buildQuadTree levels (part .nw) (centerX - half / 2) (centerY - half / 2) half)
        (buildQuadTree levels (part .ne) (centerX + half / 2) (centerY - half / 2) half)
        (buildQuadTree levels (part .sw) (centerX - half / 2) (centerY + half / 2) half)
        (buildQuadTree levels (part .se) (centerX + half / 2) (centerY + half / 2) half)

/-- `BH_THETA`. -/
def theta : 𝕜 := 8 / 10

/-- `distSq`. -/
def distSq (node : WorkerNode 𝕜) (cx cy : 𝕜) : 𝕜 :=
  let dx := cx - node.x
  let dy := cy - node.y
  if dx * dx + dy * dy = 0 then 1 else dx * dx + dy * dy

/-- The force of a single body on a node. -/
def bodyForce (sqrt : 𝕜 → 𝕜) (node : WorkerNode 𝕜) (strength cx cy : 𝕜) (mass : ℕ) : 𝕜 × 𝕜 :=
  let dist := sqrt (distSq node cx cy)
  let repulsion := strength * mass / distSq node cx cy
  ((cx - node.x) / dist * repulsion, (cy - node.y) / dist * repulsion)

/-- The cell is small enough to count as a single body. -/
def Small (sqrt : 𝕜 → 𝕜) (node : WorkerNode 𝕜) (cx cy size : 𝕜) : Prop :=
  size / sqrt (distSq node cx cy) < theta

instance (sqrt : 𝕜 → 𝕜) (node : WorkerNode 𝕜) (cx cy size : 𝕜) :
    Decidable (Small sqrt node cx cy size) := inferInstanceAs (Decidable (_ < _))

/-- `barnesHutForce`. -/
def barnesHutForce (sqrt : 𝕜 → 𝕜) (node : WorkerNode 𝕜) (strength : 𝕜) : QuadTree 𝕜 → 𝕜 × 𝕜
  | .null => 0
  | .leaf cx cy mass _ nodeIds =>
    if nodeIds = [node.id] then 0 else bodyForce sqrt node strength cx cy mass
  | .cell cx cy mass size nw ne sw se =>
    if Small sqrt node cx cy size then bodyForce sqrt node strength cx cy mass
    else
      barnesHutForce sqrt node strength nw + barnesHutForce sqrt node strength ne +
        barnesHutForce sqrt node strength sw + barnesHutForce sqrt node strength se

/-- The force that the loop over pairs takes from `na` and adds to `nb`. -/
def pairForce (sqrt : 𝕜 → 𝕜) (strength : 𝕜) (na nb : WorkerNode 𝕜) : 𝕜 × 𝕜 :=
  let dx := nb.x - na.x
  let dy := nb.y - na.y
  let dist := if sqrt (dx * dx + dy * dy) = 0 then 1 else sqrt (dx * dx + dy * dy)
  let repulsion := strength / (dist * dist)
  (dx / dist * repulsion, dy / dist * repulsion)

/-- `nodes[a]`. -/
def nodeAt (nodes : List (WorkerNode 𝕜)) (a : ℕ) : WorkerNode 𝕜 := nodes.getD a ⟨"", 0, 0⟩

/-- The loop over all pairs; `v` are the velocities. -/
def repelPairs (sqrt : 𝕜 → 𝕜) (strength : 𝕜) (nodes : List (WorkerNode 𝕜)) (v : ℕ → 𝕜 × 𝕜) :
    ℕ → 𝕜 × 𝕜 :=
  Lib.allPairs (fun a b => pairForce sqrt strength (nodeAt nodes a) (nodeAt nodes b)) nodes.length v

/-- `REPULSION_STRENGTH * effectiveAlpha`. -/
def repulsionStrength (i iterations : ℕ) : 𝕜 :=
  500 * max (1 - (i : 𝕜) / (iterations : 𝕜)) (1 / 1000)

/-- The tree of `computeLayout`; below the depth 12 there are only leaves. -/
def layoutTree (nodes : List (WorkerNode 𝕜)) (width height : 𝕜) : QuadTree 𝕜 :=
  buildQuadTree 13 nodes (width / 2) (height / 2) (max width height)

end Code

/-! ## What the tree should do -/

section Spec

variable {𝕜 : Type*}

namespace QuadTree

def cx [Field 𝕜] : QuadTree 𝕜 → 𝕜
  | null => 0
  | leaf cx .. | cell cx .. => cx

def cy [Field 𝕜] : QuadTree 𝕜 → 𝕜
  | null => 0
  | leaf _ cy .. | cell _ cy .. => cy

def mass : QuadTree 𝕜 → ℕ
  | null => 0
  | leaf _ _ mass .. | cell _ _ mass .. => mass

/-- The nodes of each leaf. -/
def leaves : QuadTree 𝕜 → List (List String)
  | null => []
  | leaf _ _ _ _ nodeIds => [nodeIds]
  | cell _ _ _ _ nw ne sw se => nw.leaves ++ ne.leaves ++ sw.leaves ++ se.leaves

/-- The leaves and the cells above them. -/
def cells : QuadTree 𝕜 → List (QuadTree 𝕜)
  | null => []
  | tree@(leaf ..) => [tree]
  | tree@(cell _ _ _ _ nw ne sw se) => tree :: (nw.cells ++ ne.cells ++ sw.cells ++ se.cells)

end QuadTree

variable [Field 𝕜] [LinearOrder 𝕜]

/-- The nodes in a cell. -/
def within (nodes : List (WorkerNode 𝕜)) (c : QuadTree 𝕜) : List (WorkerNode 𝕜) :=
  nodes.filter fun n => n.id ∈ c.leaves.flatten

/-- Every node is in one leaf, and every cell has the mass and the center of its nodes. -/
structure Places (nodes : List (WorkerNode 𝕜)) (tree : QuadTree 𝕜) : Prop where
  leaves : tree.leaves.flatten.Perm (nodes.map WorkerNode.id)
  cells : ∀ c ∈ tree.cells, c.mass = (within nodes c).length ∧ c.cx = meanX (within nodes c) ∧
    c.cy = meanY (within nodes c)

/-- The cells with several nodes that count as a single body for the node. -/
def approximated (sqrt : 𝕜 → 𝕜) (node : WorkerNode 𝕜) : QuadTree 𝕜 → List (QuadTree 𝕜)
  | .null => []
  | tree@(.leaf _ _ _ _ nodeIds) => if nodeIds.length = 1 then [] else [tree]
  | tree@(.cell cx cy _ size nw ne sw se) =>
    if Small sqrt node cx cy size then [tree]
    else
      approximated sqrt node nw ++ approximated sqrt node ne ++ approximated sqrt node sw ++
        approximated sqrt node se

/-- The force points from the center to the node. -/
def PointsAway (node : WorkerNode 𝕜) (cx cy : 𝕜) (force : 𝕜 × 𝕜) : Prop :=
  ∃ c > 0, force = (c * (node.x - cx), c * (node.y - cy))

/-- The tree agrees with the pairs. -/
structure Agrees (sqrt : 𝕜 → 𝕜) (strength : 𝕜) (nodes : List (WorkerNode 𝕜))
    (tree : QuadTree 𝕜) : Prop where
  places : Places nodes tree
  opened : ∀ k < nodes.length, approximated sqrt (nodeAt nodes k) tree = [] → ∀ v,
    repelPairs sqrt strength nodes v k =
      v k + barnesHutForce sqrt (nodeAt nodes k) strength tree
  away : ∀ node ∈ nodes, ∀ c ∈ approximated sqrt node tree,
    PointsAway node c.cx c.cy (barnesHutForce sqrt node strength c)

end Spec

/-! ## The tree -/

section Tree

variable {𝕜 : Type*} [Field 𝕜] {nodes sub : List (WorkerNode 𝕜)} {tree c : QuadTree 𝕜}

/-- What a tree looks like that is built from nodes. -/
inductive Represents : QuadTree 𝕜 → List (WorkerNode 𝕜) → Prop
  | null : Represents .null []
  | leaf (size : 𝕜) {nodes : List (WorkerNode 𝕜)} (hnodes : nodes ≠ []) :
    Represents (leafOf nodes size) nodes
  | cell (size : 𝕜) {nodes nws nes sws ses : List (WorkerNode 𝕜)} {nw ne sw se : QuadTree 𝕜}
    (hnodes : 1 < nodes.length) (hparts : (nws ++ nes ++ sws ++ ses).Perm nodes)
    (hnw : Represents nw nws) (hne : Represents ne nes) (hsw : Represents sw sws)
    (hse : Represents se ses) :
    Represents (.cell (meanX nodes) (meanY nodes) nodes.length size nw ne sw se) nodes

lemma represents_build [LinearOrder 𝕜] (levels : ℕ) (nodes : List (WorkerNode 𝕜))
    (centerX centerY size : 𝕜) :
    Represents (buildQuadTree levels nodes centerX centerY size) nodes := by
  induction levels generalizing nodes centerX centerY size with
  | zero =>
    unfold buildQuadTree
    split
    · next hnil => exact List.length_eq_zero_iff.mp hnil ▸ .null
    · next hne => exact .leaf size fun hnil => hne (by rw [hnil, List.length_nil])
  | succ levels ih =>
    unfold buildQuadTree
    split
    · next hnil => exact List.length_eq_zero_iff.mp hnil ▸ .null
    · next hne =>
      split
      · exact .leaf size fun hnil => hne (by rw [hnil, List.length_nil])
      · next hmany =>
        refine .cell size (not_le.mp hmany) ?_ (ih _ _ _ _) (ih _ _ _ _) (ih _ _ _ _) (ih _ _ _ _)
        have hall : ∀ n ∈ nodes, quadrant centerX centerY n ∈
            [Quadrant.nw, .ne, .sw, .se] := by
          intro n _
          cases quadrant centerX centerY n <;> decide
        simpa [List.flatMap_cons] using Lib.flatMap_filter_perm (by decide) hall

lemma Represents.leaves (h : Represents tree nodes) :
    tree.leaves.flatten.Perm (nodes.map WorkerNode.id) := by
  induction h with
  | null => exact .refl _
  | leaf size hnodes => simp [leafOf, QuadTree.leaves]
  | cell size hnodes hparts hnw hne hsw hse ihnw ihne ihsw ihse =>
    simp only [QuadTree.leaves, List.flatten_append]
    refine (((ihnw.append ihne).append ihsw).append ihse).trans ?_
    simpa using hparts.map WorkerNode.id

omit [Field 𝕜] in
lemma parts_subperm {nws nes sws ses : List (WorkerNode 𝕜)}
    (hparts : (nws ++ nes ++ sws ++ ses).Perm nodes) :
    nws.Subperm nodes ∧ nes.Subperm nodes ∧ sws.Subperm nodes ∧ ses.Subperm nodes := by
  have hsub {part : List (WorkerNode 𝕜)} (h : part.Sublist (nws ++ nes ++ sws ++ ses)) :
      part.Subperm nodes := h.subperm.trans hparts.subperm
  exact ⟨hsub (by simp), hsub (by simp),
    hsub ((List.sublist_append_right _ _).trans (List.sublist_append_left _ _)),
    hsub (List.sublist_append_right _ _)⟩

lemma Represents.of_mem_cells (h : Represents tree nodes) (hc : c ∈ tree.cells) :
    ∃ sub, sub.Subperm nodes ∧ Represents c sub := by
  induction h with
  | null => exact absurd hc List.not_mem_nil
  | leaf size hnodes =>
    obtain rfl := List.mem_singleton.mp hc
    exact ⟨_, .refl _, .leaf size hnodes⟩
  | cell size hnodes hparts hnw hne hsw hse ihnw ihne ihsw ihse =>
    rcases List.mem_cons.mp hc with rfl | hc
    · exact ⟨_, .refl _, .cell size hnodes hparts hnw hne hsw hse⟩
    · obtain ⟨hsubnw, hsubne, hsubsw, hsubse⟩ := parts_subperm hparts
      simp only [List.mem_append] at hc
      rcases hc with ((hc | hc) | hc) | hc
      · exact (ihnw hc).imp fun sub h => ⟨h.1.trans hsubnw, h.2⟩
      · exact (ihne hc).imp fun sub h => ⟨h.1.trans hsubne, h.2⟩
      · exact (ihsw hc).imp fun sub h => ⟨h.1.trans hsubsw, h.2⟩
      · exact (ihse hc).imp fun sub h => ⟨h.1.trans hsubse, h.2⟩

lemma Represents.mass (h : Represents tree nodes) : tree.mass = nodes.length := by
  cases h with
  | null => rfl
  | leaf size hnodes => rfl
  | cell => rfl

lemma Represents.cx (h : Represents tree nodes) : tree.cx = meanX nodes := by
  cases h with
  | null => simp [QuadTree.cx, meanX]
  | leaf size hnodes => rfl
  | cell => rfl

lemma Represents.cy (h : Represents tree nodes) : tree.cy = meanY nodes := by
  cases h with
  | null => simp [QuadTree.cy, meanY]
  | leaf size hnodes => rfl
  | cell => rfl

omit [Field 𝕜] in
lemma nodup_of_subperm (hsub : sub.Subperm nodes) (hnodup : nodes.Nodup) : sub.Nodup := by
  obtain ⟨sub', hperm, hsub'⟩ := hsub
  exact hperm.nodup_iff.mp (hsub'.nodup hnodup)

lemma Represents.within_perm (h : Represents c sub) (hsub : sub.Subperm nodes)
    (hids : (nodes.map WorkerNode.id).Nodup) : (within nodes c).Perm sub := by
  have hnodup : nodes.Nodup := List.Nodup.of_map _ hids
  refine (List.perm_ext_iff_of_nodup (hnodup.filter _)
    (nodup_of_subperm hsub hnodup)).mpr fun n => ?_
  have hmem : n ∈ within nodes c ↔ n ∈ nodes ∧ n.id ∈ sub.map WorkerNode.id := by
    rw [within, List.mem_filter, decide_eq_true_iff, h.leaves.mem_iff]
  refine hmem.trans ?_
  constructor
  · rintro ⟨hn, hid⟩
    obtain ⟨m, hm, hmid⟩ := List.mem_map.mp hid
    rwa [← List.inj_on_of_nodup_map hids (hsub.subset hm) hn hmid]
  · intro hn
    exact ⟨hsub.subset hn, List.mem_map_of_mem hn⟩

lemma meanX_congr (h : nodes.Perm sub) : meanX nodes = meanX sub := by
  rw [meanX, meanX, (h.map _).sum_eq, h.length_eq]

lemma meanY_congr (h : nodes.Perm sub) : meanY nodes = meanY sub := by
  rw [meanY, meanY, (h.map _).sum_eq, h.length_eq]

lemma Represents.places (h : Represents tree nodes) (hids : (nodes.map WorkerNode.id).Nodup) :
    Places nodes tree where
  leaves := h.leaves
  cells c hc := by
    obtain ⟨sub, hsub, hrep⟩ := h.of_mem_cells hc
    have hperm := hrep.within_perm hsub hids
    rw [hrep.mass, hrep.cx, hrep.cy, hperm.length_eq, meanX_congr hperm, meanY_congr hperm]
    exact ⟨rfl, rfl, rfl⟩

end Tree

/-! ## Opened cells -/

section Opened

variable {nodes : List (WorkerNode ℝ)} {tree : QuadTree ℝ} {node : WorkerNode ℝ} {strength : ℝ}

lemma pairForce_eq (na nb : WorkerNode ℝ) :
    pairForce Real.sqrt strength na nb = bodyForce Real.sqrt na strength nb.x nb.y 1 := by
  simp only [pairForce, bodyForce, distSq]
  by_cases hzero : (nb.x - na.x) * (nb.x - na.x) + (nb.y - na.y) * (nb.y - na.y) = 0
  · obtain ⟨hx, hy⟩ := mul_self_add_mul_self_eq_zero.mp hzero
    simp [hx, hy]
  · have hnonneg : 0 ≤ (nb.x - na.x) * (nb.x - na.x) + (nb.y - na.y) * (nb.y - na.y) :=
      add_nonneg (mul_self_nonneg _) (mul_self_nonneg _)
    rw [if_neg hzero, if_neg (mt (Real.sqrt_eq_zero hnonneg).mp hzero),
      Real.mul_self_sqrt hnonneg, Nat.cast_one, mul_one]

lemma pairForce_anti (na nb : WorkerNode ℝ) :
    pairForce Real.sqrt strength nb na = -pairForce Real.sqrt strength na nb := by
  have hdist : (na.x - nb.x) * (na.x - nb.x) + (na.y - nb.y) * (na.y - nb.y) =
      (nb.x - na.x) * (nb.x - na.x) + (nb.y - na.y) * (nb.y - na.y) := by ring
  simp only [pairForce, hdist]
  rw [Prod.neg_mk, ← neg_sub nb.x, ← neg_sub nb.y]
  simp only [neg_div, neg_mul]

lemma bodyForce_self (mass : ℕ) : bodyForce Real.sqrt node strength node.x node.y mass = 0 := by
  simp [bodyForce]

lemma Represents.barnesHutForce_eq (h : Represents tree nodes)
    (hopened : approximated Real.sqrt node tree = [])
    (hid : ∀ n ∈ nodes, n.id = node.id → n = node) :
    barnesHutForce Real.sqrt node strength tree =
      (nodes.map fun n => bodyForce Real.sqrt node strength n.x n.y 1).sum := by
  induction h with
  | null => rfl
  | leaf size hnodes =>
    rename_i nodes
    have hone : nodes.length = 1 := by
      by_contra hne
      simp [leafOf, approximated, hne] at hopened
    obtain ⟨n, rfl⟩ := List.length_eq_one_iff.mp hone
    by_cases hn : n.id = node.id
    · obtain rfl := hid n (List.mem_singleton_self n) hn
      simp [leafOf, barnesHutForce, bodyForce_self]
    · simp [leafOf, barnesHutForce, hn, meanX, meanY]
  | cell size hnodes hparts hnw hne hsw hse ihnw ihne ihsw ihse =>
    rw [approximated] at hopened
    split at hopened
    · exact absurd hopened (by simp)
    · next hlarge =>
      simp only [List.append_eq_nil_iff] at hopened
      obtain ⟨⟨⟨honw, hone⟩, hosw⟩, hose⟩ := hopened
      have hmem {n : WorkerNode ℝ} := (hparts.mem_iff (a := n)).mp
      simp only [List.mem_append] at hmem
      rw [barnesHutForce, if_neg hlarge, ihnw honw fun n hn => hid n (hmem (by simp [hn])),
        ihne hone fun n hn => hid n (hmem (by simp [hn])),
        ihsw hosw fun n hn => hid n (hmem (by simp [hn])),
        ihse hose fun n hn => hid n (hmem (by simp [hn])), ← (hparts.map _).sum_eq]
      simp only [List.map_append, List.sum_append]

lemma repelPairs_apply {k : ℕ} (hk : k < nodes.length) (v : ℕ → ℝ × ℝ) :
    repelPairs Real.sqrt strength nodes v k = v k -
      (nodes.map fun n => bodyForce Real.sqrt (nodeAt nodes k) strength n.x n.y 1).sum := by
  have hsum : ∑ j ∈ Finset.range nodes.length,
      pairForce Real.sqrt strength (nodeAt nodes k) (nodeAt nodes j) =
        (nodes.map fun n => bodyForce Real.sqrt (nodeAt nodes k) strength n.x n.y 1).sum := by
    rw [Finset.sum_range, ← Fin.sum_univ_fun_getElem nodes]
    refine Finset.sum_congr rfl fun j _ => ?_
    rw [pairForce_eq, nodeAt, nodeAt, List.getD_eq_getElem _ _ j.isLt]
  rw [repelPairs, Lib.allPairs_apply (fun a b => pairForce_anti _ _) (fun a => ?_) hk, hsum]
  rw [pairForce_eq, bodyForce_self]

end Opened

/-! ## The farthest node -/

section Farthest

variable {nodes sub : List (WorkerNode ℝ)} {tree c : QuadTree ℝ} {node n : WorkerNode ℝ}
  {strength : ℝ}

/-- How far it is from the node to a point, along the node's own direction. -/
def along (n : WorkerNode ℝ) (x y : ℝ) : ℝ := n.x * (x - n.x) + n.y * (y - n.y)

lemma along_neg {x y : ℝ} (hfar : x * x + y * y ≤ n.x * n.x + n.y * n.y)
    (hne : ¬ (x = n.x ∧ y = n.y)) : along n x y < 0 := by
  have hdist : 0 < (x - n.x) * (x - n.x) + (y - n.y) * (y - n.y) := by
    refine (add_nonneg (mul_self_nonneg _) (mul_self_nonneg _)).lt_of_ne fun hzero => hne ?_
    obtain ⟨hx, hy⟩ := mul_self_add_mul_self_eq_zero.mp hzero.symm
    exact ⟨sub_eq_zero.mp hx, sub_eq_zero.mp hy⟩
  have htwice : 2 * along n x y = x * x + y * y - (n.x * n.x + n.y * n.y) -
      ((x - n.x) * (x - n.x) + (y - n.y) * (y - n.y)) := by
    unfold along
    ring
  linarith

lemma along_self : along n n.x n.y = 0 := by simp [along]

/-- The node is the farthest from the origin, and no other node is where it is. -/
structure Farthest (nodes : List (WorkerNode ℝ)) (n : WorkerNode ℝ) : Prop where
  mem : n ∈ nodes
  le : ∀ m ∈ nodes, m.x * m.x + m.y * m.y ≤ n.x * n.x + n.y * n.y
  apart : ∀ m ∈ nodes, m ≠ n → ¬ (m.x = n.x ∧ m.y = n.y)

lemma exists_farthest (hne : nodes ≠ [])
    (hpositions : (nodes.map fun n => (n.x, n.y)).Nodup) : ∃ n, Farthest nodes n := by
  obtain ⟨first, hfirst⟩ := List.exists_mem_of_ne_nil _ hne
  obtain ⟨n, hn, hmax⟩ := Set.exists_max_image {m | m ∈ nodes}
    (fun m => m.x * m.x + m.y * m.y) (List.finite_toSet nodes) ⟨first, hfirst⟩
  refine ⟨n, hn, hmax, fun m hm hmn hposition => hmn ?_⟩
  exact List.inj_on_of_nodup_map hpositions hm hn (Prod.ext hposition.1 hposition.2)

lemma Farthest.along_neg (h : Farthest nodes n) {m : WorkerNode ℝ} (hm : m ∈ nodes)
    (hmn : m ≠ n) : along n m.x m.y < 0 :=
  Repulsion.along_neg (h.le m hm) (h.apart m hm hmn)

lemma Farthest.along_nonpos (h : Farthest nodes n) {m : WorkerNode ℝ} (hm : m ∈ nodes) :
    along n m.x m.y ≤ 0 := by
  by_cases hmn : m = n
  · rw [hmn, along_self]
  · exact (h.along_neg hm hmn).le

/-- Something that has the sign of `along` for each of several nodes has it in sum. -/
lemma Farthest.sum_neg (h : Farthest nodes n) (hsub : sub ⊆ nodes) (hnodup : sub.Nodup)
    (hlength : 1 < sub.length) {f : WorkerNode ℝ → ℝ}
    (hf : ∀ m, ∃ c > 0, f m = c * along n m.x m.y) : (sub.map f).sum < 0 := by
  have hle : ∀ m ∈ sub, f m ≤ 0 := by
    intro m hm
    obtain ⟨c, hc, hfm⟩ := hf m
    rw [hfm]
    exact mul_nonpos_of_nonneg_of_nonpos hc.le (h.along_nonpos (hsub hm))
  have hlt : ∃ m ∈ sub, f m < 0 := by
    obtain ⟨m, hm, hmn⟩ : ∃ m ∈ sub, m ≠ n := by
      by_contra hall
      push Not at hall
      have hreplicate := List.eq_replicate_of_mem hall
      rw [hreplicate, List.nodup_replicate] at hnodup
      omega
    obtain ⟨c, hc, hfm⟩ := hf m
    exact ⟨m, hm, hfm ▸ mul_neg_of_pos_of_neg hc (h.along_neg (hsub hm) hmn)⟩
  have hsum := List.sum_lt_sum (l := sub) f (fun _ => 0) hle hlt
  simpa using hsum

lemma sum_along (n : WorkerNode ℝ) (hne : sub ≠ []) : (sub.map fun m => along n m.x m.y).sum =
    sub.length * along n (meanX sub) (meanY sub) := by
  have hlength : (sub.length : ℝ) ≠ 0 := by simpa using hne
  have hsum : ∀ l : List (WorkerNode ℝ), (l.map fun m => along n m.x m.y).sum =
      n.x * ((l.map WorkerNode.x).sum - l.length * n.x) +
        n.y * ((l.map WorkerNode.y).sum - l.length * n.y) := by
    intro l
    induction l with
    | nil => simp
    | cons m l ih =>
      rw [List.map_cons, List.sum_cons, ih, along]
      simp only [List.map_cons, List.sum_cons, List.length_cons]
      push_cast
      ring
  rw [hsum, along, meanX, meanY]
  field_simp

lemma bodyForce_eq {cx cy : ℝ} {mass : ℕ} (hstrength : 0 < strength) (hmass : 0 < mass) :
    ∃ k > 0, bodyForce Real.sqrt node strength cx cy mass =
      (k * (cx - node.x), k * (cy - node.y)) := by
  have hdist : 0 < distSq node cx cy := by
    simp only [distSq]
    split
    · exact one_pos
    · next hne =>
      exact (add_nonneg (mul_self_nonneg _) (mul_self_nonneg _)).lt_of_ne (Ne.symm hne)
  have hcast : (0 : ℝ) < mass := Nat.cast_pos.mpr hmass
  refine ⟨strength * mass / distSq node cx cy / Real.sqrt (distSq node cx cy),
    div_pos (div_pos (mul_pos hstrength hcast) hdist) (Real.sqrt_pos.mpr hdist), ?_⟩
  simp only [bodyForce]
  exact Prod.ext (by ring) (by ring)

lemma dot_sum (n : WorkerNode ℝ) (forces : List (ℝ × ℝ)) :
    n.x * forces.sum.1 + n.y * forces.sum.2 =
      (forces.map fun f => n.x * f.1 + n.y * f.2).sum := by
  induction forces with
  | nil => simp
  | cons f forces ih =>
    rw [List.map_cons, List.sum_cons, List.sum_cons, ← ih, Prod.fst_add, Prod.snd_add]
    ring

lemma Farthest.force_ne_zero (h : Farthest nodes n) (hnodup : nodes.Nodup)
    (hlength : 1 < nodes.length) (hstrength : 0 < strength) :
    (nodes.map fun m => bodyForce Real.sqrt n strength m.x m.y 1).sum ≠ 0 := by
  intro hzero
  have hback : ∀ m : WorkerNode ℝ, ∃ k > 0,
      n.x * (bodyForce Real.sqrt n strength m.x m.y 1).1 +
        n.y * (bodyForce Real.sqrt n strength m.x m.y 1).2 = k * along n m.x m.y := by
    intro m
    obtain ⟨k, hk, hforce⟩ : ∃ k > 0, bodyForce Real.sqrt n strength m.x m.y 1 =
      (k * (m.x - n.x), k * (m.y - n.y)) := bodyForce_eq hstrength one_pos
    refine ⟨k, hk, ?_⟩
    rw [hforce, along]
    ring
  have hneg := h.sum_neg (List.Subset.refl _) hnodup hlength hback
  have hdot := dot_sum n (nodes.map fun m => bodyForce Real.sqrt n strength m.x m.y 1)
  rw [hzero, List.map_map, Prod.fst_zero, Prod.snd_zero, mul_zero, mul_zero, add_zero] at hdot
  exact hneg.ne hdot.symm

/-- The cell has several nodes and counts as a single body. -/
def Lumped (node : WorkerNode ℝ) : QuadTree ℝ → Prop
  | .null => False
  | .leaf _ _ _ _ nodeIds => nodeIds.length ≠ 1
  | .cell cx cy _ size _ _ _ _ => Small Real.sqrt node cx cy size

lemma mem_approximated (h : c ∈ approximated Real.sqrt node tree) :
    c ∈ tree.cells ∧ Lumped node c := by
  induction tree with
  | null => exact absurd h List.not_mem_nil
  | leaf cx cy mass size nodeIds =>
    rw [approximated] at h
    split at h
    · exact absurd h List.not_mem_nil
    · next hone =>
      obtain rfl := List.mem_singleton.mp h
      exact ⟨List.mem_singleton_self _, hone⟩
  | cell cx cy mass size nw ne sw se ihnw ihne ihsw ihse =>
    rw [approximated] at h
    split at h
    · next hsmall =>
      obtain rfl := List.mem_singleton.mp h
      exact ⟨List.mem_cons_self, hsmall⟩
    · simp only [List.mem_append] at h
      rw [QuadTree.cells, List.mem_cons]
      simp only [List.mem_append]
      rcases h with ((h | h) | h) | h
      · exact (ihnw h).imp_left fun hc => .inr (.inl (.inl (.inl hc)))
      · exact (ihne h).imp_left fun hc => .inr (.inl (.inl (.inr hc)))
      · exact (ihsw h).imp_left fun hc => .inr (.inl (.inr hc))
      · exact (ihse h).imp_left fun hc => .inr (.inr hc)

lemma Represents.of_lumped (h : Represents c sub) (hlumped : Lumped node c) :
    1 < sub.length ∧ barnesHutForce Real.sqrt node strength c =
      bodyForce Real.sqrt node strength c.cx c.cy c.mass := by
  cases h with
  | null => exact absurd hlumped id
  | leaf size hnodes =>
    have hone : sub.length ≠ 1 := by simpa [leafOf, Lumped] using hlumped
    have hids : sub.map WorkerNode.id ≠ [node.id] := fun heq =>
      hone (by simpa using congrArg List.length heq)
    have hpos := List.length_pos_iff.mpr hnodes
    refine ⟨by omega, ?_⟩
    rw [leafOf, barnesHutForce, if_neg hids]
    rfl
  | cell size hnodes hparts hnw hne hsw hse =>
    have hsmall : Small Real.sqrt node (meanX sub) (meanY sub) size := hlumped
    refine ⟨hnodes, ?_⟩
    rw [barnesHutForce, if_pos hsmall]
    rfl

lemma Farthest.not_pointsAway (h : Farthest nodes n) (hnodup : nodes.Nodup)
    (hstrength : 0 < strength) (htree : Represents tree nodes)
    (hc : c ∈ approximated Real.sqrt n tree) :
    ¬ PointsAway n c.cx c.cy (barnesHutForce Real.sqrt n strength c) := by
  obtain ⟨hcells, hlumped⟩ := mem_approximated hc
  obtain ⟨sub, hsub, hrep⟩ := htree.of_mem_cells hcells
  obtain ⟨hlength, hforce⟩ := hrep.of_lumped hlumped
  have hback : along n c.cx c.cy < 0 := by
    have hne : sub ≠ [] := List.ne_nil_of_length_pos (by omega)
    have hpos : (0 : ℝ) < sub.length := Nat.cast_pos.mpr (by omega)
    have hneg := h.sum_neg hsub.subset (nodup_of_subperm hsub hnodup) hlength
      fun m => ⟨1, one_pos, (one_mul (along n m.x m.y)).symm⟩
    rw [sum_along n hne, ← hrep.cx, ← hrep.cy] at hneg
    exact (pos_iff_neg_of_mul_neg hneg).mp hpos
  rintro ⟨k, hk, haway⟩
  obtain ⟨k', hk', hdrawn⟩ : ∃ k > 0, bodyForce Real.sqrt n strength c.cx c.cy c.mass =
      (k * (c.cx - n.x), k * (c.cy - n.y)) :=
    bodyForce_eq hstrength (by rw [hrep.mass]; omega)
  -- both at once only where the center is the node
  rw [hforce, hdrawn, Prod.mk.injEq] at haway
  have hsum : (k + k') * along n c.cx c.cy = 0 := by
    unfold along
    linear_combination n.x * haway.1 + n.y * haway.2
  exact (mul_neg_of_pos_of_neg (add_pos hk hk') hback).ne hsum

end Farthest

/-! ## Agreement -/

lemma repulsionStrength_pos (i iterations : ℕ) : (0 : ℝ) < repulsionStrength i iterations := by
  have hleast : (0 : ℝ) < 1 / 1000 := by norm_num
  exact mul_pos (by norm_num) (lt_max_of_lt_right hleast)

section Agreement

variable {nodes : List (WorkerNode ℝ)} {tree : QuadTree ℝ} {strength : ℝ}

lemma Represents.repelPairs_eq (htree : Represents tree nodes)
    (hids : (nodes.map WorkerNode.id).Nodup) {k : ℕ} (hk : k < nodes.length)
    (hopened : approximated Real.sqrt (nodeAt nodes k) tree = []) (v : ℕ → ℝ × ℝ) :
    repelPairs Real.sqrt strength nodes v k =
      v k - barnesHutForce Real.sqrt (nodeAt nodes k) strength tree := by
  have hmem : nodeAt nodes k ∈ nodes := by
    rw [nodeAt, List.getD_eq_getElem _ _ hk]
    exact List.getElem_mem hk
  rw [repelPairs_apply hk, htree.barnesHutForce_eq hopened
    fun n hn hid => List.inj_on_of_nodup_map hids hn hmem hid]

lemma Represents.agrees (htree : Represents tree nodes) (hids : (nodes.map WorkerNode.id).Nodup)
    (hlength : nodes.length ≤ 1) : Agrees Real.sqrt strength nodes tree where
  places := htree.places hids
  opened k hk hopened v := by
    obtain ⟨n, rfl⟩ := List.length_eq_one_iff.mp (show nodes.length = 1 by omega)
    obtain rfl : k = 0 := by simpa using hk
    have hzero : barnesHutForce Real.sqrt (nodeAt [n] 0) strength tree = 0 := by
      rw [htree.barnesHutForce_eq hopened fun m hm _ => List.mem_singleton.mp hm]
      exact (List.sum_singleton).trans (bodyForce_self 1)
    rw [htree.repelPairs_eq hids hk hopened, hzero, sub_zero, add_zero]
  away node hnode c hc := by
    obtain ⟨hcells, hlumped⟩ := mem_approximated hc
    obtain ⟨sub, hsub, hrep⟩ := htree.of_mem_cells hcells
    obtain ⟨hmany, -⟩ : 1 < sub.length ∧ barnesHutForce Real.sqrt node strength c = _ :=
      hrep.of_lumped hlumped
    have hle := hsub.length_le
    omega

lemma Represents.length_le (htree : Represents tree nodes)
    (hids : (nodes.map WorkerNode.id).Nodup)
    (hpositions : (nodes.map fun n => (n.x, n.y)).Nodup) (hstrength : 0 < strength)
    (h : Agrees Real.sqrt strength nodes tree) : nodes.length ≤ 1 := by
  have hnodup : nodes.Nodup := List.Nodup.of_map _ hids
  by_contra hlength
  obtain ⟨n, hn⟩ := exists_farthest (List.ne_nil_of_length_pos (by omega)) hpositions
  by_cases hopened : approximated Real.sqrt n tree = []
  · obtain ⟨k, hk, rfl⟩ : ∃ k < nodes.length, nodeAt nodes k = n := by
      obtain ⟨k, hk, hnk⟩ := List.mem_iff_getElem.mp hn.mem
      exact ⟨k, hk, (List.getD_eq_getElem _ _ hk).trans hnk⟩
    have hboth := (htree.repelPairs_eq hids hk hopened 0).symm.trans (h.opened k hk hopened 0)
    have hzero : barnesHutForce Real.sqrt (nodeAt nodes k) strength tree = 0 := by
      have hfst := congrArg Prod.fst hboth
      have hsnd := congrArg Prod.snd hboth
      simp only [Prod.fst_sub, Prod.fst_add, Prod.snd_sub, Prod.snd_add] at hfst hsnd
      exact Prod.ext (by simp only [Prod.fst_zero]; linarith)
        (by simp only [Prod.snd_zero]; linarith)
    rw [htree.barnesHutForce_eq hopened fun m hm hid =>
      List.inj_on_of_nodup_map hids hm hn.mem hid] at hzero
    exact hn.force_ne_zero hnodup (by omega) hstrength hzero
  · obtain ⟨c, hc⟩ := List.exists_mem_of_ne_nil _ hopened
    exact hn.not_pointsAway hnodup hstrength htree hc (h.away n hn.mem c hc)

end Agreement

/-- The tree agrees with the pairs exactly if there are no two nodes. -/
theorem tree_agrees_iff (nodes : List (WorkerNode ℝ)) (hids : (nodes.map WorkerNode.id).Nodup)
    (hpositions : (nodes.map fun n => (n.x, n.y)).Nodup) (width height : ℝ) (i iterations : ℕ) :
    Agrees Real.sqrt (repulsionStrength i iterations) nodes (layoutTree nodes width height) ↔
      nodes.length ≤ 1 := by
  have htree : Represents (layoutTree nodes width height) nodes := represents_build _ _ _ _ _
  exact ⟨htree.length_le hids hpositions (repulsionStrength_pos i iterations), htree.agrees hids⟩

/-- Nodes in a row. -/
def row (n : ℕ) : List (WorkerNode ℝ) :=
  (List.range n).map fun i => ⟨String.ofList (List.replicate i 'n'), i, 0⟩

lemma ids_row (n : ℕ) : ((row n).map WorkerNode.id).Nodup := by
  rw [row, List.map_map]
  refine List.nodup_range.map fun i j h => ?_
  have hlist := congrArg (List.length ∘ String.toList) h
  simpa using hlist

lemma positions_row (n : ℕ) : ((row n).map fun n => (n.x, n.y)).Nodup := by
  rw [row, List.map_map]
  refine List.nodup_range.map fun i j h => ?_
  exact Nat.cast_injective (congrArg Prod.fst h)

/-- More nodes than the layout takes in pairs. -/
theorem tree_agrees_iff_row :
    Agrees Real.sqrt (repulsionStrength 0 1) (row 501) (layoutTree (row 501) 100 100) ↔
      (row 501).length ≤ 1 :=
  tree_agrees_iff (row 501) (ids_row 501) (positions_row 501) 100 100 0 1

theorem not_agrees_row :
    ¬ Agrees Real.sqrt (repulsionStrength 0 1) (row 501) (layoutTree (row 501) 100 100) := by
  have htree : Represents (layoutTree (row 501) 100 100) (row 501) := represents_build _ _ _ _ _
  intro h
  have hle := htree.length_le (ids_row 501) (positions_row 501) (repulsionStrength_pos 0 1) h
  rw [row, List.length_map, List.length_range] at hle
  exact absurd hle (by decide)

end Paryty.Frontend.Repulsion

import Mathlib.Data.List.GetD
import Mathlib.Logic.Relation
import Mathlib.Logic.Function.Basic

/-! Disjoint sets as a forest in which each node knows its parent; a root is its own. Loops run on fuel: `none` stands
for one that is not at its end. -/
namespace Forest

def parentOf (parents : List Nat) (node : Nat) : Nat := parents.getD node node

/-- The loop that looks for the root. -/
def climb (parents : List Nat) : Nat → Nat → Option Nat
  | 0, node => if parentOf parents node = node then some node else none
  | fuel + 1, node => if parentOf parents node = node then some node else climb parents fuel (parentOf parents node)

/-- The loop that hangs every node of the way directly on the root. -/
def compress (root : Nat) : Nat → List Nat → Nat → Option (List Nat)
  | 0, parents, node => if parentOf parents node = node then some parents else none
  | fuel + 1, parents, node =>
    if parentOf parents node = node then some parents
    else compress root fuel (parents.set node root) (parentOf parents node)

def find (fuel : Nat) (parents : List Nat) (start : Nat) : Option (Nat × List Nat) := do
  let root ← climb parents fuel start
  let parents ← compress root fuel parents start
  return (root, parents)

def union (fuel : Nat) (parents : List Nat) (left right : Nat) : Option (List Nat) := do
  let (leftRoot, parents) ← find fuel parents left
  let (rightRoot, parents) ← find fuel parents right
  return if leftRoot = rightRoot then parents else parents.set rightRoot leftRoot

/-- A forest over the nodes below `size`. `rootOf` gives the sets, and `depth` falls on every way up. -/
structure Grown (parents : List Nat) (size bound : Nat) (rootOf depth : Nat → Nat) : Prop where
  length : parents.length = size
  within : ∀ node, node < size → parentOf parents node < size
  root : ∀ node, parentOf parents (rootOf node) = rootOf node
  same : ∀ node, rootOf (parentOf parents node) = rootOf node
  fixed : ∀ node, parentOf parents node = node → rootOf node = node
  ground : ∀ node, parentOf parents node = node → depth node = 0
  falls : ∀ node, parentOf parents node ≠ node → depth (parentOf parents node) < depth node
  shallow : ∀ node, depth node ≤ bound

section Parents

variable {parents : List Nat} {size bound fuel : Nat} {rootOf depth : Nat → Nat}

theorem parentOf_set {node value : Nat} (inside : node < parents.length) (other : Nat) :
    parentOf (parents.set node value) other = if other = node then value else parentOf parents other := by
  unfold parentOf
  by_cases same : other = node
  · subst same
    simp [List.getD_eq_getElem?_getD, inside]
  · simp [List.getD_eq_getElem?_getD, List.getElem?_set_ne (Ne.symm same), same]

theorem parentOf_outside {node : Nat} (outside : parents.length ≤ node) : parentOf parents node = node := by
  unfold parentOf
  rw [List.getD_eq_default _ _ outside]

theorem grown_range (size : Nat) : Grown (List.range size) size 0 id fun _ => 0 := by
  have parent : ∀ node, parentOf (List.range size) node = node := by
    intro node
    by_cases inside : node < size
    · simp [parentOf, inside]
    · exact parentOf_outside (by simpa using inside)
  constructor
  · exact List.length_range
  · intro node inside
    rwa [parent]
  · exact parent
  · exact parent
  · exact fun node _ => rfl
  · exact fun node _ => rfl
  · exact fun node moves => absurd (parent node) moves
  · exact fun node => Nat.le_refl _

theorem lt_of_moves {node : Nat} (moves : parentOf parents node ≠ node) : node < parents.length := by
  by_contra outside
  exact moves (parentOf_outside (Nat.not_lt.1 outside))

theorem Grown.deepen {more : Nat} (grown : Grown parents size bound rootOf depth) (more_ : bound ≤ more) :
    Grown parents size more rootOf depth :=
  { grown with shallow := fun node => Nat.le_trans (grown.shallow node) more_ }

theorem Grown.rootOf_spec (grown : Grown parents size bound rootOf depth) (node : Nat) :
    depth (rootOf node) = 0 ∧ (node < size → rootOf node < size) := by
  refine ⟨grown.ground _ (grown.root node), ?_⟩
  induction level : depth node using Nat.strongRecOn generalizing node with
  | ind level ih =>
    intro inside
    by_cases moves : parentOf parents node = node
    · rwa [grown.fixed node moves]
    · have up := ih _ (level ▸ grown.falls node moves) (parentOf parents node) rfl (grown.within node inside)
      rwa [grown.same] at up

theorem Grown.rootOf_rootOf (grown : Grown parents size bound rootOf depth) (node : Nat) :
    rootOf (rootOf node) = rootOf node := grown.fixed _ (grown.root node)

theorem climb_spec (grown : Grown parents size bound rootOf depth) {node : Nat} (enough : depth node ≤ fuel) :
    climb parents fuel node = some (rootOf node) := by
  induction fuel generalizing node with
  | zero =>
    have stays : parentOf parents node = node := by
      by_contra moves
      have falls := grown.falls node moves
      omega
    rw [climb, if_pos stays, grown.fixed node stays]
  | succ fuel ih =>
    by_cases stays : parentOf parents node = node
    · rw [climb, if_pos stays, grown.fixed node stays]
    · have falls := grown.falls node stays
      rw [climb, if_neg stays, ih (by omega), grown.same]

/-- A node that is hung on its root: no set changes, and no way gets longer. -/
theorem Grown.shortcut (grown : Grown parents size bound rootOf depth) {node : Nat}
    (moves : parentOf parents node ≠ node) : Grown (parents.set node (rootOf node)) size bound rootOf depth := by
  have inside := lt_of_moves moves
  have differs : rootOf node ≠ node := fun same => moves (by rw [← same]; exact grown.root node)
  have up : depth (rootOf node) < depth node := by
    rw [(grown.rootOf_spec node).1]
    exact Nat.lt_of_le_of_lt (Nat.zero_le _) (grown.falls node moves)
  refine ⟨by rw [List.length_set, grown.length], ?_, ?_, ?_, ?_, ?_, ?_, grown.shallow⟩
  · intro other small
    rw [parentOf_set inside]
    split
    · exact (grown.rootOf_spec node).2 (grown.length ▸ inside)
    · exact grown.within other small
  · intro other
    rw [parentOf_set inside]
    split
    · rename_i is
      rw [← is] at moves
      exact absurd (grown.root other) moves
    · exact grown.root other
  · intro other
    rw [parentOf_set inside]
    split
    · rename_i is
      rw [is, grown.rootOf_rootOf]
    · exact grown.same other
  · intro other
    rw [parentOf_set inside]
    split
    · rename_i is
      exact fun same => absurd (same.trans is) differs
    · exact grown.fixed other
  · intro other
    rw [parentOf_set inside]
    split
    · rename_i is
      exact fun same => absurd (same.trans is) differs
    · exact grown.ground other
  · intro other
    rw [parentOf_set inside]
    split
    · rename_i is
      rw [is]
      exact fun _ => up
    · exact grown.falls other

theorem compress_spec (grown : Grown parents size bound rootOf depth) {node root : Nat} (enough : depth node ≤ fuel)
    (isRoot : rootOf node = root) :
    ∃ parents', compress root fuel parents node = some parents' ∧ Grown parents' size bound rootOf depth := by
  induction fuel generalizing parents node with
  | zero =>
    have stays : parentOf parents node = node := by
      by_contra moves
      have falls := grown.falls node moves
      omega
    exact ⟨parents, by rw [compress, if_pos stays], grown⟩
  | succ fuel ih =>
    by_cases stays : parentOf parents node = node
    · exact ⟨parents, by rw [compress, if_pos stays], grown⟩
    · have falls := grown.falls node stays
      have shorter := grown.shortcut stays
      rw [isRoot] at shorter
      obtain ⟨parents', done, grown'⟩ := ih shorter (show depth (parentOf parents node) ≤ fuel by omega)
        (by rw [grown.same, isRoot])
      exact ⟨parents', by rw [compress, if_neg stays]; exact done, grown'⟩

theorem find_spec (grown : Grown parents size bound rootOf depth) (enough : bound ≤ fuel) (start : Nat) :
    ∃ parents', find fuel parents start = some (rootOf start, parents') ∧ Grown parents' size bound rootOf depth := by
  have shallow := Nat.le_trans (grown.shallow start) enough
  obtain ⟨parents', done, grown'⟩ := compress_spec grown shallow rfl
  exact ⟨parents', by rw [find, climb_spec grown shallow, Option.bind_eq_bind, Option.bind_some, done]; rfl, grown'⟩

/-- The sets after two of them have become one. -/
def merged (rootOf : Nat → Nat) (left right node : Nat) : Nat :=
  if rootOf node = rootOf right then rootOf left else rootOf node

/-- A root that is hung on another: its set is the other's, one step deeper. -/
theorem Grown.hang (grown : Grown parents size bound rootOf depth) {left right : Nat} (insideLeft : left < size)
    (insideRight : right < size) (apart : rootOf left ≠ rootOf right) :
    Grown (parents.set (rootOf right) (rootOf left)) size (bound + 1) (merged rootOf left right)
      fun node => if rootOf node = rootOf right then depth node + 1 else depth node := by
  have inside : rootOf right < parents.length := grown.length ▸ (grown.rootOf_spec right).2 insideRight
  have leftRoot := grown.rootOf_rootOf left
  have rightRoot := grown.rootOf_rootOf right
  have hung : merged rootOf left right (rootOf left) = rootOf left := by
    rw [merged, leftRoot, if_neg apart]
  refine ⟨by rw [List.length_set, grown.length], ?_, ?_, ?_, ?_, ?_, ?_, ?_⟩
  · intro node small
    rw [parentOf_set inside]
    split
    · exact (grown.rootOf_spec left).2 insideLeft
    · exact grown.within node small
  · intro node
    rw [parentOf_set inside]
    unfold merged
    by_cases joins : rootOf node = rootOf right
    · rw [if_pos joins, if_neg apart]
      exact grown.root left
    · rw [if_neg joins, if_neg joins]
      exact grown.root node
  · intro node
    rw [parentOf_set inside]
    split
    · rename_i is
      rw [hung, merged, is, rightRoot, if_pos rfl]
    · unfold merged
      rw [grown.same]
  · intro node
    rw [parentOf_set inside]
    split
    · rename_i is
      exact fun same => absurd (same.trans is) apart
    · rename_i other
      intro stays
      have own := grown.fixed node stays
      rw [merged, own, if_neg other]
  · intro node
    rw [parentOf_set inside]
    split
    · rename_i is
      exact fun same => absurd (same.trans is) apart
    · rename_i other
      intro stays
      have own := grown.fixed node stays
      rw [own, if_neg other]
      exact grown.ground node stays
  · intro node
    rw [parentOf_set inside]
    split
    · rename_i is
      intro _
      rw [is, rightRoot, leftRoot, if_neg apart, if_pos rfl, (grown.rootOf_spec left).1]
      exact Nat.succ_pos _
    · intro moves
      have falls := grown.falls node moves
      rw [grown.same]
      split
      · exact Nat.succ_lt_succ falls
      · exact falls
  · intro node
    have shallow := grown.shallow node
    split <;> omega

theorem union_spec (grown : Grown parents size bound rootOf depth) {left right : Nat} (enough : bound ≤ fuel)
    (insideLeft : left < size) (insideRight : right < size) :
    ∃ parents', union fuel parents left right = some parents' ∧
      ∃ depth', Grown parents' size (bound + 1) (merged rootOf left right) depth' := by
  obtain ⟨parents₁, foundLeft, grown₁⟩ := find_spec grown enough left
  obtain ⟨parents₂, foundRight, grown₂⟩ := find_spec grown₁ enough right
  rw [union, foundLeft, Option.bind_eq_bind, Option.bind_some]
  simp only [foundRight, Option.bind_some]
  by_cases same : rootOf left = rootOf right
  · have unchanged : merged rootOf left right = rootOf := by
      funext node
      unfold merged
      split
      · rename_i is
        rw [same, is]
      · rfl
    rw [if_pos same, unchanged]
    exact ⟨parents₂, rfl, depth, grown₂.deepen (Nat.le_succ _)⟩
  · rw [if_neg same]
    exact ⟨_, rfl, _, grown₂.hang insideLeft insideRight same⟩

end Parents

section Connection

open Relation

variable {κ : Type} {rootOf : Nat → Nat}

/-- The sets are those that the pairs of a relation connect. -/
def Splits (rootOf : Nat → Nat) (related : Nat → Nat → Prop) : Prop :=
  ∀ left right, rootOf left = rootOf right ↔ EqvGen related left right

theorem Splits.congr {related related' : Nat → Nat → Prop} (splits : Splits rootOf related)
    (only : ∀ left right, related left right → EqvGen related' left right)
    (all : ∀ left right, related' left right → EqvGen related left right) : Splits rootOf related' := by
  have forth : ∀ left right, EqvGen related left right → EqvGen related' left right := by
    intro left right connected
    induction connected with
    | rel left right is => exact only left right is
    | refl node => exact .refl node
    | symm left right _ ih => exact .symm _ _ ih
    | trans left middle right _ _ ih₁ ih₂ => exact .trans _ _ _ ih₁ ih₂
  have back : ∀ left right, EqvGen related' left right → EqvGen related left right := by
    intro left right connected
    induction connected with
    | rel left right is => exact all left right is
    | refl node => exact .refl node
    | symm left right _ ih => exact .symm _ _ ih
    | trans left middle right _ _ ih₁ ih₂ => exact .trans _ _ _ ih₁ ih₂
  exact fun left right => (splits left right).trans ⟨forth left right, back left right⟩

theorem Splits.merged {related : Nat → Nat → Prop} (splits : Splits rootOf related) (left right : Nat) :
    Splits (merged rootOf left right) fun one two => related one two ∨ (one = left ∧ two = right) := by
  have old : ∀ one two, rootOf one = rootOf two →
      EqvGen (fun one two => related one two ∨ (one = left ∧ two = right)) one two := by
    intro one two same
    exact ((splits one two).1 same).mono fun _ _ is => Or.inl is
  have new : EqvGen (fun one two => related one two ∨ (one = left ∧ two = right)) left right :=
    .rel _ _ (Or.inr ⟨rfl, rfl⟩)
  intro one two
  constructor
  · intro same
    unfold Forest.merged at same
    by_cases first : rootOf one = rootOf right <;> by_cases second : rootOf two = rootOf right
    · exact old one two (first.trans second.symm)
    · rw [if_pos first, if_neg second] at same
      exact .trans _ _ _ (old one right first) (.trans _ _ _ (.symm _ _ new) (old left two same))
    · rw [if_neg first, if_pos second] at same
      exact .trans _ _ _ (old one left same) (.trans _ _ _ new (old right two second.symm))
    · rw [if_neg first, if_neg second] at same
      exact old one two same
  · intro connected
    induction connected with
    | rel one two is =>
      rcases is with was | ⟨rfl, rfl⟩
      · have same := (splits one two).2 (.rel _ _ was)
        unfold Forest.merged
        rw [same]
      · unfold Forest.merged
        rw [if_pos rfl]
        split <;> rfl
    | refl node => rfl
    | symm one two _ ih => exact ih.symm
    | trans one middle two _ _ ih₁ ih₂ => exact ih₁.trans ih₂

/-- Nodes that were seen under one key. -/
def Shares (seen : List (κ × Nat)) (left right : Nat) : Prop := ∃ key, (key, left) ∈ seen ∧ (key, right) ∈ seen

/-- A table of the first node seen under each key, and sets that join all nodes of a key. -/
structure Traced (seen : List (κ × Nat)) (firstOf : κ → Option Nat) (rootOf : Nat → Nat) : Prop where
  first : ∀ key node, firstOf key = some node → (key, node) ∈ seen
  known : ∀ key node, (key, node) ∈ seen → firstOf key ≠ none
  splits : Splits rootOf (Shares seen)

theorem traced_nil : Traced ([] : List (κ × Nat)) (fun _ => none) id := by
  refine ⟨fun _ _ found => (nomatch found), fun _ _ member => (nomatch member), fun left right => ⟨?_, ?_⟩⟩
  · rintro rfl
    exact .refl _
  · intro connected
    induction connected with
    | rel left right is =>
      obtain ⟨_, member, _⟩ := is
      cases member
    | refl node => rfl
    | symm left right _ ih => exact ih.symm
    | trans left middle right _ _ ih₁ ih₂ => exact ih₁.trans ih₂

theorem mem_seen_snoc {seen : List (κ × Nat)} {key other : κ} {node member : Nat} :
    (other, member) ∈ seen ++ [(key, node)] ↔ (other, member) ∈ seen ∨ (other = key ∧ member = node) := by
  simp

variable {seen : List (κ × Nat)} {firstOf : κ → Option Nat}

theorem Traced.new [DecidableEq κ] (traced : Traced seen firstOf rootOf) {key : κ} (node : Nat)
    (unknown : firstOf key = none) :
    Traced (seen ++ [(key, node)]) (Function.update firstOf key (some node)) rootOf := by
  refine ⟨?_, ?_, traced.splits.congr ?_ ?_⟩
  · intro other member found
    rw [mem_seen_snoc]
    by_cases same : other = key
    · rw [same, Function.update_self] at found
      exact Or.inr ⟨same, (Option.some.inj found).symm⟩
    · rw [Function.update_of_ne same] at found
      exact Or.inl (traced.first other member found)
  · intro other member is
    by_cases same : other = key
    · rw [same, Function.update_self]
      exact Option.some_ne_none _
    · rw [Function.update_of_ne same]
      rcases mem_seen_snoc.1 is with was | ⟨isKey, _⟩
      · exact traced.known other member was
      · exact absurd isKey same
  · rintro left right ⟨other, one, two⟩
    exact .rel _ _ ⟨other, List.mem_append_left _ one, List.mem_append_left _ two⟩
  · rintro left right ⟨other, one, two⟩
    rcases mem_seen_snoc.1 one with was | ⟨isKey, rfl⟩ <;> rcases mem_seen_snoc.1 two with was' | ⟨isKey', rfl⟩
    · exact .rel _ _ ⟨other, was, was'⟩
    · exact absurd unknown (isKey' ▸ traced.known other left was)
    · exact absurd unknown (isKey ▸ traced.known other right was')
    · exact .refl _

theorem Traced.again (traced : Traced seen firstOf rootOf) {key : κ} {first : Nat} (node : Nat)
    (known : firstOf key = some first) :
    Traced (seen ++ [(key, node)]) firstOf (merged rootOf first node) := by
  have atFirst := traced.first key first known
  refine ⟨?_, ?_, (traced.splits.merged first node).congr ?_ ?_⟩
  · intro other member found
    exact List.mem_append_left _ (traced.first other member found)
  · intro other member is
    rcases mem_seen_snoc.1 is with was | ⟨rfl, _⟩
    · exact traced.known other member was
    · rw [known]
      exact Option.some_ne_none _
  · rintro left right (⟨other, one, two⟩ | ⟨rfl, rfl⟩)
    · exact .rel _ _ ⟨other, List.mem_append_left _ one, List.mem_append_left _ two⟩
    · exact .rel _ _ ⟨key, List.mem_append_left _ atFirst, mem_seen_snoc.2 (Or.inr ⟨rfl, rfl⟩)⟩
  · have join : ∀ member, (key, member) ∈ seen →
        EqvGen (fun one two => Shares seen one two ∨ (one = first ∧ two = node)) member node := by
      intro member is
      exact .trans _ _ _ (.rel _ _ (Or.inl ⟨key, is, atFirst⟩)) (.rel _ _ (Or.inr ⟨rfl, rfl⟩))
    rintro left right ⟨other, one, two⟩
    rcases mem_seen_snoc.1 one with was | ⟨isKey, rfl⟩ <;> rcases mem_seen_snoc.1 two with was' | ⟨isKey', rfl⟩
    · exact .rel _ _ (Or.inl ⟨other, was, was'⟩)
    · exact join left (isKey' ▸ was)
    · exact .symm _ _ (join right (isKey ▸ was'))
    · exact .refl _

end Connection

end Forest

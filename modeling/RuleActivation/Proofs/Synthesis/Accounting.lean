import Mathlib.Data.List.Nodup
import RuleActivation.Proofs.Rule.Leaves
import RuleActivation.Proofs.Synthesis.Cases
import RuleActivation.Proofs.Synthesis.Label

/-!
# What becomes of every leaf

A synthesis plans a baseline and, for every leaf, a case that negates it and one that removes its
variable. No planned case is lost, made twice or labelled like another one: those that can be built
are listed in the order of the leaves, and so are those that cannot.

## Main definitions

* `Synthesis.labels`: the labels of the cases, built or not
* `Node.plannedLabels`: the labels that a tree asks for
* `Synthesis.AccountsFor`: a synthesis that accounts for every leaf of a tree

## Main results

* `Node.nodup_plannedLabels`: no label is planned twice
* `Rule.map_label_cases`, `Rule.map_label_unbuilt`: the labels of a synthesis in order
* `Rule.accountsFor_synthesize`: every leaf is accounted for
-/

namespace RuleActivation

/-! ## Planned labels -/

namespace Node

variable {p : Position}

/-- The label of the baseline, and those of the negated and of the removed leaves of a tree. -/
def plannedLabels (n : Node) : List CaseLabel :=
  .positiveAll :: (n.leaves.map (.negativeLeaf ·.1) ++ n.leaves.map (.nullLeaf ·.1))

theorem length_plannedLabels (n : Node) : n.plannedLabels.length = 2 * n.leaves.length + 1 := by
  simp only [plannedLabels, List.length_cons, List.length_append, List.length_map]
  omega

theorem nodup_positions (n : Node) : (n.leaves.map Prod.fst).Nodup := by
  rw [List.nodup_iff_pairwise_ne, List.pairwise_map]
  refine (pairwise_leaves_lt n).imp fun less same => ?_
  rw [same] at less
  exact List.lt_irrefl _ less

/-- No label is planned twice. -/
theorem nodup_plannedLabels (n : Node) : n.plannedLabels.Nodup := by
  have labelled (label : Position → CaseLabel) (injective : Function.Injective label) :
      (n.leaves.map fun leaf => label leaf.1).Nodup := by
    rw [← Function.comp_def label, ← List.map_map]
    exact (nodup_positions n).map injective
  rw [plannedLabels, List.nodup_cons, List.nodup_append]
  refine ⟨by simp, labelled _ fun _ _ => CaseLabel.negativeLeaf.inj,
    labelled _ fun _ _ => CaseLabel.nullLeaf.inj, ?_⟩
  intro a negated b removed
  obtain ⟨leaf, -, rfl⟩ := List.mem_map.1 negated
  obtain ⟨leaf', -, rfl⟩ := List.mem_map.1 removed
  exact CaseLabel.noConfusion

end Node

/-! ## Labels of a synthesis -/

/-- The labels of the cases of a synthesis, built or not. -/
def Synthesis.labels (s : Synthesis) : List CaseLabel :=
  s.cases.map (·.label) ++ s.unbuilt.map (·.label)

namespace Rule

variable {r : Rule} {env : Environment}

/-- The negated leaves are split into those that have a negative value and the others. -/
theorem map_label_negatives (r : Rule) (env : Environment)
    (leaves : List (Position × Condition)) :
    ((leaves.map (r.negativeCase env)).filterMap Except.toOption).map (·.label) =
        (leaves.filter (·.2.negative.isOk)).map (.negativeLeaf ·.1) ∧
      ((leaves.map (r.negativeCase env)).filterMap error?).map (·.label) =
        (leaves.filter (!·.2.negative.isOk)).map (.negativeLeaf ·.1) := by
  induction leaves with
  | nil => exact ⟨rfl, rfl⟩
  | cons leaf leaves ih =>
    cases negative : leaf.2.negative with
    | ok v =>
      have built : r.negativeCase env leaf =
          .ok (r.caseOf (.negativeLeaf leaf.1) (env.insert leaf.2.variableName v)) :=
        negativeCase_eq_ok_iff.2 ⟨v, negative, rfl⟩
      have isOk : leaf.2.negative.isOk = true := by rw [negative]; rfl
      simp only [List.map_cons, built, filterMap_toOption_cons_ok, filterMap_error?_cons_ok,
        List.filter_cons, isOk, Bool.not_true, Bool.false_eq_true, if_true, if_false, ih, caseOf,
        and_self]
    | error fault =>
      have unbuilt : r.negativeCase env leaf = .error ⟨.negativeLeaf leaf.1, fault.message⟩ := by
        rw [negativeCase, negative]
      have notOk : leaf.2.negative.isOk = false := by rw [negative]; rfl
      simp only [List.map_cons, unbuilt, filterMap_toOption_cons_error,
        filterMap_error?_cons_error, List.filter_cons, notOk, Bool.not_false, Bool.false_eq_true,
        if_true, if_false, ih, and_self]

variable (included : r.synthesize.excluded = none)

include included

/-- The baseline comes first, then the leaves that can be negated, then the removed ones. -/
theorem map_label_cases : r.synthesize.cases.map (·.label) =
    .positiveAll :: ((r.tree.leaves.filter (·.2.negative.isOk)).map (.negativeLeaf ·.1) ++
      r.tree.leaves.map (.nullLeaf ·.1)) := by
  obtain ⟨env, baseline⟩ := excluded_eq_none_iff.1 included
  have negatives := (map_label_negatives r env r.tree.leaves).1
  have removed : (r.tree.leaves.map (r.nullCase env)).map (·.label) =
      r.tree.leaves.map (.nullLeaf ·.1) := by
    rw [List.map_map]
    rfl
  simp only [synthesize, baseline, List.map_cons, List.map_append, negatives, removed]
  rfl

/-- The cases that cannot be built are those of the leaves that cannot be negated. -/
theorem map_label_unbuilt : r.synthesize.unbuilt.map (·.label) =
    (r.tree.leaves.filter (!·.2.negative.isOk)).map (.negativeLeaf ·.1) := by
  obtain ⟨env, baseline⟩ := excluded_eq_none_iff.1 included
  simp only [synthesize, baseline]
  exact (map_label_negatives r env r.tree.leaves).2

/-- The labels of a synthesis are the planned ones. -/
theorem labels_perm_plannedLabels : r.synthesize.labels.Perm r.tree.plannedLabels := by
  rw [Synthesis.labels, map_label_cases included, map_label_unbuilt included, Node.plannedLabels,
    List.cons_append]
  apply List.Perm.cons
  have split := (List.filter_append_perm (fun leaf => leaf.2.negative.isOk) r.tree.leaves).map
    (CaseLabel.negativeLeaf ·.1)
  rw [List.map_append] at split
  rw [List.append_assoc]
  refine (List.perm_append_comm.append_left _).trans ?_
  rw [← List.append_assoc]
  exact split.append_right _

end Rule

/-! ## Accounts -/

/-- A synthesis accounts for the leaves of a tree: it has their planned labels, and the texts of
these are told apart. The cases that are built and those that are not come in the order of the
leaves, which is the order of their positions. -/
structure Synthesis.AccountsFor (s : Synthesis) (n : Node) : Prop where
  built : s.cases.map (·.label) =
    .positiveAll :: ((n.leaves.filter (·.2.negative.isOk)).map (.negativeLeaf ·.1) ++
      n.leaves.map (.nullLeaf ·.1))
  unbuilt : s.unbuilt.map (·.label) =
    (n.leaves.filter (!·.2.negative.isOk)).map (.negativeLeaf ·.1)
  planned : s.labels.Perm n.plannedLabels
  number : s.labels.length = 2 * n.leaves.length + 1
  texts : (s.labels.map CaseLabel.text).Nodup
  leaves : ∀ p c, (p, c) ∈ n.leaves ↔ n.get? p = some (.leaf c)
  ordered : n.leaves.Pairwise fun a b => a.1.indices < b.1.indices

/-- A rule is excluded and there are no cases, or every leaf is accounted for. -/
theorem Rule.accountsFor_synthesize (r : Rule) :
    (r.synthesize.excluded ≠ none ∧ r.synthesize.cases = [] ∧ r.synthesize.unbuilt = []) ∨
    (r.synthesize.excluded = none ∧ r.synthesize.AccountsFor r.tree) := by
  by_cases included : r.synthesize.excluded = none
  · have planned := labels_perm_plannedLabels included
    refine .inr ⟨included, map_label_cases included, map_label_unbuilt included, planned, ?_, ?_,
      fun p c => Node.mem_leaves_iff, Node.pairwise_leaves_lt r.tree⟩
    · rw [planned.length_eq, Node.length_plannedLabels]
    · have distinct := planned.nodup_iff.2 (Node.nodup_plannedLabels r.tree)
      exact distinct.map CaseLabel.text_injective
  · exact .inl ⟨included, eq_nil_of_excluded included⟩

end RuleActivation

import RuleActivation.Proofs.Synthesis.Accounting

/-!
# Names of nodes and cases

Traces and snapshots name a node by the text of its position, and a case by the number of its rule
and the text of its label. What such a text is read as is what it has been written for, unless an
index has more than 64 bits: then it is not read at all. So a name leads back to its position or
label, and there is one node or one case with this name at most.

## Main definitions

* `CaseLabel.position?`: the position in a label

## Main results

* `Position.parse?_text_eq_some_iff`, `CaseLabel.parse_text_eq_ok_iff`: what a text is read as
* `Node.bind_parse?_text_eq_some_iff`: the node with a name
* `Rule.nodup_map_text_labels`: no two cases of a rule are labelled alike
* `Registry.eq_of_text_label_eq`: no two cases have the same name
* `CaseLabel.text_identifies`: all of this
-/

namespace RuleActivation

/-! ## Positions -/

namespace Position

variable {p q : Position}

theorem isAddressable_iff : p.isAddressable = true ↔ ∀ i ∈ p.indices, i < 2 ^ 64 := by
  rw [isAddressable, List.all_eq_true]
  simp only [decide_eq_true_eq]
  rfl

/-- The text of a position is not read as another one. -/
theorem parse?_text_eq_some_iff :
    parse? p.text = some q ↔ q = p ∧ ∀ i ∈ p.indices, i < 2 ^ 64 := by
  rw [parse?_text, ← isAddressable_iff]
  by_cases h : p.isAddressable = true
  · rw [if_pos h, Option.some_inj, eq_comm, and_iff_left h]
  · rw [if_neg h]
    exact ⟨nofun, fun ⟨_, addressable⟩ => absurd addressable h⟩

example : parse? "root.1.0" = some ⟨[1, 0]⟩ ∧ parse? "root.10" = some ⟨[10]⟩ := by decide

end Position

/-- The name of a node leads back to this node. -/
theorem Node.bind_parse?_text_eq_some_iff {n m : Node} {p : Position} :
    (Position.parse? p.text).bind n.get? = some m ↔
      n.get? p = some m ∧ ∀ i ∈ p.indices, i < 2 ^ 64 := by
  rw [Option.bind_eq_some_iff]
  constructor
  · rintro ⟨q, read, there⟩
    obtain ⟨rfl, small⟩ := Position.parse?_text_eq_some_iff.1 read
    exact ⟨there, small⟩
  · rintro ⟨there, small⟩
    exact ⟨p, Position.parse?_text_eq_some_iff.2 ⟨rfl, small⟩, there⟩

/-! ## Labels -/

namespace CaseLabel

variable {l m : CaseLabel}

/-- The position of the leaf for which a case is made. -/
def position? : CaseLabel → Option Position
  | positiveAll => none
  | negativeLeaf p => some p
  | nullLeaf p => some p

theorem isAddressable_iff :
    l.isAddressable = true ↔ ∀ p ∈ l.position?, ∀ i ∈ p.indices, i < 2 ^ 64 := by
  cases l <;> simp [isAddressable, position?, Position.isAddressable_iff]

/-- The text of a label is not read as another one, be it of the same kind or not. -/
theorem parse_text_eq_ok_iff :
    parse l.text = .ok m ↔ m = l ∧ ∀ p ∈ l.position?, ∀ i ∈ p.indices, i < 2 ^ 64 := by
  rw [parse_text, ← isAddressable_iff]
  by_cases h : l.isAddressable = true
  · rw [if_pos h, Except.ok.injEq, eq_comm, and_iff_left h]
  · rw [if_neg h]
    exact ⟨nofun, fun ⟨_, addressable⟩ => absurd addressable h⟩

end CaseLabel

/-! ## Cases -/

namespace Rule

variable {r : Rule} {a b : BoundaryCase}

theorem nodup_labels (r : Rule) : r.synthesize.labels.Nodup := by
  by_cases included : r.synthesize.excluded = none
  · exact (labels_perm_plannedLabels included).nodup_iff.2 r.tree.nodup_plannedLabels
  · obtain ⟨built, unbuilt⟩ := eq_nil_of_excluded included
    rw [Synthesis.labels, built, unbuilt]
    exact List.nodup_nil

/-- No two cases of a rule are labelled alike, whether they can be built or not. -/
theorem nodup_map_text_labels (r : Rule) : (r.synthesize.labels.map CaseLabel.text).Nodup :=
  r.nodup_labels.map CaseLabel.text_injective

theorem eq_of_text_label_eq (ha : a ∈ r.synthesize.cases) (hb : b ∈ r.synthesize.cases)
    (text : a.label.text = b.label.text) : a = b := by
  have distinct : (r.synthesize.cases.map (·.label)).Nodup := (List.nodup_append.1 r.nodup_labels).1
  exact List.inj_on_of_nodup_map distinct ha hb (CaseLabel.text_injective text)

end Rule

/-- The number of a rule and the text of a label are those of one case at most. -/
theorem Registry.eq_of_text_label_eq {registry : Registry} {r s : Rule} {a b : BoundaryCase}
    (hr : r ∈ registry.rules) (hs : s ∈ registry.rules) (ha : a ∈ r.synthesize.cases)
    (hb : b ∈ s.synthesize.cases) (rule : a.rule = b.rule)
    (text : a.label.text = b.label.text) : a = b := by
  rw [Rule.rule_eq_of_mem_cases ha, Rule.rule_eq_of_mem_cases hb] at rule
  obtain rfl := List.inj_on_of_nodup_map registry.distinct_ids hr hs rule
  exact Rule.eq_of_text_label_eq ha hb text

/-! ## Names -/

/-- The text of a position, and that of a label, are read as what they have been written for, and
never as anything else; they are read if the indices have 64 bits. So a position is told by its
text, which leads back to the node there, a label is told by its text, and a case by the number of
its rule and the text of its label. -/
theorem CaseLabel.text_identifies :
    (∀ p q : Position,
      Position.parse? p.text = some q ↔ q = p ∧ ∀ i ∈ p.indices, i < 2 ^ 64) ∧
    (∀ l m : CaseLabel,
      parse l.text = .ok m ↔ m = l ∧ ∀ p ∈ l.position?, ∀ i ∈ p.indices, i < 2 ^ 64) ∧
    Function.Injective Position.text ∧
    Function.Injective text ∧
    (∀ (n m : Node) (p : Position), (Position.parse? p.text).bind n.get? = some m ↔
      n.get? p = some m ∧ ∀ i ∈ p.indices, i < 2 ^ 64) ∧
    (∀ r : Rule, (r.synthesize.labels.map text).Nodup) ∧
    ∀ registry : Registry, ∀ r ∈ registry.rules, ∀ s ∈ registry.rules,
      ∀ a ∈ r.synthesize.cases, ∀ b ∈ s.synthesize.cases,
        a.rule = b.rule → a.label.text = b.label.text → a = b := by
  refine ⟨fun p q => Position.parse?_text_eq_some_iff, fun l m => parse_text_eq_ok_iff,
    Position.text_injective, text_injective, fun n m p => Node.bind_parse?_text_eq_some_iff,
    Rule.nodup_map_text_labels, ?_⟩
  intro registry r hr s hs a ha b hb rule text
  exact Registry.eq_of_text_label_eq hr hs ha hb rule text

end RuleActivation

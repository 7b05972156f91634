import RuleActivation.Proofs.Synthesis.Exclusion

/-!
# What the cases of a rule expect

The label of a case says how its environment differs from the baseline, and what becomes of the
leaf it names. If no variable is shared, a case changes the truth of a single leaf at most, so the
shape of the tree tells what it expects.

## Main definitions

* `CaseLabel.Describes`: what a label says of an environment
* `Synthesis.Expects`: what the one case with a label expects

## Main results

* `Rule.describes_of_mem_cases`: labels tell the truth
* `Rule.expects_of_nodup`: what is expected if no variable is shared
-/

namespace RuleActivation

/-! ## Labels -/

/-- An environment differs from another one in one variable at most, and so do the outcomes of the
leaves of a tree. -/
structure Node.DiffersIn (n : Node) (name : String) (env env' : Environment) : Prop where
  values : env.AgreesExcept name env'
  outcomes : ∀ leaf ∈ n.leaves, leaf.2.variableName ≠ name →
    leaf.2.outcome env = leaf.2.outcome env'

theorem Node.DiffersIn.of_agreesExcept {n : Node} {name : String} {env env' : Environment}
    (h : env.AgreesExcept name env') : n.DiffersIn name env env' :=
  ⟨h, fun _ _ other => Condition.outcome_eq_of_agreesExcept h other⟩

/-- What a label says of an environment: that it is the baseline, or that it differs in the variable
of the leaf. There the leaf is compared and fails, or it misses its value. -/
def CaseLabel.Describes (tree : Node) (baseline env : Environment) : CaseLabel → Prop
  | positiveAll => env = baseline
  | negativeLeaf p => ∃ c, tree.get? p = some (.leaf c) ∧
    tree.DiffersIn c.variableName env baseline ∧ c.outcome env = .notMatched
  | nullLeaf p => ∃ c, tree.get? p = some (.leaf c) ∧
    tree.DiffersIn c.variableName env baseline ∧ env.get? c.variableName = none ∧
    ∃ satisfied, c.outcome env = .absent satisfied ∧
      (satisfied = true ↔ c.operator = .equals ∧ c.literal = .bool false)

namespace Rule

variable {r : Rule}

/-- The labels of the cases tell the truth. There is one case of the baseline, which satisfies the
rule; every case is described by its label and expects what evaluation says of it. -/
theorem describes_of_mem_cases (included : r.synthesize.excluded = none) :
    ∃ baseline, r.evaluate baseline = true ∧
      (∀ c, c ∈ r.synthesize.cases ∧ c.label = .positiveAll ↔
        c = ⟨r.id, .positiveAll, baseline, true⟩) ∧
      ∀ c ∈ r.synthesize.cases, c.expected = r.evaluate c.environment ∧
        c.label.Describes r.tree baseline c.environment := by
  obtain ⟨baseline, built⟩ := excluded_eq_none_iff.1 included
  obtain ⟨-, satisfied⟩ := baseline_eq_ok_iff.1 built
  refine ⟨baseline, satisfied, ?_, ?_⟩
  · intro c
    rw [mem_cases_positiveAll_iff built, caseOf, satisfied]
  · intro c mem
    refine ⟨expected_eq_of_mem_cases mem, ?_⟩
    cases label : c.label with
    | positiveAll =>
      rw [(mem_cases_positiveAll_iff built).1 ⟨mem, label⟩]
      exact rfl
    | negativeLeaf p =>
      obtain ⟨d, v, leaf, negative, rfl⟩ := (mem_cases_negativeLeaf_iff built).1 ⟨mem, label⟩
      have changed := Environment.agreesExcept_insert d.variableName baseline v
      refine ⟨d, Node.mem_leaves_iff.1 leaf, .of_agreesExcept changed, ?_⟩
      exact (d.outcome_insert_self baseline v).trans (Operator.outcome_negative d.usable negative)
    | nullLeaf p =>
      obtain ⟨d, leaf, rfl⟩ := (mem_cases_nullLeaf_iff built).1 ⟨mem, label⟩
      have changed := Environment.agreesExcept_erase d.variableName baseline
      refine ⟨d, Node.mem_leaves_iff.1 leaf, .of_agreesExcept changed, ?_, ?_⟩
      · exact (Dictionary.get?_erase ..).trans (if_pos rfl)
      · exact ⟨_, d.outcome_erase_self baseline, Operator.demandsFalse_iff⟩

/-- The definition of a rule with a variable that two of its leaves share. -/
def sharedDefinition : Json :=
  .object [("id", .ofNat 1), ("name", .string "a"), ("title", .string "t"),
    ("ast", .object [("type", .string "and"), ("children", .array [
      .object [("type", .string "condition"), ("variable", .string "x"),
        ("operator", .string "contains"), ("value", .string "a")],
      .object [("type", .string "condition"), ("variable", .string "y"),
        ("operator", .string "equals"), ("value", .bool false)],
      .object [("type", .string "condition"), ("variable", .string "x"),
        ("operator", .string "contains"), ("value", .string "ab")]])])]

theorem describes_of_mem_cases_shared :
    ∃ r, Rule.ofJson sharedDefinition = .ok r ∧ r.synthesize.excluded = none ∧
      ∃ baseline, r.evaluate baseline = true ∧
        (∀ c, c ∈ r.synthesize.cases ∧ c.label = .positiveAll ↔
          c = ⟨r.id, .positiveAll, baseline, true⟩) ∧
        ∀ c ∈ r.synthesize.cases, c.expected = r.evaluate c.environment ∧
          c.label.Describes r.tree baseline c.environment :=
  ⟨_, rfl, by decide, describes_of_mem_cases (by decide)⟩

end Rule

/-! ## Trees without shared variables -/

/-- There is one case with a label, and it expects the rule to be activated if and only if `P`. -/
def Synthesis.Expects (s : Synthesis) (label : CaseLabel) (P : Prop) : Prop :=
  ∃ c, (∀ d, d ∈ s.cases ∧ d.label = label ↔ d = c) ∧ (c.expected = true ↔ P)

namespace Node

variable {n : Node} {p : Position} {c : Condition} {env env' : Environment}

/-- A change of the variable of one leaf makes no other leaf false. -/
theorem trueIn_of_agreesExcept (distinct : (n.leaves.map (·.2.variableName)).Nodup)
    (leaf : (p, c) ∈ n.leaves) (all : ∀ leaf ∈ n.leaves, leaf.2.TrueIn env)
    (h : env'.AgreesExcept c.variableName env) :
    ∀ other ∈ n.leaves, other.1 ≠ p → other.2.TrueIn env' := by
  intro other mem elsewhere
  have unshared : other.2.variableName ≠ c.variableName := by
    intro shared
    have same := List.inj_on_of_nodup_map distinct mem leaf shared
    exact elsewhere (congrArg Prod.fst same)
  rw [← Condition.satisfied_iff_trueIn, Condition.outcome_eq_of_agreesExcept h unshared,
    Condition.satisfied_iff_trueIn]
  exact all other mem

/-- If all leaves are true and no variable is shared, a change of the variable of one leaf leaves
the tree true if and only if it leaves this leaf true or the leaf has an alternative. -/
theorem trueIn_iff_of_agreesExcept (distinct : (n.leaves.map (·.2.variableName)).Nodup)
    (leaf : (p, c) ∈ n.leaves) (all : ∀ leaf ∈ n.leaves, leaf.2.TrueIn env)
    (h : env'.AgreesExcept c.variableName env) :
    n.TrueIn env' ↔ c.TrueIn env' ∨ n.HasAlternative p := by
  have others := trueIn_of_agreesExcept distinct leaf all h
  by_cases kept : c.TrueIn env'
  · refine iff_of_true (trueIn_of_leaves ?_) (.inl kept)
    rintro ⟨q, d⟩ mem
    by_cases same : q = p
    · obtain rfl := same
      obtain rfl := mem_leaves_inj mem leaf
      exact kept
    · exact others (q, d) mem same
  · rw [trueIn_iff_hasAlternative leaf kept others, or_iff_right kept]

end Node

namespace Rule

variable {r : Rule} {baseline : Environment} {p : Position} {c : Condition}

theorem mem_cases_negativeLeaf_iff_of_mem (built : r.baseline = .ok baseline)
    (leaf : (p, c) ∈ r.tree.leaves) {v : Value} (negative : c.negative = .ok v)
    {d : BoundaryCase} : d ∈ r.synthesize.cases ∧ d.label = .negativeLeaf p ↔
      d = r.caseOf (.negativeLeaf p) (baseline.insert c.variableName v) := by
  rw [mem_cases_negativeLeaf_iff built]
  constructor
  · rintro ⟨e, w, other, found, rfl⟩
    obtain rfl := Node.mem_leaves_inj other leaf
    rw [negative] at found
    cases found
    rfl
  · intro same
    exact ⟨c, v, leaf, negative, same⟩

theorem mem_cases_nullLeaf_iff_of_mem (built : r.baseline = .ok baseline)
    (leaf : (p, c) ∈ r.tree.leaves) {d : BoundaryCase} :
    d ∈ r.synthesize.cases ∧ d.label = .nullLeaf p ↔
      d = r.caseOf (.nullLeaf p) (baseline.erase c.variableName) := by
  rw [mem_cases_nullLeaf_iff built]
  constructor
  · rintro ⟨e, other, rfl⟩
    rw [Node.mem_leaves_inj other leaf]
  · intro same
    exact ⟨c, leaf, same⟩

/-- What the cases expect if no variable is shared and every leaf has a satisfying value. The
baseline is expected to activate the rule. The case that negates a leaf is if and only if the leaf
has an alternative, and the case that removes its variable if and only if the leaf has one or it
demands to be false. -/
theorem expects_of_nodup (distinct : (r.tree.leaves.map (·.2.variableName)).Nodup)
    (satisfying : ∀ leaf ∈ r.tree.leaves, ∃ v, leaf.2.satisfying = .ok v) :
    r.synthesize.excluded = none ∧ r.synthesize.Expects .positiveAll True ∧
      ∀ p c, (p, c) ∈ r.tree.leaves →
        ((∃ v, c.negative = .ok v) →
          r.synthesize.Expects (.negativeLeaf p) (r.tree.HasAlternative p)) ∧
        r.synthesize.Expects (.nullLeaf p)
          ((c.operator = .equals ∧ c.literal = .bool false) ∨ r.tree.HasAlternative p) := by
  have all : ∀ leaf ∈ r.tree.leaves, leaf.2.TrueIn r.tree.candidates := by
    intro leaf mem
    obtain ⟨v, h⟩ := satisfying leaf mem
    exact Node.trueIn_candidates_of_nodup distinct mem h
  have satisfied : r.evaluate r.tree.candidates = true := by
    apply Node.evaluate_iff_trueIn.2
    exact Node.trueIn_of_leaves all
  have built := baseline_eq_ok_iff.2 ⟨rfl, satisfied⟩
  refine ⟨excluded_eq_none_iff.2 ⟨_, built⟩, ?_, ?_⟩
  · exact ⟨_, fun d => mem_cases_positiveAll_iff built, iff_of_true satisfied trivial⟩
  · intro p c leaf
    have expected {env : Environment} (h : env.AgreesExcept c.variableName r.tree.candidates) :
        r.evaluate env = true ↔ c.TrueIn env ∨ r.tree.HasAlternative p :=
      Node.evaluate_iff_trueIn.trans (Node.trueIn_iff_of_agreesExcept distinct leaf all h)
    constructor
    · rintro ⟨v, negative⟩
      have fails : ¬ c.TrueIn (r.tree.candidates.insert c.variableName v) := by
        rw [← Condition.satisfied_iff_trueIn, c.outcome_insert_self,
          Operator.outcome_negative c.usable negative]
        exact Bool.false_ne_true
      refine ⟨_, fun d => mem_cases_negativeLeaf_iff_of_mem built leaf negative, ?_⟩
      exact (expected (Environment.agreesExcept_insert _ _ v)).trans (or_iff_right fails)
    · have absent : c.TrueIn (r.tree.candidates.erase c.variableName) ↔
          c.operator = .equals ∧ c.literal = .bool false := by
        rw [← Condition.satisfied_iff_trueIn, c.outcome_erase_self, Outcome.satisfied,
          Operator.demandsFalse_iff]
      refine ⟨_, fun d => mem_cases_nullLeaf_iff_of_mem built leaf, ?_⟩
      exact (expected (Environment.agreesExcept_erase _ _)).trans (or_congr_left absent)

/-- The definition of a rule whose leaves have a variable each. -/
def distinctDefinition : Json :=
  .object [("id", .ofNat 1), ("name", .string "a"), ("title", .string "t"),
    ("ast", .object [("type", .string "and"), ("children", .array [
      .object [("type", .string "condition"), ("variable", .string "x"),
        ("operator", .string "greater_than"), ("value", .ofNat 1)],
      .object [("type", .string "or"), ("children", .array [
        .object [("type", .string "condition"), ("variable", .string "y"),
          ("operator", .string "equals"), ("value", .bool false)],
        .object [("type", .string "condition"), ("variable", .string "z"),
          ("operator", .string "in_list"), ("value", .array [.string "a", .string "b"])]])]])])]

theorem expects_of_nodup_distinct :
    ∃ r, Rule.ofJson distinctDefinition = .ok r ∧
      (r.tree.leaves.map (·.2.variableName)).Nodup ∧
      (∀ leaf ∈ r.tree.leaves, ∃ v, leaf.2.satisfying = .ok v) ∧
      (∃ c v, (⟨[1, 0]⟩, c) ∈ r.tree.leaves ∧ c.negative = .ok v) ∧
      r.synthesize.excluded = none ∧ r.synthesize.Expects .positiveAll True ∧
      ∀ p c, (p, c) ∈ r.tree.leaves →
        ((∃ v, c.negative = .ok v) →
          r.synthesize.Expects (.negativeLeaf p) (r.tree.HasAlternative p)) ∧
        r.synthesize.Expects (.nullLeaf p)
          ((c.operator = .equals ∧ c.literal = .bool false) ∨ r.tree.HasAlternative p) := by
  refine ⟨_, rfl, ?distinct, ?satisfying, ?member, expects_of_nodup ?distinct ?satisfying⟩
  case distinct => decide
  case satisfying =>
    rintro leaf (_ | ⟨_, _ | ⟨_, _ | ⟨_, ⟨⟩⟩⟩⟩)
    all_goals exact ⟨_, rfl⟩
  case member => exact ⟨_, _, Node.mem_leaves_iff.2 rfl, rfl⟩

end Rule

end RuleActivation

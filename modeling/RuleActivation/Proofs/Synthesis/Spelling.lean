import RuleActivation.Proofs.Boundary.Spelling
import RuleActivation.Proofs.Dictionary
import RuleActivation.Proofs.Evaluation.Visibility
import RuleActivation.Snapshot.Basic

/-!
# The spelling of literals

Equal trees may spell the numbers in their literals in different ways. The spelling goes as far as
the environments of the cases, which hold equal values, but it is not written anywhere: the
definitions of equal trees are the same, and so are the records of their cases.

## Main definitions

* `Environment.Equal`: environments that give every variable equal values
* `BoundaryCase.Equal`: cases that differ at most in the spelling of their values

## Main results

* `Node.toJson_eq_of_beq`: equal trees have the same definition
* `Rule.synthesize_of_beq`: equal trees have equal cases
* `Node.indistinguishable_of_beq`: equal trees cannot be told apart
-/

namespace RuleActivation

open List (Forall₂)

/-! ## Definitions of equal trees -/

theorem Condition.toJson_eq_of_beq {c d : Condition} (h : (c == d) = true) :
    c.toJson = d.toJson := by
  obtain ⟨name, operator, literal⟩ := beq_iff.1 h
  rw [toJson, toJson, name, operator, Value.toJson_eq_of_beq literal]

namespace Node

mutual

/-- Trees have the same definition if their leaves have. -/
theorem Related.toJson_eq {t u : Node} (h : Related (fun c d => c.toJson = d.toJson) t u) :
    t.toJson = u.toJson := by
  cases h with
  | leaf h => exact h
  | junction k h => rw [toJson, toJson, Related.toJsonChildren_eq h]

theorem Related.toJsonChildren_eq {cs ds : Children}
    (h : Children.Related (fun c d => c.toJson = d.toJson) cs ds) :
    toJsonChildren cs = toJsonChildren ds := by
  cases h with
  | one h => rw [toJsonChildren, toJsonChildren, Related.toJson_eq h]
  | more h hs =>
    rw [toJsonChildren, toJsonChildren, Related.toJson_eq h, Related.toJsonChildren_eq hs]

end

variable {t u : Node}

/-- Equal trees have the same definition. -/
theorem toJson_eq_of_beq (h : (t == u) = true) : t.toJson = u.toJson :=
  ((beq_iff_related.1 h).mono fun _ _ => Condition.toJson_eq_of_beq).toJson_eq

theorem fingerprint_eq_of_beq (h : (t == u) = true) : t.fingerprint = u.fingerprint := by
  rw [fingerprint, fingerprint, toJson_eq_of_beq h]

theorem forall₂_leaves_of_beq (h : (t == u) = true) :
    Forall₂ (fun x y => x.1 = y.1 ∧ (x.2 == y.2) = true) t.leaves u.leaves :=
  (beq_iff_related.1 h).leaves

theorem variableNames_eq_of_beq (h : (t == u) = true) : t.variableNames = u.variableNames := by
  have names : t.leaves.map (·.2.variableName) = u.leaves.map (·.2.variableName) :=
    map_eq_map_of_forall₂ ((forall₂_leaves_of_beq h).imp fun _ _ leaf =>
      (Condition.beq_iff.1 leaf.2).1)
  rw [variableNames, variableNames, names]

end Node

/-! ## Equal environments -/

/-- Environments that give every variable equal values, or none. -/
def Environment.Equal (env env' : Environment) : Prop :=
  ∀ name, Option.Rel (· == ·) (env.get? name) (env'.get? name)

namespace Environment.Equal

variable {env env' : Environment}

theorem insert (h : env.Equal env') (key : String) {v w : Value} (value : (v == w) = true) :
    Environment.Equal (env.insert key v) (env'.insert key w) := by
  intro name
  rw [Dictionary.get?_insert, Dictionary.get?_insert]
  split
  · exact .some value
  · exact h name

theorem erase (h : env.Equal env') (key : String) :
    Environment.Equal (env.erase key) (env'.erase key) := by
  intro name
  rw [Dictionary.get?_erase, Dictionary.get?_erase]
  split
  · exact .none
  · exact h name

theorem looksLike (h : env.Equal env') (name : String) :
    (env.lookup name).LooksLike (env'.lookup name) := by
  have values := h name
  rw [lookup, lookup]
  generalize env.get? name = x, env'.get? name = y at values ⊢
  cases values with
  | some equal => exact .inl equal
  | none => exact .inl (BEq.refl _)

/-- Equal environments are written in the same way. -/
theorem toJson_eq (h : env.Equal env') : env.toJson = env'.toJson := by
  have written : env.map Value.toJson = env'.map Value.toJson := Dictionary.ext_get? fun name => by
    have values := h name
    rw [Dictionary.get?_map, Dictionary.get?_map]
    generalize env.get? name = x, env'.get? name = y at values ⊢
    cases values with
    | some equal => exact congrArg some (Value.toJson_eq_of_beq equal)
    | none => rfl
  exact congrArg (fun d : Dictionary Json => Json.object d.entries) written

/-- Equal trees have the same truth in equal environments. -/
theorem evaluate_eq {t u : Node} (h : env.Equal env') (equal : (t == u) = true) :
    t.evaluate env = u.evaluate env' := by
  have alike : t.Related (Condition.Alike env env') u :=
    (Node.beq_iff_related.1 equal).mono fun c _ hcd =>
      Condition.alike_of_looksLike hcd (h.looksLike c.variableName)
  exact alike.evaluate_eq

end Environment.Equal

/-! ## Candidates -/

section

variable {α β : Type} {R : α → β → Prop}

theorem rel_find? {p : α → Bool} {q : β → Bool} {as : List α} {bs : List β}
    (same : ∀ a b, R a b → p a = q b) (h : Forall₂ R as bs) :
    Option.Rel R (as.find? p) (bs.find? q) := by
  induction h with
  | nil => exact .none
  | @cons a b _ _ first _ ih =>
    rw [List.find?_cons, List.find?_cons, same a b first]
    split
    · exact .some first
    · exact ih

theorem rel_head? {as : List α} {bs : List β} (h : Forall₂ R as bs) :
    Option.Rel R as.head? bs.head? := by
  cases h with
  | nil => exact .none
  | cons first _ => exact .some first

theorem rel_or {x x' : Option α} {y y' : Option β} (h : Option.Rel R x y)
    (h' : Option.Rel R x' y') : Option.Rel R (x.or x') (y.or y') := by
  cases h with
  | some h => exact .some h
  | none => exact h'

end

namespace Condition

variable {c d : Condition}

theorem holds_eq_of_beq (h : (c == d) = true) {v w : Value} (value : (v == w) = true) :
    c.holds v = d.holds w := by
  obtain ⟨-, operator, literal⟩ := beq_iff.1 h
  rw [holds, holds, ← operator, Operator.compares_congr _ value literal,
    Operator.holds_congr _ value literal]

theorem satisfying_of_beq (h : (c == d) = true) :
    SameResult (· == ·) c.satisfying d.satisfying := by
  obtain ⟨-, operator, literal⟩ := beq_iff.1 h
  rw [satisfying, satisfying, ← operator]
  exact Operator.satisfying_of_beq _ literal

theorem negative_of_beq (h : (c == d) = true) :
    SameResult (· == ·) c.negative d.negative := by
  obtain ⟨-, operator, literal⟩ := beq_iff.1 h
  rw [negative, negative, ← operator]
  exact Operator.negative_of_beq _ literal

theorem all_holds_eq_of_forall₂ {cs ds : List Condition} (h : Forall₂ (· == ·) cs ds)
    {v w : Value} (value : (v == w) = true) : cs.all (·.holds v) = ds.all (·.holds w) := by
  induction h with
  | nil => rfl
  | cons first _ ih => rw [List.all_cons, List.all_cons, holds_eq_of_beq first value, ih]

end Condition

/-- Equal conditions have equal candidates. -/
theorem candidate?_of_forall₂ {cs ds : List Condition} (h : Forall₂ (· == ·) cs ds) :
    Option.Rel (· == ·) (candidate? cs) (candidate? ds) := by
  have candidates : Forall₂ (· == ·) (cs.filterMap fun c => c.satisfying.toOption)
      (ds.filterMap fun d => d.satisfying.toOption) :=
    List.rel_filterMap (R := fun c d => (c == d) = true)
      (fun _ _ equal => (Condition.satisfying_of_beq equal).toOption) h
  have suitable := rel_find? (p := fun v => cs.all (·.holds v)) (q := fun w => ds.all (·.holds w))
    (fun _ _ equal => Condition.all_holds_eq_of_forall₂ h equal) candidates
  exact rel_or suitable (rel_head? candidates)

namespace Node

variable {t u : Node}

theorem forall₂_conditionsOn_of_beq (h : (t == u) = true) (name : String) :
    Forall₂ (· == ·) (t.conditionsOn name) (u.conditionsOn name) := by
  have conditions : Forall₂ (fun c d => (c == d) = true) (t.leaves.map Prod.snd)
      (u.leaves.map Prod.snd) := by
    rw [List.forall₂_map_left_iff, List.forall₂_map_right_iff]
    exact (forall₂_leaves_of_beq h).imp fun _ _ equal => equal.2
  refine List.rel_filter (fun c d equal => ?_) conditions
  dsimp only
  rw [(Condition.beq_iff.1 equal).1]

/-- Equal trees have equal candidates for every variable. -/
theorem candidates_of_beq (h : (t == u) = true) : t.candidates.Equal u.candidates := by
  intro name
  rw [get?_candidates, get?_candidates]
  exact candidate?_of_forall₂ (forall₂_conditionsOn_of_beq h name)

end Node

/-! ## Cases -/

/-- Cases with the same label and expectation in equal environments. -/
structure BoundaryCase.Equal (c d : BoundaryCase) : Prop where
  label : c.label = d.label
  environment : c.environment.Equal d.environment
  expected : c.expected = d.expected

/-- The outcomes of two syntheses that differ at most in the spelling of values. -/
structure Synthesis.Equal (x y : Synthesis) : Prop where
  cases : Forall₂ BoundaryCase.Equal x.cases y.cases
  unbuilt : x.unbuilt = y.unbuilt
  excluded : x.excluded = y.excluded

namespace Rule

variable {r s : Rule} {env env' : Environment}

theorem caseOf_of_beq (h : (r.tree == s.tree) = true) (label : CaseLabel)
    (equal : env.Equal env') : (r.caseOf label env).Equal (s.caseOf label env') :=
  ⟨rfl, equal, equal.evaluate_eq h⟩

theorem negativeCase_of_beq (h : (r.tree == s.tree) = true) (equal : env.Equal env')
    {x y : Position × Condition} (leaf : x.1 = y.1 ∧ (x.2 == y.2) = true) :
    SameResult BoundaryCase.Equal (r.negativeCase env x) (s.negativeCase env' y) := by
  obtain ⟨p, c⟩ := x
  obtain ⟨q, d⟩ := y
  obtain ⟨place, condition⟩ := leaf
  obtain rfl : p = q := place
  rw [negativeCase, negativeCase]
  dsimp only at condition ⊢
  rw [(Condition.beq_iff.1 condition).1]
  have values := Condition.negative_of_beq condition
  generalize c.negative = v, d.negative = w at values ⊢
  cases values with
  | ok value => exact .ok (caseOf_of_beq h _ (equal.insert _ value))
  | error fault => exact .error _

theorem nullCase_of_beq (h : (r.tree == s.tree) = true) (equal : env.Equal env')
    {x y : Position × Condition} (leaf : x.1 = y.1 ∧ (x.2 == y.2) = true) :
    (r.nullCase env x).Equal (s.nullCase env' y) := by
  rw [nullCase, nullCase, leaf.1, (Condition.beq_iff.1 leaf.2).1]
  exact caseOf_of_beq h _ (equal.erase _)

theorem baseline_of_beq (h : (r.tree == s.tree) = true) :
    SameResult Environment.Equal r.baseline s.baseline := by
  have candidates := Node.candidates_of_beq h
  have satisfied : r.evaluate r.tree.candidates = s.evaluate s.tree.candidates :=
    candidates.evaluate_eq h
  rw [baseline, baseline, satisfied]
  split
  · exact .ok candidates
  · exact .error _

/-- Equal trees have equal cases, and the same reasons for those that cannot be built. -/
theorem synthesize_of_beq (h : (r.tree == s.tree) = true) :
    r.synthesize.Equal s.synthesize := by
  have leaves := Node.forall₂_leaves_of_beq h
  have baselines := baseline_of_beq h
  rw [synthesize, synthesize]
  generalize r.baseline = x, s.baseline = y at baselines ⊢
  cases baselines with
  | error exclusion => exact ⟨.nil, rfl, rfl⟩
  | @ok env env' equal =>
    have negatives : Forall₂ (SameResult BoundaryCase.Equal)
        (r.tree.leaves.map (r.negativeCase env)) (s.tree.leaves.map (s.negativeCase env')) := by
      rw [List.forall₂_map_left_iff, List.forall₂_map_right_iff]
      exact leaves.imp fun _ _ leaf => negativeCase_of_beq h equal leaf
    have nulls : Forall₂ BoundaryCase.Equal (r.tree.leaves.map (r.nullCase env))
        (s.tree.leaves.map (s.nullCase env')) := by
      rw [List.forall₂_map_left_iff, List.forall₂_map_right_iff]
      exact leaves.imp fun _ _ leaf => nullCase_of_beq h equal leaf
    refine ⟨?_, ?_, rfl⟩
    · have built := List.rel_filterMap (fun _ _ same => SameResult.toOption same) negatives
      exact .cons (caseOf_of_beq h _ equal) (List.rel_append built nulls)
    · rw [← List.forall₂_eq_eq_eq]
      refine List.rel_filterMap (fun _ _ same => ?_) negatives
      cases same with
      | ok _ => exact .none
      | error u => exact .some rfl

end Rule

/-! ## Records -/

theorem Synthesis.Equal.ofSynthesis_eq {r s : Rule} {x y : Synthesis} (h : x.Equal y)
    (tree : (r.tree == s.tree) = true) (id : r.id = s.id) (name : r.name = s.name)
    (title : r.title = s.title) : RuleRecord.ofSynthesis r x = RuleRecord.ofSynthesis s y := by
  have recorded : (x.cases.map fun c => RecordedCase.mk c.label c.environment.toJson c.expected) =
      y.cases.map fun c => ⟨c.label, c.environment.toJson, c.expected⟩ := by
    refine map_eq_map_of_forall₂ (h.cases.imp fun c d equal => ?_)
    rw [equal.label, equal.environment.toJson_eq, equal.expected]
  have names : r.variableNames = s.variableNames := Node.variableNames_eq_of_beq tree
  rw [RuleRecord.ofSynthesis, RuleRecord.ofSynthesis, id, name, title, names,
    Node.fingerprint_eq_of_beq tree, h.excluded, h.unbuilt, recorded]

namespace Node

/-- Equal trees cannot be told apart, however their numbers are spelled: they have the same
fingerprint, they are evaluated in the same way in every environment, and two rules with these trees
that agree in the number, the name and the title have the same record, and the same text of it. -/
theorem indistinguishable_of_beq {t u : Node} (h : (t == u) = true) :
    t.fingerprint = u.fingerprint ∧
      (∀ env, t.evaluate env = u.evaluate env ∧
        ∀ collector, t.evaluateWith env collector = u.evaluateWith env collector) ∧
      ∀ r s : Rule, r.tree = t → s.tree = u → r.id = s.id → r.name = s.name → r.title = s.title →
        RuleRecord.ofSynthesis r r.synthesize = RuleRecord.ofSynthesis s s.synthesize ∧
          (RuleRecord.ofSynthesis r r.synthesize).toJson.pretty =
            (RuleRecord.ofSynthesis s s.synthesize).toJson.pretty := by
  refine ⟨fingerprint_eq_of_beq h, fun env => ?_, ?_⟩
  · have alike : t.Related (Condition.Alike env env) u :=
      (beq_iff_related.1 h).mono fun _ _ equal =>
        Condition.alike_of_looksLike equal (.inl (BEq.refl _))
    exact ⟨alike.evaluate_eq, alike.evaluateWith_eq⟩
  · rintro r s rfl rfl id name title
    have record := (Rule.synthesize_of_beq h).ofSynthesis_eq h id name title
    exact ⟨record, congrArg (fun record => record.toJson.pretty) record⟩

end Node

/-- The definition of a rule that compares with some numbers, which are written with the given
zeros at their ends, and the number zero perhaps with a sign. -/
def Rule.numbersDefinition (negative : Bool) (zeros : List Digit) : Json :=
  .object [("id", .ofNat 1), ("name", .string "a"), ("title", .string "t"),
    ("ast", .object [("type", .string "and"), ("children", .array [
      .object [("type", .string "condition"), ("variable", .string "x"),
        ("operator", .string "greater_than"), ("value", .number ⟨false, 7, zeros, none⟩)],
      .object [("type", .string "condition"), ("variable", .string "y"),
        ("operator", .string "in_list"),
        ("value", .array [.number ⟨false, 1, zeros, none⟩, .string "a",
          .number ⟨negative, 0, zeros, none⟩])],
      .object [("type", .string "condition"), ("variable", .string "z"),
        ("operator", .string "equals"),
        ("value", .array [.array [.number ⟨false, 1, zeros, none⟩]])]])])]

/-- With all of its zeros, one more than the first number has too many digits, and gives up one of
them. -/
theorem Node.indistinguishable_of_beq_numbers :
    ∃ r s, Rule.ofJson (Rule.numbersDefinition true (List.replicate 28 0)) = .ok r ∧
      Rule.ofJson (Rule.numbersDefinition false []) = .ok s ∧
      (r.tree == s.tree) = true ∧ r.tree.fingerprint = s.tree.fingerprint ∧
      (∀ env, r.tree.evaluate env = s.tree.evaluate env ∧
        ∀ collector, r.tree.evaluateWith env collector = s.tree.evaluateWith env collector) ∧
      RuleRecord.ofSynthesis r r.synthesize = RuleRecord.ofSynthesis s s.synthesize ∧
      (RuleRecord.ofSynthesis r r.synthesize).toJson.pretty =
        (RuleRecord.ofSynthesis s s.synthesize).toJson.pretty := by
  obtain ⟨r, s, long, short, equal, id, name, title⟩ : ∃ r s,
      Rule.ofJson (Rule.numbersDefinition true (List.replicate 28 0)) = .ok r ∧
        Rule.ofJson (Rule.numbersDefinition false []) = .ok s ∧
        (r.tree == s.tree) = true ∧ r.id = s.id ∧ r.name = s.name ∧ r.title = s.title :=
    ⟨_, _, rfl, rfl, by decide, rfl, rfl, rfl⟩
  obtain ⟨fingerprint, evaluated, recorded⟩ := Node.indistinguishable_of_beq equal
  exact ⟨r, s, long, short, equal, fingerprint, evaluated, recorded r s rfl rfl id name title⟩

end RuleActivation

import RuleActivation.Evaluation.Outcome

/-!
# What outcomes say

An outcome tells whether the value is absent, whether it is compared with the literal, and whether
the comparison holds. No operator compares the absence of a value. A condition does not see changes
of other variables than its own.

## Main definitions

* `Environment.AgreesExcept`: environments that agree except in one variable

## Main results

* `Operator.outcome_eq_matched_iff`, `Operator.outcome_eq_notMatched_iff`: values that are compared
* `Operator.outcome_eq_absent_iff`: values that are absent
* `Condition.outcome_eq_of_agreesExcept`: conditions on other variables
-/

namespace RuleActivation

theorem Value.beq_false_iff {v : Value} : (v == .bool false) = true ↔ v = .bool false := by
  constructor
  · intro h
    cases v with
    | bool b =>
      obtain rfl : b = false := eq_of_beq h
      rfl
    | _ => cases h
  · rintro rfl
    rfl

namespace Operator

variable {op : Operator} {value literal : Value}

theorem demandsFalse_iff :
    op.demandsFalse literal = true ↔ op = .equals ∧ literal = .bool false := by
  rw [demandsFalse, Bool.and_eq_true, beq_iff_eq, Value.beq_false_iff]

theorem absent_notMem_comparableKinds (op : Operator) (literal : Value) :
    Kind.absent ∉ op.comparableKinds literal := by
  cases op <;> cases literal <;> simp [comparableKinds, Value.kind]

theorem compares_iff : op.compares value literal = true ↔ value.kind ∈ op.comparableKinds literal :=
  List.contains_iff_mem

/-- A value that is compared is there. -/
theorem isAbsent_of_compares (h : op.compares value literal = true) : value.isAbsent = false := by
  rw [compares_iff] at h
  cases value with
  | absent reason => exact absurd h (absent_notMem_comparableKinds op literal)
  | _ => rfl

theorem outcome_eq_matched_iff : op.outcome value literal = .matched ↔
    op.compares value literal = true ∧ op.holds value literal = true := by
  constructor
  · intro h
    unfold outcome at h
    split at h
    · cases h
    · split at h
      · cases h
      · split at h <;> simp_all
  · rintro ⟨compared, holds⟩
    simp [outcome, isAbsent_of_compares compared, compared, holds]

theorem outcome_eq_notMatched_iff : op.outcome value literal = .notMatched ↔
    op.compares value literal = true ∧ op.holds value literal = false := by
  constructor
  · intro h
    unfold outcome at h
    split at h
    · cases h
    · split at h
      · cases h
      · split at h <;> simp_all
  · rintro ⟨compared, fails⟩
    simp [outcome, isAbsent_of_compares compared, compared, fails]

theorem outcome_eq_absent_iff {satisfied : Bool} :
    op.outcome value literal = .absent satisfied ↔
      value.isAbsent = true ∧ satisfied = op.demandsFalse literal := by
  unfold outcome
  split
  · rename_i absent
    simp [absent, eq_comm]
  · rename_i given
    split
    · simp [given]
    · split <;> simp [given]

end Operator

/-! ## Changed environments -/

/-- Two environments agree except in the variable `name`. -/
def Environment.AgreesExcept (name : String) (env env' : Environment) : Prop :=
  ∀ other, other ≠ name → env.get? other = env'.get? other

theorem Environment.agreesExcept_insert (name : String) (env : Environment) (v : Value) :
    AgreesExcept name (env.insert name v) env := by
  intro other h
  rw [Dictionary.get?_insert, if_neg h]

theorem Environment.agreesExcept_erase (name : String) (env : Environment) :
    AgreesExcept name (env.erase name) env := by
  intro other h
  rw [Dictionary.get?_erase, if_neg h]

namespace Condition

/-- A condition does not see a change of another variable. -/
theorem outcome_eq_of_agreesExcept {name : String} {env env' : Environment}
    (h : env.AgreesExcept name env') {c : Condition} (other : c.variableName ≠ name) :
    c.outcome env = c.outcome env' := by
  rw [outcome, outcome, Environment.lookup, Environment.lookup, h _ other]

theorem outcome_insert_self (c : Condition) (env : Environment) (v : Value) :
    c.outcome (env.insert c.variableName v) = c.operator.outcome v c.literal := by
  rw [outcome, Environment.lookup_insert, if_pos rfl]

theorem outcome_erase_self (c : Condition) (env : Environment) :
    c.outcome (env.erase c.variableName) = .absent (c.operator.demandsFalse c.literal) := by
  rw [outcome, Environment.lookup_erase, if_pos rfl]
  exact Operator.outcome_eq_absent_iff.2 ⟨rfl, rfl⟩

end Condition

end RuleActivation

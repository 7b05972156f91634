import Mathlib.Algebra.Ring.Nat
import Mathlib.Logic.Relation
import RuleActivation.Proofs.Registry.Keys
import RuleActivation.Synthesis.Basic

/-!
# Synthesis by workers

The active rules of a registry are split into parts, one for each worker. Every worker goes through
its own part, rule by rule and without regard to the others, and the results are taken in the order
of the parts. So it makes no difference how the steps of the workers follow each other: what has
been taken, what the workers have made and what they have still to do add up to the syntheses of all
active rules at any time, and every run comes to an end.

## Main definitions

* `Registry.parts`: the rules of each worker
* `Team`: the state of a synthesis by workers
* `Team.Step`: a worker is started, or it goes on, or its results are taken

## Main results

* `flatten_chunks`, `length_chunks_le`: the parts of a list, and their number
* `Team.Step.results_eq`, `Team.results_eq_of_run`: what the results are going to be stays the same
* `Team.Step.effort_eq`: every step brings the end nearer
* `Registry.synthesizeIn_agrees`: synthesis by workers is synthesis at once
-/

namespace RuleActivation

/-! ## Parts of a list -/

section Chunks

variable {α : Type} {size fuel : Nat} {xs : List α}

theorem chunks_succ_of_ne_nil (h : xs ≠ []) :
    chunks size (fuel + 1) xs = xs.take size :: chunks size fuel (xs.drop size) := by
  cases xs with
  | nil => exact absurd rfl h
  | cons x xs => rfl

@[simp] theorem chunks_nil : chunks size fuel ([] : List α) = [] := by
  cases fuel <;> rfl

/-- The parts of a list make up the list, if they are not empty and there can be enough of them. -/
theorem flatten_chunks (pos : xs ≠ [] → 0 < size) (enough : xs.length ≤ fuel) :
    (chunks size fuel xs).flatten = xs := by
  induction fuel generalizing xs with
  | zero =>
    obtain rfl := List.eq_nil_of_length_eq_zero (Nat.le_zero.1 enough)
    rfl
  | succ fuel ih =>
    by_cases h : xs = []
    · simp [h]
    · have fewer : (xs.drop size).length ≤ fuel := by
        have := List.length_pos_iff.2 h
        have := pos h
        rw [List.length_drop]
        omega
      rw [chunks_succ_of_ne_nil h, List.flatten_cons, ih (fun _ => pos h) fewer,
        List.take_append_drop]

/-- No part is empty. -/
theorem ne_nil_of_mem_chunks (pos : xs ≠ [] → 0 < size) {part : List α}
    (mem : part ∈ chunks size fuel xs) : part ≠ [] := by
  induction fuel generalizing xs with
  | zero => simp [chunks] at mem
  | succ fuel ih =>
    by_cases h : xs = []
    · simp [h] at mem
    · rw [chunks_succ_of_ne_nil h, List.mem_cons] at mem
      rcases mem with rfl | later
      · have := pos h
        simp [h]
        omega
      · exact ih (fun _ => pos h) later

/-- A list with at most `count * size` elements has at most `count` parts. -/
theorem length_chunks_le {count : Nat} (h : xs.length ≤ count * size) :
    (chunks size fuel xs).length ≤ count := by
  induction fuel generalizing xs count with
  | zero => exact Nat.zero_le _
  | succ fuel ih =>
    by_cases empty : xs = []
    · simp [empty]
    · cases count with
      | zero => simp_all
      | succ count =>
        have fewer : (xs.drop size).length ≤ count * size := by
          rw [Nat.succ_mul] at h
          rw [List.length_drop]
          omega
        rw [chunks_succ_of_ne_nil empty, List.length_cons]
        exact Nat.succ_le_succ (ih fewer)

end Chunks

/-! ## Teams -/

/-- A worker: the rules of its part that it has not come to, and what it has made of the others. -/
structure Worker where
  pending : List Rule
  made : List Synthesis

/-- What a worker is going to have made of its part. -/
def Worker.results (w : Worker) : List Synthesis := w.made ++ w.pending.map Rule.synthesize

/-- The state of a synthesis by workers. -/
structure Team where
  /-- The parts for which no worker has been started. -/
  waiting : List (List Rule)
  /-- The workers whose results have not been taken, in the order of their parts. -/
  working : List Worker
  /-- The results that have been taken. -/
  collected : List Synthesis

namespace Team

/-- The team at the beginning, when no worker has been started. -/
def ofParts (parts : List (List Rule)) : Team := ⟨parts, [], []⟩

/-- One step of a team. Workers are started in the order of their parts, and their results are taken
in this order when all of them have been started. In between, any worker may go on with its own part
at any time. -/
inductive Step : Team → Team → Prop where
  /-- A worker is started for the next part. -/
  | start {part : List Rule} {waiting : List (List Rule)} {working : List Worker}
      {collected : List Synthesis} :
      Step ⟨part :: waiting, working, collected⟩ ⟨waiting, working ++ [⟨part, []⟩], collected⟩
  /-- A worker goes on with its next rule. -/
  | work {waiting : List (List Rule)} (before : List Worker) {after : List Worker} {r : Rule}
      {pending : List Rule} {made collected : List Synthesis} :
      Step ⟨waiting, before ++ ⟨r :: pending, made⟩ :: after, collected⟩
        ⟨waiting, before ++ ⟨pending, made ++ [r.synthesize]⟩ :: after, collected⟩
  /-- The results of the first worker are taken when it has finished. -/
  | take {working : List Worker} {made collected : List Synthesis} :
      Step ⟨[], ⟨[], made⟩ :: working, collected⟩ ⟨[], working, collected ++ made⟩

/-- A run of a team: any number of steps. -/
abbrev Run : Team → Team → Prop := Relation.ReflTransGen Step

/-- All results have been taken. -/
def IsDone (t : Team) : Prop := t.waiting = [] ∧ t.working = []

variable {s t : Team}

/-! ## What a team is going to have made -/

/-- The results that a team is going to have collected. -/
def results (t : Team) : List Synthesis :=
  t.collected ++ t.working.flatMap Worker.results ++ t.waiting.flatMap (·.map Rule.synthesize)

theorem results_ofParts (parts : List (List Rule)) :
    (ofParts parts).results = parts.flatten.map Rule.synthesize := by
  simp [ofParts, results, List.flatMap_def, List.map_flatten]

theorem results_of_isDone (done : t.IsDone) : t.results = t.collected := by
  rw [results, done.1, done.2]
  simp

/-- A step makes no difference to the results, whichever worker it is a step of. -/
theorem Step.results_eq (h : Step s t) : t.results = s.results := by
  cases h with
  | start => simp [results, Worker.results]
  | work => simp [results, Worker.results]
  | take => simp [results, Worker.results]

theorem results_eq_of_run (h : Run s t) : t.results = s.results := by
  induction h with
  | refl => rfl
  | tail _ step ih => rw [step.results_eq, ih]

/-! ## The end of a run -/

/-- Unless all results have been taken, there is a step. -/
theorem isDone_or_exists_step (t : Team) : t.IsDone ∨ ∃ next, Step t next := by
  obtain ⟨waiting, working, collected⟩ := t
  match waiting, working with
  | part :: waiting, working => exact .inr ⟨_, .start⟩
  | [], [] => exact .inl ⟨rfl, rfl⟩
  | [], ⟨[], made⟩ :: working => exact .inr ⟨_, .take⟩
  | [], ⟨r :: pending, made⟩ :: working => exact .inr ⟨_, .work []⟩

/-- The number of steps that are left: one for each rule, one for the results of each worker, and
one more for each worker that has not been started. -/
def effort (t : Team) : Nat :=
  (t.working.map fun w => w.pending.length + 1).sum + (t.waiting.map fun part => part.length + 2).sum

/-- Every step brings the end nearer by one step. -/
theorem Step.effort_eq (h : Step s t) : s.effort = t.effort + 1 := by
  cases h with
  | start => simp [effort]; omega
  | work => simp [effort]; omega
  | take => simp [effort]; omega

/-- No run goes on forever. -/
theorem wellFounded_step : WellFounded fun later earlier : Team => Step earlier later :=
  Subrelation.wf (r := InvImage (· < ·) effort)
    (fun {t s} (step : Step s t) => show t.effort < s.effort by rw [step.effort_eq]; omega)
    (InvImage.wf effort Nat.lt_wfRel.wf)

end Team

/-! ## The workers of a registry -/

namespace Registry

variable (registry : Registry) (workers : Nat)

/-- The number of rules for each worker, rounded up. -/
def partSize : Nat := (registry.activeRules.length + (max workers 1 - 1)) / max workers 1

/-- The active rules of each worker. -/
def parts : List (List Rule) :=
  chunks (registry.partSize workers) registry.activeRules.length registry.activeRules

theorem synthesizeIn_eq_flatMap_parts :
    registry.synthesizeIn workers = (registry.parts workers).flatMap (·.map Rule.synthesize) := rfl

/-- All rules find a worker. -/
theorem length_activeRules_le :
    registry.activeRules.length ≤ max workers 1 * registry.partSize workers := by
  have pos : 0 < max workers 1 := by omega
  have := Nat.div_add_mod (registry.activeRules.length + (max workers 1 - 1)) (max workers 1)
  have := Nat.mod_lt (registry.activeRules.length + (max workers 1 - 1)) pos
  rw [partSize]
  omega

theorem partSize_pos (h : registry.activeRules ≠ []) : 0 < registry.partSize workers := by
  have bound := registry.length_activeRules_le workers
  have nonempty := List.length_pos_iff.2 h
  apply Nat.pos_of_ne_zero
  intro zero
  rw [zero, Nat.mul_zero] at bound
  omega

theorem flatten_parts : (registry.parts workers).flatten = registry.activeRules :=
  flatten_chunks (registry.partSize_pos workers) (Nat.le_refl _)

/-- What a team with the parts of a registry collects are the syntheses of the registry. -/
theorem results_of_run {t : Team} (h : Team.Run (.ofParts (registry.parts workers)) t) :
    t.results = registry.synthesize := by
  rw [Team.results_eq_of_run h, Team.results_ofParts, flatten_parts, synthesize]

/-- Synthesis by any number of workers gives the list that synthesis at once gives. Every active
rule is in the part of one worker, and there are not more workers than allowed. In whatever order
the workers go on and finish, the work comes to an end and does not stop before all results have
been taken, which are then the same list. -/
theorem synthesizeIn_agrees :
    registry.synthesizeIn workers = registry.synthesize ∧
    ((registry.parts workers).flatten = registry.activeRules ∧
      (registry.parts workers).length ≤ max workers 1 ∧
      ∀ part ∈ registry.parts workers, part ≠ []) ∧
    (WellFounded fun later earlier : Team => Team.Step earlier later) ∧
    ∀ team, Team.Run (.ofParts (registry.parts workers)) team →
      (team.IsDone ∨ ∃ next, Team.Step team next) ∧
      (team.IsDone → team.collected = registry.synthesize) := by
  refine ⟨?_, ⟨registry.flatten_parts workers, ?_, ?_⟩, Team.wellFounded_step, ?_⟩
  · rw [synthesizeIn_eq_flatMap_parts, List.flatMap_def, ← List.map_flatten, flatten_parts,
      synthesize]
  · exact length_chunks_le (registry.length_activeRules_le workers)
  · intro part mem
    exact ne_nil_of_mem_chunks (registry.partSize_pos workers) mem
  · intro team run
    refine ⟨team.isDone_or_exists_step, fun done => ?_⟩
    rw [← Team.results_of_isDone done, results_of_run registry workers run]

/-- Three rules for two workers, of whom the second has finished before the first has begun. -/
theorem synthesizeIn_agrees_overtaking :
    ∃ (registry : Registry) (r s t : Rule) (team last : Team), registry.activeRules = [r, s, t] ∧
      Team.Run (.ofParts (registry.parts 2)) team ∧
      team.working = [⟨[r, s], []⟩, ⟨[], [t.synthesize]⟩] ∧ (∃ next, Team.Step team next) ∧
      Team.Run team last ∧ last.IsDone ∧ last.collected = registry.synthesize := by
  let r := ruleNamed 1 "a"
  let s := ruleNamed 2 "b"
  let t := ruleNamed 3 "c"
  obtain ⟨registry, -, active⟩ : ∃ registry, ofRules [r, s, t] = .ok registry ∧
      registry.activeRules = [r, s, t] := ⟨_, rfl, rfl⟩
  have parts : registry.parts 2 = [[r, s], [t]] := by
    have size : registry.partSize 2 = 2 := by simp [partSize, active]
    rw [parts, size, active]
    rfl
  let team : Team := ⟨[], [⟨[r, s], []⟩, ⟨[], [t.synthesize]⟩], []⟩
  let last : Team := ⟨[], [], [r.synthesize, s.synthesize, t.synthesize]⟩
  have overtaken : Team.Run (.ofParts (registry.parts 2)) team := by
    rw [parts]
    exact .tail (.tail (.single .start) .start) (.work [⟨[r, s], []⟩])
  have finished : Team.Run team last :=
    .tail (.tail (.tail (.single (.work [])) (.work [])) .take) .take
  obtain ⟨-, -, -, runs⟩ := synthesizeIn_agrees registry 2
  obtain ⟨-, same⟩ := runs last (overtaken.trans finished)
  rcases (runs team overtaken).1 with done | goesOn
  · cases done.2
  · exact ⟨registry, r, s, t, team, last, active, overtaken, rfl, goesOn, finished, ⟨rfl, rfl⟩,
      same ⟨rfl, rfl⟩⟩

end Registry

end RuleActivation

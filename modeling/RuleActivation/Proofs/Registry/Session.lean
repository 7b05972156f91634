import RuleActivation.Proofs.Rule.Definition
import RuleActivation.Registry.Session

/-!
# What becomes of a registry

The current registry is always the one that was put in place last. Reading a document puts a
registry in place only if the whole document can be read, and this registry is consistent: its
indexes lead to its rules, and all its trees are sound. What has been handed out is not changed by
later requests.

## Main definitions

* `Node.IsSound`: trees that can be evaluated and negated
* `Registry.IsConsistent`: registries whose parts fit together
* `Registry.Request.installed?`: the registry that a request puts in place

## Main results

* `Registry.Handle.current_run`: the current registry after some requests
* `Registry.Handle.run_append`: replies are kept
* `Registry.isConsistent_of_ofJson`: registries that have been loaded are consistent
* `Registry.Handle.run_spec`: all of this along a run
-/

namespace RuleActivation

/-! ## Sound trees -/

/-- Trees whose junctions have children, whose variables have names, and whose literals can be used
with their operators. -/
inductive Node.IsSound : Node → Prop where
  | leaf {c : Condition} (named : c.variableName ≠ "")
    (usable : c.operator.fault? c.literal = none) : IsSound (.leaf c)
  | junction {k : Connective} {cs : Children} (nonempty : cs.toList ≠ [])
    (children : ∀ n ∈ cs.toList, n.IsSound) : IsSound (.junction k cs)

namespace Node

mutual

/-- All trees are sound. -/
theorem isSound (n : Node) : n.IsSound := by
  match n with
  | .leaf c => exact .leaf c.named c.usable
  | .junction k cs => exact .junction cs.toList_ne_nil (isSound_of_mem_toList cs)

theorem isSound_of_mem_toList (cs : Children) : ∀ n ∈ cs.toList, n.IsSound := by
  match cs with
  | .one n => exact List.forall_mem_singleton.2 (isSound n)
  | .more n rest => exact List.forall_mem_cons.2 ⟨isSound n, isSound_of_mem_toList rest⟩

end

end Node

namespace Registry

/-! ## Consistent registries -/

/-- Registries with distinct numbers, with distinct names that are not empty, with look-ups that
lead to the rules with the given keys, and with sound trees. -/
structure IsConsistent (registry : Registry) : Prop where
  distinct_ids : (registry.rules.map Rule.id).Nodup
  distinct_names : (registry.rules.map Rule.name).Nodup
  named : ∀ r ∈ registry.rules, r.name ≠ ""
  find : ∀ id r, registry.find id = .ok r ↔ r ∈ registry.rules ∧ r.id = id
  findByName : ∀ name r, registry.findByName name = .ok r ↔ r ∈ registry.rules ∧ r.name = name
  sound : ∀ r ∈ registry.rules, r.tree.IsSound

/-- Registries that have been loaded are consistent. -/
theorem isConsistent_of_ofJson {document : Json} {registry : Registry}
    (h : ofJson document = .ok registry) : registry.IsConsistent where
  distinct_ids := registry.distinct_ids
  distinct_names := registry.distinct_names
  named := name_ne_of_ofJson h
  find _ _ := find_eq_ok_iff
  findByName _ _ := findByName_eq_ok_iff
  sound r _ := r.tree.isSound

/-! ## One request -/

/-- The registry that a request puts in place, if any. -/
def Request.installed? : Request → Option Registry
  | .reload document => (ofJson document).toOption
  | .replace registry => some registry
  | .snapshot => none

namespace Handle

variable (handle : Handle)

theorem answer_reload_of_ok {document : Json} {registry : Registry}
    (h : ofJson document = .ok registry) :
    handle.answer (.reload document) = (⟨registry⟩, .done) := by
  rw [answer, reload, h]
  rfl

/-- A document that cannot be read changes nothing. -/
theorem answer_reload_of_error {document : Json} {error : RegistryError}
    (h : ofJson document = .error error) :
    handle.answer (.reload document) = (handle, .failed error) := by
  rw [answer, reload, h]
  rfl

theorem current_answer (request : Request) :
    (handle.answer request).1.current = request.installed?.getD handle.current := by
  cases request with
  | reload document =>
    cases read : ofJson document with
    | ok registry =>
      rw [answer_reload_of_ok handle read, Request.installed?, read]
      rfl
    | error e =>
      rw [answer_reload_of_error handle read, Request.installed?, read]
      rfl
  | replace registry => rfl
  | snapshot => rfl

/-! ## Runs -/

theorem run_cons (request : Request) (rest : List Request) :
    handle.run (request :: rest) =
      (((handle.answer request).1.run rest).1,
        (handle.answer request).2 :: ((handle.answer request).1.run rest).2) := rfl

/-- A run goes on where the requests before have led, and their replies are kept. -/
theorem run_append (before after : List Request) :
    handle.run (before ++ after) =
      (((handle.run before).1.run after).1,
        (handle.run before).2 ++ ((handle.run before).1.run after).2) := by
  induction before generalizing handle with
  | nil => rfl
  | cons request before ih => rw [List.cons_append, run_cons, run_cons, ih, List.cons_append]

theorem length_replies_run (requests : List Request) :
    (handle.run requests).2.length = requests.length := by
  induction requests generalizing handle with
  | nil => rfl
  | cons request rest ih => rw [run_cons, List.length_cons, ih, List.length_cons]

/-- The current registry is the one that was put in place last. -/
theorem current_run (requests : List Request) :
    (handle.run requests).1.current =
      (requests.filterMap Request.installed?).getLast?.getD handle.current := by
  induction requests generalizing handle with
  | nil => rfl
  | cons request rest ih =>
    rw [run_cons, ih, current_answer]
    cases installed : request.installed? with
    | none => rw [List.filterMap_cons_none installed, Option.getD_none]
    | some registry =>
      rw [List.filterMap_cons_some installed, List.getLast?_cons, Option.getD_some,
        Option.getD_some]

/-- The reply to a request is what the handle gave for it at that time. -/
theorem getElem?_replies_run (before after : List Request) (request : Request) :
    (handle.run (before ++ request :: after)).2[before.length]? =
      some ((handle.run before).1.answer request).2 := by
  rw [run_append, run_cons]
  dsimp only
  rw [← length_replies_run handle before, List.getElem?_append_right (Nat.le_refl _), Nat.sub_self,
    List.getElem?_cons_zero]

/-- What becomes of registries while a handle is in use, whatever it is asked and in whatever order.
After some requests the current registry is the one that was put in place last. A document that
cannot be read makes no difference but for the reply. What has been handed out is the registry that
was current then, whatever comes after. A document that can be read puts its own rules in place, in
a registry that is consistent. -/
theorem run_spec (before after : List Request) :
    (handle.run before).1.current =
      (before.filterMap Request.installed?).getLast?.getD handle.current ∧
    (∀ document error, ofJson document = .error error →
      handle.run (before ++ .reload document :: after) =
        ((handle.run (before ++ after)).1,
          (handle.run before).2 ++ .failed error :: ((handle.run before).1.run after).2)) ∧
    (handle.run (before ++ .snapshot :: after)).2[before.length]? =
      some (.handedOut (handle.run before).1.current) ∧
    ∀ document registry, ofJson document = .ok registry →
      (handle.run (before ++ [.reload document])).1.current = registry ∧
      (∃ items, document.get? "rules" = some (.array items) ∧
        List.Forall₂ (fun item r => Rule.ofJson item = .ok r) items registry.rules) ∧
      registry.IsConsistent := by
  refine ⟨handle.current_run before, fun document error failed => ?_,
    handle.getElem?_replies_run before after .snapshot, fun document registry read => ?_⟩
  · rw [run_append, run_append, run_cons, answer_reload_of_error _ failed]
  · refine ⟨?_, exists_items_of_ofJson read, isConsistent_of_ofJson read⟩
    rw [run_append, run_cons, answer_reload_of_ok _ read]
    rfl

/-- A document with one rule for each of the numbers, all of them with the same name. -/
def namesakesDocument (ids : List Nat) : Json :=
  .object [("rules", .array (ids.map fun id =>
    .object [("id", .ofNat id), ("name", .string "a"), ("title", .string "t"),
      ("ast", .object [("type", .string "and"), ("children", .array [
        .object [("type", .string "condition"), ("variable", .string "x"),
          ("operator", .string "equals"), ("value", .bool true)]])])]))]

/-- The second of two namesakes cannot be put in place, so the registry with the first one stays. -/
theorem run_spec_namesakes :
    ∃ registry, ofJson (namesakesDocument [1]) = .ok registry ∧
      ofJson (namesakesDocument [1, 2]) = .error (.duplicateName 2 "a") ∧
      ((⟨∅⟩ : Handle).run [.reload (namesakesDocument [1])]).1.current = registry ∧
      ((⟨∅⟩ : Handle).run [.reload (namesakesDocument [1]), .reload (namesakesDocument [1, 2])]).1 =
        ((⟨∅⟩ : Handle).run [.reload (namesakesDocument [1])]).1 ∧
      ((⟨∅⟩ : Handle).run [.reload (namesakesDocument [1]), .snapshot]).2[1]? =
        some (.handedOut registry) ∧
      registry.IsConsistent := by
  obtain ⟨registry, read, failed⟩ : ∃ registry, ofJson (namesakesDocument [1]) = .ok registry ∧
      ofJson (namesakesDocument [1, 2]) = .error (.duplicateName 2 "a") := ⟨_, rfl, rfl⟩
  obtain ⟨-, failing, handedOut, -⟩ := run_spec ⟨∅⟩ [.reload (namesakesDocument [1])] []
  obtain ⟨-, -, -, loaded⟩ := run_spec ⟨∅⟩ [] []
  obtain ⟨current, -, consistent⟩ := loaded _ registry read
  rw [List.nil_append] at current
  rw [current] at handedOut
  have unchanged := congrArg Prod.fst (failing _ _ failed)
  exact ⟨registry, read, failed, current, unchanged, handedOut, consistent⟩

end Handle

end Registry

end RuleActivation

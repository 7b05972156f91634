import RuleActivation.Proofs.Json.Canonical
import RuleActivation.Proofs.Synthesis.Spelling
import RuleActivation.Proofs.Value.Depth
import RuleActivation.Proofs.Value.Plain

/-!
# Writing an environment and reading it again

What comes back of an environment that is written has the same variables, with the same values up to
the reasons for absences. As a JSON value, every environment comes back. As a text it has to be
parsed, and then two things can go wrong: the lists of a value are nested too deep, or the
first variable has the name of the key for numbers, so that the text is not taken for an object.

## Main definitions

* `Environment.ofText?`: the environment of a text
* `Environment.KeptAs`: what an environment keeps when it is written and read
* `Environment.IsLegible`: environments whose text can be read

## Main results

* `Environment.ofText?_of_tokens_iff`: the environment that is read of a text
* `Environment.ofJson_toJson_keptAs`: what comes back of an environment
* `Environment.exists_illegible_toJson`: an environment of a text whose own text is refused
-/

namespace RuleActivation.Environment

/-- The environment of a text. -/
def ofText? (text : String) : Option Environment :=
  (Json.parse? text).bind fun v => (ofJson v).toOption

/-- An environment has the variables and the values of another one, but for the reasons for
absences, and cannot be told from it when both are written. -/
structure KeptAs (env env' : Environment) : Prop where
  keys : env'.keys = env.keys
  values : env'.Equal (env.map Value.withNull)
  toJson : env'.toJson = env.toJson

/-- The values of an environment are not too deep for the reader, and its first variable does not
have the name of the key for numbers. -/
structure IsLegible (env : Environment) : Prop where
  shallow : ∀ name v, env.get? name = some v → v.depth < Json.depthLimit
  unreserved : env.keys.head? ≠ some Json.numberKey

variable {env env' : Environment}

/-! ## What is kept -/

theorem toJson_map_withNull (env : Environment) : toJson (env.map Value.withNull) = env.toJson := by
  rw [toJson, toJson, Dictionary.map, List.map_map]
  refine congrArg Json.object (List.map_congr_left fun entry _ => ?_)
  exact Prod.ext rfl (Value.toJson_withNull entry.2)

/-- An environment is kept as the one with the plain values. -/
theorem keptAs_map_plain (env : Environment) : env.KeptAs (env.map Value.plain) := by
  have equal : Environment.Equal (env.map Value.plain) (env.map Value.withNull) := by
    intro name
    rw [Dictionary.get?_map, Dictionary.get?_map]
    cases env.get? name with
    | none => exact .none
    | some v => exact .some v.plain_beq_withNull
  refine ⟨?_, equal, equal.toJson_eq.trans env.toJson_map_withNull⟩
  rw [Dictionary.keys, Dictionary.keys, Dictionary.map, List.map_map]
  rfl

/-! ## Texts -/

theorem exists_members_of_ofJson {v : Json} (h : ofJson v = .ok env) :
    ∃ members, v = .object members := by
  cases v with
  | object members => exact ⟨members, rfl⟩
  | _ => cases h

/-- If an object is read of the text of an environment, it is the one that was written. -/
theorem eq_toJson_of_reread {d : Nat} {members : List (String × Json)}
    (h : (env.toJson.reread d).map Json.canonical = some (.object members)) :
    .object members = env.toJson := by
  obtain ⟨v, read, canonical⟩ := Option.map_eq_some_iff.1 h
  cases v with
  | object unsorted =>
    cases d with
    | zero => cases read
    | succ d =>
      rw [toJson, Json.reread, rereadMembers_toJson] at read
      obtain ⟨written, given, made⟩ := Option.bind_eq_some_iff.1 read
      split at given
      · obtain rfl := Option.some.inj given
        obtain rfl := (Json.objectOf?_eq_object_iff.1 made).1
        exact canonical.symm.trans env.canonical_toJson
      · cases given
  | _ => cases canonical

/-- The JSON value of an environment is read back if the environment is legible. -/
theorem reread_eq_toJson_iff :
    (env.toJson.reread Json.depthLimit).map Json.canonical = some env.toJson ↔ env.IsLegible := by
  rw [Json.depthLimit, reread_toJson_iff]
  constructor
  · rintro ⟨shallow, first⟩
    exact ⟨fun name v there => Nat.lt_succ_of_le (shallow name v there), first⟩
  · rintro ⟨shallow, first⟩
    exact ⟨fun name v there => Nat.le_of_lt_succ (shallow name v there), first⟩

/-- Of a text with the tokens of an environment the plain environment is read, or none if this
environment is not legible. -/
theorem ofText?_of_tokens_iff {text : String}
    (h : (Json.scan text).map Json.Lexeme.token = env.toJson.tokens ++ [.ending]) :
    ofText? text = some env' ↔ env' = env.map Value.plain ∧ env.IsLegible := by
  have parsed : Json.parse? text = (env.toJson.reread Json.depthLimit).map Json.canonical :=
    congrArg _ (Json.read?_of_tokens h)
  rw [ofText?, ← reread_eq_toJson_iff, ← parsed, Option.bind_eq_some_iff]
  constructor
  · rintro ⟨v, read, made⟩
    rw [toOption_eq_some_iff] at made
    obtain ⟨members, rfl⟩ := exists_members_of_ofJson made
    have same := eq_toJson_of_reread (parsed ▸ read)
    rw [same, ofJson_toJson] at made
    exact ⟨(Except.ok.inj made).symm, read.trans (congrArg some same)⟩
  · rintro ⟨rfl, read⟩
    exact ⟨_, read, congrArg Except.toOption env.ofJson_toJson⟩

/-- An environment that is written and read again has the same variables, with equal values but for
the reasons for absences, and it is written in the same way. A text of it, compact or over several
lines, is read as this environment if it is legible, and is refused otherwise. -/
theorem ofJson_toJson_keptAs (env : Environment) :
    ∃ env', ofJson env.toJson = .ok env' ∧ env.KeptAs env' ∧
      ∀ text, text = env.toJson.compact ∨ text = env.toJson.pretty →
        ∀ read, ofText? text = some read ↔ read = env' ∧ env.IsLegible := by
  refine ⟨_, env.ofJson_toJson, env.keptAs_map_plain, ?_⟩
  rintro text (rfl | rfl) read
  · exact ofText?_of_tokens_iff (Json.map_token_scan_compact env.toJson)
  · exact ofText?_of_tokens_iff (Json.map_token_scan_pretty env.toJson)

/-- The text of an environment whose second variable has the name of the key for numbers. -/
def secondReservedText : String := "\x7b\"b\":1,\"$serde_json::private::Number\":2\x7d"

/-- The variables are written in their order, and the key for numbers must not come first. -/
theorem exists_illegible_toJson :
    ∃ env, ofText? secondReservedText = some env ∧
      (∀ name v, env.get? name = some v → v.depth < Json.depthLimit) ∧
      ofText? env.toJson.compact = none ∧ ofText? env.toJson.pretty = none := by
  have given : (ofText? secondReservedText).any (fun env =>
      env.entries.all (·.2.depth ≤ 0) && env.keys.head? == some Json.numberKey) = true := by
    decide +kernel
  obtain ⟨env, read, checked⟩ := (Option.any_eq_true _ _).1 given
  obtain ⟨shallow, first⟩ := Bool.and_eq_true_iff.1 checked
  have illegible : ¬env.IsLegible := fun legible => legible.unreserved (eq_of_beq first)
  have refused {text : String}
      (h : (Json.scan text).map Json.Lexeme.token = env.toJson.tokens ++ [.ending]) :
      ofText? text = none :=
    Option.eq_none_iff_forall_ne_some.2 fun env' again =>
      illegible ((ofText?_of_tokens_iff h).1 again).2
  refine ⟨env, read, fun name v there => ?_, refused (Json.map_token_scan_compact _),
    refused (Json.map_token_scan_pretty _)⟩
  exact Nat.lt_of_le_of_lt (all_depth_le_iff.1 shallow name v there) (by decide)

end RuleActivation.Environment

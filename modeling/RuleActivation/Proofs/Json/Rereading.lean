import RuleActivation.Json.Reader
import RuleActivation.Proofs.Json.Scanning

/-!
# Reading a printed value back

The builder gets the printed value back from its tokens, unless containers are nested too deep or an
object begins with the key for numbers. Both are stated at once: what is read back is given by a
recursion over the value, and the builder follows it on any stack of open containers.

## Main definitions

* `reread`: what a printed value is read back as, if it is

## Main results

* `Build.toOption_run_value`: the builder on the tokens of a value
* `toOption_take_of_tokens`, `read?_of_tokens`: reading the tokens of a value, or a text with them
* `read?_compact`: reading a printed value
-/

namespace RuleActivation.Json

/-! ## What is read back -/

mutual

/-- What a printed value is read back as, where `depth` more containers may be opened. -/
def reread : (depth : Nat) → Json → Option Json
  | _, null => some null
  | _, bool b => some (bool b)
  | _, number n => some (number n)
  | _, string s => some (string s)
  | 0, array _ => none
  | depth + 1, array items => (rereadItems depth items).map array
  | 0, object _ => none
  | depth + 1, object members => (rereadMembers depth members).bind Build.objectOf?

/-- What the items of an array are read back as. -/
def rereadItems : (depth : Nat) → List Json → Option (List Json)
  | _, [] => some []
  | depth, v :: vs => (reread depth v).bind fun w => (rereadItems depth vs).map (w :: ·)

/-- What the members of an object are read back as. -/
def rereadMembers : (depth : Nat) → List (String × Json) → Option (List (String × Json))
  | _, [] => some []
  | depth, (k, v) :: rest =>
    (reread depth v).bind fun w => (rereadMembers depth rest).map ((k, w) :: ·)

end

theorem eq_string_of_reread {depth : Nat} {v : Json} {s : String}
    (h : v.reread depth = some (string s)) : v = string s := by
  match depth, v with
  | _, string _ => simpa [reread] using h
  | _, null | _, bool _ | _, number _ | 0, array _ | 0, object _ => simp [reread] at h
  | depth + 1, array items => simp [reread] at h
  | depth + 1, object members =>
    obtain ⟨ns, -, hn⟩ := Option.bind_eq_some_iff.1 (by simpa only [reread] using h)
    unfold Build.objectOf? at hn
    split at hn
    · cases hn
    · split at hn
      · split at hn
        · obtain ⟨n, -, hs⟩ := Option.map_eq_some_iff.1 hn
          cases hs
        · cases hn
      · cases hn

/-! ## The builder -/

namespace Build

variable {mode : Strictness} {state next : Build} {t : Lexeme} {lexemes rest : List Lexeme}

theorem run_of_step (h : step mode state t.token = some next)
    (quiet : state.awaitsNumberText = false ∨ t.token.isString = true) :
    run mode state (t :: rest) = run mode next rest := by
  have goes : (state.awaitsNumberText && !t.token.isString) = false := by
    rcases quiet with quiet | quiet <;> simp [quiet]
  cases state <;> first | (simp only [run, goes, h]; rfl) | cases h

/-- A run that succeeds and is not yet complete makes a step. -/
theorem exists_step_of_run {v : Json} (h : run mode state (t :: lexemes) = .ok (v, rest))
    (incomplete : ∀ w, state ≠ complete w) :
    ∃ next, step mode state t.token = some next ∧ run mode next lexemes = .ok (v, rest) := by
  cases state with
  | complete w => exact absurd rfl (incomplete w)
  | _ =>
    simp only [run] at h
    split at h
    · cases h
    · split at h
      · exact ⟨_, ‹_›, h⟩
      · cases h

theorem toOption_run_of_stuck (h : step mode state t.token = none)
    (incomplete : ∀ v, state ≠ complete v) : (run mode state (t :: rest)).toOption = none := by
  cases state with
  | complete v => exact absurd rfl (incomplete v)
  | _ =>
    simp only [run, h]
    split <;> rfl

theorem toOption_run_numberText (waits : state.awaitsNumberText = true)
    (other : t.token.isString = false) : (run mode state (t :: rest)).toOption = none := by
  unfold awaitsNumberText at waits
  split at waits
  · simp [run, awaitsNumberText, waits, other, Except.toOption]
  · cases waits

theorem isString_firstToken_eq_false {v : Json} (h : ∀ s, v ≠ string s) :
    v.firstToken.isString = false := by
  cases v with
  | string s => exact absurd rfl (h s)
  | _ => rfl

/-- A container opens if there is room for it. -/
theorem toOption_run_enter (next : Build) {limit depth : Nat} {around : List Frame}
    (room : around.length + depth = limit)
    (opens : step (.full limit) (value around) t.token = enter (.full limit) around next)
    (waits : (value around).awaitsNumberText = false) (rest : List Lexeme) :
    (run (.full limit) (value around) (t :: rest)).toOption =
      if depth = 0 then none else (run (.full limit) next rest).toOption := by
  rw [enter, Strictness.admits] at opens
  by_cases full : depth = 0
  · rw [if_pos full]
    exact toOption_run_of_stuck (by rw [opens, if_neg (by simp; omega)]) (by simp)
  · rw [if_neg full, run_of_step (by rw [opens, if_pos (by simp; omega)]) (.inl waits)]

theorem supply_array (w : Json) (items : List Json) (around : List Frame) :
    supply w (.array items :: around) = nextItem (w :: items) around := rfl

theorem supply_object (w : Json) (members : List (String × Json)) (key : String)
    (around : List Frame) :
    supply w (.object members key :: around) = nextMember ((key, w) :: members) around := rfl

theorem step_text (around : List Frame) (seen : List (String × Json)) (s : String) (limit : Nat) :
    step (.full limit) (firstMember around) (.string (pieces s)) = some (colon [] s around) ∧
      step (.full limit) (memberKey seen around) (.string (pieces s)) =
        some (colon seen s around) := by
  simp [step, Strictness.text?]

theorem objectOf?_numberKey {w : Json} (h : ∀ s, w ≠ string s) (rest : List (String × Json)) :
    objectOf? ((numberKey, w) :: rest) = none := by
  cases w with
  | string s => exact absurd rfl (h s)
  | _ => simp [objectOf?]

theorem exists_number_of_objectOf? {w v : Json} {rest : List (String × Json)}
    (h : objectOf? ((numberKey, w) :: rest) = some v) : ∃ n, v = number n := by
  match w, rest with
  | string s, [] =>
    rw [objectOf?, if_pos rfl] at h
    obtain ⟨n, -, rfl⟩ := Option.map_eq_some_iff.1 h
    exact ⟨n, rfl⟩
  | string s, _ :: _ => simp [objectOf?] at h
  | null, _ | bool _, _ | number _, _ | array _, _ | object _, _ => simp [objectOf?] at h

theorem objectOf?_of_ne {key : String} (h : key ≠ numberKey) (w : Json)
    (rest : List (String × Json)) :
    objectOf? ((key, w) :: rest) = some (object ((key, w) :: rest)) :=
  if_neg h

theorem awaitsNumberText_object (seen : List (String × Json)) (key : String)
    (around : List Frame) (h : seen ≠ [] ∨ key ≠ numberKey) :
    (value (.object seen key :: around)).awaitsNumberText = false := by
  match seen with
  | [] => simpa [awaitsNumberText] using h.resolve_left (by simp)
  | _ :: _ => rfl

/-- The first item of an array is read as any value is. -/
theorem run_firstItem (around : List Frame) (t : Lexeme) (rest : List Lexeme)
    (h : t.token ≠ .closeArray) :
    run mode (firstItem around) (t :: rest) =
      run mode (value (.array [] :: around)) (t :: rest) := by
  have same : step mode (firstItem around) t.token =
      step mode (value (.array [] :: around)) t.token := by
    unfold step
    split <;> simp_all
  simp [run, awaitsNumberText, same]

/-- A value of a single token is read back as it is. -/
theorem toOption_run_scalar {v : Json} {around : List Frame}
    (starts : begin mode around v.firstToken = some (supply v around))
    (h : lexemes.map Lexeme.token = [v.firstToken])
    (quiet : (value around).awaitsNumberText = false ∨ v.firstToken.isString = true)
    (rest : List Lexeme) :
    run mode (value around) (lexemes ++ rest) = run mode (supply v around) rest := by
  obtain ⟨t, rfl, ht⟩ := List.map_eq_singleton_iff.1 h
  exact run_of_step (ht ▸ starts) (ht ▸ quiet)

/-- The text of a number has to come, and something else does. -/
theorem toOption_run_reserved {v : Json} (other : ∀ s, v ≠ string s) (around : List Frame)
    (h : lexemes.map Lexeme.token = v.tokens) (rest : List Lexeme) :
    (run mode (value (.object [] numberKey :: around)) (lexemes ++ rest)).toOption = none := by
  obtain ⟨ts, hts⟩ := tokens_eq_cons v
  obtain ⟨u, tail, rfl, hu, -⟩ := List.map_eq_cons_iff.1 (h.trans hts)
  rw [List.cons_append]
  exact toOption_run_numberText rfl (by rw [hu]; exact isString_firstToken_eq_false other)

/-- An object that begins with the key for numbers is not read back, unless a text follows. -/
theorem reread_reserved {v : Json} (other : ∀ s, v ≠ string s) (ms : List (String × Json))
    (depth : Nat) : (object ((numberKey, v) :: ms)).reread (depth + 1) = none := by
  simp only [reread, rereadMembers, Option.bind_assoc]
  cases hw : v.reread depth with
  | none => rfl
  | some w =>
    have otherThen : ∀ s, w ≠ string s := fun s hs => other s (eq_string_of_reread (hs ▸ hw))
    cases rereadMembers depth ms <;> simp [objectOf?_numberKey otherThen]

mutual

/-- The builder on the tokens of a value: it goes on with the value that is read back. -/
theorem toOption_run_value (v : Json) (depth : Nat) (around : List Frame) {limit : Nat}
    {lexemes : List Lexeme} (room : around.length + depth = limit)
    (h : lexemes.map Lexeme.token = v.tokens)
    (quiet : (value around).awaitsNumberText = false ∨ v.firstToken.isString = true)
    (rest : List Lexeme) :
    (run (.full limit) (value around) (lexemes ++ rest)).toOption =
      (v.reread depth).bind fun w => (run (.full limit) (supply w around) rest).toOption := by
  match v with
  | null | bool _ | number _ =>
    rw [toOption_run_scalar rfl h quiet]
    simp [reread]
  | string s =>
    have starts : begin (.full limit) around (.string (pieces s)) =
        some (supply (string s) around) := by
      simp [begin, Strictness.text?]
    rw [toOption_run_scalar starts h quiet]
    simp [reread]
  | array vs =>
    have waits := quiet.resolve_right (by simp [firstToken, Token.isString])
    exact toOption_run_array vs depth around room h waits rest
  | object ms =>
    have waits := quiet.resolve_right (by simp [firstToken, Token.isString])
    exact toOption_run_object ms depth around room h waits rest

theorem toOption_run_array (vs : List Json) (depth : Nat) (around : List Frame) {limit : Nat}
    {lexemes : List Lexeme} (room : around.length + depth = limit)
    (h : lexemes.map Lexeme.token = (array vs).tokens)
    (waits : (value around).awaitsNumberText = false) (rest : List Lexeme) :
    (run (.full limit) (value around) (lexemes ++ rest)).toOption =
      ((array vs).reread depth).bind fun w =>
        (run (.full limit) (supply w around) rest).toOption := by
  obtain ⟨tail, htail⟩ := tokens_eq_cons (array vs)
  obtain ⟨t, lexemes, rfl, ht, hl⟩ := List.map_eq_cons_iff.1 (h.trans htail)
  rw [List.cons_append, toOption_run_enter (firstItem around) room (by rw [ht]; rfl) waits]
  match depth, vs with
  | 0, _ => rfl
  | depth + 1, [] =>
    obtain rfl : tail = [.closeArray] := by simpa [tokens, firstToken] using htail.symm
    obtain ⟨u, rfl, hu⟩ := List.map_eq_singleton_iff.1 hl
    rw [if_neg (by simp), List.singleton_append, run_of_step (by rw [hu]; rfl) (.inl rfl)]
    simp [reread, rereadItems]
  | depth + 1, v :: vs =>
    obtain rfl : tail = v.tokens ++ (itemTokens vs ++ [.closeArray]) := by
      simpa [tokens, firstToken] using htail.symm
    obtain ⟨first, others, rfl, hfirst, hothers⟩ := List.map_eq_append_iff.1 hl
    have deeper : (Frame.array [] :: around).length + depth = limit := by
      rw [List.length_cons, ← room]
      omega
    have inside := toOption_run_value v depth (.array [] :: around) deeper hfirst (.inl rfl)
      (others ++ rest)
    obtain ⟨ts, hts⟩ := tokens_eq_cons v
    obtain ⟨u, tail, rfl, hu, -⟩ := List.map_eq_cons_iff.1 (hfirst.trans hts)
    rw [if_neg (by simp), List.append_assoc, List.cons_append,
      run_firstItem _ _ _ (hu ▸ (firstToken_ne_close v).1), ← List.cons_append, inside]
    simp only [reread, rereadItems, supply_array, Option.map_bind, Option.bind_assoc]
    refine congrArg _ (funext fun w => ?_)
    rw [toOption_run_items vs room [w] hothers]
    cases rereadItems depth vs <;> simp

theorem toOption_run_object (ms : List (String × Json)) (depth : Nat) (around : List Frame)
    {limit : Nat} {lexemes : List Lexeme} (room : around.length + depth = limit)
    (h : lexemes.map Lexeme.token = (object ms).tokens)
    (waits : (value around).awaitsNumberText = false) (rest : List Lexeme) :
    (run (.full limit) (value around) (lexemes ++ rest)).toOption =
      ((object ms).reread depth).bind fun w =>
        (run (.full limit) (supply w around) rest).toOption := by
  obtain ⟨tail, htail⟩ := tokens_eq_cons (object ms)
  obtain ⟨t, lexemes, rfl, ht, hl⟩ := List.map_eq_cons_iff.1 (h.trans htail)
  rw [List.cons_append, toOption_run_enter (firstMember around) room (by rw [ht]; rfl) waits]
  match depth, ms with
  | 0, _ => rfl
  | depth + 1, [] =>
    obtain rfl : tail = [.closeObject] := by simpa [tokens, firstToken] using htail.symm
    obtain ⟨u, rfl, hu⟩ := List.map_eq_singleton_iff.1 hl
    rw [if_neg (by simp), List.singleton_append, run_of_step (by rw [hu]; rfl) (.inl rfl)]
    simp [reread, rereadMembers, objectOf?]
  | depth + 1, (k, v) :: ms =>
    obtain rfl : tail = .string (pieces k) :: .colon ::
        (v.tokens ++ (memberTokens ms ++ [.closeObject])) := by
      simpa [tokens, firstToken] using htail.symm
    obtain ⟨u, lexemes, rfl, hu, hl⟩ := List.map_eq_cons_iff.1 hl
    obtain ⟨c, lexemes, rfl, hc, hl⟩ := List.map_eq_cons_iff.1 hl
    obtain ⟨first, others, rfl, hfirst, hothers⟩ := List.map_eq_append_iff.1 hl
    rw [if_neg (by simp), List.cons_append, run_of_step (hu ▸ (step_text around [] k limit).1)
      (.inl rfl), List.cons_append, run_of_step (by rw [hc]; rfl) (.inl rfl), List.append_assoc]
    by_cases reserved : k = numberKey ∧ ∀ s, v ≠ string s
    · obtain ⟨rfl, other⟩ := reserved
      rw [toOption_run_reserved other around hfirst, reread_reserved other]
      rfl
    · have quiet : (value (.object [] k :: around)).awaitsNumberText = false ∨
          v.firstToken.isString = true := by
        by_cases key : k = numberKey
        · obtain ⟨s, rfl⟩ : ∃ s, v = string s := by simpa [key] using reserved
          exact .inr rfl
        · exact .inl (awaitsNumberText_object [] k around (.inr key))
      have deeper : (Frame.object [] k :: around).length + depth = limit := by
        rw [List.length_cons, ← room]
        omega
      rw [toOption_run_value v depth (.object [] k :: around) deeper hfirst quiet
        (others ++ rest)]
      simp only [reread, rereadMembers, supply_object, Option.bind_assoc]
      refine congrArg _ (funext fun w => ?_)
      rw [toOption_run_members ms room (by simp) hothers]
      cases rereadMembers depth ms <;> simp

theorem toOption_run_items (vs : List Json) {lexemes : List Lexeme} {limit depth : Nat}
    {around : List Frame} (room : around.length + (depth + 1) = limit) (seen : List Json)
    (h : lexemes.map Lexeme.token = itemTokens vs ++ [.closeArray]) (rest : List Lexeme) :
    (run (.full limit) (nextItem seen around) (lexemes ++ rest)).toOption =
      (rereadItems depth vs).bind fun ws =>
        (run (.full limit) (supply (array (seen.reverse ++ ws)) around) rest).toOption := by
  match vs with
  | [] =>
    obtain ⟨t, rfl, ht⟩ := List.map_eq_singleton_iff.1 h
    rw [List.singleton_append, run_of_step (by rw [ht]; rfl) (.inl rfl)]
    simp [rereadItems]
  | v :: vs =>
    rw [itemTokens, List.cons_append, List.append_assoc] at h
    obtain ⟨t, tail, rfl, ht, htail⟩ := List.map_eq_cons_iff.1 h
    obtain ⟨first, others, rfl, hfirst, hothers⟩ := List.map_eq_append_iff.1 htail
    have deeper : (Frame.array seen :: around).length + depth = limit := by
      rw [List.length_cons, ← room]
      omega
    rw [List.cons_append, run_of_step (by rw [ht]; rfl) (.inl rfl), List.append_assoc,
      toOption_run_value v depth (.array seen :: around) deeper hfirst (.inl rfl) (others ++ rest)]
    simp only [rereadItems, supply_array, Option.bind_assoc]
    refine congrArg _ (funext fun w => ?_)
    rw [toOption_run_items vs room (w :: seen) hothers]
    cases rereadItems depth vs <;> simp

theorem toOption_run_members (ms : List (String × Json)) {lexemes : List Lexeme}
    {limit depth : Nat} {around : List Frame} (room : around.length + (depth + 1) = limit)
    {seen : List (String × Json)} (before : seen ≠ [])
    (h : lexemes.map Lexeme.token = memberTokens ms ++ [.closeObject]) (rest : List Lexeme) :
    (run (.full limit) (nextMember seen around) (lexemes ++ rest)).toOption =
      (rereadMembers depth ms).bind fun ns => (objectOf? (seen.reverse ++ ns)).bind fun w =>
        (run (.full limit) (supply w around) rest).toOption := by
  match ms with
  | [] =>
    obtain ⟨t, rfl, ht⟩ := List.map_eq_singleton_iff.1 h
    have closes : step (.full limit) (nextMember seen around) t.token =
        (objectOf? seen.reverse).map (supply · around) := by rw [ht]; rfl
    rw [List.singleton_append]
    simp only [rereadMembers, Option.bind_some, List.append_nil]
    cases hw : objectOf? seen.reverse with
    | none => exact toOption_run_of_stuck (by rw [closes, hw]; rfl) (by simp)
    | some w => rw [run_of_step (by rw [closes, hw]; rfl) (.inl rfl)]; rfl
  | (k, v) :: ms =>
    rw [memberTokens, List.cons_append, List.cons_append, List.cons_append, List.append_assoc] at h
    obtain ⟨t, tail, rfl, ht, htail⟩ := List.map_eq_cons_iff.1 h
    obtain ⟨u, tail, rfl, hu, htail⟩ := List.map_eq_cons_iff.1 htail
    obtain ⟨c, tail, rfl, hc, htail⟩ := List.map_eq_cons_iff.1 htail
    obtain ⟨first, others, rfl, hfirst, hothers⟩ := List.map_eq_append_iff.1 htail
    have deeper : (Frame.object seen k :: around).length + depth = limit := by
      rw [List.length_cons, ← room]
      omega
    rw [List.cons_append, run_of_step (by rw [ht]; rfl) (.inl rfl), List.cons_append,
      run_of_step (hu ▸ (step_text around seen k limit).2) (.inl rfl), List.cons_append,
      run_of_step (by rw [hc]; rfl) (.inl rfl), List.append_assoc,
      toOption_run_value v depth (.object seen k :: around) deeper hfirst
        (.inl (awaitsNumberText_object seen k around (.inl before))) (others ++ rest)]
    simp only [rereadMembers, supply_object, Option.bind_assoc]
    refine congrArg _ (funext fun w => ?_)
    rw [toOption_run_members ms room (by simp) hothers]
    cases rereadMembers depth ms <;> simp

end

end Build

/-- The value at the start of the tokens of a printed value, and the tokens after them. -/
theorem toOption_take_of_tokens {v : Json} {lexemes : List Lexeme} (limit : Nat)
    (h : lexemes.map Lexeme.token = v.tokens) (rest : List Lexeme) :
    (take (.full limit) (lexemes ++ rest)).toOption = (v.reread limit).map (·, rest) := by
  have done (w : Json) : (Build.run (.full limit) (Build.supply w []) rest).toOption =
      some (w, rest) := by
    simp [Build.supply, Build.run, Except.toOption]
  rw [take, Build.toOption_run_value v limit [] (Nat.zero_add limit) h (.inl rfl)]
  simp only [done]
  cases v.reread limit <;> rfl

/-- What a text is read as that has the tokens of a value. -/
theorem read?_of_tokens {text : String} {v : Json}
    (h : (scan text).map Lexeme.token = v.tokens ++ [.ending]) :
    read? text = v.reread depthLimit := by
  obtain ⟨lexemes, last, split, hlexemes, hlast⟩ := List.map_eq_append_iff.1 h
  have taken := toOption_take_of_tokens depthLimit hlexemes last
  have isEnd : isEnd last = true := by
    obtain ⟨l, rfl, hl⟩ := List.map_eq_singleton_iff.1 hlast
    simp [Json.isEnd, hl]
  rw [read?, split]
  cases result : take (.full depthLimit) (lexemes ++ last) with
  | error fault =>
    rw [result] at taken
    exact (Option.map_eq_none_iff.1 taken.symm).symm
  | ok read =>
    rw [result] at taken
    obtain ⟨w, hw, rfl⟩ := Option.map_eq_some_iff.1 taken.symm
    simp [isEnd, hw]

/-- What the compact text of a value is read as. -/
theorem read?_compact (v : Json) : read? v.compact = v.reread depthLimit :=
  read?_of_tokens (map_token_scan_compact v)

end RuleActivation.Json

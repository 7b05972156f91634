import RuleActivation.Proofs.Json.Number
import RuleActivation.Proofs.Json.Token

/-!
# Scanning a printed value

A printed value is scanned into its tokens, whether it is written compactly or over several lines.
The blanks between the tokens leave no trace.

## Main definitions

* `Scan.Yields`: what the scanner finds in a text before it gets to a rest of it

## Main results

* `Scan.yields_chars`, `Scan.yields_prettyChars`: a printed value yields its tokens
* `map_token_scan_compact`, `map_token_scan_pretty`: the tokens of a printed text
* `compact_injective`: the text of a value determines it
-/

namespace RuleActivation.Json

open Text (Place)

namespace Scan

theorem run_cons (found : List Lexeme) (scan : Scan) (place : Place) (c : Char) (cs : List Char) :
    run found scan place (c :: cs) =
      run ((step scan place c).1.reverse ++ found) (step scan place c).2 (place.next c) cs :=
  rfl

/-- Between tokens, the scanner finds `ts` in `cs` and then stands between tokens again, with
`rest` before it. -/
def Yields (cs : List Char) (ts : List Token) (rest : List Char) : Prop :=
  ∀ found place, ∃ (lexemes : List Lexeme) (place' : Place), lexemes.map Lexeme.token = ts ∧
    run found between place cs = run (lexemes.reverse ++ found) between place' rest

namespace Yields

variable {cs mid rest : List Char} {ts us : List Token}

theorem refl (cs : List Char) : Yields cs [] cs := fun _ place => ⟨[], place, rfl, rfl⟩

theorem trans (first : Yields cs ts mid) (last : Yields mid us rest) :
    Yields cs (ts ++ us) rest := by
  intro found place
  obtain ⟨before, middle, rfl, hb⟩ := first found place
  obtain ⟨after, stop, rfl, ha⟩ := last (before.reverse ++ found) middle
  exact ⟨before ++ after, stop, by simp, by rw [hb, ha]; simp⟩

theorem mark {c : Char} {t : Token} (h : mark? c = some t) (rest : List Char) :
    Yields (c :: rest) [t] rest := by
  intro found place
  have plain : isBlank c = false ∧ isWord c = false ∧ c ≠ '"' := by
    unfold mark? at h
    split at h <;> first | exact ⟨by decide, by decide, by decide⟩ | cases h
  refine ⟨[⟨t, place, place.next c⟩], place.next c, rfl, ?_⟩
  simp [run, step, begin, plain, h]

theorem blank {c : Char} (h : isBlank c = true) (rest : List Char) : Yields (c :: rest) [] rest :=
  fun found place => ⟨[], place.next c, rfl, by simp [run, step, begin, h]⟩

theorem blanks (count : Nat) (rest : List Char) :
    Yields (List.replicate count ' ' ++ rest) [] rest := by
  induction count with
  | zero => exact refl rest
  | succ count ih => exact (blank rfl _).trans ih

theorem newline (level : Nat) (rest : List Char) : Yields (newline level ++ rest) [] rest :=
  (blank rfl _).trans (blanks _ rest)

end Yields

/-! ## Words -/

theorem run_letters {letters : List Char} (h : ∀ c ∈ letters, isWord c = true)
    (found : List Lexeme) (start place : Place) (seen rest : List Char) :
    ∃ place', run found (word start seen) place (letters ++ rest) =
      run found (word start (letters.reverse ++ seen)) place' rest := by
  induction letters generalizing place seen with
  | nil => exact ⟨place, rfl⟩
  | cons c cs ih =>
    obtain ⟨place', hp⟩ := ih (fun d hd => h d (List.mem_cons_of_mem _ hd)) (place.next c)
      (c :: seen)
    refine ⟨place', ?_⟩
    rw [List.reverse_cons, List.append_assoc, List.singleton_append, ← hp]
    simp [run, step, h c (List.mem_cons_self ..)]

theorem isBlank_of_isWord {c : Char} (h : isWord c = true) : isBlank c = false := by
  unfold isBlank
  rw [Bool.eq_false_iff]
  intro blank
  simp only [Bool.or_eq_true, decide_eq_true_eq] at blank
  rcases blank with ((rfl | rfl) | rfl) | rfl <;> exact absurd h (by decide)

/-- A word is complete when something comes that cannot belong to it. -/
theorem Yields.word {c : Char} {cs rest : List Char} {t : Token}
    (letters : ∀ d ∈ c :: cs, isWord d = true) (known : leading? (c :: cs) = some (t, []))
    (delimited : Delimited rest) : Yields (c :: cs ++ rest) [t] rest := by
  intro found place
  have first : isWord c = true := letters c (List.mem_cons_self ..)
  obtain ⟨place', hp⟩ := run_letters (fun d hd => letters d (List.mem_cons_of_mem _ hd)) found place
    (place.next c) [c] rest
  have finished : finishWord place (cs.reverse ++ [c]).reverse =
      ([⟨t, place, place.advance (c :: cs).length⟩], between) := by
    rw [List.reverse_append, List.reverse_reverse, List.reverse_singleton, List.singleton_append,
      finishWord, known]
    rfl
  have entered : run found between place (c :: cs ++ rest) =
      run found (Scan.word place (cs.reverse ++ [c])) place' rest := by
    rw [← hp]
    simp [run, step, begin, isBlank_of_isWord first, first]
  refine ⟨[⟨t, place, place.advance (c :: cs).length⟩], place', rfl, ?_⟩
  rw [entered]
  cases rest with
  | nil => simp only [run, finish, finished]; simp
  | cons d ds =>
    have stop : isWord d = false := delimited d rfl
    simp only [run, step, stop, Bool.false_eq_true, if_false, finished]
    simp

theorem leading?_eq_number {cs : List Char} (h : ∀ c ∈ cs.head?, c ≠ 'n' ∧ c ≠ 't' ∧ c ≠ 'f') :
    leading? cs = (Number.leading? cs).map fun (n, rest) => (.number n, rest) := by
  unfold leading?
  split
  · exact absurd rfl (h 'n' rfl).1
  · exact absurd rfl (h 't' rfl).2.1
  · exact absurd rfl (h 'f' rfl).2.2
  · rfl

theorem toChar_ne_literal :
    ∀ d : Digit, d.toChar ≠ 'n' ∧ d.toChar ≠ 't' ∧ d.toChar ≠ 'f' := by
  decide

theorem Yields.number (n : Number) {rest : List Char} (h : Delimited rest) :
    Yields (n.chars ++ rest) [.number n] rest := by
  obtain ⟨c, cs, hc, front⟩ := n.chars_eq_cons
  have known := n.leading?_chars_append delimited_nil
  rw [List.append_nil, hc] at known
  have other : ∀ d ∈ (c :: cs).head?, d ≠ 'n' ∧ d ≠ 't' ∧ d ≠ 'f' := by
    intro d hd
    obtain rfl := Option.some.inj hd
    rcases front with rfl | ⟨e, rfl⟩
    · decide
    · exact toChar_ne_literal e
  rw [hc]
  refine .word (fun d hd => n.isWord_of_mem_chars (hc ▸ hd)) ?_ h
  rw [leading?_eq_number other, known]
  rfl

/-! ## Strings -/

theorem hexDigit?_digitChar (n : Nat) :
    Escape.hexDigit? (Nat.digitChar (n % 16)) = some (n % 16) := by
  have all : ∀ d : Fin 16, Escape.hexDigit? (Nat.digitChar d) = some d.val := by decide
  exact all ⟨n % 16, Nat.mod_lt _ (by decide)⟩

/-- A hexadecimal digit goes into the value of its code unit, which the fourth one completes. -/
theorem step_unit (start place : Place) (seen : List Piece) (digits value n : Nat) :
    step (unit start seen digits value) place (Nat.digitChar (n % 16)) =
      if digits = 3 then ([], text start (.unit (16 * value + n % 16) :: seen))
      else ([], unit start seen (digits + 1) (16 * value + n % 16)) := by
  simp only [step, hexDigit?_digitChar]

theorem run_hexCode {c : Char} (h : c < ' ') (found : List Lexeme) (start place : Place)
    (seen : List Piece) (rest : List Char) :
    ∃ place', run found (unit start seen 0 0) place (hexCode c ++ rest) =
      run found (text start (.unit c.toNat :: seen)) place' rest := by
  have small : c.toNat < 32 := h
  have value : 16 * (16 * (16 * (16 * 0 + c.toNat / 4096 % 16) + c.toNat / 256 % 16) +
      c.toNat / 16 % 16) + c.toNat % 16 = c.toNat := by omega
  simp only [hexCode, List.map_cons, List.map_nil, List.cons_append, List.nil_append]
  rw [run_cons, step_unit, if_neg (by decide), run_cons, step_unit, if_neg (by decide), run_cons,
    step_unit, if_neg (by decide), run_cons, step_unit, if_pos rfl, value]
  exact ⟨_, rfl⟩

/-- A printed character becomes its piece. -/
theorem run_escaped (c : Char) (found : List Lexeme) (start place : Place)
    (seen : List Piece) (rest : List Char) :
    ∃ place', run found (text start seen) place (escaped c ++ rest) =
      run found (text start (Piece.ofChar c :: seen)) place' rest := by
  by_cases special : c ∈ ['"', '\\', '\n', '\r', '\t', '\x08', '\x0c']
  · simp only [List.mem_cons, List.not_mem_nil, or_false] at special
    rcases special with rfl | rfl | rfl | rfl | rfl | rfl | rfl <;> exact ⟨_, rfl⟩
  · have pieceOf : Piece.ofChar c = if c < ' ' then .unit c.toNat else .char c := if_neg special
    simp only [List.mem_cons, List.not_mem_nil, or_false, not_or] at special
    obtain ⟨quote, backslash, lineEnd, carriage, tab, back, feed⟩ := special
    have written : escaped c = if c < ' ' then '\\' :: 'u' :: hexCode c else [c] := by
      rw [escaped, if_neg quote, if_neg backslash, if_neg lineEnd, if_neg carriage, if_neg tab,
        if_neg back, if_neg feed]
    by_cases low : c < ' '
    · obtain ⟨place', hp⟩ := run_hexCode low found start ((place.next '\\').next 'u') seen rest
      refine ⟨place', ?_⟩
      rw [written, if_pos low, pieceOf, if_pos low, ← hp]
      rfl
    · refine ⟨place.next c, ?_⟩
      rw [written, if_neg low, pieceOf, if_neg low]
      simp [run, step, quote, backslash, low]

theorem run_flatMap_escaped (cs : List Char) (found : List Lexeme) (start place : Place)
    (seen : List Piece) (rest : List Char) :
    ∃ place', run found (text start seen) place (cs.flatMap escaped ++ rest) =
      run found (text start ((cs.map Piece.ofChar).reverse ++ seen)) place' rest := by
  induction cs generalizing place seen with
  | nil => exact ⟨place, rfl⟩
  | cons c cs ih =>
    obtain ⟨middle, hm⟩ := run_escaped c found start place seen (cs.flatMap escaped ++ rest)
    obtain ⟨place', hp⟩ := ih middle (Piece.ofChar c :: seen)
    refine ⟨place', ?_⟩
    rw [List.flatMap_cons, List.append_assoc, hm, hp]
    simp

theorem Yields.quoted (s : String) (rest : List Char) :
    Yields (quoted s ++ rest) [.string (pieces s)] rest := by
  intro found place
  obtain ⟨place', hp⟩ := run_flatMap_escaped s.toList found place (place.next '"') []
    ('"' :: rest)
  refine ⟨[⟨.string (pieces s), place, place'.next '"'⟩], place'.next '"', rfl, ?_⟩
  have opened : run found between place (Json.quoted s ++ rest) =
      run found (text place []) (place.next '"') (s.toList.flatMap escaped ++ '"' :: rest) := by
    rw [Json.quoted, List.cons_append, List.append_assoc, List.singleton_append]
    rfl
  rw [opened, hp]
  simp [run, step, pieces]

/-! ## Values -/

theorem delimited_newline (level : Nat) (rest : List Char) :
    Delimited (Json.newline level ++ rest) :=
  delimited_cons rfl

theorem delimited_prettyItems (level : Nat) (vs : List Json) {rest : List Char}
    (h : Delimited rest) : Delimited (prettyItems level vs ++ rest) := by
  cases vs with
  | nil => exact h
  | cons v vs => exact delimited_cons rfl

theorem delimited_prettyMembers (level : Nat) (members : List (String × Json)) {rest : List Char}
    (h : Delimited rest) : Delimited (prettyMembers level members ++ rest) := by
  cases members with
  | nil => exact h
  | cons m rest => exact delimited_cons rfl

theorem delimited_itemChars (vs : List Json) {rest : List Char} (h : Delimited rest) :
    Delimited (itemChars vs ++ rest) := by
  cases vs with
  | nil => exact h
  | cons v vs => exact delimited_cons rfl

theorem delimited_memberChars (members : List (String × Json)) {rest : List Char}
    (h : Delimited rest) : Delimited (memberChars members ++ rest) := by
  cases members with
  | nil => exact h
  | cons m rest => exact delimited_cons rfl

theorem Yields.null {rest : List Char} (h : Delimited rest) :
    Yields ('n' :: 'u' :: 'l' :: 'l' :: rest) [.null] rest :=
  @Yields.word 'n' ['u', 'l', 'l'] rest _ (List.all_eq_true.1 rfl) rfl h

theorem Yields.bool (b : Bool) {rest : List Char} (h : Delimited rest) :
    Yields ((bool b).chars ++ rest) [.bool b] rest := by
  cases b with
  | true => exact @Yields.word 't' ['r', 'u', 'e'] rest _ (List.all_eq_true.1 rfl) rfl h
  | false => exact @Yields.word 'f' ['a', 'l', 's', 'e'] rest _ (List.all_eq_true.1 rfl) rfl h

/-- A key and its colon. -/
theorem Yields.key (key : String) (rest : List Char) :
    Yields (Json.quoted key ++ ':' :: rest) [.string (pieces key), .colon] rest :=
  (quoted key _).trans (mark rfl rest)

mutual

/-- A value that is written over several lines yields its tokens. -/
theorem yields_prettyChars (level : Nat) (v : Json) {rest : List Char} (h : Delimited rest) :
    Yields (v.prettyChars level ++ rest) v.tokens rest := by
  match v with
  | .null => exact .null h
  | .bool true => exact .bool true h
  | .bool false => exact .bool false h
  | .number n => exact .number n h
  | .string s => exact .quoted s rest
  | .array [] => exact (Yields.mark rfl _).trans (.mark rfl rest)
  | .array (v :: vs) =>
    have close : Yields (Json.newline level ++ ']' :: rest) [.closeArray] rest :=
      (Yields.newline level _).trans (.mark rfl rest)
    have items := (yields_prettyItems (level + 1) vs (delimited_newline level _)).trans close
    have first := (yields_prettyChars (level + 1) v
      (delimited_prettyItems _ vs (delimited_newline level _))).trans items
    have all := (Yields.mark (c := '[') rfl _).trans ((Yields.newline (level + 1) _).trans first)
    simpa [prettyChars, tokens] using all
  | .object [] => exact (Yields.mark rfl _).trans (.mark rfl rest)
  | .object ((k, v) :: members) =>
    have close : Yields (Json.newline level ++ '\x7d' :: rest) [.closeObject] rest :=
      (Yields.newline level _).trans (.mark rfl rest)
    have more := (yields_prettyMembers (level + 1) members (delimited_newline level _)).trans close
    have first := (yields_prettyChars (level + 1) v
      (delimited_prettyMembers _ members (delimited_newline level _))).trans more
    have keyed := (Yields.key k _).trans ((Yields.blank (c := ' ') rfl _).trans first)
    have all := (Yields.mark (c := '\x7b') rfl _).trans ((Yields.newline (level + 1) _).trans keyed)
    simpa [prettyChars, tokens] using all

theorem yields_prettyItems (level : Nat) (vs : List Json) {rest : List Char} (h : Delimited rest) :
    Yields (prettyItems level vs ++ rest) (itemTokens vs) rest := by
  match vs with
  | [] => exact .refl rest
  | v :: vs =>
    have item := (yields_prettyChars level v (delimited_prettyItems level vs h)).trans
      (yields_prettyItems level vs h)
    have all := (Yields.mark (c := ',') rfl _).trans ((Yields.newline level _).trans item)
    simpa [prettyItems, itemTokens] using all

theorem yields_prettyMembers (level : Nat) (members : List (String × Json)) {rest : List Char}
    (h : Delimited rest) :
    Yields (prettyMembers level members ++ rest) (memberTokens members) rest := by
  match members with
  | [] => exact .refl rest
  | (k, v) :: members =>
    have member := (yields_prettyChars level v (delimited_prettyMembers level members h)).trans
      (yields_prettyMembers level members h)
    have keyed := (Yields.key k _).trans ((Yields.blank (c := ' ') rfl _).trans member)
    have all := (Yields.mark (c := ',') rfl _).trans ((Yields.newline level _).trans keyed)
    simpa [prettyMembers, memberTokens] using all

end

mutual

/-- A value that is written without blanks yields its tokens. -/
theorem yields_chars (v : Json) {rest : List Char} (h : Delimited rest) :
    Yields (v.chars ++ rest) v.tokens rest := by
  match v with
  | .null => exact .null h
  | .bool b => exact .bool b h
  | .number n => exact .number n h
  | .string s => exact .quoted s rest
  | .array [] => exact (Yields.mark rfl _).trans (.mark rfl rest)
  | .array (v :: vs) =>
    have close : Delimited (']' :: rest) := delimited_cons rfl
    have items := (yields_itemChars vs close).trans (.mark rfl rest)
    have first := (yields_chars v (delimited_itemChars vs close)).trans items
    simpa [chars, tokens] using (Yields.mark (c := '[') rfl _).trans first
  | .object [] => exact (Yields.mark rfl _).trans (.mark rfl rest)
  | .object ((k, v) :: members) =>
    have close : Delimited ('\x7d' :: rest) := delimited_cons rfl
    have more := (yields_memberChars members close).trans (.mark rfl rest)
    have first := (yields_chars v (delimited_memberChars members close)).trans more
    simpa [chars, tokens] using
      (Yields.mark (c := '\x7b') rfl _).trans ((Yields.key k _).trans first)

theorem yields_itemChars (vs : List Json) {rest : List Char} (h : Delimited rest) :
    Yields (itemChars vs ++ rest) (itemTokens vs) rest := by
  match vs with
  | [] => exact .refl rest
  | v :: vs =>
    have item := (yields_chars v (delimited_itemChars vs h)).trans (yields_itemChars vs h)
    simpa [itemChars, itemTokens] using (Yields.mark (c := ',') rfl _).trans item

theorem yields_memberChars (members : List (String × Json)) {rest : List Char}
    (h : Delimited rest) : Yields (memberChars members ++ rest) (memberTokens members) rest := by
  match members with
  | [] => exact .refl rest
  | (k, v) :: members =>
    have member := (yields_chars v (delimited_memberChars members h)).trans
      (yields_memberChars members h)
    simpa [memberChars, memberTokens] using
      (Yields.mark (c := ',') rfl _).trans ((Yields.key k _).trans member)

end

/-- The tokens of a text that yields them up to its end. -/
theorem Yields.map_token_scan {cs : List Char} {ts : List Token} (h : Yields cs ts []) :
    (scan (String.ofList cs)).map Lexeme.token = ts ++ [.ending] := by
  obtain ⟨lexemes, place, rfl, hl⟩ := h [] .start
  rw [scan, String.toList_ofList, hl]
  simp [run, finish]

end Scan

/-- The tokens of a text without blanks. -/
theorem map_token_scan_compact (v : Json) :
    (scan v.compact).map Lexeme.token = v.tokens ++ [.ending] := by
  have all := Scan.yields_chars v Scan.delimited_nil
  rw [List.append_nil] at all
  exact all.map_token_scan

/-- The text of a value without blanks determines it. -/
theorem compact_injective : Function.Injective compact := fun v w h => by
  have hv := map_token_scan_compact v
  rw [h, map_token_scan_compact w] at hv
  exact (tokens_injective (List.append_inj_left' hv rfl)).symm

/-- The tokens of a text over several lines, which may end with a line end. -/
theorem map_token_scan_pretty (v : Json) :
    (scan v.pretty).map Lexeme.token = v.tokens ++ [.ending] := by
  have all := Scan.yields_prettyChars 0 v Scan.delimited_nil
  rw [List.append_nil] at all
  exact all.map_token_scan

theorem map_token_scan_pretty_line (v : Json) :
    (scan (v.pretty ++ "\n")).map Lexeme.token = v.tokens ++ [.ending] := by
  have last := (Scan.yields_prettyChars 0 v (@Scan.delimited_cons '\n' [] rfl)).trans
    (.blank rfl [])
  rw [List.append_nil] at last
  rw [← last.map_token_scan, String.ofList_append]
  rfl

end RuleActivation.Json

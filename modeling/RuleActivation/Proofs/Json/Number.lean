import RuleActivation.Json.Token

/-!
# Number tokens in their spelling

A number token is read back from its spelling, whatever follows it, as long as this cannot belong
to a word.

## Main definitions

* `Scan.Delimited`: texts that no word can go on with

## Main results

* `Digit.map_toChar_natural`, `Digit.toNat_natural`: the digits of a natural number spell it
* `Json.Number.leading?_chars_append`: the token at the start of its spelling
-/

namespace RuleActivation

/-! ## The digits of natural numbers -/

namespace Digit

theorem toNat_append (ds es : List Digit) (start : Nat) :
    toNat (ds ++ es) start = toNat es (toNat ds start) :=
  List.foldl_append

theorem natural_of_lt {n : Nat} (h : n < 10) : natural n = [Fin.ofNat 10 n] := by
  rw [natural, Nat.toDigits_of_lt_base h]
  rfl

theorem natural_of_le {n : Nat} (h : 10 ≤ n) :
    natural n = natural (n / 10) ++ [Fin.ofNat 10 n] := by
  rw [natural, Nat.toDigits_of_base_le (by decide) h, List.length_append, List.length_singleton]
  rfl

theorem natural_ne_nil (n : Nat) : natural n ≠ [] := by
  rcases Nat.lt_or_ge n 10 with h | h
  · simp [natural_of_lt h]
  · simp [natural_of_le h]

theorem toChar_ofNat (n : Nat) : toChar (Fin.ofNat 10 n) = Nat.digitChar (n % 10) := rfl

/-- The digits of a natural number are those that it is written with. -/
theorem map_toChar_natural (n : Nat) : (natural n).map toChar = Nat.toDigits 10 n := by
  induction n using Nat.strongRecOn with
  | ind n ih =>
    rcases Nat.lt_or_ge n 10 with h | h
    · rw [natural_of_lt h, Nat.toDigits_of_lt_base h, List.map_singleton, toChar_ofNat,
        Nat.mod_eq_of_lt h]
    · rw [natural_of_le h, Nat.toDigits_of_base_le (by decide) h, List.map_append,
        ih (n / 10) (by omega), List.map_singleton, toChar_ofNat]

/-- The digits of a natural number spell it. -/
theorem toNat_natural (n : Nat) : toNat (natural n) 0 = n := by
  induction n using Nat.strongRecOn with
  | ind n ih =>
    rcases Nat.lt_or_ge n 10 with h | h
    · rw [natural_of_lt h, toNat_cons, toNat_nil, Fin.val_ofNat, Nat.mod_eq_of_lt h]
      omega
    · rw [natural_of_le h, toNat_append, ih (n / 10) (by omega), toNat_cons, toNat_nil,
        Fin.val_ofNat]
      omega

/-- Only zero itself is written with a zero in front. -/
theorem head?_natural_ne_zero {n : Nat} (h : n ≠ 0) : (natural n).head? ≠ some 0 := by
  induction n using Nat.strongRecOn with
  | ind n ih =>
    rcases Nat.lt_or_ge n 10 with lt | ge
    · rw [natural_of_lt lt, List.head?_singleton]
      intro zero
      have := congrArg Fin.val (Option.some.inj zero)
      rw [Fin.val_ofNat, Nat.mod_eq_of_lt lt] at this
      exact h this
    · obtain ⟨d, ds, hd⟩ := List.exists_cons_of_ne_nil (natural_ne_nil (n / 10))
      have front := ih (n / 10) (by omega) (by omega)
      rw [hd] at front
      rw [natural_of_le ge, hd]
      exact front

/-- The digits before something that is none are read back. -/
theorem leading_map_append (ds : List Digit) {rest : List Char}
    (h : ∀ c ∈ rest.head?, ofChar? c = none) : leading (ds.map toChar ++ rest) = (ds, rest) := by
  induction ds with
  | nil =>
    cases rest with
    | nil => rfl
    | cons c cs => simp [leading, h c rfl]
  | cons d ds ih => simp [leading, ih]

end Digit

namespace Json

/-! ## Words -/

theorem Scan.isWord_toChar : ∀ d : Digit, Scan.isWord d.toChar = true := by decide

/-- Texts that begin with no character of a word. -/
def Scan.Delimited (rest : List Char) : Prop := ∀ c ∈ rest.head?, Scan.isWord c = false

theorem Scan.delimited_nil : Scan.Delimited [] := fun _ h => by cases h

theorem Scan.delimited_cons {c : Char} {cs : List Char} (h : Scan.isWord c = false) :
    Scan.Delimited (c :: cs) := fun d hd => by
  obtain rfl := Option.some.inj hd
  exact h

theorem Scan.ofChar?_of_not_isWord {c : Char} (h : Scan.isWord c = false) :
    Digit.ofChar? c = none := by
  unfold Digit.ofChar?
  split <;> first | rfl | exact absurd h (by decide)

/-! ## The parts of a number -/

namespace Number

theorem minus_ite_append (negative : Bool) {cs : List Char} (h : cs.head? ≠ some '-') :
    minus ((if negative then ['-'] else []) ++ cs) = (negative, cs) := by
  cases negative with
  | true => rfl
  | false =>
    cases cs with
    | nil => rfl
    | cons c cs =>
      have ne : c ≠ '-' := fun e => h (by rw [e]; rfl)
      simp [minus, ne]

theorem head?_toDigits_append_ne {n : Nat} {rest : List Char} {c : Char}
    (h : Digit.ofChar? c = none) : (Nat.toDigits 10 n ++ rest).head? ≠ some c := by
  rw [← Digit.map_toChar_natural]
  cases hd : Digit.natural n with
  | nil => exact absurd hd (Digit.natural_ne_nil n)
  | cons d ds =>
    rw [List.map_cons, List.cons_append, List.head?_cons]
    intro e
    rw [← Option.some.inj e, Digit.ofChar?_toChar] at h
    cases h

theorem whole?_toDigits_append (n : Nat) {rest : List Char}
    (h : ∀ c ∈ rest.head?, Digit.ofChar? c = none) :
    whole? (Nat.toDigits 10 n ++ rest) = some (n, rest) := by
  have value := Digit.toNat_natural n
  rw [whole?, ← Digit.map_toChar_natural, Digit.leading_map_append _ h]
  match hd : Digit.natural n with
  | [] => exact absurd hd (Digit.natural_ne_nil n)
  | [d] =>
    rw [hd] at value
    simpa using value
  | d :: e :: ds =>
    rw [hd] at value
    have first : d ≠ 0 := by
      rintro rfl
      rcases Nat.lt_or_ge n 10 with lt | ge
      · simp [Digit.natural_of_lt lt] at hd
      · have nonzero : n ≠ 0 := by omega
        exact Digit.head?_natural_ne_zero nonzero (by rw [hd]; rfl)
    simp only [if_neg first, value]

theorem fraction?_append (ds : List Digit) {rest : List Char}
    (h : ∀ c ∈ rest.head?, Digit.ofChar? c = none) (point : rest.head? ≠ some '.') :
    fraction? ((if ds.isEmpty then [] else '.' :: ds.map Digit.toChar) ++ rest) =
      some (ds, rest) := by
  cases ds with
  | nil =>
    cases rest with
    | nil => rfl
    | cons c cs =>
      have ne : c ≠ '.' := fun e => point (by rw [e]; rfl)
      simp [fraction?, ne]
  | cons d ds =>
    have := Digit.leading_map_append (d :: ds) h
    simp only [List.map_cons, List.cons_append] at this
    simp [fraction?, this]

theorem exponent?_append (e : Option Exponent) {rest : List Char} (h : Scan.Delimited rest) :
    exponent? (e.elim [] Exponent.chars ++ rest) = some (e, rest) := by
  have digits : ∀ c ∈ rest.head?, Digit.ofChar? c = none := fun c hc =>
    Scan.ofChar?_of_not_isWord (h c hc)
  cases e with
  | none =>
    cases rest with
    | nil => rfl
    | cons c cs =>
      have ne : c ≠ 'e' ∧ c ≠ 'E' := by
        constructor <;> rintro rfl <;> exact absurd (h _ rfl) (by decide)
      simp [exponent?, ne]
  | some e =>
    obtain ⟨negative, first, ds⟩ := e
    have := Digit.leading_map_append (first :: ds) digits
    simp only [List.map_cons, List.cons_append] at this
    cases negative <;>
      simp [Exponent.chars, Exponent.digits, exponent?, sign, minus, this]

/-- The head of what follows the whole part, or the fraction, of a number. -/
theorem head?_exponent_append (e : Option Exponent) {rest : List Char} (h : Scan.Delimited rest)
    {c : Char} (hc : c ∈ (e.elim [] Exponent.chars ++ rest).head?) :
    c = 'e' ∨ Scan.isWord c = false := by
  cases e with
  | none => exact .inr (h c hc)
  | some e => exact .inl (Option.some.inj hc).symm

/-! ## Numbers -/

theorem chars_append (n : Number) (rest : List Char) :
    n.chars ++ rest = (if n.negative then ['-'] else []) ++ (Nat.toDigits 10 n.whole ++
      ((if n.fraction.isEmpty then [] else '.' :: n.fraction.map Digit.toChar) ++
        (n.exponent.elim [] Exponent.chars ++ rest))) := by
  simp only [chars, List.append_assoc]

/-- A number token is read back from its spelling. -/
theorem leading?_chars_append (n : Number) {rest : List Char} (h : Scan.Delimited rest) :
    leading? (n.chars ++ rest) = some (n, rest) := by
  have exponent : ∀ c ∈ (n.exponent.elim [] Exponent.chars ++ rest).head?,
      Digit.ofChar? c = none ∧ c ≠ '.' := fun c hc => by
    rcases head?_exponent_append n.exponent h hc with rfl | word
    · exact ⟨rfl, by decide⟩
    · exact ⟨Scan.ofChar?_of_not_isWord word, by rintro rfl; exact absurd word (by decide)⟩
  have fraction : ∀ c ∈ ((if n.fraction.isEmpty then [] else '.' :: n.fraction.map Digit.toChar) ++
      (n.exponent.elim [] Exponent.chars ++ rest)).head?, Digit.ofChar? c = none := by
    intro c hc
    cases hf : n.fraction with
    | nil =>
      rw [hf] at hc
      exact (exponent c hc).1
    | cons d ds =>
      rw [hf] at hc
      rw [← Option.some.inj hc]
      rfl
  rw [chars_append, leading?, minus_ite_append _ (head?_toDigits_append_ne rfl)]
  simp only [whole?_toDigits_append n.whole fraction, Option.bind_eq_bind, Option.bind_some,
    fraction?_append n.fraction (fun c hc => (exponent c hc).1)
      (fun point => (exponent '.' point).2 rfl), exponent?_append n.exponent h]
  rfl

theorem isWord_of_mem_toDigits {c : Char} {n : Nat} (h : c ∈ Nat.toDigits 10 n) :
    Scan.isWord c = true := by
  rw [← Digit.map_toChar_natural] at h
  obtain ⟨d, -, rfl⟩ := List.mem_map.1 h
  exact Scan.isWord_toChar d

theorem isWord_of_mem_exponent {c : Char} {e : Exponent} (h : c ∈ e.chars) :
    Scan.isWord c = true := by
  rcases List.mem_cons.1 h with rfl | h
  · decide
  · rcases List.mem_cons.1 h with rfl | h
    · split <;> decide
    · obtain ⟨d, -, rfl⟩ := List.mem_map.1 h
      exact Scan.isWord_toChar d

/-- Every character of a number's spelling belongs to a word. -/
theorem isWord_of_mem_chars {n : Number} {c : Char} (h : c ∈ n.chars) :
    Scan.isWord c = true := by
  simp only [chars, List.mem_append] at h
  rcases h with sign | whole | fraction | exponent
  · split at sign
    · rw [List.mem_singleton.1 sign]
      decide
    · cases sign
  · exact isWord_of_mem_toDigits whole
  · split at fraction
    · cases fraction
    · rcases List.mem_cons.1 fraction with rfl | digit
      · decide
      · obtain ⟨d, -, rfl⟩ := List.mem_map.1 digit
        exact Scan.isWord_toChar d
  · cases he : n.exponent with
    | none =>
      rw [he] at exponent
      cases exponent
    | some e =>
      rw [he] at exponent
      exact isWord_of_mem_exponent exponent

/-- The spelling of a number begins with a minus or a digit. -/
theorem chars_eq_cons (n : Number) :
    ∃ c cs, n.chars = c :: cs ∧ (c = '-' ∨ ∃ d : Digit, c = d.toChar) := by
  rw [chars, ← Digit.map_toChar_natural]
  cases n.negative with
  | true => exact ⟨_, _, rfl, .inl rfl⟩
  | false =>
    cases hd : Digit.natural n.whole with
    | nil => exact absurd hd (Digit.natural_ne_nil _)
    | cons d ds => exact ⟨_, _, rfl, .inr ⟨d, rfl⟩⟩

end Number

end Json

end RuleActivation

/-!
# Number tokens

A JSON number is kept as it is spelled, so that no digit is lost between reading and printing.
The whole part has no leading zero and is therefore a natural number; the digits of the fraction
and of the exponent are kept one by one.

## Main definitions

* `Digit`: a decimal digit and its character
* `Json.Number`: a number token
* `Json.Number.chars`: its spelling
* `Json.Number.leading?`, `Json.Number.ofChars?`: the token that a spelling starts with, or is
-/

namespace RuleActivation

/-! ## Digits -/

/-- A decimal digit. -/
abbrev Digit := Fin 10

namespace Digit

/-- The character of a digit. -/
def toChar (d : Digit) : Char := Nat.digitChar d

/-- The digit of a character. -/
def ofChar? : Char → Option Digit
  | '0' => some 0
  | '1' => some 1
  | '2' => some 2
  | '3' => some 3
  | '4' => some 4
  | '5' => some 5
  | '6' => some 6
  | '7' => some 7
  | '8' => some 8
  | '9' => some 9
  | _ => none

@[simp] theorem ofChar?_toChar : ∀ d : Digit, ofChar? d.toChar = some d := by decide

/-- The natural number that `digits` spell after the digits of `start`. -/
def toNat (digits : List Digit) (start : Nat) : Nat :=
  digits.foldl (fun n d => 10 * n + d.val) start

@[simp] theorem toNat_nil (start : Nat) : toNat [] start = start := rfl

@[simp] theorem toNat_cons (d : Digit) (ds : List Digit) (start : Nat) :
    toNat (d :: ds) start = toNat ds (10 * start + d.val) := rfl

/-- The last `width` digits of a natural number, leading zeros included. -/
def ofNat : (width : Nat) → Nat → List Digit
  | 0, _ => []
  | width + 1, n => ofNat width (n / 10) ++ [Fin.ofNat 10 n]

/-- The digits of a natural number. -/
def natural (n : Nat) : List Digit := ofNat (Nat.toDigits 10 n).length n

@[simp] theorem length_ofNat (width n : Nat) : (ofNat width n).length = width := by
  induction width generalizing n with
  | zero => rfl
  | succ width ih => simp [ofNat, ih]

/-- The digits at the start of a text, and what follows them. -/
def leading : List Char → List Digit × List Char
  | [] => ([], [])
  | c :: cs =>
    match ofChar? c with
    | some d => let (ds, rest) := leading cs; (d :: ds, rest)
    | none => ([], c :: cs)

/-- The digits of a text of digits only. -/
def ofChars? (cs : List Char) : Option (List Digit) := cs.mapM ofChar?

end Digit

/-! ## Number tokens -/

namespace Json

/-- The exponent of a number token, with at least one digit. -/
structure Exponent where
  negative : Bool
  first : Digit
  rest : List Digit
  deriving DecidableEq, Repr

/-- A number token. An empty fraction stands for a token without a point. -/
structure Number where
  negative : Bool
  whole : Nat
  fraction : List Digit
  exponent : Option Exponent
  deriving DecidableEq, Repr

namespace Exponent

/-- All digits of an exponent. -/
def digits (e : Exponent) : List Digit := e.first :: e.rest

/-- The spelling of an exponent, always with its sign. -/
def chars (e : Exponent) : List Char :=
  'e' :: (if e.negative then '-' else '+') :: e.digits.map Digit.toChar

/-- The magnitude of an exponent. -/
def magnitude (e : Exponent) : Nat := Digit.toNat e.digits 0

/-- The exponent of an integer, without leading zeros. -/
def ofInt (i : Int) : Exponent :=
  match Digit.natural i.natAbs with
  | [] => ⟨false, 0, []⟩
  | d :: ds => ⟨i < 0, d, ds⟩

end Exponent

namespace Number

/-- The number token of an integer. -/
def ofInt (i : Int) : Number := ⟨i < 0, i.natAbs, [], none⟩

/-- The spelling of a number token. -/
def chars (n : Number) : List Char :=
  (if n.negative then ['-'] else []) ++ (Nat.toDigits 10 n.whole ++
    ((if n.fraction.isEmpty then [] else '.' :: n.fraction.map Digit.toChar) ++
      (n.exponent.elim [] Exponent.chars)))

/-- The spelling of a number token, as text. -/
def text (n : Number) : String := String.ofList n.chars

/-- The integer that a token without point and exponent denotes. -/
def toInt? (n : Number) : Option Int :=
  if n.fraction.isEmpty && n.exponent.isNone then
    some (if n.negative then -(n.whole : Int) else n.whole)
  else none

@[simp] theorem toInt?_ofInt (i : Int) : (ofInt i).toInt? = some i := by
  simp only [toInt?, ofInt, List.isEmpty_nil, Option.isNone_none, Bool.and_self, if_true,
    decide_eq_true_eq, Option.some.injEq]
  split <;> omega

/-- The integer that the digits of a token spell without its point and exponent. -/
def coefficient (n : Number) : Nat := Digit.toNat n.fraction n.whole

/-- The power of ten that the coefficient of a token is multiplied by. -/
def power (n : Number) : Int :=
  n.exponent.elim 0 (fun e => if e.negative then -(e.magnitude : Int) else e.magnitude) -
    n.fraction.length

/-- A minus sign at the start, and what follows it. -/
def minus : List Char → Bool × List Char
  | '-' :: cs => (true, cs)
  | cs => (false, cs)

/-- A sign at the start of an exponent, and what follows it. -/
def sign : List Char → Bool × List Char
  | '+' :: cs => (false, cs)
  | cs => minus cs

/-- The whole part at the start of a text: at least one digit, and no leading zero. -/
def whole? (cs : List Char) : Option (Nat × List Char) :=
  match Digit.leading cs with
  | ([], _) => none
  | ([d], rest) => some (d, rest)
  | (d :: ds, rest) => if d = 0 then none else some (Digit.toNat (d :: ds) 0, rest)

/-- The fraction at the start of a text: none, or a point and at least one digit. -/
def fraction? : List Char → Option (List Digit × List Char)
  | '.' :: cs =>
    match Digit.leading cs with
    | ([], _) => none
    | (ds, rest) => some (ds, rest)
  | cs => some ([], cs)

/-- The exponent at the start of a text: none, or its mark, a sign or none, and at least one
digit. -/
def exponent? : List Char → Option (Option Exponent × List Char)
  | 'e' :: cs | 'E' :: cs =>
    let (negative, digits) := sign cs
    match Digit.leading digits with
    | ([], _) => none
    | (d :: ds, rest) => some (some ⟨negative, d, ds⟩, rest)
  | cs => some (none, cs)

/-- The number token at the start of a text, as long as it can be, and what follows it. -/
def leading? (cs : List Char) : Option (Number × List Char) := do
  let (negative, cs) := minus cs
  let (whole, cs) ← whole? cs
  let (fraction, cs) ← fraction? cs
  let (exponent, cs) ← exponent? cs
  return (⟨negative, whole, fraction, exponent⟩, cs)

/-- The number token that a text spells. -/
def ofChars? (cs : List Char) : Option Number :=
  match leading? cs with
  | some (n, []) => some n
  | _ => none

end Number

end Json

end RuleActivation

import RuleActivation.Json.Printer
import RuleActivation.Json.Token

/-!
# The tokens of a value

A value has the tokens that its printed text is made of. They determine the value, also when other
tokens follow.

## Main definitions

* `Piece.ofChar`, `pieces`: the pieces of a printed string
* `tokens`: the tokens of a value

## Main results

* `Piece.text?_pieces`: the pieces of a printed string stand for it
* `tokens_injective`: the tokens of a value determine it
-/

namespace RuleActivation.Json

/-! ## Strings -/

/-- The piece that a character is printed as. -/
def Piece.ofChar (c : Char) : Piece :=
  if c ∈ ['"', '\\', '\n', '\r', '\t', '\x08', '\x0c'] then .char c
  else if c < ' ' then .unit c.toNat
  else .char c

/-- The pieces of a printed string. -/
def pieces (s : String) : List Piece := s.toList.map Piece.ofChar

namespace Piece

theorem charsFrom?_unit (seen : List Char) {n : Nat} (h : n < 0xD800) (rest : List Piece) :
    charsFrom? seen (.unit n :: rest) = charsFrom? (Char.ofNat n :: seen) rest := by
  have high : isHigh n = false := by simp [isHigh]; omega
  have low : isLow n = false := by simp [isLow]; omega
  match rest with
  | [] => simp [charsFrom?, high, low]
  | .char c :: rest => simp [charsFrom?, high, low]
  | .unit m :: rest => simp [charsFrom?, high, low]

theorem charsFrom?_ofChar (seen : List Char) (c : Char) (rest : List Piece) :
    charsFrom? seen (ofChar c :: rest) = charsFrom? (c :: seen) rest := by
  unfold ofChar
  split
  · rfl
  · split
    · rename_i low
      have small : c.toNat < 32 := low
      rw [charsFrom?_unit _ (by omega), Char.ofNat_toNat]
    · rfl

theorem charsFrom?_map_ofChar (seen cs : List Char) :
    charsFrom? seen (cs.map ofChar) = some (seen.reverse ++ cs) := by
  induction cs generalizing seen with
  | nil => simp [charsFrom?]
  | cons c cs ih => rw [List.map_cons, charsFrom?_ofChar, ih]; simp

/-- The pieces of a printed string stand for it. -/
@[simp] theorem text?_pieces (s : String) : text? (pieces s) = some s := by
  rw [text?, pieces, charsFrom?_map_ofChar, List.reverse_nil, List.nil_append, Option.map_some,
    String.ofList_toList]

end Piece

theorem pieces_injective : Function.Injective pieces := fun s t h => by
  have hs := Piece.text?_pieces s
  rw [h, Piece.text?_pieces] at hs
  exact (Option.some.inj hs).symm

/-! ## Tokens -/

mutual

/-- The tokens of a value. -/
def tokens : Json → List Token
  | null => [.null]
  | bool b => [.bool b]
  | number n => [.number n]
  | string s => [.string (pieces s)]
  | array [] => [.openArray, .closeArray]
  | array (v :: vs) => .openArray :: (v.tokens ++ (itemTokens vs ++ [.closeArray]))
  | object [] => [.openObject, .closeObject]
  | object ((k, v) :: rest) =>
    .openObject :: .string (pieces k) :: .colon ::
      (v.tokens ++ (memberTokens rest ++ [.closeObject]))

/-- The tokens of the items after the first, each with its comma. -/
def itemTokens : List Json → List Token
  | [] => []
  | v :: vs => .comma :: (v.tokens ++ itemTokens vs)

/-- The tokens of the members after the first, each with its comma. -/
def memberTokens : List (String × Json) → List Token
  | [] => []
  | (k, v) :: rest =>
    .comma :: .string (pieces k) :: .colon :: (v.tokens ++ memberTokens rest)

end

/-- The first token of a value. -/
def firstToken : Json → Token
  | null => .null
  | bool b => .bool b
  | number n => .number n
  | string s => .string (pieces s)
  | array _ => .openArray
  | object _ => .openObject

theorem tokens_eq_cons (v : Json) : ∃ ts, v.tokens = v.firstToken :: ts := by
  match v with
  | null | bool _ | number _ | string _ | array [] | array (_ :: _) | object [] | object (_ :: _) =>
    exact ⟨_, by rw [tokens]; rfl⟩

theorem firstToken_ne_close (v : Json) :
    v.firstToken ≠ .closeArray ∧ v.firstToken ≠ .closeObject := by
  cases v <;> simp [firstToken]

mutual

/-- Tokens of a value and what follows them can be told apart. A container ends with a token that
begins no value, so that the end of its items cannot be missed. -/
theorem tokens_append_inj {v w : Json} {r s : List Token} (h : v.tokens ++ r = w.tokens ++ s) :
    v = w ∧ r = s := by
  have first : v.firstToken = w.firstToken := by
    obtain ⟨ts, hv⟩ := tokens_eq_cons v
    obtain ⟨us, hw⟩ := tokens_eq_cons w
    rw [hv, hw] at h
    exact (List.cons.inj h).1
  match v with
  | null => cases w <;> simp_all [firstToken, tokens]
  | bool _ => cases w <;> simp_all [firstToken, tokens]
  | number _ => cases w <;> simp_all [firstToken, tokens]
  | string a =>
    cases w with
    | string b =>
      obtain rfl := pieces_injective (Token.string.inj first)
      simpa [tokens] using h
    | _ => cases first
  | array vs =>
    cases w with
    | array ws =>
      obtain ⟨rfl, same⟩ := arrayTokens_append_inj h
      exact ⟨rfl, same⟩
    | _ => cases first
  | object ms =>
    cases w with
    | object ns =>
      obtain ⟨rfl, same⟩ := objectTokens_append_inj h
      exact ⟨rfl, same⟩
    | _ => cases first

theorem arrayTokens_append_inj {vs ws : List Json} {r s : List Token}
    (h : (array vs).tokens ++ r = (array ws).tokens ++ s) : vs = ws ∧ r = s := by
  match vs, ws with
  | [], [] => simpa [tokens] using h
  | [], w :: ws =>
    obtain ⟨ts, hw⟩ := tokens_eq_cons w
    simp [tokens, hw, (firstToken_ne_close w).1.symm] at h
  | v :: vs, [] =>
    obtain ⟨ts, hv⟩ := tokens_eq_cons v
    simp [tokens, hv, (firstToken_ne_close v).1] at h
  | v :: vs, w :: ws =>
    simp only [tokens, List.cons_append, List.append_assoc, List.cons.injEq, true_and,
      List.nil_append] at h
    obtain ⟨rfl, rest⟩ := tokens_append_inj h
    obtain ⟨rfl, rfl⟩ := itemTokens_append_inj rest
    exact ⟨rfl, rfl⟩

theorem objectTokens_append_inj {ms ns : List (String × Json)} {r s : List Token}
    (h : (object ms).tokens ++ r = (object ns).tokens ++ s) : ms = ns ∧ r = s := by
  match ms, ns with
  | [], [] => simpa [tokens] using h
  | [], (_, _) :: _ | (_, _) :: _, [] => simp [tokens] at h
  | (k, v) :: ms, (l, w) :: ns =>
    simp only [tokens, List.cons_append, List.append_assoc, List.cons.injEq, true_and,
      List.nil_append, Token.string.injEq] at h
    obtain ⟨rfl, rest⟩ := tokens_append_inj h.2
    obtain ⟨rfl, rfl⟩ := memberTokens_append_inj rest
    rw [pieces_injective h.1]
    exact ⟨rfl, rfl⟩

theorem itemTokens_append_inj {vs ws : List Json} {r s : List Token}
    (h : itemTokens vs ++ .closeArray :: r = itemTokens ws ++ .closeArray :: s) :
    vs = ws ∧ r = s := by
  match vs, ws with
  | [], [] => simpa [itemTokens] using h
  | [], _ :: _ | _ :: _, [] => simp [itemTokens] at h
  | v :: vs, w :: ws =>
    simp only [itemTokens, List.cons_append, List.append_assoc, List.cons.injEq, true_and] at h
    obtain ⟨rfl, rest⟩ := tokens_append_inj h
    obtain ⟨rfl, rfl⟩ := itemTokens_append_inj rest
    exact ⟨rfl, rfl⟩

theorem memberTokens_append_inj {ms ns : List (String × Json)} {r s : List Token}
    (h : memberTokens ms ++ .closeObject :: r = memberTokens ns ++ .closeObject :: s) :
    ms = ns ∧ r = s := by
  match ms, ns with
  | [], [] => simpa [memberTokens] using h
  | [], (_, _) :: _ | (_, _) :: _, [] => simp [memberTokens] at h
  | (k, v) :: ms, (l, w) :: ns =>
    simp only [memberTokens, List.cons_append, List.append_assoc, List.cons.injEq, true_and,
      Token.string.injEq] at h
    obtain ⟨rfl, rest⟩ := tokens_append_inj h.2
    obtain ⟨rfl, rfl⟩ := memberTokens_append_inj rest
    rw [pieces_injective h.1]
    exact ⟨rfl, rfl⟩

end

/-- The tokens of a value determine it. -/
theorem tokens_injective : Function.Injective tokens := fun v w h =>
  (tokens_append_inj (r := []) (s := []) (by rw [h])).1

end RuleActivation.Json

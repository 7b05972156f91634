import RuleActivation.Proofs.Text.Integer
import RuleActivation.Synthesis.Label

/-!
# Reading labels back

A label is read back from its text if the indices of its position have 64 bits, and not at all
otherwise.

## Main definitions

* `Position.isAddressable`, `CaseLabel.isAddressable`: whether all indices have 64 bits

## Main results

* `Position.parse?_text`: reading the text of a position
* `Position.text_injective`: the text tells positions apart, whatever their indices
* `CaseLabel.text_injective`: the text tells labels apart as well
* `CaseLabel.parse_text`: reading the text of a label
* `CaseLabel.isAddressable_of_parse`: the indices of a label that has been read have 64 bits
-/

namespace RuleActivation

/-! ## Positions -/

namespace Position

/-- Whether all indices of a position have 64 bits. -/
def isAddressable (p : Position) : Bool := p.indices.all (· < UInt64.size)

theorem splitOn_indexChars {first : List Char} (h : '.' ∉ first) (indices : List Nat) :
    (first ++ indexChars indices).splitOn '.' = first :: indices.map (Nat.toDigits 10) := by
  induction indices generalizing first with
  | nil =>
    rw [indexChars, List.flatMap_nil, List.append_nil, List.splitOn_eq_singleton h, List.map_nil]
  | cons i indices ih =>
    have digits := Digit.not_mem_toDigits Digit.toChar_ne_point i
    rw [indexChars, List.flatMap_cons, List.cons_append,
      List.splitOn_append_cons_self_of_not_mem h, ← indexChars, ih digits, List.map_cons]

theorem mapM_index?_toDigits (p : Position) :
    (p.indices.map (Nat.toDigits 10)).mapM Text.index? =
      if p.isAddressable then some p.indices else none := by
  obtain ⟨indices⟩ := p
  induction indices with
  | nil => rfl
  | cons i indices ih =>
    have all : isAddressable ⟨i :: indices⟩ =
      (decide (i < UInt64.size) && isAddressable ⟨indices⟩) := rfl
    rw [List.map_cons, List.mapM_cons, Text.index?_toDigits, ih, all]
    by_cases first : i < UInt64.size
    · by_cases others : isAddressable ⟨indices⟩ = true <;> simp [first, others]
    · simp [first]

theorem toList_text (p : Position) : p.text.toList = "root".toList ++ indexChars p.indices :=
  String.toList_ofList

/-- The text of a position is read back if all indices have 64 bits. -/
theorem parse?_text (p : Position) :
    parse? p.text = if p.isAddressable then some p else none := by
  have root : '.' ∉ "root".toList := by decide
  rw [parse?, toList_text, splitOn_indexChars root]
  simp only [if_true, mapM_index?_toDigits]
  by_cases h : p.isAddressable = true
  · rw [if_pos h, if_pos h, Option.map_some]
  · rw [if_neg h, if_neg h, Option.map_none]

theorem isAddressable_of_mapM_index? {texts : List (List Char)} {indices : List Nat}
    (h : texts.mapM Text.index? = some indices) : isAddressable ⟨indices⟩ = true := by
  induction texts generalizing indices with
  | nil =>
    cases h
    rfl
  | cons cs texts ih =>
    rw [List.mapM_cons] at h
    obtain ⟨i, first, h⟩ := Option.bind_eq_some_iff.1 h
    obtain ⟨others, read, same⟩ := Option.bind_eq_some_iff.1 h
    obtain rfl := Option.some.inj same
    exact Bool.and_eq_true_iff.2 ⟨decide_eq_true (Text.lt_of_index?_eq_some first), ih read⟩

/-- The indices of a position that has been read have 64 bits. -/
theorem isAddressable_of_parse? {s : String} {p : Position} (h : parse? s = some p) :
    p.isAddressable = true := by
  unfold parse? at h
  split at h
  · split at h
    · obtain ⟨indices, read, rfl⟩ := Option.map_eq_some_iff.1 h
      exact isAddressable_of_mapM_index? read
    · cases h
  · cases h

theorem toDigits_injective : Function.Injective (Nat.toDigits 10) := by
  intro m n h
  have read := congrArg Text.natural? h
  rw [Text.natural?_toDigits, Text.natural?_toDigits] at read
  exact Option.some.inj read

/-- Positions with the same text are the same. -/
theorem text_injective : Function.Injective text := by
  intro p q h
  have root : '.' ∉ "root".toList := by decide
  have split := congrArg (fun s : String => s.toList.splitOn '.') h
  simp only [toList_text, splitOn_indexChars root] at split
  have same := (List.map_inj_right fun _ _ => @toDigits_injective _ _).1 (List.cons.inj split).2
  cases p
  cases q
  exact congrArg mk same

end Position

/-! ## Labels -/

namespace CaseLabel

/-- Whether all indices of a label have 64 bits. -/
def isAddressable : CaseLabel → Bool
  | positiveAll => true
  | negativeLeaf p => p.isAddressable
  | nullLeaf p => p.isAddressable

theorem splitColon_append {kind place : List Char} (h : ':' ∉ kind) :
    splitColon (kind ++ ':' :: place) = some (kind, place) := by
  induction kind with
  | nil => rfl
  | cons c kind ih =>
    rw [List.mem_cons, not_or] at h
    rw [List.cons_append, splitColon, if_neg (Ne.symm h.1), ih h.2]
    rfl

theorem ne_positiveAll_of_splitColon {s : String} {parts : List Char × List Char}
    (h : splitColon s.toList = some parts) : s ≠ "positive_all" := by
  rintro rfl
  have : splitColon "positive_all".toList = none := by decide
  rw [this] at h
  cases h

theorem splitColon_toList_append {kind : List Char} (h : ':' ∉ kind) {start : String}
    (chars : start.toList = kind ++ [':']) (place : String) :
    splitColon (start ++ place).toList = some (kind, place.toList) := by
  rw [String.toList_append, chars, List.append_assoc, List.singleton_append, splitColon_append h]

theorem splitColon_text_negativeLeaf (p : Position) :
    splitColon (negativeLeaf p).text.toList = some ("negative_leaf".toList, p.text.toList) :=
  splitColon_toList_append (by decide) (by decide) p.text

theorem splitColon_text_nullLeaf (p : Position) :
    splitColon (nullLeaf p).text.toList = some ("null_leaf".toList, p.text.toList) :=
  splitColon_toList_append (by decide) (by decide) p.text

/-- Labels with the same text are the same, whatever the indices of their positions. -/
theorem text_injective : Function.Injective text := by
  intro a b h
  have parts := congrArg (fun s : String => splitColon s.toList) h
  have colonless : splitColon positiveAll.text.toList = none := by decide
  cases a <;> cases b <;>
    simp [colonless, splitColon_text_negativeLeaf, splitColon_text_nullLeaf, String.toList_inj,
      Position.text_injective.eq_iff] at parts ⊢ <;> exact parts

/-- What a kind, a colon and the text of a position are read as. -/
theorem parse_of_splitColon {s : String} {kind : List Char} {p : Position}
    (parts : splitColon s.toList = some (kind, p.text.toList)) :
    parse s = if p.isAddressable then
        if kind = "negative_leaf".toList then .ok (negativeLeaf p)
        else if kind = "null_leaf".toList then .ok (nullLeaf p)
        else .error (.label s)
      else .error (.position s) := by
  rw [parse, if_neg (ne_positiveAll_of_splitColon parts), parts]
  simp only [String.ofList_toList, Position.parse?_text]
  by_cases h : p.isAddressable = true
  · rw [if_pos h, if_pos h]
  · rw [if_neg h, if_neg h]

/-- The text of a label is read back if all indices have 64 bits. Otherwise it is the position that
cannot be read. -/
theorem parse_text (l : CaseLabel) :
    parse l.text = if l.isAddressable then .ok l else .error (.position l.text) := by
  have other : "null_leaf".toList ≠ "negative_leaf".toList := by decide
  match l with
  | positiveAll =>
    rw [parse, text, if_pos rfl]
    rfl
  | negativeLeaf p =>
    rw [parse_of_splitColon (splitColon_text_negativeLeaf p), if_pos rfl]
    rfl
  | nullLeaf p =>
    rw [parse_of_splitColon (splitColon_text_nullLeaf p), if_neg other, if_pos rfl]
    rfl

theorem toOption_parse_text (l : CaseLabel) :
    (parse l.text).toOption = if l.isAddressable then some l else none := by
  rw [parse_text]
  split
  · rfl
  · rfl

/-- The indices of a label that has been read have 64 bits. -/
theorem isAddressable_of_parse {s : String} {l : CaseLabel} (h : parse s = .ok l) :
    l.isAddressable = true := by
  unfold parse at h
  split at h
  · cases h
    rfl
  · split at h
    · cases h
    · split at h
      · cases h
      · rename_i p read
        have addressable := Position.isAddressable_of_parse? read
        split at h
        · cases h
          exact addressable
        · split at h
          · cases h
            exact addressable
          · cases h

end CaseLabel

end RuleActivation

import RuleActivation.Proofs.Json.Building
import RuleActivation.Proofs.Success
import RuleActivation.Snapshot.Reading

/-!
# What readers ensure

Whatever text a reader is given, its result may have a property, because the parts that it is made
of have one. Readers that are followed by others pass their property on; those of lists and records
keep up an invariant of what has been read so far, item by item and member by member.

## Main definitions

* `Reader.Ensures`: the results of a reader have a property

## Main results

* `Reader.Ensures.bind`: readers one after the other
* `Reader.ensures_value`: a value that has been read is read back
* `Reader.ensures_list`: the reader of a list
* `RecordType.ensures_read`: the reader of a record
-/

namespace RuleActivation

namespace Reader

variable {α β : Type} {r : Reader α} {f : α → Reader β} {P : α → Prop} {Q : β → Prop}

/-- The results of a reader have a property, whatever it reads. -/
def Ensures (r : Reader α) (P : α → Prop) : Prop :=
  ∀ lexemes a rest, r.run lexemes = .ok (a, rest) → P a

/-! ## Readers one after the other -/

theorem Ensures.pure {a : α} (h : P a) : Ensures (pure a) P := fun _ _ _ done => by
  cases done
  exact h

theorem Ensures.bind (h : r.Ensures P) (k : ∀ a, P a → (f a).Ensures Q) :
    (r >>= f).Ensures Q := fun lexemes b rest done => by
  rw [StateT.run_bind] at done
  obtain ⟨⟨a, more⟩, first, others⟩ := bind_eq_ok_iff.1 done
  exact k a (h lexemes a more first) more b rest others

/-- Nothing need be known of what comes first. -/
theorem Ensures.after (k : ∀ a, (f a).Ensures Q) : (r >>= f).Ensures Q :=
  Ensures.bind (P := fun _ => True) (fun _ _ _ _ => trivial) fun a _ => k a

theorem ensures_notJson : (notJson : Reader α).Ensures P := nofun

theorem ensures_fail (fault : ShapeFault) (place : Text.Place) :
    (fail fault place : Reader α).Ensures P := nofun

theorem ensures_refuse (wanted : String) (l : Json.Lexeme) :
    (refuse wanted l : Reader α).Ensures P := by
  unfold refuse
  split <;> try exact ensures_fail _ _
  · exact .after fun _ => ensures_fail _ _
  · exact ensures_notJson

/-! ## Parts -/

/-- A value that has been read is read back. -/
theorem ensures_value (depth : Nat) :
    (value (.full depth)).Ensures fun v => v.reread depth = some v := by
  unfold value
  refine .after fun lexemes => ?_
  split
  · rename_i taken
    exact .after fun _ => .pure (Json.reread_of_take taken)
  · exact ensures_refuse _ _
  · exact ensures_notJson

theorem ensures_itemsFrom {item : Reader α} (h : item.Ensures P) (fuel : Nat) {found : List α}
    (before : ∀ a ∈ found, P a) :
    (itemsFrom item fuel found).Ensures fun as => ∀ a ∈ as, P a := by
  induction fuel generalizing found with
  | zero => exact ensures_notJson
  | succ fuel ih =>
    unfold itemsFrom
    refine h.bind fun a ha => .after fun l => ?_
    have all : ∀ b ∈ a :: found, P b := List.forall_mem_cons.2 ⟨ha, before⟩
    split
    · exact ih all
    · exact .pure fun b mem => all b (List.mem_reverse.1 mem)
    · exact ensures_notJson

/-- The items of a list have the property that the reader of an item ensures. -/
theorem ensures_list {item : Reader α} (h : item.Ensures P) :
    (list item).Ensures fun as => ∀ a ∈ as, P a := by
  unfold list
  refine .after fun l => ?_
  split
  · refine .after fun l => ?_
    split
    · exact .after fun _ => .pure (List.forall_mem_nil _)
    · exact .after fun lexemes => ensures_itemsFrom h _ (List.forall_mem_nil _)
  · exact ensures_refuse _ _

end Reader

/-! ## Records -/

open Reader (Ensures)

variable {α σ : Type} {P : α → Prop} {I : σ → Prop}

theorem RecordForm.ensures_refuse (form : RecordForm) (fault : ShapeFault) :
    (form.refuse fault : Reader α).Ensures P :=
  .after fun _ => Reader.ensures_fail _ _

namespace RecordType

variable {type : RecordType}

theorem ensures_need (form : RecordForm) (field : String) {x : Option α} (h : ∀ a ∈ x, P a) :
    (type.need form field x).Ensures P := by
  cases x with
  | none => cases form <;> exact RecordForm.ensures_refuse _ _
  | some a => exact .pure (h a rfl)

theorem ensures_membersFrom {field : σ → String → Reader σ}
    (step : ∀ s key, I s → (field s key).Ensures I) (fuel : Nat) {seen : List String}
    {state : σ} (h : I state) : (membersFrom type field fuel seen state).Ensures I := by
  induction fuel generalizing seen state with
  | zero => exact Reader.ensures_notJson
  | succ fuel ih =>
    unfold membersFrom
    refine .after fun l => ?_
    split
    · refine .after fun key => ?_
      extract_lets following
      have next (s : σ) (hs : I s) : (following s).Ensures I := by
        refine .after fun l => ?_
        split
        · exact .after fun _ => ih hs
        · exact .pure hs
        · exact Reader.ensures_notJson
      split
      · split
        · exact (RecordForm.ensures_refuse (P := I) _ _).bind next
        · exact .after fun _ => (step state key h).bind next
      · exact .after fun _ => .after fun _ => (Ensures.pure h).bind next
    · exact Reader.ensures_notJson

theorem ensures_items {field : σ → String → Reader σ}
    (step : ∀ s key, I s → (field s key).Ensures I) (first : Bool) (names : List String)
    {state : σ} (h : I state) : (items field first names state).Ensures I := by
  induction names generalizing first state with
  | nil => exact .pure h
  | cons name names ih =>
    unfold items
    refine .after fun l => ?_
    split
    · exact .pure h
    · extract_lets following
      have next (u : Unit) : (following u).Ensures I :=
        (step state name h).bind fun s hs => ih false hs
      split
      · exact next ()
      · exact .after next

/-- A record has a property if it follows from an invariant of the fields that have been read. -/
theorem ensures_read {start : σ} {field : RecordForm → σ → String → Reader σ}
    {finish : RecordForm → σ → Reader α} (init : I start)
    (step : ∀ form s key, I s → (field form s key).Ensures I)
    (done : ∀ form s, I s → (finish form s).Ensures P) :
    (type.read start field finish).Ensures P := by
  unfold read
  refine .after fun l => ?_
  split
  · refine .after fun l => ?_
    extract_lets following
    have next (s : σ) (hs : I s) : (following s).Ensures P :=
      (done .members s hs).bind fun a ha => .after fun _ => .pure ha
    split
    · exact (Ensures.pure init).bind next
    · exact .after fun lexemes => (ensures_membersFrom (step .members) _ init).bind next
  · refine (ensures_items (step .items) _ _ init).bind fun s hs =>
      (done .items s hs).bind fun a ha => .after fun l => ?_
    split
    · refine .after fun _ => .after fun l => ?_
      split
      · exact Reader.ensures_notJson
      · exact Reader.ensures_fail _ _
      · exact Reader.ensures_fail _ _
    · exact .after fun _ => .pure ha
  · exact Reader.ensures_refuse _ _

end RecordType

end RuleActivation

import RuleActivation.Proofs.Json.Canonical
import RuleActivation.Proofs.Snapshot.Ensures
import RuleActivation.Proofs.Snapshot.RoundTrip

/-!
# Loading a snapshot and saving it again

A snapshot may be written in many ways that are never used to write one: labels with signs and zeros
before their indices, records as arrays, keys that come twice or in any order, and more. What is
left of them when a snapshot has been loaded is one form, so that saving it and loading it again
changes nothing. Only the keys of the environments can go wrong. They are saved in their order,
and if this brings the key for numbers to the front, the text cannot be loaded any more.

## Main definitions

* `RecordedCase.IsSettled`, `RuleRecord.IsSettled`: what is left of a record that has been loaded
* `Snapshot.isUnreserved`: snapshots in which no object begins with the key for numbers

## Main results

* `Snapshot.isSettled_of_decode`: what has been loaded is settled
* `Snapshot.decode_encode_of_decode`: loading what has been loaded and saved
* `Snapshot.exists_decode_encode_ne`: a text that can be loaded but not after it has been saved
-/

namespace RuleActivation

/-! ## Settled records -/

/-- A case that is read back as it is, if it is read back. -/
structure RecordedCase.IsSettled (c : RecordedCase) : Prop where
  label : c.label.isAddressable = true
  canonical : c.environment.canonical = c.environment
  environment : c.environment.Settled environmentDepth

/-- A record whose cases are read back as they are, if they are read back. -/
structure RuleRecord.IsSettled (r : RuleRecord) : Prop where
  cases : ∀ c ∈ r.cases, c.IsSettled
  unbuilt : ∀ u ∈ r.unbuilt, u.label.isAddressable = true

/-! ## Records that have been loaded -/

open Reader (Ensures)

theorem Reader.ensures_label (form : RecordForm) :
    (label form).Ensures fun l => l.isAddressable = true := by
  unfold label
  refine .after fun s => ?_
  split
  · rename_i read
    exact .pure (CaseLabel.isAddressable_of_parse read)
  · exact RecordForm.ensures_refuse _ _

namespace RecordedCase

/-- Fields of a case that are settled as far as they have been read. -/
structure Partial.IsSettled (p : RecordedCase.Partial) : Prop where
  label : ∀ l ∈ p.label, l.isAddressable = true
  environment : ∀ v ∈ p.environment, v.canonical = v ∧ v.Settled environmentDepth

theorem Partial.IsSettled.field {p : RecordedCase.Partial} (h : p.IsSettled) (form : RecordForm)
    (key : String) : (p.field form key).Ensures Partial.IsSettled := by
  unfold Partial.field
  split
  · refine (Reader.ensures_label form).bind fun l addressable => .pure ⟨?_, h.environment⟩
    rintro _ ⟨⟩
    exact addressable
  · refine (Reader.ensures_value _).bind fun v stable => .pure ⟨h.label, ?_⟩
    rintro _ ⟨⟩
    exact ⟨v.canonical_canonical, Json.reread_canonical stable⟩
  · exact .after fun b => .pure ⟨h.label, h.environment⟩
  · exact .pure h

theorem ensures_read : read.Ensures IsSettled := by
  refine RecordType.ensures_read (I := Partial.IsSettled) ⟨nofun, nofun⟩
    (fun form p key h => h.field form key) fun form p h => ?_
  unfold Partial.finish
  refine (RecordType.ensures_need form "label" h.label).bind fun l label => ?_
  refine (RecordType.ensures_need form "environment" h.environment).bind fun v environment => ?_
  exact .after fun b => .pure ⟨label, environment.1, environment.2⟩

end RecordedCase

namespace UnbuiltCase

theorem ensures_read : read.Ensures fun u => u.label.isAddressable = true := by
  refine RecordType.ensures_read
    (I := fun p : UnbuiltCase.Partial => ∀ l ∈ p.label, l.isAddressable = true) nofun
    (fun form p key h => ?_) fun form p h => ?_
  · unfold Partial.field
    split
    · refine (Reader.ensures_label form).bind fun l addressable => .pure ?_
      rintro _ ⟨⟩
      exact addressable
    · exact .after fun s => .pure h
    · exact .pure h
  · unfold Partial.finish
    refine (RecordType.ensures_need form "label" h).bind fun l label => ?_
    exact .after fun s => .pure label

end UnbuiltCase

namespace RuleRecord

/-- Fields of a record that are settled as far as they have been read. -/
structure Partial.IsSettled (p : RuleRecord.Partial) : Prop where
  cases : ∀ cs ∈ p.cases, ∀ c ∈ cs, c.IsSettled
  unbuilt : ∀ us ∈ p.unbuilt, ∀ u ∈ us, u.label.isAddressable = true

theorem Partial.IsSettled.field {p : RuleRecord.Partial} (h : p.IsSettled) (key : String) :
    (p.field key).Ensures Partial.IsSettled := by
  unfold Partial.field
  split <;> try exact .after fun _ => .pure ⟨h.cases, h.unbuilt⟩
  · refine (Reader.ensures_list RecordedCase.ensures_read).bind fun cs settled =>
      .pure ⟨?_, h.unbuilt⟩
    rintro _ ⟨⟩
    exact settled
  · refine (Reader.ensures_list UnbuiltCase.ensures_read).bind fun us settled =>
      .pure ⟨h.cases, ?_⟩
    rintro _ ⟨⟩
    exact settled
  · exact .pure h

theorem ensures_read : read.Ensures IsSettled := by
  refine RecordType.ensures_read (I := Partial.IsSettled) ⟨nofun, nofun⟩
    (fun form p key h => h.field key) fun form p h => ?_
  unfold Partial.finish
  refine .after fun id => .after fun name => .after fun title => .after fun variableNames =>
    .after fun fingerprint => ?_
  refine (RecordType.ensures_need form "cases" h.cases).bind fun cs settled => .pure ⟨settled, ?_⟩
  cases given : p.unbuilt with
  | none => exact List.forall_mem_nil _
  | some us => exact h.unbuilt us given

end RuleRecord

namespace Snapshot

theorem ensures_read : read.Ensures fun result => ∀ r ∈ result.2.rules, r.IsSettled := by
  refine RecordType.ensures_read
    (I := fun p : Snapshot.Partial => ∀ rs ∈ p.rules, ∀ r ∈ rs, r.IsSettled) nofun
    (fun form p key h => ?_) fun form p h => ?_
  · unfold Partial.field
    split
    · exact .after fun n => .pure h
    · refine (Reader.ensures_list RuleRecord.ensures_read).bind fun rs settled => .pure ?_
      rintro _ ⟨⟩
      exact settled
    · exact .pure h
  · unfold Partial.finish
    refine .after fun n => ?_
    exact (RecordType.ensures_need form "rules" h).bind fun rs settled => .pure settled

/-- A snapshot that has been loaded is settled. -/
theorem isSettled_of_decode {text : String} {s : Snapshot} (h : decode text = .ok s) :
    ∀ r ∈ s.rules, r.IsSettled := by
  unfold decode at h
  split at h
  · cases h
  · cases h
  · rename_i format snapshot rest read
    have settled := ensures_read _ _ _ read
    split at h
    · cases h
    · split at h
      · cases h
        exact settled
      · cases h

end Snapshot

/-! ## Settled records are read back -/

theorem mapM_eq_ite {α : Type} {f : α → Option α} {p : α → Bool} {xs : List α}
    (h : ∀ x ∈ xs, f x = if p x then some x else none) :
    xs.mapM f = if xs.all p then some xs else none := by
  induction xs with
  | nil => rfl
  | cons x xs ih =>
    obtain ⟨first, others⟩ := List.forall_mem_cons.1 h
    rw [Reader.mapM_cons_eq, first, ih others, List.all_cons]
    cases p x <;> cases xs.all p <;> rfl

theorem RecordedCase.IsSettled.reread_eq {c : RecordedCase} (h : c.IsSettled) :
    c.reread = if c.environment.isUnreserved then some c else none := by
  rw [RecordedCase.reread, if_pos h.label, h.environment]
  split
  · rw [Option.map_some, h.canonical]
  · rfl

/-- Whether no object in an environment of a record begins with the key for numbers. -/
def RuleRecord.isUnreserved (r : RuleRecord) : Bool := r.cases.all (·.environment.isUnreserved)

theorem RuleRecord.IsSettled.reread_eq {r : RuleRecord} (h : r.IsSettled) :
    r.reread = if r.isUnreserved then some r else none := by
  have cases := mapM_eq_ite fun c mem => (h.cases c mem).reread_eq
  have unbuilt : r.unbuilt.mapM UnbuiltCase.reread = some r.unbuilt := by
    rw [mapM_eq_ite (p := fun _ => true) fun u mem => by
      rw [UnbuiltCase.reread, if_pos (h.unbuilt u mem), if_pos rfl]]
    simp
  rw [RuleRecord.reread, cases, unbuilt, isUnreserved]
  split <;> rfl

namespace Snapshot

/-- Whether no object in an environment of a snapshot begins with the key for numbers. -/
def isUnreserved (s : Snapshot) : Bool := s.rules.all RuleRecord.isUnreserved

theorem reread_eq_of_isSettled {s : Snapshot} (h : ∀ r ∈ s.rules, r.IsSettled) :
    s.reread = if s.isUnreserved then some s else none := by
  rw [reread, mapM_eq_ite fun r mem => (h r mem).reread_eq, isUnreserved]
  split <;> rfl

/-- What a snapshot is that has been loaded, saved and loaded again: it is the snapshot that was
loaded at first, and it is saved as the same text, unless an object in an environment begins with
the key for numbers when its keys are sorted. Then it cannot be loaded again. -/
theorem decode_encode_of_decode {text : String} {s : Snapshot} (h : decode text = .ok s) :
    (decode s.encode = .ok s ↔ s.isUnreserved = true) ∧
      ∀ s', decode s.encode = .ok s' → s' = s ∧ s'.encode = s.encode := by
  have found : (decode s.encode).toOption = if s.isUnreserved then some s else none := by
    rw [toOption_decode_encode, reread_eq_of_isSettled (isSettled_of_decode h)]
  cases saved : decode s.encode with
  | error e =>
    rw [saved] at found
    cases unreserved : s.isUnreserved with
    | false => exact ⟨⟨nofun, nofun⟩, nofun⟩
    | true => rw [unreserved] at found; cases found
  | ok s' =>
    rw [saved] at found
    cases unreserved : s.isUnreserved with
    | false => rw [unreserved] at found; cases found
    | true =>
      rw [unreserved] at found
      obtain rfl : s' = s := Option.some.inj found
      refine ⟨⟨fun _ => rfl, fun _ => rfl⟩, ?_⟩
      rintro _ ⟨⟩
      exact ⟨rfl, rfl⟩

/-- A snapshot in which records are arrays, indices have signs and zeros, a number has an exponent,
and a key comes twice. -/
def spellingText : String :=
  "[1,[[7,\"a\",\"t\",[],\"f\",null," ++
    "[[\"null_leaf:root.+1.007\",\x7b\"b\":1.50E2,\"a\":1,\"a\":2\x7d,true]]]]]"

theorem decode_encode_of_decode_spelling :
    ∃ s, decode spellingText = .ok s ∧ s.isUnreserved = true ∧ decode s.encode = .ok s ∧
      ∀ s', decode s.encode = .ok s' → s' = s ∧ s'.encode = s.encode := by
  have loaded : (decode spellingText).toOption.any isUnreserved = true := by
    rewrite [decode]
    generalize scanned : Json.scan spellingText = lexemes
    delta spellingText at scanned
    rw [Json.scan, String.toList_append, String.toList_ofList, String.toList_ofList] at scanned
    subst scanned
    decide +kernel
  cases found : decode spellingText with
  | error e =>
    rw [found] at loaded
    cases loaded
  | ok s =>
    rw [found] at loaded
    obtain ⟨again, same⟩ := decode_encode_of_decode found
    exact ⟨s, rfl, loaded, again.2 loaded, same⟩

/-- A snapshot with an environment whose second key is the one for numbers. -/
def reservedText : String :=
  "\x7b\"format\":1,\"rules\":[\x7b\"id\":1,\"name\":\"a\",\"title\":\"t\",\"variables\":[]," ++
    "\"fingerprint\":\"f\",\"cases\":[\x7b\"label\":\"positive_all\",\"environment\":" ++
    "\x7b\"b\":1,\"$serde_json::private::Number\":2\x7d,\"expected\":true\x7d]\x7d]\x7d"

/-- Saving sorts the keys of an environment, and the key for numbers must not come first. -/
theorem exists_decode_encode_ne :
    ∃ s, decode reservedText = .ok s ∧ ∀ s', decode s.encode ≠ .ok s' := by
  have loaded : (decode reservedText).toOption.any (fun s => !s.isUnreserved) = true := by
    rewrite [decode]
    generalize scanned : Json.scan reservedText = lexemes
    delta reservedText at scanned
    rw [Json.scan, String.toList_append, String.toList_append, String.toList_ofList,
      String.toList_ofList, String.toList_ofList] at scanned
    subst scanned
    decide +kernel
  cases found : decode reservedText with
  | error e =>
    rw [found] at loaded
    cases loaded
  | ok s =>
    refine ⟨s, rfl, fun s' again => ?_⟩
    rw [found] at loaded
    have reserved : s.isUnreserved = false := Bool.not_eq_true' _ |>.mp loaded
    have refused : (decode s.encode).toOption = none := by
      rw [toOption_decode_encode, reread_eq_of_isSettled (isSettled_of_decode found), reserved]
      rfl
    rw [again] at refused
    cases refused

end Snapshot

end RuleActivation

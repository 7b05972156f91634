import RuleActivation.Proofs.Dictionary
import RuleActivation.Proofs.Json.Building

/-!
# Reading canonical values back

The canonical form of a value sorts the members of all objects. A value that is read back may
therefore lose this property: an object that does not begin with the key for numbers may do so when
its members are sorted. Nothing else can happen.

## Main definitions

* `isUnreserved`: values in which no object begins with the key for numbers

## Main results

* `canonical_canonical`: a canonical value is its own canonical form
* `reread_canonical`: what the canonical form of a value is read back as
-/

namespace RuleActivation.Json

/-! ## Canonical values -/

theorem canonicalItems_eq_self {items : List Json} (h : ∀ v ∈ items, v.canonical = v) :
    canonicalItems items = items := by
  induction items with
  | nil => rfl
  | cons v vs ih =>
    obtain ⟨first, others⟩ := List.forall_mem_cons.1 h
    rw [canonicalItems, first, ih others]

theorem canonicalMembers_eq_self {members : List (String × Json)}
    (h : ∀ m ∈ members, m.2.canonical = m.2) : canonicalMembers members = members := by
  induction members with
  | nil => rfl
  | cons m ms ih =>
    obtain ⟨first, others⟩ := List.forall_mem_cons.1 h
    rw [canonicalMembers, first, ih others]

mutual

/-- A canonical value is its own canonical form. -/
theorem canonical_canonical (v : Json) : v.canonical.canonical = v.canonical := by
  match v with
  | null | bool _ | number _ | string _ => rfl
  | array items =>
    rw [canonical, canonical, canonicalItems_eq_self (canonical_of_mem_canonicalItems items)]
  | object members =>
    have sorted : ∀ m ∈ (Dictionary.ofList (canonicalMembers members)).entries,
        m.2.canonical = m.2 := fun m mem =>
      canonical_of_mem_canonicalMembers members m (Dictionary.mem_of_mem_entries_ofList mem)
    rw [canonical, canonical, canonicalMembers_eq_self sorted, Dictionary.ofList_entries]

theorem canonical_of_mem_canonicalItems (items : List Json) :
    ∀ v ∈ canonicalItems items, v.canonical = v := by
  match items with
  | [] => exact List.forall_mem_nil _
  | v :: vs =>
    exact List.forall_mem_cons.2 ⟨canonical_canonical v, canonical_of_mem_canonicalItems vs⟩

theorem canonical_of_mem_canonicalMembers (members : List (String × Json)) :
    ∀ m ∈ canonicalMembers members, m.2.canonical = m.2 := by
  match members with
  | [] => exact List.forall_mem_nil _
  | (_, v) :: ms =>
    exact List.forall_mem_cons.2 ⟨canonical_canonical v, canonical_of_mem_canonicalMembers ms⟩

end

/-! ## Reserved objects -/

/-- Whether the first of some members, if any, has another key than the one for numbers. -/
def beginsUnreserved (members : List (String × Json)) : Bool :=
  members.head?.all (·.1 != numberKey)

mutual

/-- Whether no object in a value begins with the key for numbers. -/
def isUnreserved : Json → Bool
  | array items => isUnreservedItems items
  | object members => beginsUnreserved members && isUnreservedMembers members
  | _ => true

/-- Whether no object in some items begins with the key for numbers. -/
def isUnreservedItems : List Json → Bool
  | [] => true
  | v :: vs => v.isUnreserved && isUnreservedItems vs

/-- Whether no object in the values of some members begins with the key for numbers. -/
def isUnreservedMembers : List (String × Json) → Bool
  | [] => true
  | (_, v) :: rest => v.isUnreserved && isUnreservedMembers rest

end

theorem objectOf?_of_beginsUnreserved {members : List (String × Json)}
    (h : beginsUnreserved members = true) : Build.objectOf? members = some (object members) := by
  match members with
  | [] => rfl
  | (key, v) :: ms =>
    exact Build.objectOf?_of_ne (by simpa [beginsUnreserved] using h) v ms

theorem objectOf?_eq_object_iff {members members' : List (String × Json)} :
    Build.objectOf? members = some (object members') ↔
      members = members' ∧ beginsUnreserved members = true := by
  constructor
  · intro made
    match members with
    | [] =>
      cases made
      exact ⟨rfl, rfl⟩
    | (key, v) :: ms =>
      have unreserved : key ≠ numberKey := by
        rintro rfl
        obtain ⟨n, impossible⟩ := Build.exists_number_of_objectOf? made
        cases impossible
      cases (Build.objectOf?_of_ne unreserved v ms).symm.trans made
      exact ⟨rfl, by simpa [beginsUnreserved] using unreserved⟩
  · rintro ⟨rfl, unreserved⟩
    exact objectOf?_of_beginsUnreserved unreserved

/-- An object that begins with the key for numbers and has another member is refused. -/
theorem objectOf?_of_not_beginsUnreserved {members : List (String × Json)}
    (h : beginsUnreserved members = false) {m : String × Json} (mem : m ∈ members)
    (other : m.1 ≠ numberKey) : Build.objectOf? members = none := by
  match members with
  | [] => cases h
  | (key, v) :: ms =>
    obtain rfl : key = numberKey := by simpa [beginsUnreserved] using h
    rcases List.mem_cons.1 mem with rfl | later
    · exact absurd rfl other
    · obtain ⟨n, ns, rfl⟩ := List.exists_cons_of_ne_nil (List.ne_nil_of_mem later)
      cases v <;> simp [Build.objectOf?]

theorem reread_object_eq_self_iff {depth : Nat} {members : List (String × Json)} :
    (object members).reread (depth + 1) = some (object members) ↔
      (∀ m ∈ members, m.2.reread depth = some m.2) ∧ beginsUnreserved members = true := by
  rw [reread, Option.bind_eq_some_iff, ← rereadMembers_eq_self_iff]
  constructor
  · rintro ⟨ns, read, made⟩
    obtain ⟨rfl, unreserved⟩ := objectOf?_eq_object_iff.1 made
    exact ⟨read, unreserved⟩
  · rintro ⟨read, unreserved⟩
    exact ⟨members, read, objectOf?_of_beginsUnreserved unreserved⟩

/-! ## Reading canonical values back -/

/-- A value is read back as itself, or it is not read back because of a reserved object. -/
def Settled (depth : Nat) (v : Json) : Prop :=
  v.reread depth = if v.isUnreserved then some v else none

theorem rereadItems_of_settled {depth : Nat} {items : List Json}
    (h : ∀ v ∈ items, v.Settled depth) :
    rereadItems depth items = if isUnreservedItems items then some items else none := by
  induction items with
  | nil => rfl
  | cons v vs ih =>
    obtain ⟨first, others⟩ := List.forall_mem_cons.1 h
    rw [rereadItems, first, ih others, isUnreservedItems]
    cases v.isUnreserved <;> cases isUnreservedItems vs <;> rfl

theorem rereadMembers_of_settled {depth : Nat} {members : List (String × Json)}
    (h : ∀ m ∈ members, m.2.Settled depth) :
    rereadMembers depth members = if isUnreservedMembers members then some members else none := by
  induction members with
  | nil => rfl
  | cons m ms ih =>
    obtain ⟨first, others⟩ := List.forall_mem_cons.1 h
    rw [rereadMembers, first, ih others, isUnreservedMembers]
    cases m.2.isUnreserved <;> cases isUnreservedMembers ms <;> rfl

theorem settled_array {depth : Nat} {items : List Json} (h : ∀ v ∈ items, v.Settled depth) :
    (array items).Settled (depth + 1) := by
  rw [Settled, reread, rereadItems_of_settled h, isUnreserved]
  cases isUnreservedItems items <;> rfl

/-- Sorting the members of an object may bring the key for numbers to the front, but then there is
another member behind it. -/
theorem settled_object {depth : Nat} {members : List (String × Json)}
    (h : ∀ m ∈ members, m.2.Settled depth)
    (others : beginsUnreserved members = true ∨ ∃ m ∈ members, m.1 ≠ numberKey) :
    (object members).Settled (depth + 1) := by
  rw [Settled, reread, rereadMembers_of_settled h, isUnreserved]
  cases isUnreservedMembers members with
  | false => rw [Bool.and_false]; rfl
  | true =>
    cases begins : beginsUnreserved members with
    | true => exact objectOf?_of_beginsUnreserved begins
    | false =>
      obtain ⟨m, mem, other⟩ := others.resolve_left (by simp [begins])
      exact objectOf?_of_not_beginsUnreserved begins mem other

mutual

/-- The canonical form of a value that is read back is read back, unless an object in it begins
with the key for numbers. -/
theorem reread_canonical {v : Json} {depth : Nat} (h : v.reread depth = some v) :
    v.canonical.Settled depth := by
  match v, depth with
  | null, _ | bool _, _ | number _, _ | string _, _ =>
    simp [Settled, canonical, reread, isUnreserved]
  | array _, 0 | object _, 0 => simp [reread] at h
  | array items, depth + 1 =>
    exact settled_array (settled_of_mem_canonicalItems (reread_array_eq_self_iff.1 h))
  | object members, depth + 1 =>
    obtain ⟨stable, begins⟩ := reread_object_eq_self_iff.1 h
    refine settled_object (fun m mem => settled_of_mem_canonicalMembers stable m
      (Dictionary.mem_of_mem_entries_ofList mem)) ?_
    match members with
    | [] => exact .inl rfl
    | (key, v) :: ms =>
      have first : (key, v.canonical) ∈ canonicalMembers ((key, v) :: ms) := List.mem_cons_self
      obtain ⟨w, mem⟩ := Dictionary.exists_mem_entries_ofList first
      exact .inr ⟨_, mem, by simpa [beginsUnreserved] using begins⟩

theorem settled_of_mem_canonicalItems {items : List Json} {depth : Nat}
    (h : ∀ v ∈ items, v.reread depth = some v) : ∀ v ∈ canonicalItems items, v.Settled depth := by
  match items with
  | [] => exact List.forall_mem_nil _
  | v :: vs =>
    obtain ⟨first, others⟩ := List.forall_mem_cons.1 h
    exact List.forall_mem_cons.2 ⟨reread_canonical first, settled_of_mem_canonicalItems others⟩

theorem settled_of_mem_canonicalMembers {members : List (String × Json)} {depth : Nat}
    (h : ∀ m ∈ members, m.2.reread depth = some m.2) :
    ∀ m ∈ canonicalMembers members, m.2.Settled depth := by
  match members with
  | [] => exact List.forall_mem_nil _
  | (_, v) :: ms =>
    obtain ⟨first, others⟩ := List.forall_mem_cons.1 h
    exact List.forall_mem_cons.2 ⟨reread_canonical first, settled_of_mem_canonicalMembers others⟩

end

end RuleActivation.Json

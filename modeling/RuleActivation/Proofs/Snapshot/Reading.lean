import RuleActivation.Proofs.Json.Rereading
import RuleActivation.Snapshot.Reading

/-!
# Readers on printed documents

What a reader makes of the tokens of a printed value, whatever follows them. The readers of parts
are followed one after the other, and those of lists and records item by item and member by
member, so that a reader of documents is understood part by part.

## Main definitions

* `Reader.Reads`: a reader makes something of certain tokens, or it fails on them
* `RecordType.Member`: a member of a printed record, and what it does to the fields that are read

## Main results

* `Reader.Reads.bind`: readers one after the other
* `Reader.reads_list`: the reader of a list
* `RecordType.reads_object`: the reader of a record
-/

namespace RuleActivation

open Json (Lexeme Token)

namespace Reader

variable {α β : Type}

/-! ## Readers one after the other -/

/-- A reader takes certain tokens, whatever follows them, and has a result, or it fails. -/
def Reads (r : Reader α) (tokens : List Token) (result : Option α) : Prop :=
  ∀ lexemes rest : List Lexeme, lexemes.map Lexeme.token = tokens →
    (r.run (lexemes ++ rest)).toOption = result.map (·, rest)

variable {r : Reader α} {f : α → Reader β} {tokens more : List Token} {t : Token}
  {x : Option α} {result : Option β}

theorem toOption_run_bind (r : Reader α) (f : α → Reader β) (lexemes : List Lexeme) :
    ((r >>= f).run lexemes).toOption =
      (r.run lexemes).toOption.bind fun p => ((f p.1).run p.2).toOption := by
  rw [StateT.run_bind]
  cases r.run lexemes <;> rfl

theorem toOption_run_get (lexemes : List Lexeme) :
    ((get : Reader (List Lexeme)).run lexemes).toOption = some (lexemes, lexemes) := rfl

theorem Reads.pure (a : α) : Reads (pure a) [] (some a) := fun lexemes rest h => by
  rw [List.map_eq_nil_iff.1 h]
  rfl

theorem Reads.bind {y : α → Option β} (h : r.Reads tokens x)
    (k : ∀ a, x = some a → (f a).Reads more (y a)) :
    (r >>= f).Reads (tokens ++ more) (x.bind y) := fun lexemes rest split => by
  obtain ⟨first, others, rfl, hfirst, hothers⟩ := List.map_eq_append_iff.1 split
  rw [toOption_run_bind, List.append_assoc, h first (others ++ rest) hfirst]
  cases hx : x with
  | none => rfl
  | some a => exact k a hx others rest hothers

theorem Reads.map (g : α → β) (h : r.Reads tokens x) : (g <$> r).Reads tokens (x.map g) := by
  rw [map_eq_pure_bind, Option.map_eq_bind, ← List.append_nil tokens]
  exact h.bind fun a _ => Reads.pure (g a)

theorem Reads.return (g : α → β) (h : r.Reads tokens x) :
    (do return g (← r) : Reader β).Reads tokens (x.map g) := by
  rw [bind_pure_comp]
  exact h.map g

theorem Reads.next {f : Lexeme → Reader β} (h : ∀ l, l.token = t → (f l).Reads tokens result) :
    (Reader.next >>= f).Reads (t :: tokens) result := fun lexemes rest ht => by
  obtain ⟨l, others, rfl, hl, hothers⟩ := List.map_eq_cons_iff.1 ht
  exact h l hl others rest hothers

theorem Reads.peek {f : Lexeme → Reader β}
    (h : ∀ l, l.token = t → (f l).Reads (t :: tokens) result) :
    (Reader.peek >>= f).Reads (t :: tokens) result := fun lexemes rest ht => by
  obtain ⟨l, others, rfl, hl, -⟩ := List.map_eq_cons_iff.1 ht
  exact h l hl (l :: others) rest ht

theorem Reads.get {f : List Lexeme → Reader β}
    (h : ∀ lexemes, tokens.length ≤ lexemes.length → (f lexemes).Reads tokens result) :
    (MonadStateOf.get >>= f).Reads tokens result := fun lexemes rest ht => by
  have long : tokens.length ≤ (lexemes ++ rest).length := by
    simp [← ht]
  exact h (lexemes ++ rest) long lexemes rest ht

theorem Reads.bind_some {a : α} (h : r.Reads tokens (some a)) (k : (f a).Reads more result) :
    (r >>= f).Reads (tokens ++ more) result :=
  h.bind (y := fun _ => result) fun _ hb => Option.some.inj hb ▸ k

/-! ## Parts -/

theorem reads_expect (t : Token) : (expect t).Reads [t] (some ()) := by
  unfold expect
  refine Reads.next fun l hl => ?_
  rw [if_pos hl]
  exact Reads.pure ()

theorem Reads.expect {f : Unit → Reader β} (h : (f ()).Reads tokens result) :
    (Reader.expect t >>= f).Reads (t :: tokens) result :=
  (reads_expect t).bind fun _ _ => h

theorem reads_textOf (s : String) : (textOf (Json.pieces s)).Reads [] (some s) := by
  rw [textOf, Json.Piece.text?_pieces]
  exact Reads.pure s

theorem reads_text (s : String) : text.Reads (Json.string s).tokens (some s) := by
  unfold text
  refine Reads.next fun l hl => ?_
  rw [hl]
  exact reads_textOf s

theorem reads_bool (b : Bool) : bool.Reads (Json.bool b).tokens (some b) := by
  unfold bool
  refine Reads.next fun l hl => ?_
  rw [hl]
  exact Reads.pure b

theorem integerOf?_ofInt {i : Int} (low : Int64.minValue.toInt ≤ i) (high : i < UInt64.size) :
    integerOf? (.ofInt i) = some i := by
  have sign : ((Json.Number.ofInt i).negative && i == 0) = false := by
    simp only [Json.Number.ofInt, Bool.and_eq_false_iff, decide_eq_false_iff_not,
      beq_eq_false_iff_ne]
    omega
  rw [integerOf?, Json.Number.toInt?_ofInt, Option.filter_some, sign, if_pos]
  simp only [Bool.and_eq_true, decide_eq_true_eq]
  exact ⟨⟨low, high⟩, rfl⟩

/-- An integer within the bounds is read back. -/
theorem reads_integer {low high i : Int} (wanted : String) (above : low ≤ i) (below : i ≤ high)
    (signed : Int64.minValue.toInt ≤ i) (sized : i < UInt64.size) :
    (integer low high wanted).Reads (Json.ofInt i).tokens (some i) := by
  unfold integer
  refine Reads.next fun l hl => ?_
  simp only [hl, integerOf?_ofInt signed sized, if_pos (And.intro above below)]
  exact Reads.pure i

theorem toOption_run_fail (fault : ShapeFault) (place : Text.Place) (lexemes : List Lexeme) :
    ((fail fault place : Reader α).run lexemes).toOption = none := rfl

theorem toOption_run_refuse (wanted : String) (l : Lexeme) (lexemes : List Lexeme) :
    ((refuse wanted l : Reader α).run lexemes).toOption = none := by
  unfold refuse
  split <;> try exact toOption_run_fail ..
  · rw [toOption_run_bind]
    simp [toOption_run_fail]
  · rfl

/-- A value is read back as far as JSON is. -/
theorem reads_value (depth : Nat) (v : Json) :
    (value (.full depth)).Reads v.tokens (v.reread depth) := fun lexemes rest h => by
  have taken : ((value (.full depth)).run (lexemes ++ rest)).toOption =
      (Json.take (.full depth) (lexemes ++ rest)).toOption := by
    unfold value
    rw [toOption_run_bind, toOption_run_get, Option.bind_some]
    split <;> rename_i found <;> rw [found]
    · rfl
    · exact toOption_run_refuse ..
    · rfl
  rw [taken, Json.toOption_take_of_tokens depth h rest]

/-! ## Lists -/

section

variable {γ : Type} {item : Reader α} {toJson : γ → Json} {back : γ → Option α}

theorem mapM_cons_eq (back : γ → Option α) (c : γ) (cs : List γ) :
    (c :: cs).mapM back = (back c).bind fun a => (cs.mapM back).map (a :: ·) := by
  rw [List.mapM_cons]
  cases back c with
  | none => rfl
  | some a => cases cs.mapM back <;> rfl

theorem length_le_length_itemTokens (vs : List Json) : vs.length ≤ (Json.itemTokens vs).length := by
  induction vs with
  | nil => exact Nat.zero_le _
  | cons v vs ih =>
    rw [Json.itemTokens, List.length_cons, List.length_cons, List.length_append]
    omega

theorem reads_itemsFrom (c : γ) (cs : List γ)
    (h : ∀ d ∈ c :: cs, item.Reads (toJson d).tokens (back d)) {fuel : Nat}
    (enough : cs.length < fuel) (found : List α) :
    (itemsFrom item fuel found).Reads
      ((toJson c).tokens ++ (Json.itemTokens (cs.map toJson) ++ [.closeArray]))
      (((c :: cs).mapM back).map (found.reverse ++ ·)) := by
  induction cs generalizing c fuel found with
  | nil =>
    obtain ⟨fuel, rfl⟩ := Nat.exists_eq_add_one_of_ne_zero (Nat.ne_of_gt enough)
    have result : ([c].mapM back).map (found.reverse ++ ·) =
        (back c).bind fun a => some (a :: found).reverse := by
      cases h : back c <;> simp [h]
    rw [result]
    refine (h c List.mem_cons_self).bind fun a _ => Reads.next fun l hl => ?_
    rw [hl]
    exact Reads.pure _
  | cons d cs ih =>
    obtain ⟨fuel, rfl⟩ := Nat.exists_eq_add_one_of_ne_zero (Nat.ne_of_gt (Nat.zero_lt_of_lt enough))
    have result : ((c :: d :: cs).mapM back).map (found.reverse ++ ·) =
        (back c).bind fun a => ((d :: cs).mapM back).map ((a :: found).reverse ++ ·) := by
      rw [mapM_cons_eq]
      cases back c with
      | none => rfl
      | some a => cases (d :: cs).mapM back <;> simp
    rw [result, List.map_cons, Json.itemTokens, List.cons_append, List.append_assoc]
    refine (h c List.mem_cons_self).bind fun a _ => Reads.next fun l hl => ?_
    rw [hl]
    exact ih d (fun e he => h e (List.mem_cons_of_mem _ he)) (by simpa using enough) (a :: found)

/-- A list is read back item by item. There is fuel enough: it is the number of tokens that are
left, and every item has one at least. -/
theorem reads_list (cs : List γ) (h : ∀ c ∈ cs, item.Reads (toJson c).tokens (back c)) :
    (list item).Reads (Json.ofList toJson cs).tokens (cs.mapM back) := by
  unfold list
  match cs with
  | [] =>
    refine Reads.next fun l hl => ?_
    rw [hl]
    refine Reads.peek fun l hl => ?_
    rw [if_pos hl]
    exact Reads.next fun _ _ => Reads.pure []
  | c :: cs =>
    have tokens : (Json.ofList toJson (c :: cs)).tokens = .openArray ::
        ((toJson c).tokens ++ (Json.itemTokens (cs.map toJson) ++ [.closeArray])) := by
      rw [Json.ofList, List.map_cons, Json.tokens]
    rw [tokens]
    refine Reads.next fun l hl => ?_
    rw [hl]
    have all (fuel : Nat) (enough : cs.length < fuel) := reads_itemsFrom c cs h enough []
    obtain ⟨ts, hts⟩ := Json.tokens_eq_cons (toJson c)
    simp only [hts, List.cons_append] at all ⊢
    refine Reads.peek fun l hl => ?_
    rw [if_neg (hl ▸ (Json.firstToken_ne_close (toJson c)).1)]
    refine Reads.get fun lexemes long => ?_
    have enough : cs.length < lexemes.length := by
      have := length_le_length_itemTokens (cs.map toJson)
      simp only [List.length_map, List.length_cons, List.length_append] at this long
      omega
    simpa using all _ enough

end

end Reader

/-! ## Records -/

namespace RecordType

variable {α σ : Type}

/-- A member of a printed record: its name, its value, and what reading it does to the fields that
have been read. -/
structure Member (σ : Type) where
  name : String
  value : Json
  update : σ → Option σ

namespace Member

/-- The member as it is printed. -/
def entry (m : Member σ) : String × Json := (m.name, m.value)

/-- What reading some members does to the fields that have been read. -/
def updateAll : List (Member σ) → σ → Option σ
  | [], s => some s
  | m :: ms, s => (m.update s).bind (updateAll ms)

end Member

open Reader (Reads)

variable {type : RecordType} {field : σ → String → Reader σ} {finish : σ → Reader α}
  {result : σ → Option α} {more : List Token}

theorem length_le_length_memberTokens (members : List (String × Json)) :
    members.length ≤ (Json.memberTokens members).length := by
  induction members with
  | nil => exact Nat.zero_le _
  | cons member members ih =>
    rw [Json.memberTokens]
    simp only [List.length_cons, List.length_append]
    omega

/-- A member of a record is read back before the members after it. -/
theorem reads_member (m : Member σ) (known : m.name ∈ type.fields) {seen : List String}
    (fresh : m.name ∉ seen) {state : σ}
    (reads : (field state m.name).Reads m.value.tokens (m.update state)) {fuel : Nat}
    (others : ∀ s, ((do
      match (← Reader.peek).token with
      | .comma =>
        Reader.expect .comma
        membersFrom type field fuel (m.name :: seen) s
      | .closeObject => return s
      | _ => Reader.notJson) >>= finish).Reads more (result s)) :
    (membersFrom type field (fuel + 1) seen state >>= finish).Reads
      (.string (Json.pieces m.name) :: .colon :: (m.value.tokens ++ more))
      ((m.update state).bind result) := by
  have isField : type.fields.contains m.name = true := List.contains_iff_mem.2 known
  have isNew : seen.contains m.name = false := by simpa using fresh
  rw [membersFrom, bind_assoc]
  refine Reads.next fun l hl => ?_
  simp only [hl]
  rw [bind_assoc]
  refine (Reader.reads_textOf m.name).bind_some ?_
  simp only [isField, isNew, if_true, Bool.false_eq_true, if_false]
  rw [bind_assoc]
  refine Reads.expect ?_
  rw [bind_assoc]
  exact reads.bind fun s _ => others s

/-- The members of a record are read back one by one, up to its end. -/
theorem reads_membersFrom (m : Member σ) (ms : List (Member σ))
    (known : ∀ n ∈ m :: ms, n.name ∈ type.fields)
    (reads : ∀ s, ∀ n ∈ m :: ms, (field s n.name).Reads n.value.tokens (n.update s))
    {fuel : Nat} (enough : ms.length < fuel) {seen : List String}
    (fresh : (seen ++ (m :: ms).map Member.name).Nodup) (state : σ)
    (done : ∀ s, (finish s).Reads (.closeObject :: more) (result s)) :
    (membersFrom type field fuel seen state >>= finish).Reads
      (.string (Json.pieces m.name) :: .colon :: (m.value.tokens ++
        (Json.memberTokens (ms.map Member.entry) ++ .closeObject :: more)))
      ((Member.updateAll (m :: ms) state).bind result) := by
  induction ms generalizing m fuel seen state with
  | nil =>
    obtain ⟨fuel, rfl⟩ := Nat.exists_eq_add_one_of_ne_zero (Nat.ne_of_gt enough)
    rw [Member.updateAll, Option.bind_assoc]
    refine reads_member m (known m List.mem_cons_self) (by grind) (reads state m List.mem_cons_self)
      fun s => ?_
    rw [bind_assoc]
    refine Reads.peek fun l hl => ?_
    simp only [hl, pure_bind]
    exact done s
  | cons n ms ih =>
    obtain ⟨fuel, rfl⟩ := Nat.exists_eq_add_one_of_ne_zero (Nat.ne_of_gt (Nat.zero_lt_of_lt enough))
    rw [Member.updateAll, Option.bind_assoc]
    refine reads_member m (known m List.mem_cons_self) (by grind) (reads state m List.mem_cons_self)
      fun s => ?_
    rw [bind_assoc]
    refine Reads.peek fun l hl => ?_
    simp only [hl]
    rw [bind_assoc]
    refine Reads.expect ?_
    have later : (m.name :: seen ++ (n :: ms).map Member.name).Nodup := by grind
    have next := ih n (fun e he => known e (List.mem_cons_of_mem _ he))
      (fun s e he => reads s e (List.mem_cons_of_mem _ he)) (Nat.lt_of_succ_lt_succ enough) later s
    simpa [Json.memberTokens, Member.entry] using next

/-- A record is read back member by member. -/
theorem reads_object {start : σ} {field : RecordForm → σ → String → Reader σ}
    {finish : RecordForm → σ → Reader α} {result : σ → Option α} (ms : List (Member σ))
    (known : ∀ n ∈ ms, n.name ∈ type.fields) (fresh : (ms.map Member.name).Nodup)
    (reads : ∀ s, ∀ n ∈ ms, (field .members s n.name).Reads n.value.tokens (n.update s))
    (done : ∀ s, (finish .members s).Reads [] (result s)) :
    (type.read start field finish).Reads (Json.object (ms.map Member.entry)).tokens
      ((Member.updateAll ms start).bind result) := by
  have last (s : σ) : (do
      let record ← finish .members s
      Reader.expect .closeObject
      return record).Reads [.closeObject] (result s) := by
    rw [← Option.bind_fun_some (result s)]
    exact (done s).bind fun a _ => Reads.expect (Reads.pure a)
  unfold read
  match ms with
  | [] =>
    refine Reads.next fun l hl => ?_
    simp only [hl]
    refine Reads.peek fun l hl => ?_
    simp only [hl, if_true, pure_bind]
    exact last start
  | m :: ms =>
    refine Reads.next fun l hl => ?_
    simp only [hl]
    refine Reads.peek fun l hl => ?_
    simp only [hl, reduceCtorEq, if_false]
    refine Reads.get fun lexemes long => ?_
    have enough : ms.length < lexemes.length := by
      have := length_le_length_memberTokens (ms.map Member.entry)
      simp only [List.length_map, List.length_cons, List.length_append] at this long
      omega
    exact reads_membersFrom m ms known reads enough fresh start last

end RecordType

end RuleActivation

import RuleActivation.Directory
import RuleActivation.Proofs.Success

/-!
# Reading what has been written

Writing a file makes no folder disappear, so that all paths lead where they led before. The text
that is written is read back, and files at other places are left as they are.

## Main results

* `Directory.locate_put`: paths lead where they led before
* `Directory.read_of_write`: reading what has been written
* `Directory.read_of_write_of_ne`: reading another file
-/

namespace RuleActivation.Directory

variable {d d' : Directory} {place other : List String} {content : Content}

/-! ## Contents -/

theorem lookup_append_eq {files : List (List String × Content)} (h : files.lookup place = none) :
    (files ++ [(place, content)]).lookup place = some content := by
  rw [List.lookup_append, h]
  simp

theorem lookup_append_of_ne {files : List (List String × Content)} (h : other ≠ place) :
    (files ++ [(place, content)]).lookup other = files.lookup other := by
  rw [List.lookup_append]
  simp [List.lookup_cons, beq_false_of_ne h]

theorem lookup_replace {files : List (List String × Content)} :
    (files.map fun (q, old) => (q, if q = place then content else old)).lookup other =
      (files.lookup other).map fun old => if other = place then content else old := by
  induction files with
  | nil => rfl
  | cons file files ih =>
    rw [List.map_cons, List.lookup_cons, List.lookup_cons, ih]
    split
    · rename_i same
      rw [Option.map_some, eq_of_beq same]
    · rfl

/-- What is put at a place is there. -/
theorem content?_put (h : place ≠ sink) : (d.put place content).content? place = some content := by
  rw [content?, if_neg h, put, if_neg h]
  split
  · rename_i file
    rw [isFile, content?, if_neg h] at file
    obtain ⟨old, there⟩ := Option.isSome_iff_exists.1 file
    rw [lookup_replace, there]
    simp
  · rename_i new
    rw [isFile, content?, if_neg h] at new
    exact lookup_append_eq (Option.not_isSome_iff_eq_none.1 new)

/-- What is at other places is left as it is. -/
theorem content?_put_of_ne (h : other ≠ place) :
    (d.put place content).content? other = d.content? other := by
  rw [content?, content?, put]
  split
  · rfl
  · split
    · rfl
    · split
      · rw [lookup_replace]
        simp [h]
      · exact lookup_append_of_ne h

/-! ## Paths -/

/-- Folders stay folders. -/
theorem isFolder_put (h : d.isFolder other = true) :
    (d.put place content).isFolder other = true := by
  have below (here : Directory)
      (keep : ∀ file ∈ d.files, ∃ file' ∈ here.files, file'.1 = file.1) :
      here.isFolder other = true := by
    rw [isFolder, Bool.or_eq_true] at h ⊢
    refine h.imp_right fun inside => ?_
    obtain ⟨file, mem, under⟩ := List.any_eq_true.1 inside
    obtain ⟨file', mem', same⟩ := keep file mem
    refine List.any_eq_true.2 ⟨file', mem', ?_⟩
    simpa [same] using under
  rw [put]
  split
  · exact h
  · split
    · exact below _ fun file mem => ⟨_, List.mem_map_of_mem mem, rfl⟩
    · exact below _ fun file mem => ⟨file, List.mem_append_left _ mem, rfl⟩

theorem enter_eq_ok_iff {here : List String} : d.enter here = .ok () ↔ d.isFolder here = true := by
  rw [enter]
  split <;> simp_all

theorem walk_put {here steps : List String} (h : d.walk here steps = .ok other) :
    (d.put place content).walk here steps = .ok other := by
  induction steps generalizing here with
  | nil => exact h
  | cons name rest ih =>
    obtain ⟨_, entered, h⟩ := bind_eq_ok_iff.1 h
    -- the places on the way are folders as before; the steps do not depend on the files
    refine bind_eq_ok_iff.2
      ⟨(), enter_eq_ok_iff.2 (isFolder_put (enter_eq_ok_iff.1 entered)), ?_⟩
    by_cases stay : name = "."
    · rw [if_pos stay] at h ⊢
      exact ih h
    · rw [if_neg stay] at h ⊢
      by_cases up : name = ".."
      · rw [if_pos up] at h ⊢
        exact ih h
      · rw [if_neg up] at h ⊢
        split at h
        · cases h
        · rename_i short
          rw [if_neg short]
          exact ih h

/-- Paths lead where they led before. -/
theorem locate_put {path : String} (h : d.locate path = .ok other) :
    (d.put place content).locate path = .ok other := by
  unfold locate follow at h ⊢
  split at h
  · cases h
  · rename_i short
    split at h
    · cases h
    · rename_i some
      rw [if_neg short, if_neg some]
      exact walk_put h

/-! ## Reading and writing -/

theorem exists_place_of_write {path text : String} (h : d.write path text = .ok d') :
    asksForFolder path = false ∧
      ∃ place, d.locate path = .ok place ∧ d' = d.put place (some text) := by
  unfold write at h
  split at h
  · obtain ⟨_, -, h⟩ := bind_eq_ok_iff.1 h
    obtain ⟨_, -, h⟩ := bind_eq_ok_iff.1 h
    cases h
  · rename_i file
    obtain ⟨place, led, h⟩ := bind_eq_ok_iff.1 h
    split at h
    · cases h
    · exact ⟨Bool.eq_false_iff.2 file, place, led, (Except.ok.inj h).symm⟩

theorem read_eq_ok_iff {path text : String} : d.read path = .ok text ↔
    asksForFolder path = false ∧
      ∃ place, d.locate path = .ok place ∧ d.content? place = some (some text) := by
  unfold read
  rw [bind_eq_ok_iff]
  constructor
  · rintro ⟨place, led, h⟩
    split at h
    · rename_i content there
      split at h
      · cases h
      · rename_i file
        refine ⟨Bool.eq_false_iff.2 file, place, led, ?_⟩
        cases content with
        | none => cases h
        | some old => rw [there, Except.ok.inj h]
    · cases h
  · rintro ⟨file, place, led, there⟩
    refine ⟨place, led, ?_⟩
    simp [there, file]

/-- The text that has been written to a path is read back, unless it has gone to the sink. -/
theorem read_of_write {path text : String} (h : d.write path text = .ok d')
    (kept : d.locate path ≠ .ok sink) : d'.read path = .ok text := by
  obtain ⟨file, place, led, rfl⟩ := exists_place_of_write h
  have other : place ≠ sink := fun same => kept (same ▸ led)
  exact read_eq_ok_iff.2 ⟨file, place, locate_put led, content?_put other⟩

/-- Files at other places are left as they are. -/
theorem read_of_write_of_ne {path text other before : String} (h : d.write path text = .ok d')
    (apart : d.locate path ≠ d.locate other) (there : d.read other = .ok before) :
    d'.read other = .ok before := by
  obtain ⟨-, place, led, rfl⟩ := exists_place_of_write h
  obtain ⟨file, place', led', content⟩ := read_eq_ok_iff.1 there
  have ne : place' ≠ place := fun same => apart (by rw [led, led', same])
  exact read_eq_ok_iff.2 ⟨file, place', locate_put led', (content?_put_of_ne ne).trans content⟩

end RuleActivation.Directory

import ModelFactory.Proofs.Files.Writes

/-!
# Reading what was written

A text that is written is read again from its path (`Store.read_of_write`), and a file keeps its
content when another place is written to (`Store.read_keeps`). Both hold since writing takes no
directory away (`Store.KeepsDirectories`), so every path is followed as before.
-/

set_option autoImplicit false

namespace ModelFactory.Files.Store

open Results (exists_of_bind_eq_ok)

variable {store after : Store} {place reached : Place}

/-- Every directory is still one, and relative paths start where they started. -/
structure KeepsDirectories (store after : Store) : Prop where
  workingDirectory : after.workingDirectory = store.workingDirectory
  directory : ∀ place, store.itemAt? place = some .directory →
    after.itemAt? place = some .directory

namespace KeepsDirectories

theorem refl (store : Store) : store.KeepsDirectories store := ⟨rfl, fun _ hplace => hplace⟩

theorem trans {later : Store} (hfirst : store.KeepsDirectories after)
    (hsecond : after.KeepsDirectories later) : store.KeepsDirectories later :=
  ⟨hsecond.workingDirectory.trans hfirst.workingDirectory,
    fun place hplace => hsecond.directory place (hfirst.directory place hplace)⟩

theorem step (hkeeps : store.KeepsDirectories after) {part : String}
    (h : store.step place part = .ok reached) : after.step place part = .ok reached := by
  have hdirectory := (step_eq_lead h).1
  have hafter := hkeeps.directory place hdirectory
  unfold Store.step at h ⊢
  rw [hdirectory] at h
  rw [hafter]
  exact h

/-- A path is followed as before. -/
theorem follow (hkeeps : store.KeepsDirectories after) {parts : List String}
    (h : store.follow place parts = .ok reached) : after.follow place parts = .ok reached := by
  induction parts generalizing place with
  | nil => exact h
  | cons part parts ih =>
    rw [Store.follow, List.foldlM_cons] at h
    obtain ⟨next, hnext, hrest⟩ := exists_of_bind_eq_ok h
    rw [Store.follow, List.foldlM_cons, hkeeps.step hnext]
    exact ih hrest

theorem start (hkeeps : store.KeepsDirectories after) (path : Path) :
    after.start path = store.start path := by
  rw [Store.start, Store.start, hkeeps.workingDirectory]

end KeepsDirectories

/-- The last name of a path is followed like the parts before it. -/
theorem target_follows {path : Path} {name : String}
    (h : store.target path = .ok (place, some name)) :
    path.isEmpty = false ∧ store.follow (store.start path) path.parts = .ok (place ++ [name]) := by
  obtain ⟨hempty, hends, haround, next, hnext⟩ := target_eq_ok_some_iff.1 h
  have hplace : next = place ++ [name] := by
    rw [(step_eq_lead hnext).2, Place.lead, hends.stays, if_neg (by decide), if_neg hends.up]
  have hparts : path.parts = path.around.parts ++ [name] := by
    obtain ⟨front, hfront⟩ := List.getLast?_eq_some_iff.1 hends.last
    show path.parts = path.parts.dropLast ++ [name]
    rw [hfront, List.dropLast_concat]
  refine ⟨hempty, ?_⟩
  rw [hparts, follow_append, haround, ← hplace, ← hnext, ← follow_singleton]
  rfl

/-! ## After a file is written -/

/-- What a text is written to is no directory, and it is reached by following the whole path. -/
theorem write_follows {text content : String} (h : store.write text content = .ok after) :
    checked text = .ok (.ofText text) ∧ (Path.ofText text).isEmpty = false ∧
      store.follow (store.start (.ofText text)) (Path.ofText text).parts =
        .ok (placeOf store.workingDirectory text) ∧
      store.itemAt? (placeOf store.workingDirectory text) ≠ some .directory := by
  obtain ⟨hpath, around, name, htarget, hfile, -⟩ := write_eq_ok_iff.1 h
  obtain ⟨hempty, hfollow⟩ := target_follows htarget
  have hplace : around ++ [name] = placeOf store.workingDirectory text := follow_eq_walk hfollow
  rw [hplace] at hfollow hfile
  exact ⟨hpath, hempty, hfollow, hfile⟩

theorem itemAt?_put {place other : Place} (hne : place ≠ []) (store : Store) (entry : Entry) :
    (store.put place entry).itemAt? other =
      if place = other then some entry else store.itemAt? other := by
  unfold itemAt?
  rw [getElem?_put]
  by_cases hother : place = other
  · subst hother
    rw [if_neg (by simpa using hne), if_pos rfl, if_pos rfl]
  · rw [if_neg hother, if_neg hother]

/-- Writing a file takes no directory away. -/
theorem write_keepsDirectories {text content : String} (h : store.write text content = .ok after) :
    store.KeepsDirectories after := by
  obtain ⟨-, -, -, hfile⟩ := write_follows h
  obtain ⟨rfl, name, hends⟩ := write_eq_put h
  refine ⟨rfl, fun place hplace => ?_⟩
  rw [itemAt?_put (hends.placeOf_ne_nil _), if_neg]
  · exact hplace
  · rintro rfl
    exact hfile hplace

/-- A path that is followed to a file gives its content. -/
theorem read_eq_ok_iff {text : String} {octets : ByteArray} :
    store.read text = .ok octets ↔
      checked text = .ok (.ofText text) ∧ (Path.ofText text).isEmpty = false ∧
        store.follow (store.start (.ofText text)) (Path.ofText text).parts =
          .ok (placeOf store.workingDirectory text) ∧
        store.itemAt? (placeOf store.workingDirectory text) = some (.file octets) := by
  constructor
  · intro h
    unfold read at h
    obtain ⟨path, hpath, h⟩ := exists_of_bind_eq_ok h
    obtain rfl : path = .ofText text := checked_eq_ok hpath
    obtain ⟨entry, hentry, h⟩ := exists_of_bind_eq_ok h
    cases entry with
    | directory => cases h
    | file content =>
      cases h
      unfold find at hentry
      cases hempty : (Path.ofText text).isEmpty with
      | true => rw [hempty] at hentry; cases hentry
      | false =>
        rw [hempty] at hentry
        obtain ⟨-, -, hentry⟩ := exists_of_bind_eq_ok hentry
        obtain ⟨place, hplace, hentry⟩ := exists_of_bind_eq_ok hentry
        have hreached : place = placeOf store.workingDirectory text := follow_eq_walk hplace
        rw [hreached] at hplace hentry
        refine ⟨hpath, rfl, hplace, ?_⟩
        cases hitem : store.itemAt? (placeOf store.workingDirectory text) with
        | none => rw [hitem] at hentry; cases hentry
        | some entry => rw [hitem] at hentry; cases hentry; rfl
  · rintro ⟨hpath, hempty, hplace, hitem⟩
    simp only [read, find, hpath, hempty, hplace, hitem, bind, Except.bind, pure, Except.pure,
      Bool.false_eq_true, if_false]

/-- A file is read again in a store that keeps the directories and has the same at its place. -/
theorem KeepsDirectories.read {text : String} {octets : ByteArray}
    (hkeeps : store.KeepsDirectories after) (h : store.read text = .ok octets)
    (hsame : after.itemAt? (placeOf store.workingDirectory text) =
      store.itemAt? (placeOf store.workingDirectory text)) : after.read text = .ok octets := by
  obtain ⟨hpath, hempty, hfollow, hitem⟩ := read_eq_ok_iff.1 h
  rw [read_eq_ok_iff, hkeeps.start, hkeeps.workingDirectory, hsame]
  exact ⟨hpath, hempty, hkeeps.follow hfollow, hitem⟩

/-- A text that is written is read again. -/
theorem read_of_write {text content : String} (h : store.write text content = .ok after) :
    after.read text = .ok content.toUTF8 := by
  have hkeeps := write_keepsDirectories h
  obtain ⟨hpath, hempty, hfollow, -⟩ := write_follows h
  rw [read_eq_ok_iff, hkeeps.start, hkeeps.workingDirectory]
  refine ⟨hpath, hempty, hkeeps.follow hfollow, ?_⟩
  obtain ⟨rfl, name, hends⟩ := write_eq_put h
  rw [itemAt?_put (hends.placeOf_ne_nil _), if_pos rfl]

/-- A file keeps its content when another place is written to. -/
theorem read_keeps {text other content : String} {octets : ByteArray}
    (hread : store.read text = .ok octets) (h : store.write other content = .ok after)
    (hne : placeOf store.workingDirectory other ≠ placeOf store.workingDirectory text) :
    after.read text = .ok octets := by
  apply (write_keepsDirectories h).read hread
  obtain ⟨rfl, name, hends⟩ := write_eq_put h
  rw [itemAt?_put (hends.placeOf_ne_nil _), if_neg hne]

end ModelFactory.Files.Store

import ModelFactory.Proofs.Files.Directories
import ModelFactory.Proofs.Files.Reading

/-!
# Doing it again

What was done to a store can be done again, and the second time changes nothing. A directory that
was made is there (`Store.isDirectory_of_ensureDirectories`), so making it again does nothing
(`Store.makeDirectories_again`). A file that was written can be written again in every store that
keeps the directories (`Store.KeepsDirectories.write`), and putting the same texts to their places
again gives the same store (`Store.putAll_putAll`).

What was read is read again as long as nothing is written to its place, and a name that was missing
in a directory is missing again (`Store.contains_joined_again`).
-/

set_option autoImplicit false

namespace ModelFactory.Files

open Results (exists_of_bind_eq_ok)

namespace Store

variable {store after later : Store} {place reached : Place} {path : Path}

/-! ## Directories that are there -/

/-- Parts that lead nowhere else do not leave a directory. -/
theorem follow_stays (hitem : store.itemAt? place = some .directory) {parts : List String}
    (h : ∀ part ∈ parts, Path.staysHere part = true) : store.follow place parts = .ok place := by
  induction parts with
  | nil => rfl
  | cons part parts ih =>
    have hstep : store.step place part = .ok place := by
      simp only [step, hitem, h part List.mem_cons_self, if_true]
    rw [follow, List.foldlM_cons, hstep]
    exact ih fun part hpart => h part (List.mem_cons_of_mem _ hpart)

/-- A path leads to a directory if its parts do. -/
theorem isDirectory_iff :
    store.isDirectory path = true ↔
      path.isEmpty = false ∧ ∃ place, store.follow (store.start path) path.parts = .ok place ∧
        store.itemAt? place = some .directory := by
  unfold isDirectory find
  cases hempty : path.isEmpty with
  | true => simp [throw, throwThe, MonadExceptOf.throw, bind, Except.bind]
  | false =>
    cases hfollow : store.follow (store.start path) path.parts with
    | error error => simp [bind, Except.bind]
    | ok place =>
      cases hitem : store.itemAt? place with
      | none => simp [bind, Except.bind, hitem]
      | some entry =>
        cases entry with
        | directory => simp [bind, Except.bind, pure, Except.pure, hitem]
        | file content => simp [bind, Except.bind, pure, Except.pure, hitem]

theorem KeepsDirectories.isDirectory (hkeeps : store.KeepsDirectories after)
    (h : store.isDirectory path = true) : after.isDirectory path = true := by
  obtain ⟨hempty, place, hfollow, hitem⟩ := isDirectory_iff.1 h
  rw [isDirectory_iff, hkeeps.start]
  exact ⟨hempty, place, hkeeps.follow hfollow, hkeeps.directory place hitem⟩

theorem AddsDirectories.keepsDirectories (h : AddsDirectories store after) :
    store.KeepsDirectories after := by
  refine ⟨h.workingDirectory, fun place hplace => ?_⟩
  unfold itemAt? at hplace ⊢
  split
  · rfl
  · rename_i hroot
    rw [if_neg hroot] at hplace
    rcases h.entries place with hsame | ⟨hnone, -⟩
    · rw [hsame, hplace]
    · rw [hnone] at hplace
      cases hplace

/-- A directory that was made is there. -/
theorem isDirectory_of_makeDirectory (h : store.makeDirectory path = .ok after) :
    after.isDirectory path = true := by
  have hkeeps := (makeDirectory_adds h).keepsDirectories
  obtain ⟨hempty, parts, slashes, reached, hparts, hslashes, hfollow, hnew, rfl⟩ :=
    exists_parts_of_makeDirectory h
  have hroot : reached ≠ [] := by
    rintro rfl
    cases hnew
  have hdirectory : (store.put reached .directory).itemAt? reached = some .directory := by
    rw [itemAt?_put hroot, if_pos rfl]
  rw [isDirectory_iff, hkeeps.start]
  refine ⟨hempty, reached, ?_, hdirectory⟩
  rw [hparts, follow_append, hkeeps.follow hfollow]
  exact follow_stays hdirectory hslashes

/-- A directory that is there cannot be made. -/
theorem not_isDirectory_of_makeDirectory (h : store.makeDirectory path = .ok after) :
    store.isDirectory path = false := by
  obtain ⟨-, parts, slashes, reached, hparts, -, hfollow, hnew, -⟩ :=
    exists_parts_of_makeDirectory h
  rw [← Bool.not_eq_true, isDirectory_iff]
  rintro ⟨-, place, hplace, hdirectory⟩
  rw [hparts, follow_append, hfollow] at hplace
  -- Nothing leads on from where nothing is.
  cases slashes with
  | nil =>
    cases hplace
    rw [hnew] at hdirectory
    cases hdirectory
  | cons slash slashes =>
    rw [show (Except.ok reached >>= fun reached => store.follow reached (slash :: slashes))
      = store.step reached slash >>= fun next => store.follow next slashes from rfl] at hplace
    obtain ⟨next, hnext, -⟩ := exists_of_bind_eq_ok hplace
    rw [(step_eq_lead hnext).1] at hnew
    cases hnew

theorem isDirectory_of_ensureDirectory (h : ensureDirectory path store = (.ok (), after)) :
    after.isDirectory path = true := by
  unfold ensureDirectory at h
  cases hmade : store.makeDirectory path with
  | ok made =>
    rw [hmade] at h
    cases h
    exact isDirectory_of_makeDirectory hmade
  | error error =>
    rw [hmade] at h
    cases hthere : store.isDirectory path with
    | false =>
      rw [hthere] at h
      cases h
    | true =>
      rw [hthere] at h
      cases h
      exact hthere

/-- A directory that is there needs not be made. -/
theorem ensureDirectory_of_isDirectory (h : store.isDirectory path = true) :
    ensureDirectory path store = (.ok (), store) := by
  unfold ensureDirectory
  cases hmade : store.makeDirectory path with
  | error error => simp only [h, if_true]
  | ok made =>
    rw [not_isDirectory_of_makeDirectory hmade] at h
    cases h

/-- The end of making a directory with those around it is that it is there. -/
theorem isDirectory_of_ensureDirectories {levels : Nat}
    (h : ensureDirectories levels path store = (.ok (), after)) :
    path.isEmpty = true ∨ after.isDirectory path = true := by
  cases levels with
  | zero => cases h
  | succ levels =>
    unfold ensureDirectories at h
    cases hempty : path.isEmpty with
    | true => exact .inl rfl
    | false =>
      right
      rw [hempty] at h
      simp only [Bool.false_eq_true, if_false] at h
      -- Whatever was made around it, the directory itself is made last.
      split at h
      · split at h
        · cases h
        · split at h
          · exact isDirectory_of_ensureDirectory h
          · rename_i hfailed
            exact absurd h (hfailed after)
      · exact isDirectory_of_ensureDirectory h

/-- A directory that was made with those around it is made again without a change, also when other
directories and files have been added. -/
theorem makeDirectories_again {text : String}
    (h : (FileAccess.makeDirectories text : StateM Store (Except FileError Unit)) store =
      (.ok (), after))
    (hkeeps : after.KeepsDirectories later) :
    (FileAccess.makeDirectories text : StateM Store (Except FileError Unit)) later =
      (.ok (), later) := by
  cases hpath : checked text with
  | error error =>
    simp only [FileAccess.makeDirectories, hpath] at h
    cases h
  | ok path =>
    simp only [FileAccess.makeDirectories, hpath] at h ⊢
    unfold ensureDirectories
    rcases isDirectory_of_ensureDirectories h with hempty | hdirectory
    · rw [if_pos hempty]
    · rw [ensureDirectory_of_isDirectory (hkeeps.isDirectory hdirectory)]
      split
      · rfl
      · rfl

/-! ## Files that are written again -/

theorem KeepsDirectories.target {name : String} (hkeeps : store.KeepsDirectories after)
    (h : store.target path = .ok (place, some name)) :
    after.target path = .ok (place, some name) := by
  obtain ⟨hempty, hends, haround, next, hnext⟩ := target_eq_ok_some_iff.1 h
  rw [target_eq_ok_some_iff, hkeeps.start]
  exact ⟨hempty, hends, hkeeps.follow haround, next, hkeeps.step hnext⟩

/-- A file that can be written can be written in every store that keeps the directories and has none
at its place. -/
theorem KeepsDirectories.write {text content : String} (hkeeps : store.KeepsDirectories later)
    (h : store.write text content = .ok after)
    (hfile : later.itemAt? (placeOf store.workingDirectory text) ≠ some .directory) :
    later.write text content =
      .ok (later.put (placeOf store.workingDirectory text) (.file content.toUTF8)) := by
  obtain ⟨hpath, around, name, htarget, -, -⟩ := write_eq_ok_iff.1 h
  have hplace : around ++ [name] = placeOf store.workingDirectory text :=
    follow_eq_walk (target_follows htarget).2
  rw [← hplace] at hfile ⊢
  exact write_eq_ok_iff.2 ⟨hpath, around, name, hkeeps.target htarget, hfile, rfl⟩

/-- Two stores stay in step when the same file is put to both. -/
theorem KeepsDirectories.put (hkeeps : store.KeepsDirectories later) (hroot : place ≠ [])
    (content : ByteArray) :
    (store.put place (.file content)).KeepsDirectories (later.put place (.file content)) := by
  refine ⟨hkeeps.workingDirectory, fun other hother => ?_⟩
  rw [itemAt?_put hroot] at hother ⊢
  by_cases hplace : place = other
  · rw [if_pos hplace] at hother
    cases hother
  · rw [if_neg hplace] at hother ⊢
    exact hkeeps.directory other hother

theorem workingDirectory_putAll (store : Store) (texts : List (Place × String)) :
    (store.putAll texts).workingDirectory = store.workingDirectory := by
  induction texts generalizing store with
  | nil => rfl
  | cons text texts ih => rw [putAll_cons, ih]; rfl

/-- Whatever was there, a file is at every place that a text was put to, with the text that was put
there last. -/
theorem exists_getElem?_putAll {texts : List (Place × String)} (h : place ∈ texts.map (·.1)) :
    ∃ content, ∀ store : Store, (store.putAll texts).entries[place]? = some (.file content) := by
  induction texts with
  | nil => cases h
  | cons text texts ih =>
    by_cases hlater : place ∈ texts.map (·.1)
    · obtain ⟨content, hcontent⟩ := ih hlater
      exact ⟨content, fun store => hcontent _⟩
    · -- No later text is put to the place of the first one.
      rw [List.map_cons, List.mem_cons] at h
      obtain rfl := h.resolve_right hlater
      refine ⟨text.2.toUTF8, fun store => ?_⟩
      rw [putAll_cons, getElem?_putAll_of_notMem hlater, getElem?_put, if_pos rfl]

/-- Texts that are put to their places again change nothing. -/
theorem putAll_putAll (store : Store) (texts : List (Place × String)) :
    (store.putAll texts).putAll texts = store.putAll texts := by
  have hentries : ((store.putAll texts).putAll texts).entries = (store.putAll texts).entries := by
    apply Std.ExtTreeMap.ext_getElem?
    intro place
    by_cases h : place ∈ texts.map (·.1)
    · obtain ⟨content, hcontent⟩ := exists_getElem?_putAll h
      rw [hcontent, hcontent]
    · rw [getElem?_putAll_of_notMem h]
  have hdirectory := workingDirectory_putAll (store.putAll texts) texts
  cases hagain : (store.putAll texts).putAll texts
  cases honce : store.putAll texts
  rw [hagain, honce] at hentries hdirectory
  cases hentries
  cases hdirectory
  rfl

/-! ## Reading again -/

/-- A path that is read leads to something. -/
theorem contains_of_read {text : String} {octets : ByteArray} (h : store.read text = .ok octets) :
    store.contains text = .ok true := by
  obtain ⟨hpath, hempty, hfollow, hitem⟩ := read_eq_ok_iff.1 h
  simp only [contains, find, hpath, hempty, hfollow, hitem, bind, Except.bind, pure, Except.pure,
    Bool.false_eq_true, if_false]

/-- A path is followed by all parts of its text. -/
theorem follow_ofText (store : Store) (text : String) :
    store.follow (store.start (.ofText text)) (Path.ofText text).parts =
      store.follow (if text.toList.head? = some '/' then [] else store.workingDirectory)
        (Path.partsOf text) := by
  by_cases h : text.toList.head? = some '/'
  · obtain ⟨parts, hparts, -, hpath⟩ := Path.ofText_of_slash h
    rw [hpath, hparts, if_pos h]
    rfl
  · rw [Path.ofText_of_no_slash h, if_neg h]
    rfl

section Joined

variable {directory name : String}

/-- A name joined to a directory that is there is a step from that directory. -/
theorem follow_joined (hname : '/' ∉ name.toList) (hdirectory : directory ≠ "")
    (h : store.follow (store.start (.ofText directory)) (Path.ofText directory).parts
      = .ok place) :
    store.follow (store.start (.ofText (Path.joined directory name)))
      (Path.ofText (Path.joined directory name)).parts = store.step place name := by
  have hhead : name.toList.head? ≠ some '/' := fun heq => hname (List.mem_of_mem_head? heq)
  have hparts : Path.partsOf name = [name] := Path.partsOf_of_notMem hname
  rw [follow_ofText] at h ⊢
  rcases Path.joined_eq hhead hdirectory with ⟨stem, hstem, hjoined⟩ | hjoined
  · -- The slash that ends the directory stays there.
    have hstart : (Path.joined directory name).toList.head? = directory.toList.head? := by
      rw [hjoined, ← hstem, Path.head?_append hdirectory]
    have hslash : Path.partsOf directory = Path.partsOf stem ++ [""] := by
      have hsplit := Path.partsOf_slash stem ""
      rwa [String.append_empty, ← hstem] at hsplit
    rw [hslash, follow_append] at h
    obtain ⟨reached, hreached, hlast⟩ := exists_of_bind_eq_ok h
    rw [follow_singleton] at hlast
    have hsame : place = reached := (step_eq_lead hlast).2
    rw [hstart, hjoined, Path.partsOf_slash, follow_append, hparts, hreached, hsame,
      ← follow_singleton]
    rfl
  · have hstart : (Path.joined directory name).toList.head? = directory.toList.head? := by
      rw [hjoined, String.append_assoc, Path.head?_append hdirectory]
    rw [hstart, hjoined, Path.partsOf_slash, follow_append, hparts, h, ← follow_singleton]
    rfl

/-- A name as it stands in directories. -/
structure IsName (name : String) : Prop where
  slash : '/' ∉ name.toList
  stays : Path.staysHere name = false
  up : name ≠ ".."
  short : name.utf8ByteSize ≤ longestName

theorem IsName.step (h : IsName name) (hitem : store.itemAt? place = some .directory) :
    store.step place name = .ok (place ++ [name]) := by
  simp only [Store.step, hitem, h.stays, if_neg h.up, if_neg (Nat.not_lt.2 h.short),
    Bool.false_eq_true, if_false]

/-- Nothing is where a path leads to exactly if the path is missing. -/
theorem contains_eq_false_iff {text : String} (hchecked : checked text = .ok (.ofText text))
    (hempty : (Path.ofText text).isEmpty = false)
    (hfollow : store.follow (store.start (.ofText text)) (Path.ofText text).parts = .ok place) :
    store.contains text = .ok false ↔ store.itemAt? place = none := by
  cases hitem : store.itemAt? place with
  | none =>
    simp [contains, find, hchecked, hempty, hfollow, hitem, bind, Except.bind, pure, Except.pure,
      throw, throwThe, MonadExceptOf.throw]
  | some entry =>
    simp [contains, find, hchecked, hempty, hfollow, hitem, bind, Except.bind, pure, Except.pure]

/-- A name that is missing in a directory is missing again if nothing has come to its place. -/
theorem contains_joined_again (hname : IsName name)
    (hdirectory : store.isDirectory (.ofText directory) = true)
    (hmissing : store.contains (Path.joined directory name) = .ok false)
    (hkeeps : store.KeepsDirectories after)
    (hsame : after.itemAt? (placeOf store.workingDirectory (Path.joined directory name)) =
      store.itemAt? (placeOf store.workingDirectory (Path.joined directory name))) :
    after.contains (Path.joined directory name) = .ok false := by
  obtain ⟨hnotEmpty, place, hplace, hitem⟩ := isDirectory_iff.1 hdirectory
  have hne : directory ≠ "" := by
    rintro rfl
    cases hnotEmpty
  have hchecked : checked (Path.joined directory name) =
      .ok (.ofText (Path.joined directory name)) := by
    cases hpath : checked (Path.joined directory name) with
    | error error => rw [contains, hpath] at hmissing; cases hmissing
    | ok path => rw [checked_eq_ok hpath]
  have hfollow := follow_joined hname.slash hne hplace
  rw [hname.step hitem] at hfollow
  have hreached : place ++ [name] = placeOf store.workingDirectory (Path.joined directory name) :=
    follow_eq_walk hfollow
  have hfollowAfter := hkeeps.follow hfollow
  rw [← hkeeps.start] at hfollowAfter
  cases hempty : (Path.ofText (Path.joined directory name)).isEmpty with
  | true =>
    simp [contains, find, hchecked, hempty, bind, Except.bind, pure, Except.pure, throw, throwThe,
      MonadExceptOf.throw]
  | false =>
    rw [contains_eq_false_iff hchecked hempty hfollow] at hmissing
    rw [contains_eq_false_iff hchecked hempty hfollowAfter, hreached, hsame, ← hreached]
    exact hmissing

end Joined

end Store

end ModelFactory.Files

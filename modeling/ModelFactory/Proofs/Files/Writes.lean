import Mathlib.Data.List.TakeWhile
import ModelFactory.Proofs.Files.Paths
import ModelFactory.Proofs.Results

/-!
# What a store keeps

A store that follows a path comes to the place of the path (`Store.follow_eq_walk`). What a write
and the making of a directory can do is said once (`Store.write_eq_ok_iff`,
`Store.exists_parts_of_makeDirectory`). A text that is written is put to the place of its path
(`Store.write_eq_put`): nothing else changes. Making directories adds directories where nothing was,
and changes nothing else (`Store.makeDirectories_adds`).
-/

set_option autoImplicit false

namespace ModelFactory.Files

open Results (exists_of_bind_eq_ok)

/-- The slashes at the end of a path stand after the parts that count. -/
theorem Path.take_append_slashes (parts : List String) :
    parts.take (parts.length - (parts.reverse.takeWhile (· == "")).length) ++
      (parts.reverse.takeWhile (· == "")).reverse = parts := by
  have hsplit : (parts.reverse.dropWhile (· == "")).reverse ++
      (parts.reverse.takeWhile (· == "")).reverse = parts := by
    rw [← List.reverse_append, List.takeWhile_append_dropWhile, List.reverse_reverse]
  generalize parts.reverse.takeWhile (· == "") = slashes at hsplit ⊢
  generalize (parts.reverse.dropWhile (· == "")).reverse = front at hsplit
  subst hsplit
  simp

namespace Store

variable {store after : Store} {place reached : Place}

/-! ## Following a path -/

/-- A part leads on from a directory only, and it leads where it leads in every store. -/
theorem step_eq_lead {part : String} (h : store.step place part = .ok reached) :
    store.itemAt? place = some .directory ∧ reached = Place.lead place part := by
  unfold step at h
  cases hitem : store.itemAt? place with
  | none => rw [hitem] at h; cases h
  | some entry =>
    cases entry with
    | file content => rw [hitem] at h; cases h
    | directory =>
      refine ⟨rfl, ?_⟩
      rw [hitem] at h
      unfold Place.lead
      dsimp only at h
      by_cases hstays : Path.staysHere part = true
      · rw [if_pos hstays] at h ⊢
        cases h
        rfl
      · rw [if_neg hstays] at h ⊢
        by_cases hup : part = ".."
        · rw [if_pos hup] at h ⊢
          cases h
          rfl
        · rw [if_neg hup] at h ⊢
          by_cases hlong : part.utf8ByteSize > longestName
          · rw [if_pos hlong] at h
            cases h
          · rw [if_neg hlong] at h
            cases h
            rfl

/-- Following parts to their end comes to where they lead in every store. -/
theorem follow_eq_walk {parts : List String} (h : store.follow place parts = .ok reached) :
    reached = Place.walk place parts := by
  -- Each part is one step, and every step leads where it leads in every store.
  induction parts generalizing place with
  | nil => cases h; rfl
  | cons part parts ih =>
    rw [follow, List.foldlM_cons] at h
    obtain ⟨next, hnext, hrest⟩ := exists_of_bind_eq_ok h
    rw [ih hrest, (step_eq_lead hnext).2]
    rfl

theorem follow_append (store : Store) (place : Place) (parts others : List String) :
    store.follow place (parts ++ others) =
      store.follow place parts >>= fun reached => store.follow reached others :=
  List.foldlM_append

theorem follow_singleton (store : Store) (place : Place) (part : String) :
    store.follow place [part] = store.step place part := by
  rw [follow, List.foldlM_cons]
  cases store.step place part with
  | ok reached => rfl
  | error error => rfl

/-- The last name of a path stands in the directory that the parts before it lead to. -/
theorem target_eq_ok_some_iff {path : Path} {name : String} :
    store.target path = .ok (place, some name) ↔
      path.isEmpty = false ∧ path.EndsIn name ∧
        store.follow (store.start path) path.around.parts = .ok place ∧
          ∃ next, store.step place name = .ok next := by
  constructor
  · intro h
    unfold target at h
    cases hempty : path.isEmpty with
    | true => rw [hempty] at h; cases h
    | false =>
      rw [hempty] at h
      obtain ⟨-, -, h⟩ := exists_of_bind_eq_ok h
      obtain ⟨around, haround, h⟩ := exists_of_bind_eq_ok h
      obtain ⟨-, -, h⟩ := exists_of_bind_eq_ok h
      cases hlast : (path.parts.take (path.parts.length -
          (path.parts.reverse.takeWhile (· == "")).length)).getLast? with
      | none => rw [hlast] at h; cases h
      | some last =>
        rw [hlast] at h
        dsimp only at h
        split at h
        · cases h
        · rename_i hname
          obtain ⟨next, hnext, h⟩ := exists_of_bind_eq_ok h
          cases h
          simp only [Bool.or_eq_true, Bool.not_eq_true', not_or, Bool.not_eq_false,
            List.isEmpty_iff, beq_iff_eq, Bool.not_eq_true] at hname
          obtain ⟨⟨hslashes, hstays⟩, hup⟩ := hname
          -- No slash stands at the end, so all parts count.
          rw [hslashes, List.length_nil, Nat.sub_zero, List.take_length] at hlast haround
          exact ⟨rfl, ⟨hlast, hstays, hup⟩, haround, next, hnext⟩
  · rintro ⟨hempty, hends, haround, next, hnext⟩
    obtain ⟨front, hparts⟩ := List.getLast?_eq_some_iff.1 hends.last
    have hname : (name == "") = false := by
      have hstays := hends.stays
      rw [Path.staysHere, Bool.or_eq_false_iff] at hstays
      exact hstays.1
    have hslashes : path.parts.reverse.takeWhile (· == "") = [] := by
      rw [hparts, List.reverse_append]
      show (name :: front.reverse).takeWhile (· == "") = []
      rw [List.takeWhile_cons_of_neg (by simp [hname])]
    have hhere : store.step place "." = .ok place := by
      simp only [step, (step_eq_lead hnext).1, show Path.staysHere "." = true by decide, if_true]
    have hlast : path.parts.getLast? = some name := hends.last
    have hfollow : store.follow (store.start path) path.parts.dropLast = .ok place := haround
    have hother : (name == "..") = false := by simpa using hends.up
    simp only [target, hempty, hslashes, hlast, hfollow, hhere, hnext, hends.stays, hother,
      List.length_nil, Nat.sub_zero, List.take_length, List.isEmpty_nil, bind, Except.bind, pure,
      Except.pure, Bool.false_eq_true, if_false, Bool.not_true, Bool.or_false]

/-- The last name of a path stands where the parts before it lead. -/
theorem target_eq_around {path : Path} {name : String}
    (h : store.target path = .ok (place, some name)) :
    path.EndsIn name ∧ place = path.around.placeFrom store.workingDirectory := by
  obtain ⟨-, hends, haround, -⟩ := target_eq_ok_some_iff.1 h
  exact ⟨hends, follow_eq_walk haround⟩

/-! ## Writing a file -/

theorem getElem?_put (store : Store) (place other : Place) (entry : Entry) :
    (store.put place entry).entries[other]? =
      if place = other then some entry else store.entries[other]? := by
  rw [put, Std.ExtTreeMap.getElem?_insert]
  simp only [Std.LawfulEqCmp.compare_eq_iff_eq]

/-- A text that can be a path is taken apart. -/
theorem checked_eq_ok {text : String} {path : Path} (h : checked text = .ok path) :
    path = .ofText text := by
  unfold checked at h
  split at h
  · cases h
  · split at h
    · cases h
    · cases h
      rfl

/-- A text is written to the last name of its path, unless a directory has that name. -/
theorem write_eq_ok_iff {text content : String} :
    store.write text content = .ok after ↔
      checked text = .ok (.ofText text) ∧ ∃ around name,
        store.target (.ofText text) = .ok (around, some name) ∧
          store.itemAt? (around ++ [name]) ≠ some .directory ∧
            after = store.put (around ++ [name]) (.file content.toUTF8) := by
  constructor
  · intro h
    unfold write at h
    obtain ⟨path, hpath, h⟩ := exists_of_bind_eq_ok h
    obtain ⟨⟨around, name?⟩, htarget, h⟩ := exists_of_bind_eq_ok h
    obtain rfl : path = .ofText text := checked_eq_ok hpath
    cases name? with
    | none => cases h
    | some name =>
      refine ⟨hpath, around, name, htarget, ?_⟩
      dsimp only at h
      split at h
      · cases h
      · rename_i hfile
        cases h
        exact ⟨hfile, rfl⟩
  · rintro ⟨hpath, around, name, htarget, hfile, rfl⟩
    simp only [write, hpath, htarget, bind, Except.bind]
    cases hitem : store.itemAt? (around ++ [name]) with
    | none => rfl
    | some entry =>
      cases entry with
      | directory => exact absurd hitem hfile
      | file content => rfl

/-- A text that is written is put at the place of its path, which ends with the last part of the
path, and nothing else changes. -/
theorem write_eq_put {text content : String} (h : store.write text content = .ok after) :
    after = store.put (placeOf store.workingDirectory text) (.file content.toUTF8) ∧
      ∃ name, (Path.ofText text).EndsIn name := by
  obtain ⟨-, around, name, htarget, -, rfl⟩ := write_eq_ok_iff.1 h
  obtain ⟨hends, haround⟩ := target_eq_around htarget
  have hplace : placeOf store.workingDirectory text = around ++ [name] := by
    rw [placeOf, hends.placeFrom, ← haround]
  rw [hplace]
  exact ⟨rfl, name, hends⟩

/-- The store with texts put to places, one after the other. -/
def putAll (store : Store) (texts : List (Place × String)) : Store :=
  texts.foldl (fun store text => store.put text.1 (.file text.2.toUTF8)) store

theorem putAll_cons (store : Store) (text : Place × String) (texts : List (Place × String)) :
    store.putAll (text :: texts) = (store.put text.1 (.file text.2.toUTF8)).putAll texts := rfl

theorem getElem?_putAll_of_notMem {texts : List (Place × String)}
    (h : place ∉ texts.map (·.1)) (store : Store) :
    (store.putAll texts).entries[place]? = store.entries[place]? := by
  induction texts generalizing store with
  | nil => rfl
  | cons text texts ih =>
    rw [List.map_cons, List.mem_cons, not_or] at h
    rw [putAll_cons, ih h.2, getElem?_put, if_neg (Ne.symm h.1)]

/-- Where no place occurs twice, every text stays. -/
theorem getElem?_putAll_of_mem {texts : List (Place × String)}
    (hnodup : (texts.map (·.1)).Nodup) {text : Place × String} (h : text ∈ texts)
    (store : Store) :
    (store.putAll texts).entries[text.1]? = some (.file text.2.toUTF8) := by
  induction texts generalizing store with
  | nil => cases h
  | cons first texts ih =>
    rw [List.map_cons, List.nodup_cons] at hnodup
    rw [putAll_cons]
    rcases List.mem_cons.1 h with rfl | h
    · rw [getElem?_putAll_of_notMem hnodup.1, getElem?_put, if_pos rfl]
    · exact ih hnodup.2 h _

/-! ## Making directories -/

/-- Directories have been made where nothing was, and nothing else has changed. -/
structure AddsDirectories (store after : Store) : Prop where
  workingDirectory : after.workingDirectory = store.workingDirectory
  entries : ∀ place : Place, after.entries[place]? = store.entries[place]? ∨
    (store.entries[place]? = none ∧ after.entries[place]? = some .directory)

theorem AddsDirectories.refl (store : Store) : AddsDirectories store store :=
  ⟨rfl, fun _ => .inl rfl⟩

theorem AddsDirectories.trans {middle : Store} (hfirst : AddsDirectories store middle)
    (hsecond : AddsDirectories middle after) : AddsDirectories store after := by
  refine ⟨hsecond.workingDirectory.trans hfirst.workingDirectory, fun place => ?_⟩
  rcases hsecond.entries place with hsame | ⟨hnone, hmade⟩
  · rw [hsame]
    exact hfirst.entries place
  · -- A place with nothing in the end of the first making has nothing at its start either.
    rcases hfirst.entries place with hbefore | ⟨-, hdirectory⟩
    · exact .inr ⟨hbefore ▸ hnone, hmade⟩
    · rw [hdirectory] at hnone
      cases hnone

/-- A directory put where nothing is. -/
theorem adds_put_directory (h : store.itemAt? place = none) :
    AddsDirectories store (store.put place .directory) := by
  refine ⟨rfl, fun other => ?_⟩
  rw [getElem?_put]
  by_cases hother : place = other
  · right
    rw [if_pos hother, ← hother]
    refine ⟨?_, rfl⟩
    unfold itemAt? at h
    split at h
    · cases h
    · exact h
  · left
    rw [if_neg hother]

/-- A directory is made where the parts of its path lead and where nothing is. The slashes after
them lead nowhere else. -/
theorem exists_parts_of_makeDirectory {path : Path} (h : store.makeDirectory path = .ok after) :
    path.isEmpty = false ∧ ∃ parts slashes reached,
      path.parts = parts ++ slashes ∧ (∀ part ∈ slashes, Path.staysHere part = true) ∧
        store.follow (store.start path) parts = .ok reached ∧ store.itemAt? reached = none ∧
          after = store.put reached .directory := by
  unfold makeDirectory at h
  cases hempty : path.isEmpty with
  | true => rw [hempty] at h; cases h
  | false =>
    rw [hempty] at h
    obtain ⟨-, -, h⟩ := exists_of_bind_eq_ok h
    obtain ⟨around, haround, h⟩ := exists_of_bind_eq_ok h
    obtain ⟨-, -, h⟩ := exists_of_bind_eq_ok h
    have hparts := Path.take_append_slashes path.parts
    have hslashes : ∀ part ∈ (path.parts.reverse.takeWhile (· == "")).reverse,
        Path.staysHere part = true := by
      intro part hpart
      have hslash := List.mem_takeWhile_imp (List.mem_reverse.1 hpart)
      rw [beq_iff_eq] at hslash
      rw [hslash]
      decide
    generalize path.parts.take (path.parts.length -
      (path.parts.reverse.takeWhile (· == "")).length) = parts at h haround hparts
    cases hlast : parts.getLast? with
    | none => rw [hlast] at h; cases h
    | some last =>
      rw [hlast] at h
      dsimp only at h
      split at h
      · cases h
      · obtain ⟨reached, hreached, h⟩ := exists_of_bind_eq_ok h
        have hfollow : store.follow (store.start path) parts = .ok reached := by
          obtain ⟨front, rfl⟩ := List.getLast?_eq_some_iff.1 hlast
          rw [List.dropLast_concat] at haround
          rw [follow_append, haround, ← hreached, ← follow_singleton]
          rfl
        cases hnew : store.itemAt? reached with
        | some entry => rw [hnew] at h; cases h
        | none =>
          rw [hnew] at h
          cases h
          exact ⟨rfl, parts, _, reached, hparts.symm, hslashes, hfollow, hnew, rfl⟩

theorem makeDirectory_adds {path : Path} (h : store.makeDirectory path = .ok after) :
    AddsDirectories store after := by
  obtain ⟨-, parts, slashes, reached, -, -, -, hnew, rfl⟩ := exists_parts_of_makeDirectory h
  exact adds_put_directory hnew

theorem ensureDirectory_adds (store : Store) (path : Path) :
    AddsDirectories store (ensureDirectory path store).2 := by
  unfold ensureDirectory
  cases hmade : store.makeDirectory path with
  | ok after => exact makeDirectory_adds hmade
  | error error => exact AddsDirectories.refl store

/-- Directories that were made before one that cannot be made stay. -/
theorem ensureDirectories_adds (levels : Nat) (store : Store) (path : Path) :
    AddsDirectories store (ensureDirectories levels path store).2 := by
  induction levels generalizing store path with
  | zero => exact AddsDirectories.refl store
  | succ levels ih =>
    unfold ensureDirectories
    split
    · exact AddsDirectories.refl store
    · -- First the directory itself is tried. If that fails for want of the one around it, that one
      -- is made and then the directory is tried again.
      have hown := ensureDirectory_adds store path
      split
      · rename_i tried htried
        rw [htried] at hown
        split
        · exact hown
        · rename_i parent hparent
          have haround := ih tried parent
          split
          · rename_i made hmade
            rw [hmade] at haround
            exact (hown.trans haround).trans (ensureDirectory_adds made path)
          · exact hown.trans haround
      · exact hown

/-- Making a directory and those around it adds directories and does nothing else, also when it
fails. -/
theorem makeDirectories_adds (store : Store) (text : String) :
    AddsDirectories store
      ((FileAccess.makeDirectories text : StateM Store (Except FileError Unit)) store).2 := by
  cases hpath : checked text with
  | ok path =>
    have hmade : (FileAccess.makeDirectories text : StateM Store (Except FileError Unit)) store =
        ensureDirectories (path.parts.length + 2) path store := by
      simp only [FileAccess.makeDirectories, hpath]
    rw [hmade]
    exact ensureDirectories_adds _ store path
  | error error =>
    have hrefused : (FileAccess.makeDirectories text : StateM Store (Except FileError Unit)) store =
        (.error error, store) := by
      simp only [FileAccess.makeDirectories, hpath]
    rw [hrefused]
    exact AddsDirectories.refl store

end Store

end ModelFactory.Files

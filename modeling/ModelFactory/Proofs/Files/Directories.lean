import Mathlib.Data.List.Infix
import ModelFactory.Proofs.Files.Writes

/-!
# The directories that are made

A path comes through the places that its names lead to, one after the other
(`Path.ComesThrough`). Making a directory and those around it keeps every place that the path does
not come through (`Store.makeDirectories_keeps`).

The directory around a file is taken from the path of the file and written as text again. That text
leads through the same names (`Path.names_ofText_parent`), so it too comes through no other places
than the path of the file.
-/

set_option autoImplicit false

namespace ModelFactory

/-! ## Parts put together again -/

namespace Text

theorem notMem_of_mem_consFirst {separator char : Char} (hchar : char ≠ separator)
    {parts : List (List Char)} (h : ∀ part ∈ parts, separator ∉ part) :
    ∀ part ∈ consFirst char parts, separator ∉ part := by
  intro part hpart
  cases parts with
  | nil =>
    rw [List.mem_singleton.1 hpart, List.mem_singleton]
    exact Ne.symm hchar
  | cons first rest =>
    rcases List.mem_cons.1 hpart with rfl | hrest
    · rw [List.mem_cons, not_or]
      exact ⟨Ne.symm hchar, h first List.mem_cons_self⟩
    · exact h part (List.mem_cons_of_mem _ hrest)

/-- The separator stands in no part. -/
theorem notMem_of_mem_partsBetween (separator : Char) (chars : List Char) :
    ∀ part ∈ partsBetween separator chars, separator ∉ part := by
  induction chars with
  | nil =>
    intro part hpart
    rw [List.mem_singleton.1 hpart]
    exact List.not_mem_nil
  | cons char rest ih =>
    intro part hpart
    rw [partsBetween] at hpart
    by_cases hchar : char = separator
    · rw [if_pos hchar] at hpart
      rcases List.mem_cons.1 hpart with rfl | hrest
      · exact List.not_mem_nil
      · exact ih part hrest
    · rw [if_neg hchar] at hpart
      exact notMem_of_mem_consFirst hchar ih part hpart

/-- Parts without the separator are found again between the separators. -/
theorem partsBetween_withSeparator {separator : Char} {parts : List (List Char)}
    (hne : parts ≠ []) (h : ∀ part ∈ parts, separator ∉ part) :
    partsBetween separator (withSeparator separator parts) = parts := by
  induction parts with
  | nil => exact absurd rfl hne
  | cons part rest ih =>
    have hpart := partsBetween_of_notMem (h part List.mem_cons_self)
    cases rest with
    | nil => exact hpart
    | cons next rest =>
      have hrest := ih (List.cons_ne_nil next rest)
        (fun other hother => h other (List.mem_cons_of_mem part hother))
      show partsBetween separator (part ++ separator :: withSeparator separator (next :: rest)) = _
      rw [partsBetween_append_cons, hpart, hrest]
      rfl

end Text

namespace Files

open Results (exists_of_bind_eq_ok)

/-! ## The names of a path -/

/-- Parts that stay where they are can be left out. -/
theorem Place.walk_filter (place : Place) (parts : List String) :
    Place.walk place (parts.filter (!Path.staysHere ·)) = Place.walk place parts := by
  induction parts generalizing place with
  | nil => rfl
  | cons part rest ih =>
    by_cases hstays : Path.staysHere part = true
    · have hlead : Place.lead place part = place := if_pos hstays
      rw [List.filter_cons_of_neg (by simp [hstays]), ih]
      show Place.walk place rest = Place.walk (Place.lead place part) rest
      rw [hlead]
    · rw [List.filter_cons_of_pos (by simp [hstays])]
      exact ih (Place.lead place part)

namespace Path

variable {path parent : Path} {start place : Place}

/-- Where the path starts from a directory. -/
def origin (path : Path) (start : Place) : Place := if path.absolute then [] else start

/-- The path comes through the place: so many of its names lead there. -/
def ComesThrough (path : Path) (start place : Place) : Prop :=
  ∃ count, place = Place.walk (path.origin start) (path.names.take count)

/-- A path comes through the place that it leads to. -/
theorem comesThrough_placeFrom (path : Path) (start : Place) :
    path.ComesThrough start (path.placeFrom start) := by
  refine ⟨path.names.length, ?_⟩
  rw [List.take_length, names, Place.walk_filter]
  rfl

theorem filter_staysHere_eq_self {parts : List String}
    (h : ∀ part ∈ parts, staysHere part = false) :
    parts.filter (!staysHere ·) = parts := by
  rw [List.filter_eq_self]
  intro part hpart
  simp [h part hpart]

/-- The path of the directory around has the same names but the last. -/
theorem names_parent (h : path.parent? = some parent) :
    parent.absolute = path.absolute ∧ parent.names = path.names.dropLast := by
  have hstays : ∀ part ∈ path.names.dropLast, staysHere part = false := by
    intro part hpart
    simpa using (List.mem_filter.1 (List.mem_of_mem_dropLast hpart)).2
  have hparts (start : List String) (hstart : start = [] ∨ start = ["."]) :
      (start ++ path.names.dropLast).filter (!staysHere ·) = path.names.dropLast := by
    rw [List.filter_append, filter_staysHere_eq_self hstays]
    rcases hstart with rfl | rfl
    · rfl
    · rfl
  have hstart : (if path.startsHere then ["."] else []) = ([] : List String) ∨
      (if path.startsHere then ["."] else []) = ["."] := by
    split
    · exact .inr rfl
    · exact .inl rfl
  unfold parent? at h
  dsimp only at h
  split at h
  · cases h
  · rename_i hnames _
    cases h
    exact ⟨rfl, by rw [hnames]; rfl⟩
  · cases h
    exact ⟨rfl, hparts _ hstart⟩

/-- The path of the directory around comes through no other places. -/
theorem ComesThrough.of_parent (hparent : path.parent? = some parent)
    (h : parent.ComesThrough start place) : path.ComesThrough start place := by
  obtain ⟨count, hplace⟩ := h
  obtain ⟨habsolute, hnames⟩ := names_parent hparent
  rw [hnames, List.dropLast_eq_take, List.take_take, origin, habsolute] at hplace
  exact ⟨_, hplace⟩

/-! ## The path around a file, written again -/

theorem slash_notMem_of_mem_ofText {text part : String} (h : part ∈ (ofText text).parts) :
    '/' ∉ part.toList := by
  have hmem : part ∈ partsOf text := by
    by_cases hslash : text.toList.head? = some '/'
    · obtain ⟨parts, hparts, -, hpath⟩ := ofText_of_slash hslash
      rw [hpath] at h
      rw [hparts]
      exact List.mem_cons_of_mem _ h
    · rwa [ofText_of_no_slash hslash] at h
  obtain ⟨chars, hchars, rfl⟩ := List.mem_map.1 hmem
  rw [String.toList_ofList]
  exact Text.notMem_of_mem_partsBetween '/' text.toList chars hchars

/-- Parts without slashes, none of them empty, are read again from their text. -/
theorem partsOf_withSeparator {parts : List String} (hne : parts ≠ [])
    (h : ∀ part ∈ parts, '/' ∉ part.toList) :
    partsOf (String.ofList (Text.withSeparator '/' (parts.map String.toList))) = parts := by
  have hchars : ∀ part ∈ parts.map String.toList, '/' ∉ part := by
    intro chars hchars
    obtain ⟨part, hpart, rfl⟩ := List.mem_map.1 hchars
    exact h part hpart
  rw [partsOf, String.toList_ofList, Text.partsBetween_withSeparator (by simpa using hne) hchars,
    List.map_map]
  simp

/-- The text of a path leads through the same names, if no part of the path holds a slash or is
empty. A relative path needs a part. -/
theorem names_ofText_text (h : ∀ part ∈ path.parts, part ≠ "" ∧ '/' ∉ part.toList)
    (hne : path.absolute = true ∨ path.parts ≠ []) :
    (ofText path.text).absolute = path.absolute ∧ (ofText path.text).names = path.names := by
  obtain ⟨absolute, parts⟩ := path
  have hslash : ∀ part ∈ parts, '/' ∉ part.toList := fun part hpart => (h part hpart).2
  cases absolute with
  | true =>
    have hhead : (text ⟨true, parts⟩).toList.head? = some '/' := by simp [text]
    obtain ⟨read, hread, hreadne, hpath⟩ := ofText_of_slash hhead
    have htext : text ⟨true, parts⟩ =
        "" ++ "/" ++ String.ofList (Text.withSeparator '/' (parts.map String.toList)) := by
      simp [text]
    have hempty : partsOf "" = [""] := partsOf_of_notMem (by simp)
    rw [htext, partsOf_slash, hempty, List.singleton_append, List.cons.injEq] at hread
    rw [hpath]
    refine ⟨rfl, ?_⟩
    by_cases hparts : parts = []
    · -- The text of the root is one slash, after which stands an empty part.
      subst hparts
      rw [show read = [""] from hread.2.symm.trans hempty]
      rfl
    · rw [← hread.2, partsOf_withSeparator hparts hslash]
  | false =>
    have hparts : parts ≠ [] := by
      rcases hne with h | h
      · cases h
      · exact h
    have htext : text ⟨false, parts⟩ =
        String.ofList (Text.withSeparator '/' (parts.map String.toList)) := by simp [text]
    have hread := partsOf_withSeparator hparts hslash
    rw [← htext] at hread
    have hhead : (text ⟨false, parts⟩).toList.head? ≠ some '/' := by
      intro hhead
      -- A slash at the start stands after an empty part.
      obtain ⟨others, hothers, -, -⟩ := ofText_of_slash hhead
      have hmem : "" ∈ parts := by
        rw [← hread, hothers]
        exact List.mem_cons_self
      exact (h "" hmem).1 rfl
    rw [ofText_of_no_slash hhead, hread]
    exact ⟨rfl, rfl⟩

/-- The directory around what a text names, written as text, leads through the same names as its
path. -/
theorem names_ofText_parent {text : String} (h : (ofText text).parent? = some parent)
    (hne : parent.isEmpty = false) :
    (ofText parent.text).absolute = parent.absolute ∧
      (ofText parent.text).names = parent.names := by
  have hnames : ∀ part ∈ (ofText text).names, part ≠ "" ∧ '/' ∉ part.toList := by
    intro part hpart
    obtain ⟨hmem, hstays⟩ := List.mem_filter.1 hpart
    refine ⟨?_, slash_notMem_of_mem_ofText hmem⟩
    rintro rfl
    exact absurd hstays (by decide)
  have hparts : ∀ part ∈ parent.parts, part ≠ "" ∧ '/' ∉ part.toList := by
    intro part hpart
    unfold parent? at h
    dsimp only at h
    split at h
    · cases h
    · cases h
      exact absurd hpart List.not_mem_nil
    · cases h
      rcases List.mem_append.1 hpart with hstart | hname
      · split at hstart
        · rw [List.mem_singleton.1 hstart]
          decide
        · exact absurd hstart List.not_mem_nil
      · exact hnames part (List.mem_of_mem_dropLast hname)
  apply names_ofText_text hparts
  rw [isEmpty, Bool.and_eq_false_iff, Bool.not_eq_false'] at hne
  refine hne.imp_right fun hne hnil => ?_
  rw [hnil] at hne
  cases hne

end Path

/-! ## What making directories keeps -/

namespace Store

variable {store after : Store} {place : Place}

/-- A directory that is made is put at the place of its path. -/
theorem makeDirectory_eq_put {path : Path} (h : store.makeDirectory path = .ok after) :
    after = store.put (path.placeFrom store.workingDirectory) .directory := by
  obtain ⟨-, parts, slashes, reached, hparts, hslashes, hfollow, -, rfl⟩ :=
    exists_parts_of_makeDirectory h
  have hstay : slashes.filter (!Path.staysHere ·) = [] := by
    rw [List.filter_eq_nil_iff]
    intro part hpart
    simp [hslashes part hpart]
  rw [follow_eq_walk hfollow, Path.placeFrom, hparts, Place.walk_append,
    ← Place.walk_filter _ slashes, hstay]
  rfl

theorem ensureDirectory_keeps (path : Path)
    (h : ¬ path.ComesThrough store.workingDirectory place) :
    (ensureDirectory path store).2.entries[place]? = store.entries[place]? := by
  unfold ensureDirectory
  cases hmade : store.makeDirectory path with
  | error error => rfl
  | ok after =>
    have hne : path.placeFrom store.workingDirectory ≠ place := by
      rintro rfl
      exact h (path.comesThrough_placeFrom store.workingDirectory)
    show after.entries[place]? = store.entries[place]?
    rw [makeDirectory_eq_put hmade, getElem?_put, if_neg hne]

/-- Every directory that is made on the way stands at a place that the path comes through. -/
theorem ensureDirectories_keeps (levels : Nat) (store : Store) (path : Path)
    (h : ¬ path.ComesThrough store.workingDirectory place) :
    (ensureDirectories levels path store).2.entries[place]? = store.entries[place]? := by
  induction levels generalizing store path with
  | zero => rfl
  | succ levels ih =>
    unfold ensureDirectories
    split
    · rfl
    · have hown := ensureDirectory_keeps path h
      have hadds := ensureDirectory_adds store path
      split
      · rename_i tried htried
        rw [htried] at hown hadds
        split
        · exact hown
        · -- The path of the directory around is met in the same working directory.
          rename_i parent hparent
          have haround : ¬ parent.ComesThrough tried.workingDirectory place := by
            rw [hadds.workingDirectory]
            exact fun hparents => h (hparents.of_parent hparent)
          have hkept := ih tried parent haround
          have haddsAround := ensureDirectories_adds levels tried parent
          split
          · rename_i made hmade
            rw [hmade] at hkept haddsAround
            have hagain : ¬ path.ComesThrough made.workingDirectory place := by
              rwa [haddsAround.workingDirectory, hadds.workingDirectory]
            exact (ensureDirectory_keeps path hagain).trans (hkept.trans hown)
          · exact hkept.trans hown
      · exact hown

/-- Making a directory and those around it keeps every place that the path does not come through,
also when it fails. -/
theorem makeDirectories_keeps (store : Store) {text : String}
    (h : ¬ (Path.ofText text).ComesThrough store.workingDirectory place) :
    ((FileAccess.makeDirectories text : StateM Store (Except FileError Unit)) store).2.entries[
      place]? = store.entries[place]? := by
  cases hpath : checked text with
  | error error =>
    simp only [FileAccess.makeDirectories, hpath]
  | ok path =>
    rw [← checked_eq_ok hpath] at h
    simp only [FileAccess.makeDirectories, hpath]
    exact ensureDirectories_keeps _ store path h

end Store

end Files

end ModelFactory

import Mathlib.Data.List.Basic
import ModelFactory.Files.Store

/-!
# Where a path leads

`placeOf` is the place that a path leads to when every part leads on, whatever is in the file
system: an empty part and a single dot stay, two dots go up, and any other part goes into a name. A
store that follows a path to its end comes to that place (`Store.follow_eq_walk`).

A path joined to a directory leads from the directory's place to where the name alone leads
(`placeOf_joined`). So what a file name does is in the name's own parts: those before the last one
lead from the directory to `Path.around`, and the last one is a name there.
-/

set_option autoImplicit false

namespace ModelFactory

/-! ## Parts of a text -/

namespace Text

theorem consFirst_append {char : Char} {parts : List (List Char)} (h : parts ≠ [])
    (others : List (List Char)) :
    consFirst char (parts ++ others) = consFirst char parts ++ others := by
  cases parts with
  | nil => exact absurd rfl h
  | cons part rest => rfl

/-- A separator ends the parts before it. -/
theorem partsBetween_append_cons (separator : Char) (before after : List Char) :
    partsBetween separator (before ++ separator :: after) =
      partsBetween separator before ++ partsBetween separator after := by
  induction before with
  | nil => simp [partsBetween]
  | cons char before ih =>
    rw [List.cons_append, partsBetween, ih, partsBetween]
    by_cases hchar : char = separator
    · simp only [hchar, if_true, List.cons_append]
    · simp only [hchar, if_false]
      exact consFirst_append (partsBetween_ne_nil separator before) _

/-- A text without a separator is one part. -/
theorem partsBetween_of_notMem {separator : Char} {chars : List Char} (h : separator ∉ chars) :
    partsBetween separator chars = [chars] := by
  induction chars with
  | nil => rfl
  | cons char rest ih =>
    rw [List.mem_cons, not_or] at h
    rw [partsBetween, if_neg (Ne.symm h.1), ih h.2]
    rfl

end Text

namespace Files

/-! ## Following parts -/

/-- Where one part leads from a place, whatever is there. -/
def Place.lead (place : Place) (part : String) : Place :=
  if Path.staysHere part then place
  else if part = ".." then place.dropLast
  else place ++ [part]

/-- Where parts lead from a place, whatever is there. -/
def Place.walk (place : Place) (parts : List String) : Place := parts.foldl Place.lead place

namespace Path

/-- The parts of a text, the empty one in front of a slash at the start among them. -/
def partsOf (text : String) : List String :=
  (Text.partsBetween '/' text.toList).map String.ofList

/-- Where a path leads from a place, whatever is there. -/
def placeFrom (start : Place) (path : Path) : Place :=
  Place.walk (if path.absolute then [] else start) path.parts

/-- The path without its last part. -/
def around (path : Path) : Path := { path with parts := path.parts.dropLast }

/-- The last part of a path. -/
def last? (path : Path) : Option String := path.parts.getLast?

/-- The last part of the path is a name. -/
structure EndsIn (path : Path) (name : String) : Prop where
  last : path.last? = some name
  stays : staysHere name = false
  up : name ≠ ".."

end Path

/-- The place that a path leads to when every part leads on. -/
def placeOf (start : Place) (text : String) : Place := (Path.ofText text).placeFrom start

namespace Place

theorem walk_append (place : Place) (parts others : List String) :
    walk place (parts ++ others) = walk (walk place parts) others :=
  List.foldl_append

end Place

/-! ## The parts of a written path -/

namespace Path

theorem partsOf_ne_nil (text : String) : partsOf text ≠ [] := by
  unfold partsOf
  rw [Ne, List.map_eq_nil_iff]
  exact Text.partsBetween_ne_nil _ _

/-- A text without a slash is one part. -/
theorem partsOf_of_notMem {text : String} (h : '/' ∉ text.toList) : partsOf text = [text] := by
  rw [partsOf, Text.partsBetween_of_notMem h]
  simp

theorem partsOf_slash (directory name : String) :
    partsOf (directory ++ "/" ++ name) = partsOf directory ++ partsOf name := by
  have htext : (directory ++ "/" ++ name).toList = directory.toList ++ '/' :: name.toList := by
    simp
  rw [partsOf, htext, Text.partsBetween_append_cons, List.map_append]
  rfl

/-- A text that starts with a slash is an absolute path, and the part in front of that slash is no
part of it. -/
theorem ofText_of_slash {text : String} (h : text.toList.head? = some '/') :
    ∃ parts, partsOf text = "" :: parts ∧ parts ≠ [] ∧ ofText text = ⟨true, parts⟩ := by
  obtain ⟨rest, hrest⟩ : ∃ rest, text.toList = '/' :: rest := by
    cases htext : text.toList with
    | nil => rw [htext] at h; cases h
    | cons char rest => rw [htext] at h; cases h; exact ⟨rest, rfl⟩
  have hparts : partsOf text = "" :: (Text.partsBetween '/' rest).map String.ofList := by
    rw [partsOf, hrest, Text.partsBetween, if_pos rfl, List.map_cons, String.ofList_nil]
  have hne : (Text.partsBetween '/' rest).map String.ofList ≠ [] := by
    rw [Ne, List.map_eq_nil_iff]
    exact Text.partsBetween_ne_nil _ _
  refine ⟨_, hparts, hne, ?_⟩
  obtain ⟨part, others, hcons⟩ := List.exists_cons_of_ne_nil hne
  unfold ofText
  rw [← partsOf, hparts, hcons]
  rfl

theorem ofText_of_no_slash {text : String} (h : text.toList.head? ≠ some '/') :
    ofText text = ⟨false, partsOf text⟩ := by
  unfold ofText
  rw [← partsOf]
  cases htext : text.toList with
  | nil =>
    rw [partsOf, htext]
    rfl
  | cons char rest =>
    rw [htext] at h
    have hchar : char ≠ '/' := fun heq => h (by rw [heq]; rfl)
    obtain ⟨part, others, hcons⟩ :=
      List.exists_cons_of_ne_nil (Text.partsBetween_ne_nil '/' rest)
    have hparts : partsOf text = String.ofList (char :: part) :: others.map String.ofList := by
      rw [partsOf, htext, Text.partsBetween, if_neg hchar, hcons]
      rfl
    -- The first part has a character, so it is not the one in front of a slash.
    have hne : String.ofList (char :: part) ≠ "" := by simp
    rw [hparts]
    split
    · rename_i heq
      exact absurd (List.cons.inj heq).1 hne
    · rfl

end Path

/-- A path leads on from the root or from the start, by all its parts. -/
theorem placeOf_eq_walk (start : Place) (text : String) :
    placeOf start text =
      Place.walk (if text.toList.head? = some '/' then [] else start) (Path.partsOf text) := by
  unfold placeOf Path.placeFrom
  by_cases h : text.toList.head? = some '/'
  · obtain ⟨parts, hparts, -, hpath⟩ := Path.ofText_of_slash h
    rw [hpath, hparts, if_pos h]
    rfl
  · rw [Path.ofText_of_no_slash h, if_neg h]
    rfl

/-- A path ends with the last part of its text. -/
theorem Path.last?_ofText (text : String) : (ofText text).last? = (partsOf text).getLast? := by
  by_cases h : text.toList.head? = some '/'
  · obtain ⟨parts, hparts, hne, hpath⟩ := ofText_of_slash h
    rw [hpath, hparts, List.getLast?_cons_of_ne_nil hne]
    rfl
  · rw [ofText_of_no_slash h]
    rfl

/-- A path that ends in a name leads to that name, from where the parts before it lead. -/
theorem Path.EndsIn.placeFrom {path : Path} {name : String} (h : path.EndsIn name)
    (start : Place) : path.placeFrom start = path.around.placeFrom start ++ [name] := by
  obtain ⟨parts, hparts⟩ := List.getLast?_eq_some_iff.1 h.last
  have haround : path.around.parts = parts := by
    show path.parts.dropLast = parts
    rw [hparts, List.dropLast_concat]
  have hlead (place : Place) : Place.walk place [name] = place ++ [name] := by
    show Place.lead place name = place ++ [name]
    simp only [Place.lead, h.stays, h.up, if_false, Bool.false_eq_true]
  unfold Path.placeFrom
  rw [haround, hparts, Place.walk_append, hlead]
  rfl

/-- A path that ends in a name does not lead to the root. -/
theorem Path.EndsIn.placeOf_ne_nil {text name : String} (h : (ofText text).EndsIn name)
    (start : Place) : placeOf start text ≠ [] := by
  rw [placeOf, h.placeFrom]
  simp

/-- A text without a slash names something right where it starts. -/
theorem Path.ofText_of_notMem {text : String} (h : '/' ∉ text.toList) :
    ofText text = ⟨false, [text]⟩ := by
  have hhead : text.toList.head? ≠ some '/' := fun heq => h (List.mem_of_mem_head? heq)
  rw [ofText_of_no_slash hhead, partsOf_of_notMem h]

theorem placeOf_empty (start : Place) : placeOf start "" = start := rfl

/-! ## A name in a directory -/

section Joined

variable {directory name : String}

/-- A name is joined to a directory with one slash between them. -/
theorem Path.joined_eq (hname : name.toList.head? ≠ some '/') (hdirectory : directory ≠ "") :
    (∃ stem, directory = stem ++ "/" ∧ Path.joined directory name = stem ++ "/" ++ name) ∨
      Path.joined directory name = directory ++ "/" ++ name := by
  have hfirst : (name.toList.head? == some '/' || directory == "") = false := by
    simp [hname, hdirectory]
  unfold Path.joined
  rw [hfirst]
  by_cases hlast : directory.toList.getLast? = some '/'
  · -- The directory ends in the slash between them.
    left
    obtain ⟨chars, hchars⟩ := List.getLast?_eq_some_iff.1 hlast
    have hstem : directory = String.ofList chars ++ "/" := by
      rw [← String.toList_inj, hchars]
      simp
    refine ⟨_, hstem, ?_⟩
    rw [hlast, ← hstem]
    rfl
  · -- A slash is set between them.
    right
    have hbeq : (directory.toList.getLast? == some '/') = false := by simp [hlast]
    rw [hbeq]
    rfl

/-- What is written in front keeps the start of a text that has one. -/
theorem Path.head?_append (hdirectory : directory ≠ "") (after : String) :
    (directory ++ after).toList.head? = directory.toList.head? := by
  have hne : directory.toList ≠ [] := by simpa using hdirectory
  rw [String.toList_append, List.head?_append_of_ne_nil _ hne]

/-- A name joined to a directory leads from the directory to where the name leads. -/
theorem placeOf_joined (start : Place) (directory name : String) :
    placeOf start (Path.joined directory name) = placeOf (placeOf start directory) name := by
  by_cases hname : name.toList.head? = some '/'
  · have hjoined : Path.joined directory name = name := by simp [Path.joined, hname]
    rw [hjoined, placeOf_eq_walk, placeOf_eq_walk, if_pos hname, if_pos hname]
  · by_cases hdirectory : directory = ""
    · have hjoined : Path.joined directory name = name := by simp [Path.joined, hdirectory]
      rw [hjoined, hdirectory, placeOf_empty]
    · rw [placeOf_eq_walk _ name, if_neg hname, placeOf_eq_walk, placeOf_eq_walk]
      rcases Path.joined_eq hname hdirectory with ⟨stem, hstem, hjoined⟩ | hjoined
      · -- The slash that ends the directory leads nowhere by itself.
        have hhead : (Path.joined directory name).toList.head? = directory.toList.head? := by
          rw [hjoined, ← hstem, Path.head?_append hdirectory]
        have hparts : Path.partsOf directory = Path.partsOf stem ++ [""] := by
          have h := Path.partsOf_slash stem ""
          rwa [String.append_empty, ← hstem] at h
        rw [hhead, hjoined, Path.partsOf_slash, hparts, Place.walk_append, Place.walk_append]
        rfl
      · have hhead : (Path.joined directory name).toList.head? = directory.toList.head? := by
          rw [hjoined, String.append_assoc, Path.head?_append hdirectory]
        rw [hhead, hjoined, Path.partsOf_slash, Place.walk_append]

/-- A name joined to a directory ends as the name does. -/
theorem Path.last?_joined (directory name : String) :
    (Path.ofText (Path.joined directory name)).last? = (Path.ofText name).last? := by
  by_cases hname : name.toList.head? = some '/'
  · have hjoined : Path.joined directory name = name := by simp [Path.joined, hname]
    rw [hjoined]
  · by_cases hdirectory : directory = ""
    · have hjoined : Path.joined directory name = name := by simp [Path.joined, hdirectory]
      rw [hjoined]
    · have hlast (before : String) :
          (Path.ofText (before ++ "/" ++ name)).last? = (Path.ofText name).last? := by
        rw [Path.last?_ofText, Path.last?_ofText, Path.partsOf_slash,
          List.getLast?_append_of_ne_nil _ (Path.partsOf_ne_nil name)]
      rcases Path.joined_eq hname hdirectory with ⟨stem, -, hjoined⟩ | hjoined
      · rw [hjoined, hlast]
      · rw [hjoined, hlast]

end Joined

end Files

end ModelFactory

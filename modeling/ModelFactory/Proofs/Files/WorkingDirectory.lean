import ModelFactory.Proofs.Files.Outside
import ModelFactory.Proofs.Files.Rewriting

/-!
# The directory in which a process works

The path of the working directory leads there by its names (`Store.placeOf_directoryPath`). As long
as the directory is there its path is told (`Store.currentDirectory_eq_ok_iff`), also after
directories were kept (`Store.KeepsDirectories.currentDirectory`) and in another store that is the
same outside a place which is neither the directory nor around it
(`Store.SameOutside.currentDirectory_eq`).
-/

set_option autoImplicit false

namespace ModelFactory.Files

theorem Path.isName_iff {part : String} :
    isName part = true ↔ staysHere part = false ∧ part ≠ ".." ∧ '/' ∉ part.toList := by
  simp [isName, and_assoc]

/-- Names lead into themselves, one after the other. -/
theorem Place.walk_names {names : List String} (h : ∀ name ∈ names, Path.isName name = true)
    (place : Place) : Place.walk place names = place ++ names := by
  induction names generalizing place with
  | nil => exact (List.append_nil place).symm
  | cons name rest ih =>
    obtain ⟨hstays, hup, -⟩ := Path.isName_iff.1 (h name List.mem_cons_self)
    have hlead : Place.lead place name = place ++ [name] := by
      simp only [Place.lead, hstays, hup, if_false, Bool.false_eq_true]
    show Place.walk (Place.lead place name) rest = place ++ name :: rest
    rw [hlead, ih fun other hother => h other (List.mem_cons_of_mem name hother)]
    simp

namespace Store

variable {start place : Place} {store other after : Store} {directory : String}

/-- The path of the working directory starts at the root and has the names that lead there. -/
theorem names_directoryPath (store : Store) :
    (Path.ofText store.directoryPath).absolute = true ∧
      (Path.ofText store.directoryPath).names = store.workingDirectory := by
  have hparts : ∀ part ∈ store.workingDirectory,
      Path.staysHere part = false ∧ part ≠ "" ∧ '/' ∉ part.toList := by
    intro part hpart
    obtain ⟨hstays, -, hslash⟩ := Path.isName_iff.1 (store.named part hpart)
    refine ⟨hstays, ?_, hslash⟩
    rintro rfl
    cases hstays
  have htext : ∀ part ∈ (⟨true, store.workingDirectory⟩ : Path).parts,
      part ≠ "" ∧ '/' ∉ part.toList := fun part hpart => (hparts part hpart).2
  obtain ⟨habsolute, hnames⟩ := Path.names_ofText_text htext (.inl rfl)
  refine ⟨habsolute, hnames.trans ?_⟩
  exact Path.filter_staysHere_eq_self fun part hpart => (hparts part hpart).1

/-- The path of the working directory comes through the first names that lead there. -/
theorem comesThrough_directoryPath {inside : Place}
    (h : (Path.ofText store.directoryPath).ComesThrough start inside) :
    inside <+: store.workingDirectory := by
  obtain ⟨habsolute, hnames⟩ := store.names_directoryPath
  obtain ⟨count, hinside⟩ := h
  have hnamed : ∀ name ∈ store.workingDirectory.take count, Path.isName name = true :=
    fun name hname => store.named name (List.mem_of_mem_take hname)
  rw [Path.origin, habsolute, hnames, if_pos rfl, Place.walk_names hnamed, List.nil_append]
    at hinside
  rw [hinside]
  exact List.take_prefix count _

/-- The path of the working directory leads there, wherever it is followed from. -/
theorem placeOf_directoryPath (store : Store) (start : Place) :
    placeOf start store.directoryPath = store.workingDirectory := by
  obtain ⟨habsolute, hnames⟩ := store.names_directoryPath
  rw [placeOf, Path.placeFrom, habsolute, if_pos rfl, ← Place.walk_filter, ← Path.names, hnames,
    Place.walk_names store.named, List.nil_append]

theorem currentDirectory_eq_ok_iff :
    store.currentDirectory = .ok directory ↔
      directory = store.directoryPath ∧ store.isDirectory (.ofText directory) = true := by
  unfold currentDirectory
  split
  · rename_i hthere
    constructor
    · intro h
      cases h
      exact ⟨rfl, hthere⟩
    · rintro ⟨rfl, -⟩
      rfl
  · rename_i hgone
    constructor
    · intro h
      cases h
    · rintro ⟨rfl, hthere⟩
      exact absurd hthere hgone

/-- A working directory that is kept has its path still. -/
theorem KeepsDirectories.currentDirectory (hkeeps : store.KeepsDirectories after)
    (h : store.currentDirectory = .ok directory) : after.currentDirectory = .ok directory := by
  obtain ⟨hpath, hthere⟩ := currentDirectory_eq_ok_iff.1 h
  refine currentDirectory_eq_ok_iff.2 ⟨?_, hkeeps.isDirectory hthere⟩
  rw [hpath, directoryPath, directoryPath, hkeeps.workingDirectory]

namespace SameOutside

/-- Both stores tell the same of a working directory that is not at the place or in it. -/
theorem currentDirectory_eq (h : SameOutside start place store other)
    (houtside : ¬ place <+: start) : other.currentDirectory = store.currentDirectory := by
  have hpath : other.directoryPath = store.directoryPath := by
    rw [directoryPath, directoryPath, h.workingDirectory, h.otherDirectory]
  have henters : ¬ (Path.ofText store.directoryPath).Enters start place := by
    rintro ⟨inside, hthrough, hinside⟩
    refine houtside (hinside.trans ?_)
    rw [← h.workingDirectory]
    exact comesThrough_directoryPath hthrough
  unfold Store.currentDirectory
  rw [hpath, h.isDirectory_eq henters]

end SameOutside

end Store

end ModelFactory.Files

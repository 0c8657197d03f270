import ModelFactory.Proofs.Files.Directories

/-!
# What lies outside a place

Two stores may differ at one place, and in what lies in it, and be the same everywhere else
(`Store.SameOutside`). A path that does not come there (`Path.Enters`) leads to the same in both:
it is read alike (`Store.SameOutside.readFile`), directories are made alike
(`Store.SameOutside.makeDirectories`) and files are written alike (`Store.SameOutside.writeFile`).
What was done alike leaves stores that are the same outside the place, and what lies at the place
stays as it was in each of them (`Store.DoneAlike`). So whatever is done in several steps is done
alike if each step is (`Store.DoneAlike.bind`).
-/

set_option autoImplicit false

namespace ModelFactory.Files

/-! ## Paths that do not come there -/

namespace Path

variable {path parent : Path} {start place : Place}

/-- The path comes to the place or to something in it. -/
def Enters (path : Path) (start place : Place) : Prop :=
  ∃ inside, path.ComesThrough start inside ∧ place <+: inside

/-- Where some of its first parts lead, the path comes through. -/
theorem comesThrough_of_prefix {parts : List String} (h : parts <+: path.parts) (start : Place) :
    path.ComesThrough start (Place.walk (path.origin start) parts) := by
  have hnames : parts.filter (!staysHere ·) <+: path.names := h.filter _
  refine ⟨(parts.filter (!staysHere ·)).length, ?_⟩
  rw [← List.prefix_iff_eq_take.1 hnames, Place.walk_filter]

theorem not_prefix_of_not_enters (h : ¬ path.Enters start place) {parts : List String}
    (hparts : parts <+: path.parts) : ¬ place <+: Place.walk (path.origin start) parts := by
  intro hinside
  exact h ⟨_, comesThrough_of_prefix hparts start, hinside⟩

/-- The path of the directory around comes to no other places. -/
theorem Enters.of_parent (hparent : path.parent? = some parent) (h : parent.Enters start place) :
    path.Enters start place := by
  obtain ⟨inside, hthrough, hinside⟩ := h
  exact ⟨inside, hthrough.of_parent hparent, hinside⟩

/-- Neither does its text. -/
theorem Enters.of_parent_text {text : String} (hparent : (ofText text).parent? = some parent)
    (hne : parent.isEmpty = false) (h : (ofText parent.text).Enters start place) :
    (ofText text).Enters start place := by
  obtain ⟨inside, ⟨count, hcount⟩, hinside⟩ := h
  obtain ⟨habsolute, hnames⟩ := names_ofText_parent hparent hne
  rw [origin, habsolute, hnames] at hcount
  exact .of_parent hparent ⟨inside, ⟨count, hcount⟩, hinside⟩

/-- The path comes through as many places as it has names, and through the one it starts from. -/
theorem enters_iff :
    path.Enters start place ↔ ∃ count ∈ List.range (path.names.length + 1),
      place <+: Place.walk (path.origin start) (path.names.take count) := by
  constructor
  · rintro ⟨_, ⟨count, rfl⟩, hinside⟩
    refine ⟨min count path.names.length, List.mem_range.2 (by omega), ?_⟩
    rwa [← List.take_take, List.take_length]
  · rintro ⟨count, -, hinside⟩
    exact ⟨_, ⟨count, rfl⟩, hinside⟩

instance : Decidable (path.Enters start place) := decidable_of_iff _ enters_iff.symm

end Path

namespace Store

variable {start place : Place} {store other : Store} {path : Path}

/-! ## Stores that are the same outside a place -/

/-- Both stores have this directory to start from, and outside the place they hold the same. -/
structure SameOutside (start place : Place) (store other : Store) : Prop where
  workingDirectory : store.workingDirectory = start
  otherDirectory : other.workingDirectory = start
  entries : ∀ outside : Place, ¬ place <+: outside →
    other.entries[outside]? = store.entries[outside]?

namespace SameOutside

/-- Whatever is put to a place, the store is the same outside it. -/
theorem of_put (store : Store) (place : Place) (entry : Entry) :
    SameOutside store.workingDirectory place store (store.put place entry) := by
  refine ⟨rfl, rfl, ?_⟩
  intro outside houtside
  rw [getElem?_put, if_neg]
  rintro rfl
  exact houtside List.prefix_rfl

theorem itemAt?_eq (h : SameOutside start place store other) {outside : Place}
    (houtside : ¬ place <+: outside) : other.itemAt? outside = store.itemAt? outside := by
  rw [itemAt?, itemAt?, h.entries outside houtside]

theorem step_eq (h : SameOutside start place store other) {outside : Place}
    (houtside : ¬ place <+: outside) (part : String) :
    other.step outside part = store.step outside part := by
  rw [step, step, h.itemAt?_eq houtside]

/-- Parts that lead past the place are followed alike. -/
theorem follow_eq (h : SameOutside start place store other) {reached : Place} {parts : List String}
    (hparts : ∀ front, front <+: parts → ¬ place <+: Place.walk reached front) :
    other.follow reached parts = store.follow reached parts := by
  induction parts generalizing reached with
  | nil => rfl
  | cons part rest ih =>
    have hhere : ¬ place <+: reached := hparts [] List.nil_prefix
    rw [follow, follow, List.foldlM_cons, List.foldlM_cons, h.step_eq hhere]
    cases hnext : store.step reached part with
    | error error => rfl
    | ok next =>
      apply ih
      intro front hfront
      rw [(step_eq_lead hnext).2]
      exact hparts (part :: front) (List.cons_prefix_cons.2 ⟨rfl, hfront⟩)

theorem start_eq (h : SameOutside start place store other) (path : Path) :
    store.start path = path.origin start ∧ other.start path = path.origin start := by
  rw [Store.start, Store.start, h.workingDirectory, h.otherDirectory]
  exact ⟨rfl, rfl⟩

/-- The first parts of a path that does not come to the place are followed alike, and they lead to
no place in it. -/
theorem follow_path (h : SameOutside start place store other) (hpath : ¬ path.Enters start place)
    {parts : List String} (hparts : parts <+: path.parts) :
    other.follow (other.start path) parts = store.follow (store.start path) parts ∧
      ∀ reached, store.follow (store.start path) parts = .ok reached → ¬ place <+: reached := by
  obtain ⟨hstart, hother⟩ := h.start_eq path
  rw [hstart, hother]
  constructor
  · apply h.follow_eq
    intro front hfront
    exact Path.not_prefix_of_not_enters hpath (hfront.trans hparts)
  · intro reached hreached
    rw [follow_eq_walk hreached]
    exact Path.not_prefix_of_not_enters hpath hparts

/-- The path leads to the same in both stores. -/
theorem find_eq (h : SameOutside start place store other) (hpath : ¬ path.Enters start place) :
    other.find path = store.find path := by
  obtain ⟨hfollow, houtside⟩ := h.follow_path hpath List.prefix_rfl
  unfold find
  rw [hfollow]
  cases hreached : store.follow (store.start path) path.parts with
  | error error => rfl
  | ok reached =>
    have hitem := h.itemAt?_eq (houtside reached hreached)
    simp only [bind, Except.bind, hitem]

theorem isDirectory_eq (h : SameOutside start place store other)
    (hpath : ¬ path.Enters start place) : other.isDirectory path = store.isDirectory path := by
  rw [isDirectory, isDirectory, h.find_eq hpath]

theorem read_eq (h : SameOutside start place store other) {text : String}
    (hpath : ¬ (Path.ofText text).Enters start place) : other.read text = store.read text := by
  unfold read
  cases hchecked : checked text with
  | error error => rfl
  | ok path =>
    rw [← checked_eq_ok hchecked] at hpath
    simp only [bind, Except.bind, h.find_eq hpath]

/-- The last name of a path stands in the same directory in both stores. -/
theorem target_eq (h : SameOutside start place store other) (hpath : ¬ path.Enters start place) :
    other.target path = store.target path := by
  have hparts : (path.parts.take (path.parts.length -
      (path.parts.reverse.takeWhile (· == "")).length)).dropLast <+: path.parts :=
    (List.dropLast_prefix _).trans (List.take_prefix _ _)
  obtain ⟨hfollow, houtside⟩ := h.follow_path hpath hparts
  unfold target
  dsimp only
  rw [hfollow]
  cases hreached : store.follow (store.start path) (path.parts.take (path.parts.length -
      (path.parts.reverse.takeWhile (· == "")).length)).dropLast with
  | error error => rfl
  | ok reached =>
    have hstep := h.step_eq (houtside reached hreached)
    simp only [bind, Except.bind, hstep]

/-- Stores to which the same is put stay the same outside the place. -/
theorem put (h : SameOutside start place store other) (outside : Place) (entry : Entry) :
    SameOutside start place (store.put outside entry) (other.put outside entry) := by
  refine ⟨h.workingDirectory, h.otherDirectory, ?_⟩
  intro away haway
  rw [getElem?_put, getElem?_put, h.entries away haway]

end SameOutside

/-! ## What is done alike -/

/-- Two changes that put the same to a place outside, or are refused for the same reason. -/
inductive PutAlike (place : Place) (store other : Store) :
    Except FileError Store → Except FileError Store → Prop where
  | put {outside : Place} (h : ¬ place <+: outside) (entry : Entry) :
    PutAlike place store other (.ok (store.put outside entry)) (.ok (other.put outside entry))
  | refused (error : FileError) : PutAlike place store other (.error error) (.error error)

/-- The same has come of what was done in two stores: one answer, and stores that are the same
outside the place and hold at the place what they held before. -/
structure DoneAlike {α : Type} (start place : Place) (store other : Store)
    (result otherResult : α × Store) : Prop where
  answer : otherResult.1 = result.1
  outside : SameOutside start place result.2 otherResult.2
  inside : ∀ inside : Place, place <+: inside →
    result.2.entries[inside]? = store.entries[inside]? ∧
      otherResult.2.entries[inside]? = other.entries[inside]?

namespace DoneAlike

variable {α β : Type}

/-- Nothing is done. -/
theorem nothing (h : SameOutside start place store other) (answer : α) :
    DoneAlike start place store other (answer, store) (answer, other) :=
  ⟨rfl, h, fun _ _ => ⟨rfl, rfl⟩⟩

/-- What goes on alike from what was done alike has been done alike. -/
theorem trans {result otherResult : α × Store} {last otherLast : β × Store}
    (h : DoneAlike start place store other result otherResult)
    (hlast : DoneAlike start place result.2 otherResult.2 last otherLast) :
    DoneAlike start place store other last otherLast := by
  refine ⟨hlast.answer, hlast.outside, ?_⟩
  intro inside hinside
  obtain ⟨hstore, hother⟩ := h.inside inside hinside
  obtain ⟨hstore', hother'⟩ := hlast.inside inside hinside
  exact ⟨hstore'.trans hstore, hother'.trans hother⟩

/-- A program whose first step is done alike goes on from one answer. -/
theorem bind {program : StateM Store α} {next : α → StateM Store β}
    (h : DoneAlike start place store other (program store) (program other))
    (hnext : ∀ store' other', SameOutside start place store' other' →
      DoneAlike start place store' other' (next (program store).1 store')
        (next (program store).1 other')) :
    DoneAlike start place store other ((program >>= next) store) ((program >>= next) other) := by
  have hlast := hnext _ _ h.outside
  have hsame : (program >>= next) other = next (program store).1 (program other).2 := by
    rw [← h.answer]
    rfl
  rw [hsame]
  exact h.trans hlast

/-- A change that puts the same, with its error as a value. -/
theorem of_putAlike (h : SameOutside start place store other)
    {change otherChange : Except FileError Store} (failed : FileError → α) (done : α) :
    PutAlike place store other change otherChange →
    DoneAlike start place store other
      (match change with
        | .ok after => (done, after)
        | .error error => (failed error, store))
      (match otherChange with
        | .ok after => (done, after)
        | .error error => (failed error, other)) := by
  intro hchange
  cases hchange with
  | refused error => exact nothing h _
  | @put outside houtside entry =>
    refine ⟨rfl, h.put outside entry, ?_⟩
    intro inside hinside
    have hne : outside ≠ inside := by
      rintro rfl
      exact houtside hinside
    rw [getElem?_put, getElem?_put, if_neg hne, if_neg hne]
    exact ⟨rfl, rfl⟩

end DoneAlike

namespace SameOutside

/-! ## Reading and writing files -/

/-- A file is read alike. -/
theorem readFile (h : SameOutside start place store other) {text : String}
    (hpath : ¬ (Path.ofText text).Enters start place) :
    DoneAlike start place store other
      ((FileAccess.readFile text : StateM Store (Except FileError ByteArray)) store)
      ((FileAccess.readFile text : StateM Store (Except FileError ByteArray)) other) := by
  show DoneAlike start place store other (store.read text, store) (other.read text, other)
  rw [h.read_eq hpath]
  exact .nothing h _

theorem write_alike (h : SameOutside start place store other) {text : String}
    (hpath : ¬ (Path.ofText text).Enters start place) (content : String) :
    PutAlike place store other (store.write text content) (other.write text content) := by
  unfold write
  cases hchecked : checked text with
  | error error => exact .refused error
  | ok path =>
    rw [← checked_eq_ok hchecked] at hpath
    simp only [Bind.bind, Except.bind, h.target_eq hpath]
    cases htarget : store.target path with
    | error error => exact .refused error
    | ok found =>
      obtain ⟨around, name?⟩ := found
      cases name? with
      | none => exact .refused .isDirectory
      | some name =>
        -- The file stands where the whole path leads, which is outside.
        obtain ⟨hends, haround⟩ := target_eq_around htarget
        have hfile : ¬ place <+: around ++ [name] := by
          rw [haround, ← hends.placeFrom, h.workingDirectory]
          exact Path.not_prefix_of_not_enters hpath List.prefix_rfl
        dsimp only
        rw [h.itemAt?_eq hfile]
        cases store.itemAt? (around ++ [name]) with
        | none => exact .put hfile _
        | some entry =>
          cases entry with
          | directory => exact .refused .isDirectory
          | file old => exact .put hfile _

/-- A file is written alike. -/
theorem writeFile (h : SameOutside start place store other) {text : String}
    (hpath : ¬ (Path.ofText text).Enters start place) (content : String) :
    DoneAlike start place store other
      ((FileAccess.writeFile text content : StateM Store (Except FileError Unit)) store)
      ((FileAccess.writeFile text content : StateM Store (Except FileError Unit)) other) :=
  .of_putAlike h Except.error (Except.ok ()) (h.write_alike hpath content)

/-! ## Making directories -/

theorem makeDirectory_alike (h : SameOutside start place store other)
    (hpath : ¬ path.Enters start place) :
    PutAlike place store other (store.makeDirectory path) (other.makeDirectory path) := by
  have htaken := List.take_prefix (path.parts.length -
    (path.parts.reverse.takeWhile (· == "")).length) path.parts
  unfold makeDirectory
  dsimp only
  cases path.isEmpty with
  | true => exact .refused .missing
  | false =>
    generalize path.parts.take (path.parts.length -
      (path.parts.reverse.takeWhile (· == "")).length) = parts at htaken
    obtain ⟨hfollow, houtside⟩ := h.follow_path hpath ((List.dropLast_prefix _).trans htaken)
    rw [hfollow]
    cases haround : store.follow (store.start path) parts.dropLast with
    | error error => exact .refused error
    | ok around =>
      have hstep := h.step_eq (houtside around haround)
      simp only [Bind.bind, Except.bind, Bool.false_eq_true, if_false, hstep]
      cases store.step around "." with
      | error error => exact .refused error
      | ok here =>
        cases hlast : parts.getLast? with
        | none => exact .refused .alreadyExists
        | some last =>
          dsimp only
          split
          · exact .refused .alreadyExists
          · cases hnew : store.step around last with
            | error error => exact .refused error
            | ok new =>
              -- The new directory stands where the parts lead, which is outside.
              have hparts : store.follow (store.start path) parts = .ok new := by
                obtain ⟨front, rfl⟩ := List.getLast?_eq_some_iff.1 hlast
                rw [List.dropLast_concat] at haround
                rw [follow_append, haround, ← hnew, ← follow_singleton]
                rfl
              have hnewOutside := (h.follow_path hpath htaken).2 new hparts
              dsimp only
              rw [h.itemAt?_eq hnewOutside]
              cases store.itemAt? new with
              | none => exact .put hnewOutside .directory
              | some entry => exact .refused .alreadyExists

theorem ensureDirectory_alike (h : SameOutside start place store other)
    (hpath : ¬ path.Enters start place) :
    DoneAlike start place store other (ensureDirectory path store)
      (ensureDirectory path other) := by
  unfold ensureDirectory
  rw [h.isDirectory_eq hpath]
  exact .of_putAlike h
    (fun error => if store.isDirectory path then Except.ok () else Except.error error)
    (Except.ok ()) (h.makeDirectory_alike hpath)

end SameOutside

section Levels

variable {levels : Nat}

/-- If nothing is missing around a directory, it is the only one that has to be made. -/
theorem ensureDirectories_of_ne (hempty : path.isEmpty = false)
    (h : (ensureDirectory path store).1 ≠ .error .missing) :
    ensureDirectories (levels + 1) path store = ensureDirectory path store := by
  unfold ensureDirectories
  rw [hempty]
  simp only [Bool.false_eq_true, if_false]
  split
  · rename_i tried htried
    rw [htried] at h
    exact absurd rfl h
  · rfl

/-- Otherwise the directory around it is made first, and then it is tried again. -/
theorem ensureDirectories_of_missing (hempty : path.isEmpty = false)
    (h : (ensureDirectory path store).1 = .error .missing) :
    ensureDirectories (levels + 1) path store =
      match path.parent? with
      | none => (.error .missing, (ensureDirectory path store).2)
      | some parent =>
        (do
          match ← ensureDirectories levels parent with
          | .ok () => ensureDirectory path
          | .error error => pure (.error error) : StateM Store (Except FileError Unit))
          (ensureDirectory path store).2 := by
  have htried : ensureDirectory path store = (.error .missing, (ensureDirectory path store).2) :=
    Prod.ext h rfl
  generalize (ensureDirectory path store).2 = tried at htried ⊢
  rw [ensureDirectories]
  simp only [hempty, htried, Bool.false_eq_true, if_false]
  cases path.parent? with
  | none => rfl
  | some parent =>
    simp only [Bind.bind, StateT.bind]
    cases hmade : ensureDirectories levels parent tried with
    | mk answer made =>
      cases answer with
      | ok done => rfl
      | error error => rfl

end Levels

namespace SameOutside

/-- A directory and those around it are made alike. -/
theorem ensureDirectories_alike (levels : Nat) (h : SameOutside start place store other)
    (hpath : ¬ path.Enters start place) :
    DoneAlike start place store other (ensureDirectories levels path store)
      (ensureDirectories levels path other) := by
  induction levels generalizing store other path with
  | zero => exact .nothing h _
  | succ levels ih =>
    cases hempty : path.isEmpty with
    | true =>
      simp only [ensureDirectories, hempty, if_true]
      exact .nothing h _
    | false =>
      have hown := h.ensureDirectory_alike hpath
      by_cases hmissing : (ensureDirectory path store).1 = .error .missing
      · rw [ensureDirectories_of_missing hempty hmissing,
          ensureDirectories_of_missing hempty (hown.answer.trans hmissing)]
        apply hown.trans
        cases hparent : path.parent? with
        | none => exact .nothing hown.outside _
        | some parent =>
          apply DoneAlike.bind (ih hown.outside fun hparents => hpath (hparents.of_parent hparent))
          intro store' other' hmade
          cases (ensureDirectories levels parent (ensureDirectory path store).2).1 with
          | ok done => exact hmade.ensureDirectory_alike hpath
          | error error => exact .nothing hmade _
      · rw [ensureDirectories_of_ne hempty hmissing,
          ensureDirectories_of_ne hempty (hown.answer ▸ hmissing)]
        exact hown

/-- The directory that a text names and those around it are made alike. -/
theorem makeDirectories (h : SameOutside start place store other) {text : String}
    (hpath : ¬ (Path.ofText text).Enters start place) :
    DoneAlike start place store other
      ((FileAccess.makeDirectories text : StateM Store (Except FileError Unit)) store)
      ((FileAccess.makeDirectories text : StateM Store (Except FileError Unit)) other) := by
  cases hchecked : checked text with
  | error error =>
    simp only [FileAccess.makeDirectories, hchecked]
    exact .nothing h _
  | ok path =>
    rw [← checked_eq_ok hchecked] at hpath
    simp only [FileAccess.makeDirectories, hchecked]
    exact h.ensureDirectories_alike _ hpath

end SameOutside

end Store

end ModelFactory.Files

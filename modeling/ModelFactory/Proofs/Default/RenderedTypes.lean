import ModelFactory.Proofs.Default.Lookups

/-!
# What a rendered type tells

The type defaults are keyed by rendered types, so two types that are rendered alike share an entry.
Every list writes one `<` (`FieldType.count_rendered`). Where the name of the leaf has none itself,
a rendered type therefore tells the number of lists, and the name is what is left without them. It
does not tell the sort of the leaf: types are rendered alike exactly if they differ in that at most
(`FieldType.SameButSort`).

The resolver either finds an entry of the type defaults for a field or passes it over
(`Resolver.FindsFor`, `Resolver.PassesOver`). `rendered_identifies_up_to_sort` says for which fields
it finds the entry of a rendered type.
-/

set_option autoImplicit false

namespace ModelFactory

namespace FieldType

/-! ## Types that differ in the sort of their leaf -/

/-- The type is no list and has the name. -/
inductive IsLeafNamed (name : String) : FieldType → Prop
  | primitive {kind : Primitive} : kind.rendered = name → IsLeafNamed name (.primitive kind)
  | enumeration (constants : List String) : IsLeafNamed name (.enumeration name constants)
  | model : IsLeafNamed name (.model name)

/-- The types differ at most in the sort of their leaf: as many lists stand around two leaves of one
name, each of which is a primitive, an enumeration with any constants or a model. -/
inductive SameButSort : FieldType → FieldType → Prop
  | leaf {name : String} {type other : FieldType} :
      IsLeafNamed name type → IsLeafNamed name other → SameButSort type other
  | list {element other : FieldType} :
      SameButSort element other → SameButSort (.list element) (.list other)

theorem isLeafNamed_iff {name : String} {type : FieldType} :
    IsLeafNamed name type ↔ type.depth = 0 ∧ type.typeName = name := by
  constructor
  · intro h
    cases h with
    | primitive hkind => exact ⟨rfl, hkind⟩
    | enumeration constants => exact ⟨rfl, rfl⟩
    | model => exact ⟨rfl, rfl⟩
  · rintro ⟨hdepth, rfl⟩
    cases type with
    | primitive kind => exact .primitive rfl
    | enumeration name constants => exact .enumeration constants
    | list element => cases hdepth
    | model name => exact .model

/-- Types that differ at most in the sort of their leaf have as many lists and leaves of one name. -/
theorem sameButSort_iff {type other : FieldType} :
    SameButSort type other ↔
      type.depth = other.depth ∧ type.leaf.typeName = other.leaf.typeName := by
  constructor
  · intro h
    induction h with
    | leaf htype hother =>
      obtain ⟨hdepth, hname⟩ := isLeafNamed_iff.1 htype
      obtain ⟨hflat, hsame⟩ := isLeafNamed_iff.1 hother
      rw [leaf_eq_self hdepth, leaf_eq_self hflat]
      exact ⟨hdepth.trans hflat.symm, hname.trans hsame.symm⟩
    | list _ ih => exact ⟨congrArg Nat.succ ih.1, ih.2⟩
  · rintro ⟨hdepth, hname⟩
    rw [← nested_depth_leaf type, ← nested_depth_leaf other, ← hdepth]
    -- Around the two leaves the lists are put back one by one.
    generalize type.depth = depth
    induction depth with
    | zero =>
      exact .leaf (isLeafNamed_iff.2 ⟨depth_leaf type, hname⟩)
        (isLeafNamed_iff.2 ⟨depth_leaf other, rfl⟩)
    | succ depth ih => exact .list ih

instance (type other : FieldType) : Decidable (SameButSort type other) :=
  decidable_of_iff _ sameButSort_iff.symm

/-- A list is never the same as its element. -/
theorem not_sameButSort_list (type : FieldType) :
    ¬ SameButSort type (.list type) ∧ ¬ SameButSort (.list type) type := by
  have hdepth : (list type).depth = type.depth + 1 := rfl
  rw [sameButSort_iff, sameButSort_iff, hdepth]
  omega

/-! ## Reading a rendered type -/

/-- A name that is given to the leaf has no `<`. -/
def HasPlainName : FieldType → Prop
  | primitive _ => True
  | enumeration name _ => '<' ∉ name.toList
  | list element => element.HasPlainName
  | model name => '<' ∉ name.toList

theorem HasPlainName.notMem {type : FieldType} (h : type.HasPlainName) :
    '<' ∉ type.leaf.typeName.toList := by
  induction type with
  | primitive kind => cases kind <;> decide
  | enumeration name constants => exact h
  | list element ih => exact ih h
  | model name => exact h

/-- Every list writes one `<` before whatever the name of the leaf has. -/
theorem count_rendered (type : FieldType) :
    type.rendered.toList.count '<' = type.depth + type.leaf.typeName.toList.count '<' := by
  induction type with
  | list element ih =>
    have hopen : ("List<" : String).toList.count '<' = 1 := by decide
    have hclose : (">" : String).toList.count '<' = 0 := by decide
    simp only [rendered, String.toList_append, List.count_append, ih, hopen, hclose, depth, leaf]
    omega
  | _ => exact (Nat.zero_add _).symm

theorem HasPlainName.count_rendered {type : FieldType} (h : type.HasPlainName) :
    type.rendered.toList.count '<' = type.depth := by
  rw [FieldType.count_rendered, List.count_eq_zero.2 h.notMem, Nat.add_zero]

/-- As many lists around two types can be taken off again. -/
theorem rendered_nested_inj {type other : FieldType} (level : Nat) :
    (nested level type).rendered = (nested level other).rendered ↔
      type.rendered = other.rendered := by
  induction level with
  | zero => exact Iff.rfl
  | succ level ih =>
    rw [← ih]
    simp only [nested, rendered, String.append_left_inj, String.append_right_inj]

/-- Types with as many lists are rendered alike exactly if their leaves have one name. -/
theorem rendered_eq_iff_of_depth_eq {type other : FieldType} (h : type.depth = other.depth) :
    type.rendered = other.rendered ↔ type.leaf.typeName = other.leaf.typeName := by
  have htype : type.rendered = (nested other.depth type.leaf).rendered := by
    rw [← h, nested_depth_leaf]
  have hother : other.rendered = (nested other.depth other.leaf).rendered := by
    rw [nested_depth_leaf]
  rw [htype, hother, rendered_nested_inj, rendered_eq_typeName (depth_leaf type),
    rendered_eq_typeName (depth_leaf other)]

/-- With plain names a rendered type tells the number of lists and the name of the leaf. -/
theorem rendered_eq_iff {type other : FieldType} (htype : type.HasPlainName)
    (hother : other.HasPlainName) :
    type.rendered = other.rendered ↔
      type.depth = other.depth ∧ type.leaf.typeName = other.leaf.typeName := by
  constructor
  · intro h
    -- Names may end in any number of `>`, so only the `<` count the lists.
    have hdepth : type.depth = other.depth := by
      rw [← htype.count_rendered, ← hother.count_rendered, h]
    exact ⟨hdepth, (rendered_eq_iff_of_depth_eq hdepth).1 h⟩
  · rintro ⟨hdepth, hname⟩
    exact (rendered_eq_iff_of_depth_eq hdepth).2 hname

/-- A name with `<` can be the text of a list. -/
example : (model "List<int>").rendered = (list (.primitive .integer)).rendered := by decide

end FieldType

/-! ## Entries of the type defaults -/

/-- Tables that say the same of the rendered type give the type defaults from one tier, and if that
is the tier of overridden types, the same default. -/
theorem TypeDefault.exists_of_rendered {typeDefaults others : OverrideTable} {date : Date}
    {type : FieldType} {expression : String} {source : DefaultSource}
    (h : TypeDefault typeDefaults date type expression source)
    (hsame : others[type.rendered]? = typeDefaults[type.rendered]?) :
    ∃ other, TypeDefault others date type other source ∧
      (source = .typeOverride → other = expression) := by
  cases h with
  | override hover => exact ⟨_, .override (hsame.trans hover), fun _ => rfl⟩
  | primitive hnone hliteral => exact ⟨_, .primitive (hsame.trans hnone) hliteral, fun _ => rfl⟩
  | firstConstant hnone => exact ⟨_, .firstConstant (hsame.trans hnone), fun _ => rfl⟩
  | @list element _ _ hnone _ =>
    -- The element may be given something else now, but it is given something.
    have helement := @Resolver.typeDefault_resolveAs ⟨{ byType := others }, date⟩ "" rfl rfl element
    refine ⟨_, .list (hsame.trans hnone) helement, ?_⟩
    intro hsource
    cases hsource
  | noConstant hnone => exact ⟨_, .noConstant (hsame.trans hnone), fun _ => rfl⟩
  | model hnone => exact ⟨_, .model (hsame.trans hnone), fun _ => rfl⟩

namespace Resolver

variable {resolver : Resolver} {field : Field} {key : String}

/-- The resolver with an entry put into its type defaults. -/
def withTypeDefault (resolver : Resolver) (key expression : String) : Resolver :=
  { resolver with overrides :=
      { resolver.overrides with byType := resolver.overrides.byType.insert key expression } }

/-- The entry of the key is found for the field: whatever its expression is, it is the default, from
the tier of overridden types. -/
def FindsFor (resolver : Resolver) (field : Field) (key : String) : Prop :=
  ∀ expression,
    (resolver.withTypeDefault key expression).resolve field = ⟨expression, .typeOverride⟩

/-- The entry of the key is passed over for the field: whatever its expression is, the default is
from the same tier as without it, and the same if that is the tier of overridden types. -/
def PassesOver (resolver : Resolver) (field : Field) (key : String) : Prop :=
  ∀ expression,
    ((resolver.withTypeDefault key expression).resolve field).source =
        (resolver.resolve field).source ∧
      ((resolver.resolve field).source = .typeOverride →
        (resolver.withTypeDefault key expression).resolve field = resolver.resolve field)

/-- What is found for a field is not passed over. -/
theorem FindsFor.not_passesOver (h : resolver.FindsFor field key) :
    ¬ resolver.PassesOver field key := by
  intro hpasses
  have hsource : (resolver.resolve field).source = .typeOverride := by
    rw [← (hpasses "").1, h ""]
  have hempty := (hpasses "").2 hsource
  have hzero := (hpasses "0").2 hsource
  -- Two expressions would both be the default that the field has without the entry.
  rw [h] at hempty hzero
  have hsame : "" = "0" := congrArg ResolvedDefault.expression (hempty.trans hzero.symm)
  exact absurd hsame (by decide)

theorem findsFor_of_leavesToType (hleaves : resolver.overrides.LeavesToType field)
    (hkey : field.type.rendered = key) : resolver.FindsFor field key := by
  intro expression
  have hfound : (resolver.withTypeDefault key expression).overrides.byType[field.type.rendered]? =
      some expression := by
    rw [hkey]
    exact Std.ExtTreeMap.getElem?_insert_self
  have hafter : (resolver.withTypeDefault key expression).overrides.LeavesToType field :=
    ⟨hleaves.byField, hleaves.byClass, hleaves.nullable⟩
  exact hafter.resolve_eq hfound resolver.sentinelDate

/-- A field that does not leave its default to its type has it without any entry. -/
theorem passesOver_of_not_leavesToType (h : ¬ resolver.overrides.LeavesToType field) :
    resolver.PassesOver field key := by
  intro expression
  have hsame : (resolver.withTypeDefault key expression).resolve field = resolver.resolve field :=
    resolve_eq_of_agree resolver.sentinelDate rfl rfl fun hleaves => absurd hleaves h
  exact ⟨congrArg ResolvedDefault.source hsame, fun _ => hsame⟩

/-- A field that leaves its default to its type has an entry of another key passed over. -/
theorem passesOver_of_ne (hleaves : resolver.overrides.LeavesToType field)
    (hkey : field.type.rendered ≠ key) : resolver.PassesOver field key := by
  intro expression
  have hsame : (resolver.withTypeDefault key expression).overrides.byType[field.type.rendered]? =
      resolver.overrides.byType[field.type.rendered]? := by
    simp only [withTypeDefault]
    rw [Std.ExtTreeMap.getElem?_insert, if_neg]
    simpa using Ne.symm hkey
  have htype : TypeDefault resolver.overrides.byType resolver.sentinelDate field.type
      (resolver.resolve field).expression (resolver.resolve field).source := by
    rw [resolve, hleaves.nullable]
    exact typeDefault_resolveAs hleaves.byField hleaves.byClass field.type
  obtain ⟨other, hother, heq⟩ := htype.exists_of_rendered hsame
  have hafter : (resolver.withTypeDefault key expression).resolve field =
      ⟨other, (resolver.resolve field).source⟩ :=
    fieldDefault_iff.1 (.ofType hleaves.byField hleaves.byClass hleaves.nullable hother)
  rw [hafter]
  exact ⟨rfl, fun hsource => by rw [heq hsource]⟩

/-- Every entry is passed over for a field unless the field leaves its default to a type with that
key. -/
theorem passesOver_of_not
    (h : ¬ (resolver.overrides.LeavesToType field ∧ field.type.rendered = key)) :
    resolver.PassesOver field key := by
  by_cases hleaves : resolver.overrides.LeavesToType field
  · exact passesOver_of_ne hleaves fun hkey => h ⟨hleaves, hkey⟩
  · exact passesOver_of_not_leavesToType hleaves

theorem findsFor_iff :
    resolver.FindsFor field key ↔
      resolver.overrides.LeavesToType field ∧ field.type.rendered = key := by
  constructor
  · intro hfinds
    by_cases h : resolver.overrides.LeavesToType field ∧ field.type.rendered = key
    · exact h
    · exact absurd (passesOver_of_not h) hfinds.not_passesOver
  · rintro ⟨hleaves, hkey⟩
    exact findsFor_of_leavesToType hleaves hkey

theorem passesOver_iff :
    resolver.PassesOver field key ↔
      ¬ (resolver.overrides.LeavesToType field ∧ field.type.rendered = key) := by
  constructor
  · intro hpasses h
    exact (findsFor_iff.2 h).not_passesOver hpasses
  · exact passesOver_of_not

end Resolver

/-! ## What is found by rendered type -/

/-- Rendered types identify types up to the sort of the leaf, where the names of the leaves have no
`<`. Two types are rendered alike exactly if they have as many lists and leaves of one name.

Hence the entry of a rendered type among the type defaults is found for a field exactly if nothing is
given under the name of the field, it is not nullable and its type differs from that one at most in
the sort of the leaf. For every other field the entry is passed over, and so it is for a list of the
type and for an element of it. A list that is not overridden itself still has what its element
defaults to inside its brackets, but as a default that is built in. -/
theorem rendered_identifies_up_to_sort :
    (∀ type other : FieldType, type.HasPlainName → other.HasPlainName →
      (type.rendered = other.rendered ↔
        type.depth = other.depth ∧ type.leaf.typeName = other.leaf.typeName)) ∧
    (∀ (type : FieldType) (resolver : Resolver) (field : Field),
      type.HasPlainName → field.type.HasPlainName →
        let asks := resolver.overrides.LeavesToType field ∧ type.SameButSort field.type
        (resolver.FindsFor field type.rendered ↔ asks) ∧
          (resolver.PassesOver field type.rendered ↔ ¬ asks)) ∧
    (∀ (type : FieldType) (resolver : Resolver) (field : Field), type.HasPlainName →
      field.type = .list type ∨ type = .list field.type →
        ¬ resolver.FindsFor field type.rendered ∧ resolver.PassesOver field type.rendered) := by
  have hfound : ∀ (type : FieldType) (resolver : Resolver) (field : Field),
      type.HasPlainName → field.type.HasPlainName →
        let asks := resolver.overrides.LeavesToType field ∧ type.SameButSort field.type
        (resolver.FindsFor field type.rendered ↔ asks) ∧
          (resolver.PassesOver field type.rendered ↔ ¬ asks) := by
    intro type resolver field htype hfield asks
    have hasks : resolver.overrides.LeavesToType field ∧ field.type.rendered = type.rendered ↔
        asks := by
      rw [eq_comm, FieldType.rendered_eq_iff htype hfield, ← FieldType.sameButSort_iff]
    rw [← hasks]
    exact ⟨Resolver.findsFor_iff, Resolver.passesOver_iff⟩
  refine ⟨fun type other => FieldType.rendered_eq_iff, hfound, ?_⟩
  intro type resolver field htype hlist
  have hother : field.type.HasPlainName ∧ ¬ type.SameButSort field.type := by
    rcases hlist with hlist | rfl
    · rw [hlist]
      exact ⟨htype, (FieldType.not_sameButSort_list type).1⟩
    · exact ⟨htype, (FieldType.not_sameButSort_list field.type).2⟩
  obtain ⟨hplain, hnot⟩ := hother
  obtain ⟨hfinds, hpasses⟩ := hfound type resolver field htype hplain
  exact ⟨fun h => hnot (hfinds.1 h).2, hpasses.2 fun hasks => hnot hasks.2⟩

/-- Rows of an enumeration with the name of a number share the entry of rows of numbers. It is passed
over for rows of a model whose name ends as a list does, for rows of rows and for a single number. -/
theorem rows_identified_up_to_sort :
    let rows : FieldType := .list (.primitive .integer)
    let named : FieldType := .list (.enumeration "int" ["one", "two"])
    let ending : FieldType := .list (.model "int>")
    rows.HasPlainName ∧ named.HasPlainName ∧ ending.HasPlainName ∧
      rows.rendered = named.rendered ∧ ending.rendered ≠ (FieldType.list rows).rendered ∧
      (Resolver.withTypeDefault {} rows.rendered "const []").resolve ⟨"cells", named, false⟩ =
        ⟨"const []", .typeOverride⟩ ∧
      Resolver.PassesOver {} ⟨"cells", ending, false⟩ rows.rendered ∧
      Resolver.PassesOver {} ⟨"cells", .list rows, false⟩ rows.rendered ∧
      Resolver.PassesOver {} ⟨"cells", .primitive .integer, false⟩ rows.rendered := by
  intro rows named ending
  have hrows : rows.HasPlainName := trivial
  have hnamed : named.HasPlainName := by
    show '<' ∉ ("int" : String).toList
    decide
  have hending : ending.HasPlainName := by
    show '<' ∉ ("int>" : String).toList
    decide
  have hsort : rows.SameButSort named := by decide
  have hdiffers : ¬ rows.SameButSort ending := by decide
  obtain ⟨hrendered, hfound, hlists⟩ := rendered_identifies_up_to_sort
  have hcells := (hfound rows {} ⟨"cells", named, false⟩ hrows hnamed).1.2
    ⟨⟨rfl, rfl, rfl⟩, hsort⟩ "const []"
  have hpassed := (hfound rows {} ⟨"cells", ending, false⟩ hrows hending).2.2
    fun hasks => hdiffers hasks.2
  refine ⟨hrows, hnamed, hending, (hrendered rows named hrows hnamed).2 (by decide), ?_, hcells,
    hpassed, (hlists rows {} _ hrows (.inl rfl)).2, (hlists rows {} _ hrows (.inr rfl)).2⟩
  intro h
  obtain ⟨hdepth, -⟩ := (hrendered ending (.list rows) hending hrows).1 h
  exact absurd hdepth (by decide)

end ModelFactory

import Mathlib
import ModelFactory.Proofs.Descriptor.Reading
import ModelFactory.Proofs.Generation.Run
import ModelFactory.Proofs.Json.Written

/-!
# Kinds that no factory is written for

A class may give any word as its kind. `Descriptor.givenKinds?` are the kinds as the classes of a
text give them, and what is loaded has just these (`Descriptor.exists_givenKinds?_of_documentOf`): a
known word is its kind, and only a word that is not known is kept as it is. `Descriptor.KindReplaced`
relates two texts that differ in the word that one class gives.

The word of a class decides about that class alone: with another word the text is loaded as well,
with the same document but for that kind, and a declaration that is no class fails in its own pass
(`Descriptor.kind_confined`).
-/

set_option autoImplicit false

namespace ModelFactory

open Results (exists_of_bind_eq_ok)

/-! ## Words of kinds -/

namespace DeclarationKind

/-- A word is kept as it is exactly if it names no known kind. -/
theorem ofWord_eq_other_iff {text word : String} :
    ofWord text = other word ↔ text = word ∧ text ∉ words.map (·.1) := by
  rw [ofWord, ofKnownWord?]
  cases hkind : words.lookup text with
  | none =>
    have habsent : text ∉ words.map (·.1) := by
      intro hmem
      obtain ⟨entry, hentry, rfl⟩ := List.mem_map.1 hmem
      simpa using List.lookup_eq_none_iff.1 hkind entry hentry
    simp [habsent]
  | some kind =>
    obtain ⟨before, after, hsplit, -⟩ := List.lookup_eq_some_iff.1 hkind
    have hentry : (text, kind) ∈ words := by
      rw [hsplit]
      exact List.mem_append_right _ List.mem_cons_self
    have hknown : text ∈ words.map (·.1) := List.mem_map_of_mem hentry
    have hkind : kind ≠ other word := by
      rintro rfl
      simp [words] at hentry
    simp [hkind, hknown]

/-- Only one word stands for a class. -/
theorem ofWord_eq_classLike_iff {text : String} : ofWord text = classLike ↔ text = "class" := by
  constructor
  · intro h
    by_contra hne
    by_cases hknown : text ∈ words.map (·.1)
    · simp only [words, List.map_cons, List.map_nil, List.mem_cons, List.not_mem_nil,
        or_false] at hknown
      rcases hknown with rfl | rfl | rfl | rfl | rfl | rfl
      · exact hne rfl
      all_goals exact absurd h (by decide)
    · rw [ofWord_eq_other_iff.2 ⟨rfl, hknown⟩] at h
      cases h
  · rintro rfl
    decide

/-- What is described as a class is a class, or a word that was kept as it is. -/
theorem eq_of_described {kind : DeclarationKind} (h : kind.described = "class") :
    kind = classLike ∨ kind = other "class" := by
  cases kind with
  | classLike => exact .inl rfl
  | other text => exact .inr (congrArg other h)
  | _ => exact absurd h (by decide)

end DeclarationKind

namespace Descriptor

open Record (EntryFormat)
open Json.StringText (ofString)

/-! ## How a class gives its kind -/

/-- How a class gives its kind. -/
inductive GivenKind where
  | absent
  | word (text : String)
  /-- The word is the key of an object that has nothing else. -/
  | tagged (text : String)
deriving DecidableEq

namespace GivenKind

/-- The kind that is given. -/
def kind : GivenKind → DeclarationKind
  | absent => .classLike
  | word text | tagged text => .ofWord text

/-- It is the kind of a class. -/
def IsClass (given : GivenKind) : Prop :=
  given = absent ∨ given = word "class" ∨ given = tagged "class"

instance : DecidablePred IsClass := fun _ => inferInstanceAs (Decidable (_ ∨ _))

theorem kind_eq_classLike_iff (given : GivenKind) : given.kind = .classLike ↔ given.IsClass := by
  cases given with
  | absent => simp [kind, IsClass]
  | word text => simp [kind, IsClass, DeclarationKind.ofWord_eq_classLike_iff]
  | tagged text => simp [kind, IsClass, DeclarationKind.ofWord_eq_classLike_iff]

/-- A kind that is given is kept as a word only if the word is not known. -/
theorem notMem_of_kind_eq_other {given : GivenKind} {word : String} (h : given.kind = .other word) :
    word ∉ DeclarationKind.words.map (·.1) := by
  cases given with
  | absent => cases h
  | word text =>
    obtain ⟨rfl, hunknown⟩ := DeclarationKind.ofWord_eq_other_iff.1 h
    exact hunknown
  | tagged text =>
    obtain ⟨rfl, hunknown⟩ := DeclarationKind.ofWord_eq_other_iff.1 h
    exact hunknown

end GivenKind

/-- A format of descriptors in which a kind is given by a word or a tagged word. -/
structure KindFormat (Source Fault : Type) extends ReadingFormat Source Fault where
  /-- How the value gives a kind, if it does. -/
  given? : Source → Option GivenKind
  given_of_kind {source : Source} {kind : DeclarationKind} (h : readers.kind source = .ok kind) :
    ∃ given, given? source = some given ∧ given.kind = kind
  kind_of_word {source : Source} {word : String} (h : given? source = some (.word word)) :
    readers.kind source = .ok (.ofWord word)
  exists_class : ∃ source, readers.kind source = .ok .classLike
  exists_empty : ∃ source, items? source = some []

namespace KindFormat

variable {Source Fault : Type} (format : KindFormat Source Fault) {left right source : Source}

/-- How a declaration gives its kind. -/
def givenKind? (source : Source) : Option GivenKind :=
  (format.entries? classWords source).bind fun entries =>
    match entries.lookup "kind" with
    | none => some .absent
    | some value => format.given? value

/-- How the declarations of a document give their kinds. -/
def givenKinds? (source : Source) : Option (List GivenKind) :=
  (format.entries? documentWords source).bind fun entries =>
    match entries.lookup "classes" with
    | none => some []
    | some value => (format.items? value).bind fun items => items.mapM format.givenKind?

/-- Of the declaration at the index, the word that gives its kind is replaced. -/
def KindReplaced (index : Nat) (word word' : String) : Source → Source → Prop :=
  format.PartReplaced documentWords "classes" (format.ItemReplaced index
    (format.PartReplaced classWords "kind" fun value value' =>
      format.given? value = some (.word word) ∧ format.given? value' = some (.word word')))

section Reading

variable {readFields : Source → Except Fault (List FieldData)}

/-- A declaration has the kind that it gives. -/
theorem exists_givenKind? {data : ClassData}
    (h : format.readRecord (classShape format.readers readFields) source = .ok data) :
    ∃ given, format.givenKind? source = some given ∧ data.kind = given.kind := by
  have hslot : (classShape format.readers readFields).slot? "kind" =
      some (.ofReader "kind" format.readers.kind fun draft kind => { draft with kind }) := rfl
  obtain ⟨entries, draft, hentries, hfinish, hfound, hnone⟩ :=
    EntryFormat.exists_of_readRecord (classShape_independent _ _) hslot h
  obtain ⟨-, hkind, -⟩ := classShape_finish_eq_ok_iff.1 hfinish
  have hwords : format.entries? classWords source = some entries := hentries
  rw [givenKind?, hwords, Option.bind_some]
  cases hlookup : entries.lookup "kind" with
  | some value =>
    obtain ⟨base, change, hfill, rfl⟩ := hfound value hlookup
    obtain ⟨kind, hread, rfl⟩ := Record.Slot.fill_ofReader_eq_ok_iff.1 hfill
    obtain ⟨given, hgiven, hsame⟩ := format.given_of_kind hread
    exact ⟨given, hgiven, hkind.symm.trans hsame.symm⟩
  | none =>
    -- The blank draft is a class already, as if that were given.
    obtain ⟨value, hclass⟩ := format.exists_class
    obtain ⟨base, rfl⟩ := hnone hlookup value _
      (Record.Slot.fill_ofReader_eq_ok_iff.2 ⟨_, hclass, rfl⟩) rfl
    exact ⟨.absent, rfl, hkind.symm⟩

/-- Items that are read each give their kind. -/
theorem exists_mapM_givenKind? {items : List Source} {datas : List ClassData}
    (h : List.Forall₂ (fun item data =>
      format.readRecord (classShape format.readers readFields) item = .ok data) items datas) :
    ∃ kinds, items.mapM format.givenKind? = some kinds ∧
      List.Forall₂ (fun (given : GivenKind) (data : ClassData) => data.kind = given.kind) kinds
        datas := by
  induction h with
  | nil => exact ⟨[], rfl, .nil⟩
  | cons hfirst hrest ih =>
    obtain ⟨given, hgiven, hkind⟩ := format.exists_givenKind? hfirst
    obtain ⟨kinds, hkinds, hall⟩ := ih
    refine ⟨given :: kinds, ?_, .cons hkind hall⟩
    rw [List.mapM_cons, hgiven, hkinds]
    rfl

/-- The declarations of a document have the kinds that they give. -/
theorem exists_givenKinds? {data : DocumentData} (h : format.readDocument source = .ok data) :
    ∃ kinds, format.givenKinds? source = some kinds ∧
      List.Forall₂ (fun (given : GivenKind) (data : ClassData) => data.kind = given.kind) kinds
        data.classes := by
  have hslot : (documentShape format.readers (format.readList format.readClass)).slot? "classes" =
      some (.ofReader "classes" (format.readList format.readClass) fun draft classes =>
        { draft with classes }) := rfl
  obtain ⟨entries, draft, hentries, hfinish, hfound, hnone⟩ :=
    EntryFormat.exists_of_readRecord (documentShape_independent _ _) hslot h
  obtain rfl : draft = data := Except.ok.inj hfinish
  have hwords : format.entries? documentWords source = some entries := hentries
  rw [givenKinds?, hwords, Option.bind_some]
  cases hlookup : entries.lookup "classes" with
  | some value =>
    obtain ⟨base, change, hfill, rfl⟩ := hfound value hlookup
    obtain ⟨classes, hread, rfl⟩ := Record.Slot.fill_ofReader_eq_ok_iff.1 hfill
    obtain ⟨items, hitems, hclasses⟩ := format.readList_eq_ok_iff.1 hread
    obtain ⟨kinds, hkinds, hall⟩ :=
      format.exists_mapM_givenKind? (Results.mapM_eq_ok_iff.1 hclasses)
    exact ⟨kinds, by simp only [hitems, Option.bind_some, hkinds], hall⟩
  | none =>
    -- The blank draft has no classes, as if an empty list were given.
    obtain ⟨value, hempty⟩ := format.exists_empty
    have hread : format.readList format.readClass value = .ok [] :=
      format.readList_eq_ok_iff.2 ⟨[], hempty, rfl⟩
    obtain ⟨base, rfl⟩ := hnone hlookup value _
      (Record.Slot.fill_ofReader_eq_ok_iff.2 ⟨_, hread, rfl⟩) rfl
    exact ⟨[], rfl, .nil⟩

/-- A declaration that gives another word is the same but for its kind. -/
theorem readRecord_of_kindReplaced {word word' : String} {data : ClassData}
    (h : format.PartReplaced classWords "kind" (fun value value' =>
      format.given? value = some (.word word) ∧ format.given? value' = some (.word word'))
      left right)
    (hread : format.readRecord (classShape format.readers readFields) left = .ok data) :
    data.kind = .ofWord word ∧
      format.readRecord (classShape format.readers readFields) right =
        .ok { data with kind := .ofWord word' } := by
  have hslot : (classShape format.readers readFields).slot? "kind" =
      some (.ofReader "kind" format.readers.kind fun draft kind => { draft with kind }) := rfl
  obtain ⟨value, value', base, change, ⟨hword, hword'⟩, hfill, hfinish, hright⟩ :=
    EntryFormat.PartReplaced.exists_readRecord (classShape_independent _ _) hslot h hread
  obtain ⟨kind, hkind, rfl⟩ := Record.Slot.fill_ofReader_eq_ok_iff.1 hfill
  obtain ⟨hname, hsame, hdefaults, hfields⟩ := classShape_finish_eq_ok_iff.1 hfinish
  rw [format.kind_of_word hword] at hkind
  cases hkind
  refine ⟨hsame.symm, hright _ _ (Record.Slot.fill_ofReader_eq_ok_iff.2
    ⟨_, format.kind_of_word hword', rfl⟩) ?_⟩
  exact classShape_finish_eq_ok_iff.2 ⟨hname, rfl, hdefaults, hfields⟩

/-- A document of which one declaration gives another word is the same but for that kind. -/
theorem readDocument_of_kindReplaced {index : Nat} {word word' : String} {data : DocumentData}
    (h : format.KindReplaced index word word' left right)
    (hread : format.readDocument left = .ok data) :
    ∃ given, data.classes[index]? = some given ∧ given.kind = .ofWord word ∧
      format.readDocument right = .ok
        { data with classes := data.classes.set index { given with kind := .ofWord word' } } := by
  have hslot : (documentShape format.readers (format.readList format.readClass)).slot? "classes" =
      some (.ofReader "classes" (format.readList format.readClass) fun draft classes =>
        { draft with classes }) := rfl
  obtain ⟨value, value', base, change, hitems, hfill, hfinish, hright⟩ :=
    EntryFormat.PartReplaced.exists_readRecord (documentShape_independent _ _) hslot h hread
  obtain ⟨classes, hclasses, rfl⟩ := Record.Slot.fill_ofReader_eq_ok_iff.1 hfill
  obtain rfl := Except.ok.inj hfinish
  obtain ⟨item, item', given, hitem, hgiven, hindex, hlist⟩ := hitems.exists_readList hclasses
  obtain ⟨hkind, hother⟩ := format.readRecord_of_kindReplaced hitem hgiven
  refine ⟨given, hindex, hkind, hright _ _ (Record.Slot.fill_ofReader_eq_ok_iff.2
    ⟨_, hlist _ hother, rfl⟩) rfl⟩

end Reading

end KindFormat

/-! ## Both formats -/

namespace FromJson

open Json (Place)

/-- A tagged word is a key with nothing. -/
def tagged? : List (Json.StringText × Json.Node) → Option GivenKind
  | [(key, .null)] => key.decoded.toOption.map .tagged
  | _ => none

/-- A kind is given by a string, or by an object that tags a word. -/
def given? (place : Place) : Option GivenKind :=
  match place.node with
  | .string text => text.decoded.toOption.map .word
  | .object entries _ => tagged? entries
  | _ => none

theorem given_of_readKind {place : Place} {kind : DeclarationKind} (h : readKind place = .ok kind) :
    ∃ given, given? place = some given ∧ given.kind = kind := by
  rw [readKind] at h
  rw [given?]
  obtain ⟨done, -, h⟩ := exists_of_bind_eq_ok h
  split at h
  · rename_i text hnode
    obtain ⟨word, hword, heq⟩ := exists_of_bind_eq_ok h
    cases heq
    rw [Json.StringText.read?_eq_ok_iff] at hword
    exact ⟨.word word, by rw [hnode]; simp [hword, Except.toOption], rfl⟩
  · rename_i key stop hnode
    obtain ⟨word, hword, hknown⟩ := exists_of_bind_eq_ok h
    rw [Json.StringText.read?_eq_ok_iff] at hword
    refine ⟨.tagged word, by rw [hnode]; simp [tagged?, hword, Except.toOption], ?_⟩
    split at hknown
    · rename_i known hkind
      cases hknown
      simp [GivenKind.kind, DeclarationKind.ofWord, hkind]
    · cases hknown
  · cases h

theorem readKind_of_word {place : Place} {word : String} (h : given? place = some (.word word)) :
    readKind place = .ok (.ofWord word) := by
  obtain ⟨node, room⟩ := place
  cases node with
  | string text =>
    obtain ⟨word', hword, heq⟩ := Option.map_eq_some_iff.1 h
    cases heq
    have hdecoded : text.decoded = .ok word := by
      cases htext : text.decoded with
      | error flaw => rw [htext] at hword; cases hword
      | ok string => rw [htext] at hword; cases hword; rfl
    exact readKind_string hdecoded room
  | object entries stop =>
    have htagged : tagged? entries = some (.word word) := h
    unfold tagged? at htagged
    split at htagged
    · obtain ⟨key, -, heq⟩ := Option.map_eq_some_iff.1 htagged
      cases heq
    · cases htagged
  | _ => cases h

/-- JSON as a format with kinds. -/
def kinds : KindFormat Place Json.Fault where
  toReadingFormat := reading
  given? := given?
  given_of_kind h := given_of_readKind h
  kind_of_word h := readKind_of_word h
  exists_class := ⟨⟨.string ⟨"class".toList.map .plain, .closed⟩, 0⟩, rfl⟩
  exists_empty := ⟨⟨.array [] .closed, 1⟩, rfl⟩

end FromJson

namespace FromToml

open Toml (Value)

/-- A kind is given by a string. -/
def given? (value : Value) : Option GivenKind := value.string?.map .word

theorem given_of_readKind {value : Value} {kind : DeclarationKind} (h : readKind value = .ok kind) :
    ∃ given, given? value = some given ∧ given.kind = kind := by
  cases value with
  | string text =>
    cases h
    exact ⟨.word text, rfl, rfl⟩
  | _ => cases h

theorem readKind_of_word {value : Value} {word : String} (h : given? value = some (.word word)) :
    readKind value = .ok (.ofWord word) := by
  cases value with
  | string text =>
    cases h
    rfl
  | _ => cases h

/-- TOML as a format with kinds. -/
def kinds : KindFormat Value Record.DataFault where
  toReadingFormat := reading
  given? := given?
  given_of_kind h := given_of_readKind h
  kind_of_word h := readKind_of_word h
  exists_class := ⟨.string "class", rfl⟩
  exists_empty := ⟨.array [], rfl⟩

end FromToml

/-- How the classes of a text give their kinds, in the order of the classes. -/
def givenKinds? (format : Format) (text : String) : Option (List GivenKind) :=
  match format with
  | .json => FromJson.kinds.givenKinds? ⟨(Json.Text.read text).root, Json.deepest⟩
  | .toml => (Toml.documentOf text).bind fun entries =>
    FromToml.kinds.givenKinds? (.table .header entries)

/-- The texts are alike, but for the word that gives the kind of the class at the index. -/
def KindReplaced (format : Format) (index : Nat) (word word' text text' : String) : Prop :=
  match format with
  | .json =>
    FromJson.kinds.KindReplaced index word word' ⟨(Json.Text.read text).root, Json.deepest⟩
        ⟨(Json.Text.read text').root, Json.deepest⟩ ∧
      (Json.Text.read text').trailing = (Json.Text.read text).trailing
  | .toml =>
    ∃ entries entries', Toml.documentOf text = some entries ∧
      Toml.documentOf text' = some entries' ∧
      FromToml.kinds.KindReplaced index word word' (.table .header entries)
        (.table .header entries')

section Loaded

variable {format : Format} {text text' : String} {document : Document}

/-- What is loaded has the kinds that the text gives. -/
theorem exists_givenKinds?_of_documentOf (h : documentOf format text = .ok document) :
    ∃ kinds, givenKinds? format text = some kinds ∧
      List.Forall₂ (fun (given : GivenKind) (declaration : Declaration) =>
        declaration.kind = given.kind) kinds document.declarations := by
  cases format with
  | json =>
    obtain ⟨data, hdata, -, rfl⟩ := documentOf_json_eq_ok_iff.1 h
    obtain ⟨kinds, hkinds, hall⟩ := FromJson.kinds.exists_givenKinds? hdata
    exact ⟨kinds, hkinds, List.forall₂_map_right_iff.2 hall⟩
  | toml =>
    obtain ⟨entries, data, hentries, hdata, rfl⟩ := documentOf_toml_eq_ok_iff.1 h
    obtain ⟨kinds, hkinds, hall⟩ := FromToml.kinds.exists_givenKinds? hdata
    refine ⟨kinds, ?_, List.forall₂_map_right_iff.2 hall⟩
    rw [givenKinds?, hentries]
    exact hkinds

/-- Of described data the declaration at the index has another kind. -/
theorem document_set_kind {data : DocumentData} {index : Nat} {given : ClassData}
    (kind : DeclarationKind) :
    DocumentData.document { data with classes := data.classes.set index { given with kind } } =
      { data.document with
        declarations := data.document.declarations.set index
          { given.declaration with kind } } := by
  simp only [DocumentData.document, List.map_set]
  rfl

/-- With another word for a kind the text is loaded as well, with another kind there. -/
theorem documentOf_of_kindReplaced {index : Nat} {word word' : String}
    (h : KindReplaced format index word word' text text')
    (hload : documentOf format text = .ok document) :
    ∃ declaration, document.declarations[index]? = some declaration ∧
      declaration.kind = .ofWord word ∧
      documentOf format text' = .ok
        { document with
          declarations := document.declarations.set index
            { declaration with kind := .ofWord word' } } := by
  have hindex {data : DocumentData} {given : ClassData}
      (hgiven : data.classes[index]? = some given) :
      data.document.declarations[index]? = some given.declaration := by
    rw [DocumentData.document, List.getElem?_map, hgiven]
    rfl
  cases format with
  | json =>
    obtain ⟨hreplaced, htrailing⟩ := h
    obtain ⟨data, hdata, hclosed, rfl⟩ := documentOf_json_eq_ok_iff.1 hload
    obtain ⟨given, hgiven, hkind, hother⟩ :=
      FromJson.kinds.readDocument_of_kindReplaced hreplaced hdata
    exact ⟨given.declaration, hindex hgiven, hkind, documentOf_json_eq_ok_iff.2
      ⟨_, hother, htrailing.trans hclosed, document_set_kind _⟩⟩
  | toml =>
    obtain ⟨entries, entries', hentries, hentries', hreplaced⟩ := h
    obtain ⟨given, data, hgiven, hdata, rfl⟩ := documentOf_toml_eq_ok_iff.1 hload
    rw [hentries] at hgiven
    cases hgiven
    obtain ⟨given, hgiven, hkind, hother⟩ :=
      FromToml.kinds.readDocument_of_kindReplaced hreplaced hdata
    exact ⟨given.declaration, hindex hgiven, hkind, documentOf_toml_eq_ok_iff.2
      ⟨entries', _, hentries', hother, document_set_kind _⟩⟩

end Loaded

/-! ## Which passes fail -/

/-- The classes among declarations are those that give the kind of a class, and the errors are those
of the others. -/
theorem classesOf_of_kinds {kinds : List GivenKind} {declarations : List Declaration}
    (h : List.Forall₂ (fun (given : GivenKind) (declaration : Declaration) =>
      declaration.kind = given.kind) kinds declarations) :
    classesOf declarations =
        ((kinds.zip declarations).filter fun given => given.1.IsClass).map (·.2) ∧
      (othersOf declarations).map errorOf =
        ((kinds.zip declarations).filter fun given => ¬ given.1.IsClass).map
          fun given => .invalidTarget given.2.name given.1.kind := by
  induction h with
  | nil => exact ⟨rfl, rfl⟩
  | @cons given declaration kinds declarations hkind hrest ih =>
    obtain ⟨ihclasses, ihothers⟩ := ih
    rw [List.zip_cons_cons]
    by_cases hclass : given.IsClass
    · have hlike : declaration.kind = .classLike :=
        hkind.trans (given.kind_eq_classLike_iff.2 hclass)
      obtain ⟨hclasses, hothers⟩ := classesOf_cons_of_class hlike declarations
      rw [hclasses, hothers, ihclasses, ihothers, List.filter_cons_of_pos (by simpa using hclass),
        List.filter_cons_of_neg (by simpa using hclass)]
      exact ⟨rfl, rfl⟩
    · have hunlike : declaration.kind ≠ .classLike := fun hlike =>
        hclass (given.kind_eq_classLike_iff.1 (hkind.symm.trans hlike))
      obtain ⟨hclasses, hothers⟩ := classesOf_cons_of_other hunlike declarations
      rw [hclasses, hothers, List.map_cons, ihclasses, ihothers,
        List.filter_cons_of_neg (by simpa using hclass),
        List.filter_cons_of_pos (by simpa using hclass), List.map_cons, errorOf, hkind]
      exact ⟨rfl, rfl⟩

/-- The kind of a class confines itself to the pass of that class. For a text that is loaded:

With another word for the kind of one class, the text is loaded as well, and the document is the same
but for the kind of that class.

The declarations have the kinds that the text gives. Just those that give none, the word for a class
or that word tagged have a factory; each other one has a failure. The message of a word that is not
known names the word as it is written.

No declaration keeps a word that is known, so no failure is told to be about a class. -/
theorem kind_confined {format : Format} {text : String} {document : Document}
    (h : documentOf format text = .ok document) :
    (∀ (index : Nat) (word word' text' : String),
      KindReplaced format index word word' text text' →
      ∃ declaration, document.declarations[index]? = some declaration ∧
        declaration.kind = .ofWord word ∧
        documentOf format text' = .ok
          { document with
            declarations := document.declarations.set index
              { declaration with kind := .ofWord word' } }) ∧
    (∃ kinds, givenKinds? format text = some kinds ∧
      kinds.length = document.declarations.length ∧
      (∀ (settings : GeneratorSettings) (sourcePath : String),
        let output := generate settings document sourcePath
        let given := kinds.zip document.declarations
        output.factories.map (·.definition) =
            (given.filter fun given => given.1.IsClass).map
              (fun given => definitionOf settings given.2) ∧
          output.failures =
            (given.filter fun given => ¬ given.1.IsClass).map
              fun given => .invalidTarget given.2.name given.1.kind) ∧
      ∀ (index : Nat) (word : String), kinds[index]? = some (.word word) →
        word ∉ DeclarationKind.words.map (·.1) →
        ∃ declaration, document.declarations[index]? = some declaration ∧
          ∀ (settings : GeneratorSettings) (sourcePath : String),
            ∃ failure ∈ (generate settings document sourcePath).failures,
              failure.elementName = declaration.name ∧
              failure.message = "`" ++ declaration.name ++ "` is a " ++ word ++
                "; factories can only be generated for classes") ∧
    (∀ declaration ∈ document.declarations, ∀ word, declaration.kind = .other word →
      word ∉ DeclarationKind.words.map (·.1)) ∧
    (∀ (settings : GeneratorSettings) (sourcePath name : String) (kind : DeclarationKind),
      .invalidTarget name kind ∈ (generate settings document sourcePath).failures →
      kind.described ≠ "class") := by
  obtain ⟨kinds, hkinds, hall⟩ := exists_givenKinds?_of_documentOf h
  have hlength : kinds.length = document.declarations.length := hall.length_eq
  have hkept : ∀ declaration ∈ document.declarations, ∀ word, declaration.kind = .other word →
      word ∉ DeclarationKind.words.map (·.1) := by
    intro declaration hdeclaration word hword
    obtain ⟨given, -, hgiven⟩ := Results.exists_mem_of_forall₂ hall.flip hdeclaration
    have hsame : declaration.kind = given.kind := hgiven
    exact GivenKind.notMem_of_kind_eq_other (hsame.symm.trans hword)
  refine ⟨?_, ⟨kinds, hkinds, hlength, ?_, ?_⟩, hkept, ?_⟩
  · intro index word word' text' hreplaced
    exact documentOf_of_kindReplaced hreplaced h
  · intro settings sourcePath output given
    obtain ⟨hclasses, hothers⟩ := classesOf_of_kinds hall
    refine ⟨?_, ?_⟩
    · rw [generate_factories, definitions_factoriesFrom, hclasses, List.map_map]
      rfl
    · rw [generate_failures, hothers]
  · intro index word hgiven hunknown
    obtain ⟨hindex, hword⟩ := List.getElem?_eq_some_iff.1 hgiven
    have hdeclared : index < document.declarations.length := hlength ▸ hindex
    have hsame : document.declarations[index].kind = kinds[index].kind := hall.get hindex hdeclared
    have hkind : document.declarations[index].kind = .other word := by
      rw [hsame, hword]
      exact DeclarationKind.ofWord_eq_other_iff.2 ⟨rfl, hunknown⟩
    refine ⟨document.declarations[index], List.getElem?_eq_getElem hdeclared, ?_⟩
    intro settings sourcePath
    refine ⟨errorOf document.declarations[index], ?_, rfl, ?_⟩
    · rw [generate_failures]
      apply List.mem_map_of_mem
      exact List.mem_filter.2 ⟨List.getElem_mem hdeclared, by simp [hkind]⟩
    · show "`" ++ document.declarations[index].name ++ "` is a " ++
        document.declarations[index].kind.described ++ _ = _
      rw [hkind]
      rfl
  · intro settings sourcePath name kind hfailure hdescribed
    rw [generate_failures] at hfailure
    obtain ⟨declaration, hother, heq⟩ := List.mem_map.1 hfailure
    cases heq
    obtain ⟨hdeclaration, hunlike⟩ := List.mem_filter.1 hother
    rcases DeclarationKind.eq_of_described hdescribed with hlike | hword
    · simp [hlike] at hunlike
    · exact hkept declaration hdeclaration "class" hword (by decide)

/-! ## A kind that is not known -/

/-- A class and a declaration of another kind, in JSON. -/
def pairJson (word : String) : String :=
  "\x7b\"classes\":[\x7b\"name\":\"User\"\x7d,\x7b\"kind\":\"" ++ word ++
    "\",\"name\":\"Both\"\x7d]\x7d"

/-- The pair in TOML. -/
def pairToml (word : String) : String :=
  "[[classes]]\nname = 'User'\n[[classes]]\nkind = '" ++ word ++ "'\nname = 'Both'\n"

/-- The tree of `pairJson`. -/
def pairNode (word : String) : Json.Node :=
  .object [(ofString "classes", .array [
    .object [(ofString "name", .string (ofString "User"))] .closed,
    .object [(ofString "kind", .string (ofString word)),
      (ofString "name", .string (ofString "Both"))] .closed] .closed)] .closed

/-- The entries of `pairToml`. -/
def pairEntries (word : String) : Toml.Entries :=
  [("classes", .tables [[("name", .string "User")],
    [("kind", .string word), ("name", .string "Both")]])]

/-- What the pair describes. -/
def pair (kind : DeclarationKind) : Document where
  declarations := [{ name := "User" }, { name := "Both", kind }]

theorem pairNode_replaced (word word' : String) :
    FromJson.kinds.KindReplaced 1 word word' ⟨pairNode word, Json.deepest⟩
      ⟨pairNode word', Json.deepest⟩ := by
  refine ⟨[], _, _, [], rfl, rfl, [_], _, _, [], rfl, rfl, rfl, [], _, _, [_], rfl, rfl, ?_, ?_⟩
  · simp [FromJson.kinds, FromJson.given?, Json.StringText.decoded_ofString, Except.toOption]
  · simp [FromJson.kinds, FromJson.given?, Json.StringText.decoded_ofString, Except.toOption]

theorem pairJson_replaced : KindReplaced .json 1 "class" "widget" (pairJson "class")
    (pairJson "widget") := by
  have hclass : Json.Text.read (pairJson "class") = ⟨pairNode "class", false⟩ := by
    show Json.Text.read ("\x7b\"classes\":[\x7b\"name\":\"User\"\x7d," ++
      "\x7b\"kind\":\"class\",\"name\":\"Both\"\x7d]\x7d") = _
    cbv
  have hwidget : Json.Text.read (pairJson "widget") = ⟨pairNode "widget", false⟩ := by
    show Json.Text.read ("\x7b\"classes\":[\x7b\"name\":\"User\"\x7d," ++
      "\x7b\"kind\":\"widget\",\"name\":\"Both\"\x7d]\x7d") = _
    cbv
  rw [KindReplaced, hclass, hwidget]
  exact ⟨pairNode_replaced "class" "widget", rfl⟩

theorem pairToml_replaced : KindReplaced .toml 1 "class" "widget" (pairToml "class")
    (pairToml "widget") := by
  have hclass : Toml.documentOf (pairToml "class") = some (pairEntries "class") := by
    show Toml.documentOf ("[[classes]]\nname = 'User'\n" ++
      "[[classes]]\nkind = 'class'\nname = 'Both'\n") = _
    cbv
  have hwidget : Toml.documentOf (pairToml "widget") = some (pairEntries "widget") := by
    show Toml.documentOf ("[[classes]]\nname = 'User'\n" ++
      "[[classes]]\nkind = 'widget'\nname = 'Both'\n") = _
    cbv
  refine ⟨_, _, hclass, hwidget, ?_⟩
  exact ⟨[], _, _, [], rfl, rfl, [_], _, _, [], rfl, rfl, rfl, [], _, _, [_], rfl, rfl, rfl, rfl⟩

/-- The word `widget` in place of `class` is loaded in both formats, and it is told in the failure of
the declaration. -/
theorem widget_confined :
    documentOf .json (pairJson "widget") = .ok (pair (.other "widget")) ∧
      documentOf .toml (pairToml "widget") = .ok (pair (.other "widget")) ∧
      ∀ (settings : GeneratorSettings) (sourcePath : String),
        ∃ failure ∈ (generate settings (pair (.other "widget")) sourcePath).failures,
          failure.elementName = "Both" ∧
          failure.message = "`Both` is a widget; factories can only be generated for classes" := by
  have hjson : documentOf .json (pairJson "class") = .ok (pair .classLike) := by decide +kernel
  have htoml : documentOf .toml (pairToml "class") = .ok (pair .classLike) := by decide +kernel
  obtain ⟨declaration, hdeclaration, -, hloaded⟩ :=
    (kind_confined hjson).1 1 "class" "widget" _ pairJson_replaced
  cases hdeclaration
  obtain ⟨declaration, hdeclaration, -, hloaded'⟩ :=
    (kind_confined htoml).1 1 "class" "widget" _ pairToml_replaced
  cases hdeclaration
  have hwidget : documentOf .json (pairJson "widget") = .ok (pair (.other "widget")) := hloaded
  refine ⟨hwidget, hloaded', ?_⟩
  obtain ⟨-, ⟨kinds, hkinds, -, -, htold⟩, -⟩ := kind_confined hwidget
  have hgiven : givenKinds? .json (pairJson "widget") = some [.absent, .word "widget"] := by
    decide +kernel
  rw [hgiven] at hkinds
  cases hkinds
  obtain ⟨declaration, hdeclaration, hmessage⟩ := htold 1 "widget" rfl (by decide)
  cases hdeclaration
  exact hmessage

end Descriptor

end ModelFactory

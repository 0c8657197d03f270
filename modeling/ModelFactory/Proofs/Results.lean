import Mathlib.Data.List.Forall2

/-!
# Results of computations

A computation that goes on after another one has its result (`Results.exists_of_bind_eq_ok`). A
computation that is done for every item of a list gives the results item by item
(`Results.mapM_eq_ok_iff`), or the error of the first item that has one
(`Results.mapM_eq_error_iff`).
-/

set_option autoImplicit false

namespace ModelFactory.Results

variable {ε α β : Type}

/-- A computation goes on with what was computed before. -/
theorem exists_of_bind_eq_ok {first : Except ε α} {next : α → Except ε β} {result : β}
    (h : first >>= next = .ok result) : ∃ value, first = .ok value ∧ next value = .ok result := by
  cases first with
  | error error => cases h
  | ok value => exact ⟨value, rfl, h⟩

theorem bind_eq_ok_iff {first : Except ε α} {next : α → Except ε β} {result : β} :
    first >>= next = .ok result ↔ ∃ value, first = .ok value ∧ next value = .ok result := by
  refine ⟨exists_of_bind_eq_ok, ?_⟩
  rintro ⟨value, rfl, hnext⟩
  exact hnext

/-- Another error is no result either. -/
theorem mapError_eq_ok_iff {ε' : Type} {computed : Except ε α} {change : ε → ε'} {result : α} :
    computed.mapError change = .ok result ↔ computed = .ok result := by
  cases computed with
  | error error => simp [Except.mapError]
  | ok value => simp [Except.mapError]

theorem map_eq_ok_iff {computed : Except ε α} {change : α → β} {result : β} :
    computed.map change = .ok result ↔ ∃ value, computed = .ok value ∧ change value = result := by
  cases computed with
  | error error => simp [Except.map]
  | ok value => simp [Except.map]

variable {compute : α → Except ε β} {items : List α}

/-- The results are those of the items, one for each in their order. -/
theorem mapM_eq_ok_iff {results : List β} :
    items.mapM compute = .ok results ↔
      List.Forall₂ (fun item result => compute item = .ok result) items results := by
  induction items generalizing results with
  | nil =>
    rw [List.mapM_nil, List.forall₂_nil_left_iff]
    constructor
    · intro h
      cases h
      rfl
    · rintro rfl
      rfl
  | cons item items ih =>
    rw [List.mapM_cons, List.forall₂_cons_left_iff]
    cases hitem : compute item with
    | error error =>
      constructor
      · intro h
        cases h
      · rintro ⟨result, rest, hresult, -, -⟩
        cases hresult
    | ok result =>
      cases hrest : items.mapM compute with
      | error error =>
        constructor
        · intro h
          cases h
        · rintro ⟨first, rest, -, hothers, -⟩
          rw [← ih, hrest] at hothers
          cases hothers
      | ok others =>
        constructor
        · intro h
          cases h
          exact ⟨result, others, rfl, ih.1 hrest, rfl⟩
        · rintro ⟨first, rest, hfirst, hothers, rfl⟩
          cases hfirst
          rw [← ih, hrest] at hothers
          cases hothers
          rfl

/-- The error of the whole is that of the first item that has one. -/
theorem mapM_eq_error_iff {error : ε} :
    items.mapM compute = .error error ↔
      ∃ before item after, items = before ++ item :: after ∧
        (∀ earlier ∈ before, ∃ result, compute earlier = .ok result) ∧
        compute item = .error error := by
  constructor
  · intro h
    induction items with
    | nil => cases h
    | cons item items ih =>
      rw [List.mapM_cons] at h
      cases hitem : compute item with
      | error first =>
        rw [hitem] at h
        cases h
        exact ⟨[], item, items, rfl, by simp, hitem⟩
      | ok result =>
        rw [hitem] at h
        cases hrest : items.mapM compute with
        | error other =>
          rw [hrest] at h
          cases h
          obtain ⟨before, failing, after, rfl, hbefore, hfault⟩ := ih hrest
          refine ⟨item :: before, failing, after, rfl, ?_, hfault⟩
          intro earlier hearlier
          rcases List.mem_cons.1 hearlier with rfl | hearlier
          · exact ⟨result, hitem⟩
          · exact hbefore earlier hearlier
        | ok others =>
          rw [hrest] at h
          cases h
  · rintro ⟨before, item, after, rfl, hbefore, hitem⟩
    induction before with
    | nil =>
      rw [List.nil_append, List.mapM_cons, hitem]
      rfl
    | cons first before ih =>
      obtain ⟨result, hresult⟩ := hbefore first List.mem_cons_self
      have hrest := ih fun earlier hearlier => hbefore earlier (List.mem_cons_of_mem _ hearlier)
      rw [List.cons_append, List.mapM_cons, hresult, hrest]
      rfl

/-- Some item has the error of the whole. -/
theorem exists_of_mapM_eq_error {error : ε} (h : items.mapM compute = .error error) :
    ∃ item ∈ items, compute item = .error error := by
  obtain ⟨before, item, after, rfl, -, hitem⟩ := mapM_eq_error_iff.1 h
  exact ⟨item, List.mem_append_right _ List.mem_cons_self, hitem⟩

/-- Every item of a list has its partner in a list that is matched to it. -/
theorem exists_mem_of_forall₂ {R : α → β → Prop} {results : List β}
    (h : List.Forall₂ R items results) {item : α} (hitem : item ∈ items) :
    ∃ result ∈ results, R item result := by
  induction h with
  | nil => cases hitem
  | cons hfirst hrest ih =>
    rcases List.mem_cons.1 hitem with rfl | hitem
    · exact ⟨_, List.mem_cons_self, hfirst⟩
    · obtain ⟨result, hresult, hR⟩ := ih hitem
      exact ⟨result, List.mem_cons_of_mem _ hresult, hR⟩

/-- What is matched to two lists in a row is matched to each of them in turn. -/
theorem forall₂_append_left_iff {R : α → β → Prop} {first second : List α} {results : List β} :
    List.Forall₂ R (first ++ second) results ↔
      ∃ front back, results = front ++ back ∧ List.Forall₂ R first front ∧
        List.Forall₂ R second back := by
  constructor
  · intro h
    induction first generalizing results with
    | nil => exact ⟨[], results, rfl, .nil, h⟩
    | cons item first ih =>
      rw [List.cons_append, List.forall₂_cons_left_iff] at h
      obtain ⟨result, rest, hitem, hrest, rfl⟩ := h
      obtain ⟨front, back, rfl, hfront, hback⟩ := ih hrest
      exact ⟨result :: front, back, rfl, .cons hitem hfront, hback⟩
  · rintro ⟨front, back, rfl, hfront, hback⟩
    exact List.rel_append hfront hback

/-- Lists that are matched by what two functions say of their items give the same list. -/
theorem map_eq_map_of_forall₂ {γ : Type} {say : α → γ} {say' : β → γ} {results : List β}
    (h : List.Forall₂ (fun item result => say item = say' result) items results) :
    items.map say = results.map say' := by
  induction h with
  | nil => rfl
  | cons hfirst hrest ih => rw [List.map_cons, List.map_cons, hfirst, ih]

end ModelFactory.Results

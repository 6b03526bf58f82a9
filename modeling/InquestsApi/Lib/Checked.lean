import Mathlib.Data.List.Forall2

/-! Lists that are checked element by element: the first error ends the check, and without
one every element has its result. -/
namespace Checked

variable {ε α β : Type} {f : α → Except ε β} {as : List α} {bs : List β} {e : ε}

theorem mapM_cons_of_ok {a : α} {b : β} (h : f a = .ok b) :
    (a :: as).mapM f = (as.mapM f).map (b :: ·) := by
  rw [List.mapM_cons, h]
  cases as.mapM f <;> rfl

theorem mapM_cons_of_error {a : α} (h : f a = .error e) : (a :: as).mapM f = .error e := by
  rw [List.mapM_cons, h]
  rfl

theorem mapM_ok : as.mapM f = .ok bs ↔ List.Forall₂ (fun a b => f a = .ok b) as bs := by
  induction as generalizing bs with
  | nil =>
      rw [List.forall₂_nil_left_iff, List.mapM_nil]
      constructor
      · intro h
        cases h
        rfl
      · rintro rfl
        rfl
  | cons a rest ih =>
      rw [List.forall₂_cons_left_iff]
      cases hhead : f a with
      | error e =>
          rw [mapM_cons_of_error hhead]
          constructor
          · intro h
            cases h
          · rintro ⟨b, _, hb, -⟩
            cases hb
      | ok b =>
          rw [mapM_cons_of_ok hhead]
          cases htail : rest.mapM f with
          | error e =>
              constructor
              · intro h
                cases h
              · rintro ⟨_, bs', -, hbs', -⟩
                rw [← ih, htail] at hbs'
                cases hbs'
          | ok bs' =>
              have hrest := ih.mp htail
              constructor
              · intro h
                cases h
                exact ⟨b, bs', rfl, hrest, rfl⟩
              · rintro ⟨b', bs'', hb, hbs'', rfl⟩
                cases hb
                rw [← ih, htail] at hbs''
                cases hbs''
                rfl

/-- The results are those of the elements. -/
theorem mem_mapM {b : β} (h : as.mapM f = .ok bs) : b ∈ bs ↔ ∃ a ∈ as, f a = .ok b := by
  have hall := mapM_ok.mp h
  clear h
  induction hall with
  | nil => simp
  | cons hhead _ ih =>
      simp only [List.mem_cons, exists_eq_or_imp, hhead, Except.ok.injEq]
      exact or_congr eq_comm ih

/-- An error of the whole is an error of one of its elements. -/
theorem mapM_error (h : as.mapM f = .error e) : ∃ a ∈ as, f a = .error e := by
  induction as with
  | nil => cases h
  | cons a rest ih =>
      cases hhead : f a with
      | error e' =>
          rw [mapM_cons_of_error hhead] at h
          cases h
          exact ⟨a, List.mem_cons_self, hhead⟩
      | ok b =>
          rw [mapM_cons_of_ok hhead] at h
          cases htail : rest.mapM f with
          | error e' =>
              rw [htail] at h
              cases h
              obtain ⟨a', ha', herror⟩ := ih htail
              exact ⟨a', List.mem_cons_of_mem _ ha', herror⟩
          | ok bs =>
              rw [htail] at h
              cases h

/-- The whole goes through when each element does. -/
theorem mapM_goes : (∃ bs, as.mapM f = .ok bs) ↔ ∀ a ∈ as, ∃ b, f a = .ok b := by
  constructor
  · rintro ⟨bs, h⟩ a ha
    have hall := mapM_ok.mp h
    induction hall with
    | nil => cases ha
    | cons hhead htail ih =>
        rcases List.mem_cons.mp ha with rfl | ha
        · exact ⟨_, hhead⟩
        · exact ih (mapM_ok.mpr htail) ha
  · intro h
    cases hresult : as.mapM f with
    | ok bs => exact ⟨bs, rfl⟩
    | error e =>
        obtain ⟨a, ha, herror⟩ := mapM_error hresult
        obtain ⟨b, hb⟩ := h a ha
        rw [herror] at hb
        cases hb

/-- A check with one result for each element it lets through. -/
theorem mapM_eq_map {allowed : α → Prop} {result : α → β}
    (h : ∀ a b, f a = .ok b ↔ allowed a ∧ b = result a) :
    as.mapM f = .ok bs ↔ (∀ a ∈ as, allowed a) ∧ bs = as.map result := by
  rw [mapM_ok]
  constructor
  · intro hall
    induction hall with
    | nil => exact ⟨List.forall_mem_nil _, rfl⟩
    | cons hhead _ ih =>
        obtain ⟨hallowed, rfl⟩ := (h _ _).mp hhead
        exact ⟨List.forall_mem_cons.mpr ⟨hallowed, ih.1⟩, by rw [List.map_cons, ih.2]⟩
  · rintro ⟨hallowed, rfl⟩
    rw [List.forall₂_map_right_iff, List.forall₂_same]
    exact fun a ha => (h _ _).mpr ⟨hallowed a ha, rfl⟩

end Checked

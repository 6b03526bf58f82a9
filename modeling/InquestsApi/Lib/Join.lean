import Mathlib.Data.List.Nodup

/-! Inner joins of lists of rows: what is kept exactly once of each row, and what is lost. -/
namespace Join

variable {α β κ : Type*}

/-- The partners of a row in an outer join. -/
def outer (partners : List β) : List (Option β) :=
  match partners with
  | [] => [none]
  | partners => partners.map some

theorem outer_ne_nil (partners : List β) : outer partners ≠ [] := by
  cases partners with
  | nil => exact List.cons_ne_nil _ _
  | cons partner rest => exact List.cons_ne_nil _ _

/-- One row alone passes. -/
theorem filter_eq_singleton {rows : List β} {p : β → Prop} [DecidablePred p] (hnodup : rows.Nodup)
    {row : β} (h : row ∈ rows) (hp : p row) (hone : ∀ x ∈ rows, p x → x = row) :
    (rows.filter p) = [row] := by
  have hperm : (rows.filter p).Perm [row] := by
    apply (List.perm_ext_iff_of_nodup (hnodup.filter _) (List.nodup_singleton _)).mpr
    intro x
    rw [List.mem_filter, List.mem_singleton, decide_eq_true_eq]
    constructor
    · rintro ⟨hx, hpx⟩
      exact hone x hx hpx
    · rintro rfl
      exact ⟨h, hp⟩
  exact List.perm_singleton.mp hperm

/-- Of rows with keys of their own, one has a given key. -/
theorem filter_key_eq_singleton [DecidableEq κ] {rows : List β} {key : β → κ}
    (hkeys : (rows.map key).Nodup) {row : β} (h : row ∈ rows) :
    (rows.filter fun x => key x = key row) = [row] :=
  filter_eq_singleton hkeys.of_map h rfl fun _ hx hsame => List.inj_on_of_nodup_map hkeys hx h hsame

/-- A lookup by such a key finds the row that has it. -/
theorem find?_key_iff [DecidableEq κ] {rows : List β} {key : β → κ} (hkeys : (rows.map key).Nodup)
    {row : β} {k : κ} : (rows.find? fun x => key x = k) = some row ↔ row ∈ rows ∧ key row = k := by
  rw [← List.head?_filter]
  constructor
  · intro h
    obtain ⟨hrow, hkey⟩ := List.mem_filter.mp (List.mem_of_head? h)
    exact ⟨hrow, of_decide_eq_true hkey⟩
  · rintro ⟨hrow, rfl⟩
    rw [filter_key_eq_singleton hkeys hrow]
    rfl

/-- Of the rows that are kept, one has the key of a row that is kept, and none that of another. -/
theorem count_key_filter [BEq κ] [LawfulBEq κ] {rows : List β} {key : β → κ} {p : β → Prop} [DecidablePred p]
    (hkeys : (rows.map key).Nodup) {row : β} (h : row ∈ rows) :
    ((rows.filter p).map key).count (key row) = if p row then 1 else 0 := by
  have hkept : key row ∈ (rows.filter p).map key ↔ p row := by
    rw [List.mem_map]
    constructor
    · intro hmem
      obtain ⟨x, hx, hkey⟩ := hmem
      obtain ⟨hx, hp⟩ := List.mem_filter.mp hx
      rw [← List.inj_on_of_nodup_map hkeys hx h hkey]
      exact of_decide_eq_true hp
    · intro hp
      exact ⟨row, List.mem_filter.mpr ⟨h, decide_eq_true hp⟩, rfl⟩
  rw [(hkeys.sublist (List.filter_sublist.map key)).count]
  exact if_congr hkept rfl rfl

/-- Tables that agree on the rows of several keys agree on the rows of each. -/
theorem filter_key_congr [DecidableEq κ] {rows rows' : List β} {key : β → κ} {keys : List κ} {k : κ}
    (h : (rows.filter fun x => key x ∈ keys) = rows'.filter fun x => key x ∈ keys) (hk : k ∈ keys) :
    (rows.filter fun x => key x = k) = rows'.filter fun x => key x = k := by
  have hnarrow : ∀ l : List β, (l.filter fun x => key x = k)
      = (l.filter fun x => key x ∈ keys).filter fun x => key x = k := by
    intro l
    rw [List.filter_filter]
    apply List.filter_congr
    intro x _
    by_cases hsame : key x = k
    · simp [hsame, hk]
    · simp [hsame]
  rw [hnarrow rows, hnarrow rows', h]

theorem find?_key_congr [DecidableEq κ] {rows rows' : List β} {key : β → κ} {keys : List κ} {k : κ}
    (h : (rows.filter fun x => key x ∈ keys) = rows'.filter fun x => key x ∈ keys) (hk : k ∈ keys) :
    (rows.find? fun x => key x = k) = rows'.find? fun x => key x = k := by
  rw [← List.head?_filter, ← List.head?_filter, filter_key_congr h hk]

/-- A join in which the rows that are kept have one partner each keeps each of them once. -/
theorem flatMap_eq_map_filter {rows : List α} {partners : α → List β} {kept : α → Prop}
    [DecidablePred kept] {project : β → α}
    (hkept : ∀ x ∈ rows, kept x → ∃ y, partners x = [y] ∧ project y = x)
    (hlost : ∀ x ∈ rows, ¬ kept x → partners x = []) :
    (rows.flatMap partners).map project = rows.filter kept := by
  induction rows with
  | nil => rfl
  | cons x rest ih =>
      have hrest := ih (fun a ha => hkept a (List.mem_cons_of_mem x ha))
        fun a ha => hlost a (List.mem_cons_of_mem x ha)
      rw [List.flatMap_cons, List.map_append, hrest]
      by_cases hx : kept x
      · obtain ⟨y, hpartners, hproject⟩ := hkept x List.mem_cons_self hx
        rw [hpartners, List.filter_cons_of_pos (by simpa using hx), List.map_singleton, hproject]
        rfl
      · rw [hlost x List.mem_cons_self hx, List.filter_cons_of_neg (by simpa using hx)]
        rfl

/-- A join in which every row has one partner keeps each row once. -/
theorem flatMap_eq_self {rows : List α} {partners : α → List β} {project : β → α}
    (h : ∀ x ∈ rows, ∃ y, partners x = [y] ∧ project y = x) :
    (rows.flatMap partners).map project = rows := by
  have hall : (rows.flatMap partners).map project = rows.filter fun _ => True :=
    flatMap_eq_map_filter (fun x hx _ => h x hx) fun x _ hlost => absurd trivial hlost
  rw [hall]
  exact List.filter_eq_self.mpr fun _ _ => rfl

/-- Such a join, of the rows with their partners. -/
theorem map_fst_flatMap {rows : List α} {partners : α → List β}
    (hone : ∀ x ∈ rows, ∃ y, partners x = [y]) :
    (rows.flatMap fun x => (partners x).map fun y => (x, y)).map Prod.fst = rows := by
  apply flatMap_eq_self
  intro x hx
  obtain ⟨y, hy⟩ := hone x hx
  exact ⟨(x, y), by rw [hy, List.map_singleton], rfl⟩

end Join

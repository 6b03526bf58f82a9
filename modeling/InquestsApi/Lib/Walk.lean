import Mathlib.Data.Fintype.Card
import Mathlib.Logic.Relation

/-! Following the one link that an element may have until there is none: which elements are passed,
and when that comes to an end. -/
namespace Walk

variable {α : Type*}

/-- The elements from the first one on, up to one without a link. -/
inductive Path (next : α → Option α) : α → List α → Prop
  | last {a : α} (hend : next a = none) : Path next a [a]
  | link {a b : α} {path : List α} (hnext : next a = some b) (hrest : Path next b path) :
      Path next a (a :: path)

def Link (next : α → Option α) (a b : α) : Prop := next a = some b

/-- Some element on the way leads back to itself. -/
def Cyclic (next : α → Option α) (a : α) : Prop :=
  ∃ b, Relation.ReflTransGen (Link next) a b ∧ Relation.TransGen (Link next) b b

variable {next : α → Option α} {a b : α} {path path' : List α}

theorem Path.unique (h : Path next a path) (h' : Path next a path') : path = path' := by
  induction h generalizing path' with
  | last hend =>
      cases h' with
      | last _ => rfl
      | link hnext _ =>
          rw [hend] at hnext
          cases hnext
  | link hnext hrest ih =>
      cases h' with
      | last hend =>
          rw [hend] at hnext
          cases hnext
      | link hnext' hrest' =>
          rw [hnext] at hnext'
          cases hnext'
          rw [ih hrest']

/-- From an element on the way there is a shorter way. -/
theorem Path.of_link (h : Path next a path) (hlink : Link next a b) :
    ∃ rest, Path next b rest ∧ rest.length < path.length := by
  cases h with
  | last hend =>
      rw [Link, hend] at hlink
      cases hlink
  | @link _ b' rest hnext hrest =>
      have hsame : b' = b := Option.some.inj (hnext.symm.trans hlink)
      subst hsame
      exact ⟨rest, hrest, Nat.lt_succ_self _⟩

theorem Path.of_transGen (h : Path next a path) (hlinks : Relation.TransGen (Link next) a b) :
    ∃ rest, Path next b rest ∧ rest.length < path.length := by
  induction hlinks with
  | single hlink => exact h.of_link hlink
  | tail _ hlink ih =>
      obtain ⟨between, hbetween, hshorter⟩ := ih
      obtain ⟨rest, hrest, hlt⟩ := hbetween.of_link hlink
      exact ⟨rest, hrest, hlt.trans hshorter⟩

theorem Path.of_reflTransGen (h : Path next a path) (hlinks : Relation.ReflTransGen (Link next) a b) :
    ∃ rest, Path next b rest := by
  rcases Relation.reflTransGen_iff_eq_or_transGen.mp hlinks with rfl | hlinks
  · exact ⟨path, h⟩
  · obtain ⟨rest, hrest, _⟩ := h.of_transGen hlinks
    exact ⟨rest, hrest⟩

/-- No element of a way that ends leads back to itself. -/
theorem Path.not_cyclic (h : Path next a path) : ¬ Cyclic next a := by
  rintro ⟨b, hreached, hback⟩
  obtain ⟨rest, hrest⟩ := h.of_reflTransGen hreached
  obtain ⟨rest', hrest', hlt⟩ := hrest.of_transGen hback
  rw [hrest.unique hrest'] at hlt
  exact absurd hlt (Nat.lt_irrefl _)

theorem Path.transGen_of_mem (h : Path next a path) (hmem : b ∈ path.tail) :
    Relation.TransGen (Link next) a b := by
  induction h with
  | last _ => cases hmem
  | @link a c rest hnext hrest ih =>
      have hlink : Link next a c := hnext
      cases hrest with
      | last _ =>
          rw [List.tail_cons, List.mem_singleton] at hmem
          rw [hmem]
          exact .single hlink
      | link _ _ =>
          rw [List.tail_cons, List.mem_cons] at hmem
          rcases hmem with rfl | hmem
          · exact .single hlink
          · exact .head hlink (ih hmem)

/-- A way that ends passes no element twice. -/
theorem Path.nodup (h : Path next a path) : path.Nodup := by
  induction h with
  | last _ => exact List.nodup_singleton _
  | @link a c rest hnext hrest ih =>
      refine List.nodup_cons.mpr ⟨fun hmem => ?_, ih⟩
      have hwhole : Path next a (a :: rest) := .link hnext hrest
      exact hwhole.not_cyclic ⟨a, .refl, hwhole.transGen_of_mem hmem⟩

/-- Among finitely many elements, a way on which none leads back to itself ends. -/
theorem exists_path [Finite α] (h : ¬ Cyclic next a) : ∃ path, Path next a path := by
  -- the elements on the way, those farther on below those before them
  let after : α → α → Prop := fun y x =>
    Relation.ReflTransGen (Link next) a x ∧ Relation.TransGen (Link next) x y
  have htrans : IsTrans α after :=
    ⟨fun x y z hxy hyz => ⟨hyz.1, hyz.2.trans hxy.2⟩⟩
  have hirrefl : Std.Irrefl after := ⟨fun x hx => h ⟨x, hx⟩⟩
  have hwf : WellFounded after := Finite.wellFounded_of_trans_of_irrefl after
  have hall : ∀ x, Relation.ReflTransGen (Link next) a x → ∃ path, Path next x path := by
    intro x
    induction x using hwf.induction with
    | h x ih =>
        intro hreached
        cases hnext : next x with
        | none => exact ⟨[x], .last hnext⟩
        | some y =>
            have hlink : Link next x y := hnext
            obtain ⟨path, hpath⟩ := ih y ⟨hreached, .single hlink⟩ (hreached.tail hlink)
            exact ⟨x :: path, .link hnext hpath⟩
  exact hall a .refl

theorem exists_path_iff [Finite α] : (∃ path, Path next a path) ↔ ¬ Cyclic next a := by
  constructor
  · intro h
    obtain ⟨path, hpath⟩ := h
    exact hpath.not_cyclic
  · exact exists_path

end Walk

import Mathlib.Data.List.Nodup
import Mathlib.Logic.Function.Basic

/-! Scripts of schema changes over a lookup table, whose key column is of an enumerated type, and a
table that refers to it: when a command is refused, what it does otherwise, and what a script that is
followed to its end has done. -/
namespace SchemaScript

/-- The enumerated types by name, the lookup table, and the table that refers to it by a column of
its own type. -/
@[ext]
structure Database (κ α β : Type) where
  types : String → Option (List κ)
  lookup : List (κ × α)
  lookupType : String
  referring : List (κ × β)
  referringType : String
  foreignKey : Bool

/-- The keys of a statement are read as labels of the type of the column they are compared with. -/
inductive Command (κ α : Type) where
  | addValue (type : String) (label : κ)
  | renameType (name newName : String)
  | createType (name : String) (labels : List κ)
  | dropType (name : String)
  | upsert (key : κ) (inserted : α) (updated : α → α)
  | repoint (sources : List κ) (target : κ)
  | delete (keys : List κ)
  | dropForeignKey
  | alterLookup (type : String)
  | alterReferring (type : String)
  | addForeignKey

abbrev Script (κ α : Type) := List (Command κ α)

variable {κ α β : Type}

namespace Database

variable (db : Database κ α β)

def labels (type : String) : List κ := (db.types type).getD []

def keys : List κ := db.lookup.map (·.1)

variable {db} {db' : Database κ α β} {type : String}

theorem labels_eq {labels : List κ} (h : db.types type = some labels) : db.labels type = labels := by
  unfold Database.labels
  rw [h, Option.getD_some]

theorem labels_congr (h : db'.types type = db.types type) : db'.labels type = db.labels type := by
  unfold Database.labels
  rw [h]

/-- A type that has a label is there. -/
theorem types_isSome {k : κ} (h : k ∈ db.labels type) : (db.types type).isSome := by
  unfold Database.labels at h
  cases htype : db.types type with
  | some labels => rfl
  | none =>
      rw [htype] at h
      cases h

end Database

/-- Every key is a label of its column's type, the lookup table has each key once and, while there is
a foreign key, every row refers to a row of the lookup table. -/
structure WellFormed (db : Database κ α β) : Prop where
  lookup_typed : ∀ row ∈ db.lookup, row.1 ∈ db.labels db.lookupType
  referring_typed : ∀ row ∈ db.referring, row.1 ∈ db.labels db.referringType
  keys_nodup : db.keys.Nodup
  referenced : db.foreignKey = true →
    db.lookupType = db.referringType ∧ ∀ row ∈ db.referring, row.1 ∈ db.keys

/-- The two columns have this type, with these labels. -/
structure At (name : String) (labels : List κ) (db : Database κ α β) : Prop extends WellFormed db where
  type : db.types name = some labels
  lookupType : db.lookupType = name
  referringType : db.referringType = name
  foreignKey : db.foreignKey = true

section At

variable {db : Database κ α β} {name : String} {current : List κ}

theorem At.labels_eq (h : At name current db) : db.labels name = current := Database.labels_eq h.type

theorem At.keys_typed (h : At name current db) : ∀ k ∈ db.keys, k ∈ current := by
  intro k hk
  obtain ⟨row, hrow, rfl⟩ := List.mem_map.mp hk
  rw [← h.labels_eq, ← h.lookupType]
  exact h.lookup_typed row hrow

theorem At.refers (h : At name current db) : ∀ row ∈ db.referring, row.1 ∈ db.keys :=
  (h.referenced h.foreignKey).2

end At

variable [DecidableEq κ]

namespace Database

/-- `ON CONFLICT (key) DO UPDATE`. -/
def upsertRow (key : κ) (inserted : α) (updated : α → α) (rows : List (κ × α)) : List (κ × α) :=
  if key ∈ rows.map (·.1) then rows.map fun row => if row.1 = key then (row.1, updated row.2) else row
  else rows ++ [(key, inserted)]

end Database

namespace Command

variable (db : Database κ α β)

/-- The command is not refused. While there is a foreign key, no row may come to refer to nothing, and
neither of the two columns may change its type. -/
def Accepted : Command κ α → Prop
  | addValue type _ => (db.types type).isSome
  | renameType name newName => (db.types name).isSome ∧ db.types newName = none
  | createType name labels => db.types name = none ∧ labels.Nodup
  | dropType name => (db.types name).isSome ∧ db.lookupType ≠ name ∧ db.referringType ≠ name
  | upsert key _ _ => key ∈ db.labels db.lookupType
  | repoint sources target =>
    (∀ source ∈ sources, source ∈ db.labels db.referringType) ∧ target ∈ db.labels db.referringType
      ∧ (db.foreignKey = true → (∃ row ∈ db.referring, row.1 ∈ sources) → target ∈ db.keys)
  | delete keys =>
    (∀ key ∈ keys, key ∈ db.labels db.lookupType)
      ∧ (db.foreignKey = true → ∀ row ∈ db.referring, row.1 ∉ keys)
  | dropForeignKey => db.foreignKey = true
  | alterLookup type =>
    db.foreignKey = false ∧ (db.types type).isSome ∧ ∀ row ∈ db.lookup, row.1 ∈ db.labels type
  | alterReferring type =>
    db.foreignKey = false ∧ (db.types type).isSome ∧ ∀ row ∈ db.referring, row.1 ∈ db.labels type
  | addForeignKey =>
    db.foreignKey = false ∧ db.lookupType = db.referringType ∧ ∀ row ∈ db.referring, row.1 ∈ db.keys

instance : (c : Command κ α) → Decidable (c.Accepted db)
  | addValue type _ => inferInstanceAs (Decidable ((db.types type).isSome = true))
  | renameType .. => inferInstanceAs (Decidable (_ ∧ _))
  | createType .. => inferInstanceAs (Decidable (_ ∧ _))
  | dropType .. => inferInstanceAs (Decidable (_ ∧ _))
  | upsert key _ _ => inferInstanceAs (Decidable (key ∈ db.labels db.lookupType))
  | repoint .. => inferInstanceAs (Decidable (_ ∧ _))
  | delete .. => inferInstanceAs (Decidable (_ ∧ _))
  | dropForeignKey => inferInstanceAs (Decidable (db.foreignKey = true))
  | alterLookup .. => inferInstanceAs (Decidable (_ ∧ _))
  | alterReferring .. => inferInstanceAs (Decidable (_ ∧ _))
  | addForeignKey => inferInstanceAs (Decidable (_ ∧ _))

def effect : Command κ α → Database κ α β
  | addValue type label =>
    { db with
      types := Function.update db.types type
        (some (if label ∈ db.labels type then db.labels type else db.labels type ++ [label])) }
  | renameType name newName =>
    { db with
      types := Function.update (Function.update db.types name none) newName (db.types name)
      lookupType := if db.lookupType = name then newName else db.lookupType
      referringType := if db.referringType = name then newName else db.referringType }
  | createType name labels => { db with types := Function.update db.types name (some labels) }
  | dropType name => { db with types := Function.update db.types name none }
  | upsert key inserted updated =>
    { db with lookup := Database.upsertRow key inserted updated db.lookup }
  | repoint sources target =>
    { db with
      referring := db.referring.map fun row => if row.1 ∈ sources then (target, row.2) else row }
  | delete keys => { db with lookup := db.lookup.filter fun row => row.1 ∉ keys }
  | dropForeignKey => { db with foreignKey := false }
  | alterLookup type => { db with lookupType := type }
  | alterReferring type => { db with referringType := type }
  | addForeignKey => { db with foreignKey := true }

/-- The error of a script is the command that was refused. -/
def exec (c : Command κ α) : Except (Command κ α) (Database κ α β) :=
  if c.Accepted db then .ok (c.effect db) else .error c

variable {db} {db' : Database κ α β} {c : Command κ α}

theorem exec_of_accepted (h : c.Accepted db) : c.exec db = .ok (c.effect db) := if_pos h

end Command

namespace Script

def run : Script κ α → Database κ α β → Except (Command κ α) (Database κ α β)
  | [], db => .ok db
  | c :: rest, db => do
    let db ← c.exec db
    run rest db

variable {db db' : Database κ α β} {c : Command κ α} {rest script : Script κ α}

theorem run_nil : run ([] : Script κ α) db = .ok db := rfl

theorem run_cons (h : c.Accepted db) : run (c :: rest) db = run rest (c.effect db) := by
  simp only [run, Command.exec_of_accepted h, bind, Except.bind]

/-- The rule of a script's first command. -/
theorem follow {result : Except (Command κ α) (Database κ α β)} (h : c.Accepted db)
    (hrest : run rest (c.effect db) = result) : run (c :: rest) db = result :=
  (run_cons h).trans hrest

theorem run_append (h : run script db = .ok db') : run (script ++ rest) db = run rest db' := by
  induction script generalizing db with
  | nil =>
      cases h
      rfl
  | cons c script ih =>
      by_cases haccepted : c.Accepted db
      · rw [run_cons haccepted] at h
        rw [List.cons_append, run_cons haccepted, ih h]
      · have hrefused : c.exec db = .error c := if_neg haccepted
        simp [run, hrefused, bind, Except.bind] at h

/-- What every command that is not refused preserves, a script preserves. -/
theorem run_preserves {P : Database κ α β → Prop}
    (hstep : ∀ (c : Command κ α) (db : Database κ α β), c.Accepted db → P db → P (c.effect db))
    (h : run script db = .ok db') (hstart : P db) : P db' := by
  induction script generalizing db with
  | nil =>
      cases h
      exact hstart
  | cons c script ih =>
      by_cases haccepted : c.Accepted db
      · rw [run_cons haccepted] at h
        exact ih h (hstep c db haccepted hstart)
      · have hrefused : c.exec db = .error c := if_neg haccepted
        simp [run, hrefused, bind, Except.bind] at h

/-- A script that changes nothing the second time changes nothing the next times either. -/
theorem run_replicate {P : Database κ α β → Prop} {result : Database κ α β → Database κ α β}
    (hrun : ∀ db, P db → run script db = .ok (result db)) (hkeeps : ∀ db, P db → P (result db))
    (hagain : ∀ db, P db → result (result db) = result db) (n : ℕ) (h : P db) :
    run (List.replicate (n + 1) script).flatten db = .ok (result db) := by
  induction n generalizing db with
  | zero =>
      rw [List.replicate_one, List.flatten_singleton]
      exact hrun db h
  | succ n ih =>
      rw [List.replicate_succ, List.flatten_cons, run_append (hrun db h), ih (hkeeps db h), hagain db h]

end Script

/-! ### What every command keeps -/

section Keeps

variable {db db' : Database κ α β} {script : Script κ α}

theorem keys_upsertRow {key : κ} {inserted : α} {updated : α → α} {rows : List (κ × α)} :
    (Database.upsertRow key inserted updated rows).map (·.1)
      = if key ∈ rows.map (·.1) then rows.map (·.1) else rows.map (·.1) ++ [key] := by
  unfold Database.upsertRow
  by_cases hmem : key ∈ rows.map (·.1)
  · rw [if_pos hmem, if_pos hmem, List.map_map]
    apply List.map_congr_left
    intro row _
    by_cases hrow : row.1 = key <;> simp [hrow]
  · rw [if_neg hmem, if_neg hmem, List.map_append, List.map_singleton]

theorem mem_keys_upsertRow {key k : κ} {inserted : α} {updated : α → α} {rows : List (κ × α)} :
    k ∈ (Database.upsertRow key inserted updated rows).map (·.1) ↔ k ∈ rows.map (·.1) ∨ k = key := by
  rw [keys_upsertRow]
  by_cases hmem : key ∈ rows.map (·.1)
  · rw [if_pos hmem]
    constructor
    · exact Or.inl
    · rintro (hk | rfl)
      · exact hk
      · exact hmem
  · rw [if_neg hmem, List.mem_append, List.mem_singleton]

section Labels

variable {name newName type : String} {labels : List κ} {label k : κ}

theorem labels_addValue (hk : k ∈ db.labels name) :
    k ∈ (Command.effect db (.addValue type label)).labels name := by
  by_cases hname : name = type
  · subst hname
    have hlabels : (Command.effect db (.addValue name label)).labels name
        = if label ∈ db.labels name then db.labels name else db.labels name ++ [label] :=
      Database.labels_eq (Function.update_self ..)
    rw [hlabels]
    by_cases hlabel : label ∈ db.labels name
    · rw [if_pos hlabel]
      exact hk
    · rw [if_neg hlabel]
      exact List.mem_append_left _ hk
  · rw [Database.labels_congr (Function.update_of_ne hname ..)]
    exact hk

omit [DecidableEq κ] in
/-- A type that has labels is there. -/
theorem ne_of_labels (hk : k ∈ db.labels name) (hnone : db.types newName = none) : name ≠ newName := by
  rintro rfl
  have hsome := Database.types_isSome hk
  rw [hnone] at hsome
  cases hsome

theorem labels_renameType (hnew : db.types newName = none) (hk : k ∈ db.labels type) :
    k ∈ (Command.effect db (.renameType name newName)).labels (if type = name then newName else type) := by
  by_cases htype : type = name
  · subst htype
    rw [if_pos rfl, Database.labels]
    simp only [Command.effect, Function.update_self]
    exact hk
  · rw [if_neg htype, Database.labels]
    simp only [Command.effect, Function.update_of_ne (ne_of_labels hk hnew), Function.update_of_ne htype]
    exact hk

theorem labels_createType (hnew : db.types newName = none) (hk : k ∈ db.labels name) :
    k ∈ (Command.effect db (.createType newName labels)).labels name := by
  rw [Database.labels_congr (Function.update_of_ne (ne_of_labels hk hnew) ..)]
  exact hk

end Labels

section Commands

variable {name newName : String} {key : κ} {sources keys : List κ} {target : κ}
variable {inserted : α} {updated : α → α}

theorem WellFormed.renameType (hdb : WellFormed db) (hnew : db.types newName = none) :
    WellFormed (Command.effect db (.renameType name newName)) where
  lookup_typed := fun row hrow => labels_renameType hnew (hdb.lookup_typed row hrow)
  referring_typed := fun row hrow => labels_renameType hnew (hdb.referring_typed row hrow)
  keys_nodup := hdb.keys_nodup
  referenced := by
    intro hforeign
    obtain ⟨htypes, hrows⟩ := hdb.referenced hforeign
    refine ⟨?_, hrows⟩
    simp only [Command.effect, htypes]

theorem WellFormed.dropType (hdb : WellFormed db) (hlookup : db.lookupType ≠ name)
    (hreferring : db.referringType ≠ name) : WellFormed (Command.effect db (.dropType name)) where
  lookup_typed := by
    intro row hrow
    rw [Database.labels_congr (Function.update_of_ne hlookup ..)]
    exact hdb.lookup_typed row hrow
  referring_typed := by
    intro row hrow
    rw [Database.labels_congr (Function.update_of_ne hreferring ..)]
    exact hdb.referring_typed row hrow
  keys_nodup := hdb.keys_nodup
  referenced := hdb.referenced

theorem nodup_keys_upsertRow {rows : List (κ × α)} (hrows : (rows.map (·.1)).Nodup) :
    ((Database.upsertRow key inserted updated rows).map (·.1)).Nodup := by
  rw [keys_upsertRow]
  by_cases hmem : key ∈ rows.map (·.1)
  · rw [if_pos hmem]
    exact hrows
  · rw [if_neg hmem]
    refine List.nodup_append.mpr ⟨hrows, List.nodup_singleton key, ?_⟩
    intro k hk k' hk' hsame
    rw [List.mem_singleton.mp hk'] at hsame
    exact hmem (hsame ▸ hk)

theorem WellFormed.upsert (hdb : WellFormed db) (hkey : key ∈ db.labels db.lookupType) :
    WellFormed (Command.effect db (.upsert key inserted updated)) where
  lookup_typed := by
    intro row hrow
    have hmem : row.1 ∈ db.keys ∨ row.1 = key := mem_keys_upsertRow.mp (List.mem_map_of_mem hrow)
    rcases hmem with hmem | hmem
    · obtain ⟨old, hold, hsame⟩ := List.mem_map.mp hmem
      rw [← hsame]
      exact hdb.lookup_typed old hold
    · rw [hmem]
      exact hkey
  referring_typed := hdb.referring_typed
  keys_nodup := nodup_keys_upsertRow hdb.keys_nodup
  referenced := by
    intro hforeign
    obtain ⟨htypes, hrows⟩ := hdb.referenced hforeign
    exact ⟨htypes, fun row hrow => mem_keys_upsertRow.mpr (Or.inl (hrows row hrow))⟩

theorem WellFormed.repoint (hdb : WellFormed db) (htarget : target ∈ db.labels db.referringType)
    (hpresent : db.foreignKey = true → (∃ row ∈ db.referring, row.1 ∈ sources) → target ∈ db.keys) :
    WellFormed (Command.effect db (.repoint sources target)) where
  lookup_typed := hdb.lookup_typed
  referring_typed := by
    intro row hrow
    obtain ⟨old, hold, rfl⟩ := List.mem_map.mp hrow
    by_cases hsource : old.1 ∈ sources
    · rw [if_pos hsource]
      exact htarget
    · rw [if_neg hsource]
      exact hdb.referring_typed old hold
  keys_nodup := hdb.keys_nodup
  referenced := by
    intro hforeign
    obtain ⟨htypes, hrows⟩ := hdb.referenced hforeign
    refine ⟨htypes, fun row hrow => ?_⟩
    obtain ⟨old, hold, rfl⟩ := List.mem_map.mp hrow
    by_cases hsource : old.1 ∈ sources
    · rw [if_pos hsource]
      exact hpresent hforeign ⟨old, hold, hsource⟩
    · rw [if_neg hsource]
      exact hrows old hold

theorem WellFormed.delete (hdb : WellFormed db)
    (hfree : db.foreignKey = true → ∀ row ∈ db.referring, row.1 ∉ keys) :
    WellFormed (Command.effect db (.delete keys)) where
  lookup_typed := fun row hrow => hdb.lookup_typed row (List.mem_of_mem_filter hrow)
  referring_typed := hdb.referring_typed
  keys_nodup := by
    have hsublist : (Command.effect db (.delete keys)).keys.Sublist db.keys :=
      List.filter_sublist.map _
    exact hdb.keys_nodup.sublist hsublist
  referenced := by
    intro hforeign
    obtain ⟨htypes, hrows⟩ := hdb.referenced hforeign
    refine ⟨htypes, fun row hrow => ?_⟩
    obtain ⟨found, hfound, hkey⟩ := List.mem_map.mp (hrows row hrow)
    refine List.mem_map.mpr ⟨found, List.mem_filter.mpr ⟨hfound, ?_⟩, hkey⟩
    rw [decide_eq_true_eq, hkey]
    exact hfree hforeign row hrow

end Commands

theorem accepted_wellFormed (c : Command κ α) (db : Database κ α β) (h : c.Accepted db)
    (hdb : WellFormed db) : WellFormed (c.effect db) := by
  have hkeys := hdb.keys_nodup
  cases c with
  | addValue type label =>
      exact ⟨fun row hrow => labels_addValue (hdb.lookup_typed row hrow),
        fun row hrow => labels_addValue (hdb.referring_typed row hrow), hkeys, hdb.referenced⟩
  | renameType name newName => exact hdb.renameType h.2
  | createType name labels =>
      exact ⟨fun row hrow => labels_createType h.1 (hdb.lookup_typed row hrow),
        fun row hrow => labels_createType h.1 (hdb.referring_typed row hrow), hkeys, hdb.referenced⟩
  | dropType name => exact hdb.dropType h.2.1 h.2.2
  | upsert key inserted updated => exact hdb.upsert h
  | repoint sources target => exact hdb.repoint h.2.1 h.2.2
  | delete keys => exact hdb.delete h.2
  | dropForeignKey => exact ⟨hdb.lookup_typed, hdb.referring_typed, hkeys, fun h => nomatch h⟩
  | alterLookup type =>
      obtain ⟨hforeign, -, htyped⟩ := h
      exact ⟨htyped, hdb.referring_typed, hkeys, fun h => nomatch hforeign.symm.trans h⟩
  | alterReferring type =>
      obtain ⟨hforeign, -, htyped⟩ := h
      exact ⟨hdb.lookup_typed, htyped, hkeys, fun h => nomatch hforeign.symm.trans h⟩
  | addForeignKey => exact ⟨hdb.lookup_typed, hdb.referring_typed, hkeys, fun _ => h.2⟩

theorem run_wellFormed (h : Script.run script db = .ok db') (hdb : WellFormed db) : WellFormed db' :=
  Script.run_preserves accepted_wellFormed h hdb

end Keeps

/-! ### Scripts that are followed to their end -/

/-- The type with other labels, and the columns still of that type. -/
def Database.retyped (name : String) (labels : List κ) (db : Database κ α β) : Database κ α β :=
  { db with types := Function.update db.types name (some labels) }

def Database.withLookup (rows : List (κ × α)) (db : Database κ α β) : Database κ α β :=
  { db with lookup := rows }

/-- A type cannot lose a label, so another one takes its place. -/
def retype (name old : String) (labels : List κ) : Script κ α :=
  [.dropForeignKey, .renameType name old, .createType name labels, .alterLookup name, .alterReferring name,
    .dropType old, .addForeignKey]

section Followed

variable {db : Database κ α β} {name old : String} {current labels : List κ}

omit [DecidableEq κ] in
/-- A type that is renamed away, made again and dropped under its other name has only got other labels. -/
theorem types_remade {types : String → Option (List κ)} (hne : name ≠ old) (hold : types old = none) :
    Function.update (Function.update (Function.update (Function.update types name none) old (types name))
        name (some labels)) old none
      = Function.update types name (some labels) := by
  funext type
  by_cases htype : type = old
  · subst htype
    rw [Function.update_self, Function.update_of_ne hne.symm, hold]
  · rw [Function.update_of_ne htype]
    by_cases hname : type = name
    · subst hname
      rw [Function.update_self, Function.update_self]
    · rw [Function.update_of_ne hname, Function.update_of_ne htype, Function.update_of_ne hname,
        Function.update_of_ne hname]

/-- Between the two tables' changes there is no foreign key; then there is one again. -/
theorem run_retype (h : At name current db) (hold : db.types old = none) (hlabels : labels.Nodup)
    (hkeys : ∀ k ∈ db.keys, k ∈ labels) :
    Script.run (retype name old labels) db
      = .ok (db.retyped name labels) := by
  have hne : name ≠ old := by
    rintro rfl
    rw [h.type] at hold
    cases hold
  have hlookup : ∀ row ∈ db.lookup, row.1 ∈ labels := fun row hrow => hkeys _ (List.mem_map_of_mem hrow)
  have hreferring : ∀ row ∈ db.referring, row.1 ∈ labels := fun row hrow => hkeys _ (h.refers row hrow)
  unfold retype
  apply Script.follow
  · exact h.foreignKey
  apply Script.follow
  · exact ⟨Option.isSome_iff_exists.mpr ⟨current, h.type⟩, hold⟩
  apply Script.follow
  · exact ⟨by simp [Command.effect, hne], hlabels⟩
  apply Script.follow
  · exact ⟨rfl, by simp [Command.effect], by simpa [Command.effect, Database.labels] using hlookup⟩
  apply Script.follow
  · exact ⟨rfl, by simp [Command.effect], by simpa [Command.effect, Database.labels] using hreferring⟩
  apply Script.follow
  · exact ⟨by simp [Command.effect, hne.symm, h.type], hne, hne⟩
  apply Script.follow
  · exact ⟨rfl, rfl, h.refers⟩
  rw [Script.run_nil]
  congr 1
  exact Database.ext (types_remade hne hold) rfl h.lookupType.symm rfl h.referringType.symm
    h.foreignKey.symm

/-- The same over a type that is made first and renamed at the end. -/
def replaceType (name fresh : String) (labels : List κ) : Script κ α :=
  [.dropForeignKey, .createType fresh labels, .alterLookup fresh, .alterReferring fresh, .dropType name,
    .renameType fresh name, .addForeignKey]

theorem run_replaceType {fresh : String} (h : At name current db) (hfresh : db.types fresh = none)
    (hlabels : labels.Nodup) (hkeys : ∀ k ∈ db.keys, k ∈ labels) :
    Script.run (replaceType name fresh labels) db
      = .ok (db.retyped name labels) := by
  have hne : name ≠ fresh := by
    rintro rfl
    rw [h.type] at hfresh
    cases hfresh
  have hlookup : ∀ row ∈ db.lookup, row.1 ∈ labels := fun row hrow => hkeys _ (List.mem_map_of_mem hrow)
  have hreferring : ∀ row ∈ db.referring, row.1 ∈ labels := fun row hrow => hkeys _ (h.refers row hrow)
  unfold replaceType
  apply Script.follow
  · exact h.foreignKey
  apply Script.follow
  · exact ⟨hfresh, hlabels⟩
  apply Script.follow
  · exact ⟨rfl, by simp [Command.effect], by simpa [Command.effect, Database.labels] using hlookup⟩
  apply Script.follow
  · exact ⟨rfl, by simp [Command.effect], by simpa [Command.effect, Database.labels] using hreferring⟩
  apply Script.follow
  · exact ⟨by simp [Command.effect, hne, h.type], hne.symm, hne.symm⟩
  apply Script.follow
  · exact ⟨by simp [Command.effect, hne.symm], by simp [Command.effect]⟩
  apply Script.follow
  · exact ⟨rfl, rfl, h.refers⟩
  rw [Script.run_nil]
  congr 1
  refine Database.ext ?_ rfl ((if_pos rfl).trans ?_) rfl ((if_pos rfl).trans ?_) h.foreignKey.symm
  · funext type
    simp only [Command.effect, Database.retyped, Function.update_of_ne hne.symm, Function.update_self]
    by_cases hname : type = name
    · subst hname
      rw [Function.update_self, Function.update_self]
    · rw [Function.update_of_ne hname, Function.update_of_ne hname]
      by_cases htype : type = fresh
      · subst htype
        rw [Function.update_self, hfresh]
      · rw [Function.update_of_ne htype, Function.update_of_ne hname, Function.update_of_ne htype]
  · exact h.lookupType.symm
  · exact h.referringType.symm

omit [DecidableEq κ] in
theorem labels_retyped : (db.retyped name labels).labels name = labels :=
  Database.labels_eq (Function.update_self ..)

omit [DecidableEq κ] in
theorem lookup_withLookup {rows : List (κ × α)} : (db.withLookup rows).lookup = rows := rfl

omit [DecidableEq κ] in
theorem types_withLookup {rows : List (κ × α)} : (db.withLookup rows).types = db.types := rfl

omit [DecidableEq κ] in
theorem types_retyped {other : String} (h : other ≠ name) :
    (db.retyped name labels).types other = db.types other := Function.update_of_ne h ..

omit [DecidableEq κ] in
theorem At.retyped (h : At name current db) (hkeys : ∀ k ∈ db.keys, k ∈ labels) :
    At name labels (db.retyped name labels) := by
  refine ⟨⟨?_, ?_, h.keys_nodup, h.referenced⟩, Function.update_self .., h.lookupType, h.referringType,
    h.foreignKey⟩
  · intro row hrow
    change row.1 ∈ (db.retyped name labels).labels db.lookupType
    rw [h.lookupType, labels_retyped]
    exact hkeys _ (List.mem_map_of_mem hrow)
  · intro row hrow
    change row.1 ∈ (db.retyped name labels).labels db.referringType
    rw [h.referringType, labels_retyped]
    exact hkeys _ (h.refers row hrow)

end Followed

/-! ### Loops of one statement -/

section Loops

/-- Where a key is sent by replacing the first of each pair by the second, one pair after another. -/
def substitute (pairs : List (κ × κ)) (key : κ) : κ :=
  pairs.foldl (fun key pair => if key = pair.1 then pair.2 else key) key

def Database.repointed (f : κ → κ) (db : Database κ α β) : Database κ α β :=
  { db with referring := db.referring.map fun row => (f row.1, row.2) }

def repoints (pairs : List (κ × κ)) : Script κ α := pairs.map fun pair => .repoint [pair.1] pair.2

def deletes (keys : List κ) : Script κ α := keys.map fun key => .delete [key]

def upserts (updated : α → α → α) (rows : List (κ × α)) : Script κ α :=
  rows.map fun row => .upsert row.1 row.2 (updated row.2)

/-- What a conflict does: the row is overwritten, or is left as it is. -/
def overwriting (inserted _ : α) : α := inserted

def keeping (_ kept : α) : α := kept

def upsertRows (updated : α → α → α) (lookup rows : List (κ × α)) : List (κ × α) :=
  rows.foldl (fun lookup row => Database.upsertRow row.1 row.2 (updated row.2) lookup) lookup

variable {db db' : Database κ α β} {name : String} {current keys : List κ} {pairs : List (κ × κ)}
variable {rows lookup : List (κ × α)} {updated : α → α → α} {key k : κ} {a : α}

/-- A command that leaves the types and the key alone leaves a well-formed database where it was. -/
theorem At.effect {c : Command κ α} (h : At name current db) (hc : c.Accepted db)
    (htypes : (c.effect db).types = db.types) (hlookup : (c.effect db).lookupType = db.lookupType)
    (hreferring : (c.effect db).referringType = db.referringType)
    (hkey : (c.effect db).foreignKey = db.foreignKey) : At name current (c.effect db) where
  toWellFormed := accepted_wellFormed c db hc h.toWellFormed
  type := by rw [htypes, h.type]
  lookupType := hlookup.trans h.lookupType
  referringType := hreferring.trans h.referringType
  foreignKey := hkey.trans h.foreignKey

variable (pairs) in
theorem run_repoints (h : At name current db)
    (hpairs : ∀ pair ∈ pairs, pair.1 ∈ current ∧ pair.2 ∈ current ∧ pair.2 ∈ db.keys) :
    Script.run (repoints pairs) db = .ok (db.repointed (substitute pairs)) := by
  induction pairs generalizing db with
  | nil =>
      rw [repoints, List.map_nil, Script.run_nil]
      congr 1
      refine Database.ext rfl rfl rfl ?_ rfl rfl
      exact (List.map_id db.referring).symm
  | cons pair rest ih =>
      obtain ⟨⟨hsource, htarget, hpresent⟩, hrest⟩ := List.forall_mem_cons.mp hpairs
      have hlabels : db.labels db.referringType = current := by rw [h.referringType, h.labels_eq]
      have haccepted : (Command.repoint [pair.1] pair.2 : Command κ α).Accepted db := by
        refine ⟨?_, ?_, fun _ _ => hpresent⟩
        · rw [hlabels]
          simpa using hsource
        · rw [hlabels]
          exact htarget
      apply Script.follow haccepted
      refine (ih (h.effect haccepted rfl rfl rfl rfl) hrest).trans ?_
      congr 1
      refine Database.ext rfl rfl rfl ?_ rfl rfl
      simp only [Database.repointed, Command.effect, List.map_map]
      apply List.map_congr_left
      intro row _
      by_cases hrow : row.1 = pair.1 <;> simp [substitute, hrow]

theorem run_deletes (h : At name current db) (hkeys : ∀ k ∈ keys, k ∈ current)
    (hfree : ∀ row ∈ db.referring, row.1 ∉ keys) :
    Script.run (deletes keys) db
      = .ok (db.withLookup (db.lookup.filter fun row => row.1 ∉ keys)) := by
  induction keys generalizing db with
  | nil =>
      rw [deletes, List.map_nil, Script.run_nil]
      congr 1
      refine Database.ext rfl ?_ rfl rfl rfl rfl
      exact (List.filter_eq_self.mpr fun row _ => decide_eq_true List.not_mem_nil).symm
  | cons key rest ih =>
      obtain ⟨hkey, hrest⟩ := List.forall_mem_cons.mp hkeys
      have haccepted : (Command.delete [key] : Command κ α).Accepted db := by
        refine ⟨?_, ?_⟩
        · rw [h.lookupType, h.labels_eq]
          simpa using hkey
        · intro _ row hrow hmem
          exact hfree row hrow (List.mem_cons.mpr (Or.inl (List.mem_singleton.mp hmem)))
      apply Script.follow haccepted
      refine (ih (h.effect haccepted rfl rfl rfl rfl) hrest ?_).trans ?_
      · intro row hrow hmem
        exact hfree row hrow (List.mem_cons_of_mem _ hmem)
      · congr 1
        refine Database.ext rfl ?_ rfl rfl rfl rfl
        simp only [Command.effect, List.filter_filter]
        apply List.filter_congr
        intro row _
        rw [← Bool.decide_and, decide_eq_decide, List.mem_singleton, List.mem_cons, not_or, and_comm]

variable (updated) in
theorem run_upserts (hrows : ∀ row ∈ rows, row.1 ∈ db.labels db.lookupType) :
    Script.run (upserts updated rows) db = .ok (db.withLookup (upsertRows updated db.lookup rows)) := by
  induction rows generalizing db with
  | nil => rfl
  | cons row rest ih =>
      obtain ⟨hrow, hrest⟩ := List.forall_mem_cons.mp hrows
      exact Script.follow hrow (ih hrest)

theorem mem_keys_upsertRows :
    k ∈ (upsertRows updated lookup rows).map (·.1) ↔ k ∈ lookup.map (·.1) ∨ k ∈ rows.map (·.1) := by
  induction rows generalizing lookup with
  | nil => simp [upsertRows]
  | cons row rest ih =>
      unfold upsertRows
      rw [List.foldl_cons]
      refine ih.trans ?_
      rw [mem_keys_upsertRow, List.map_cons, List.mem_cons, or_assoc]

/-- The fields of a database after commands that leave the types and the key alone. -/
theorem At.of_run {script : Script κ α} (h : At name current db) (hrun : Script.run script db = .ok db')
    (htypes : db'.types = db.types) (hlookup : db'.lookupType = db.lookupType)
    (hreferring : db'.referringType = db.referringType) (hkey : db'.foreignKey = db.foreignKey) :
    At name current db' where
  toWellFormed := run_wellFormed hrun h.toWellFormed
  type := by rw [htypes, h.type]
  lookupType := hlookup.trans h.lookupType
  referringType := hreferring.trans h.referringType
  foreignKey := hkey.trans h.foreignKey

/-- Rows are put in, what refers to others is sent to them, and the others are deleted. -/
def move (keys : List κ) (pairs : List (κ × κ)) (rows : List (κ × α)) (updated : α → α → α) : Script κ α :=
  upserts updated rows ++ (repoints pairs ++ deletes keys)

def Database.moved (keys : List κ) (pairs : List (κ × κ)) (rows : List (κ × α)) (updated : α → α → α)
    (db : Database κ α β) : Database κ α β :=
  { db.repointed (substitute pairs) with
    lookup := (upsertRows updated db.lookup rows).filter fun row => row.1 ∉ keys }

theorem run_move (h : At name current db) (hrows : ∀ row ∈ rows, row.1 ∈ current)
    (hpairs : ∀ pair ∈ pairs, pair.1 ∈ current ∧ pair.2 ∈ rows.map (·.1))
    (hkeys : ∀ k ∈ keys, k ∈ current) (hfree : ∀ row ∈ db.referring, substitute pairs row.1 ∉ keys) :
    Script.run (move keys pairs rows updated) db = .ok (db.moved keys pairs rows updated) := by
  have hupserts : Script.run (upserts updated rows) db
      = .ok (db.withLookup (upsertRows updated db.lookup rows)) := by
    apply run_upserts
    rw [h.lookupType, h.labels_eq]
    exact hrows
  have hupserted := h.of_run hupserts rfl rfl rfl rfl
  have hrepoints := run_repoints pairs hupserted ?_
  · have hrepointed := hupserted.of_run hrepoints rfl rfl rfl rfl
    rw [move, Script.run_append hupserts, Script.run_append hrepoints]
    refine run_deletes hrepointed hkeys ?_
    intro row hrow
    obtain ⟨old, hold, rfl⟩ := List.mem_map.mp hrow
    exact hfree old hold
  · intro pair hpair
    obtain ⟨hsource, htarget⟩ := hpairs pair hpair
    obtain ⟨row, hrow, hkey⟩ := List.mem_map.mp htarget
    exact ⟨hsource, hkey ▸ hrows row hrow, mem_keys_upsertRows.mpr (Or.inr htarget)⟩

/-- For each pair, a row that is there for the second, and what refers to the first then refers to it. -/
def redirects (bare : α) (pairs : List (κ × κ)) : Script κ α :=
  pairs.flatMap fun pair => [.upsert pair.2 bare id, .repoint [pair.1] pair.2]

def Database.redirected (bare : α) (pairs : List (κ × κ)) (db : Database κ α β) : Database κ α β :=
  { db.repointed (substitute pairs) with
    lookup := upsertRows keeping db.lookup (pairs.map fun pair => (pair.2, bare)) }

variable (pairs) in
theorem run_redirects (bare : α) (h : At name current db)
    (hpairs : ∀ pair ∈ pairs, pair.1 ∈ current ∧ pair.2 ∈ current) :
    Script.run (redirects bare pairs) db
      = .ok (db.redirected bare pairs) := by
  induction pairs generalizing db with
  | nil =>
      rw [redirects, List.flatMap_nil, Script.run_nil]
      congr 1
      refine Database.ext rfl rfl rfl ?_ rfl rfl
      exact (List.map_id db.referring).symm
  | cons pair rest ih =>
      obtain ⟨⟨hsource, htarget⟩, hrest⟩ := List.forall_mem_cons.mp hpairs
      have hinserted : (Command.upsert pair.2 bare id : Command κ α).Accepted db := by
        change pair.2 ∈ db.labels db.lookupType
        rw [h.lookupType, h.labels_eq]
        exact htarget
      have hmiddle := h.effect hinserted rfl rfl rfl rfl
      have hrepointed : (Command.repoint [pair.1] pair.2 : Command κ α).Accepted
          ((Command.upsert pair.2 bare id).effect db) := by
        refine ⟨?_, ?_, fun _ _ => mem_keys_upsertRow.mpr (Or.inr rfl)⟩
        · rw [hmiddle.referringType, hmiddle.labels_eq]
          simpa using hsource
        · rw [hmiddle.referringType, hmiddle.labels_eq]
          exact htarget
      apply Script.follow hinserted
      apply Script.follow hrepointed
      refine (ih (hmiddle.effect hrepointed rfl rfl rfl rfl) hrest).trans ?_
      congr 1
      refine Database.ext rfl rfl rfl ?_ rfl rfl
      simp only [Database.redirected, Database.repointed, Command.effect, List.map_map]
      apply List.map_congr_left
      intro row _
      by_cases hrow : row.1 = pair.1 <;> simp [substitute, hrow]

def addValues (name : String) (values : List κ) : Script κ α := values.map fun value => .addValue name value

/-- Values that are there already are not added again. -/
theorem run_addValues {values : List κ} (h : At name current db) (hvalues : values.Nodup) :
    Script.run (addValues name values) db
      = .ok (db.retyped name (current ++ values.filter fun value => value ∉ current)) := by
  induction values generalizing db current with
  | nil =>
      rw [addValues, List.map_nil, Script.run_nil, List.filter_nil, List.append_nil]
      congr 1
      refine Database.ext ?_ rfl rfl rfl rfl rfl
      rw [Database.retyped, ← h.type, Function.update_eq_self]
  | cons value rest ih =>
      obtain ⟨hhead, hnodup⟩ := List.nodup_cons.mp hvalues
      have haccepted : (Command.addValue name value : Command κ α).Accepted db :=
        Option.isSome_iff_exists.mpr ⟨current, h.type⟩
      apply Script.follow haccepted
      by_cases hvalue : value ∈ current
      · have hsame : (Command.addValue name value).effect db = db := by
          refine Database.ext ?_ rfl rfl rfl rfl rfl
          simp only [Command.effect, h.labels_eq, if_pos hvalue, ← h.type, Function.update_eq_self]
        rw [hsame, List.filter_cons_of_neg (by simpa using hvalue)]
        exact ih h hnodup
      · have hadded : (Command.addValue name value).effect db = db.retyped name (current ++ [value]) := by
          simp only [Command.effect, Database.retyped, h.labels_eq, if_neg hvalue]
        have hlater : rest.filter (fun other => other ∉ current ++ [value])
            = rest.filter fun other => other ∉ current := by
          apply List.filter_congr
          intro other hother
          have hne : other ≠ value := fun hsame => hhead (hsame ▸ hother)
          rw [decide_eq_decide, List.mem_append, List.mem_singleton, not_or]
          exact and_iff_left hne
        rw [hadded, List.filter_cons_of_pos (by simpa using hvalue)]
        refine (ih (h.retyped fun k hk => List.mem_append_left _ (h.keys_typed k hk)) hnodup).trans ?_
        rw [hlater, List.append_assoc, List.singleton_append]
        congr 1
        refine Database.ext ?_ rfl rfl rfl rfl rfl
        exact Function.update_idem ..

theorem run_addNewValues {values : List κ} (h : At name current db)
    (hnew : ∀ value ∈ values, value ∉ current) (hvalues : values.Nodup) :
    Script.run (addValues name values) db = .ok (db.retyped name (current ++ values)) := by
  have hall : values.filter (fun value => value ∉ current) = values :=
    List.filter_eq_self.mpr fun value hvalue => decide_eq_true (hnew value hvalue)
  rw [run_addValues h hvalues, hall]

/-- Rows with new keys are added at the end. -/
theorem upsertRows_fresh (hnew : ∀ row ∈ rows, row.1 ∉ lookup.map (·.1)) (hrows : (rows.map (·.1)).Nodup) :
    upsertRows updated lookup rows = lookup ++ rows := by
  induction rows generalizing lookup with
  | nil => exact (List.append_nil _).symm
  | cons row rest ih =>
      obtain ⟨hrow, hrest⟩ := List.forall_mem_cons.mp hnew
      obtain ⟨hhead, hnodup⟩ := List.nodup_cons.mp hrows
      have hadded : Database.upsertRow row.1 row.2 (updated row.2) lookup = lookup ++ [row] := if_neg hrow
      have hstill : ∀ r ∈ rest, r.1 ∉ (lookup ++ [row]).map (·.1) := by
        intro r hr hmem
        rw [List.map_append, List.mem_append, List.map_singleton, List.mem_singleton] at hmem
        rcases hmem with hmem | hmem
        · exact hrest r hr hmem
        · apply hhead
          exact List.mem_map.mpr ⟨r, hr, hmem⟩
      unfold upsertRows
      rw [List.foldl_cons, hadded]
      refine (ih hstill hnodup).trans ?_
      rw [List.append_assoc, List.singleton_append]

/-- When every old row is deleted, the new rows are what is left. -/
theorem filter_upsertRows (hold : ∀ k ∈ lookup.map (·.1), k ∈ keys) (hnew : ∀ k ∈ rows.map (·.1), k ∉ keys)
    (hrows : (rows.map (·.1)).Nodup) :
    (upsertRows updated lookup rows).filter (fun row => row.1 ∉ keys) = rows := by
  rw [upsertRows_fresh ?_ hrows, List.filter_append]
  · have hgone : lookup.filter (fun row => row.1 ∉ keys) = [] := by
      apply List.filter_eq_nil_iff.mpr
      intro row hrow
      rw [decide_eq_true_eq, not_not]
      exact hold _ (List.mem_map_of_mem hrow)
    have hstay : rows.filter (fun row => row.1 ∉ keys) = rows := by
      apply List.filter_eq_self.mpr
      intro row hrow
      exact decide_eq_true (hnew _ (List.mem_map_of_mem hrow))
    rw [hgone, hstay, List.nil_append]
  · intro row hrow hmem
    exact hnew _ (List.mem_map_of_mem hrow) (hold _ hmem)

theorem types_moved : (db.moved keys pairs rows updated).types = db.types := rfl

variable (pairs updated) in
theorem lookup_moved (hold : ∀ k ∈ db.keys, k ∈ keys) (hnew : ∀ k ∈ rows.map (·.1), k ∉ keys)
    (hrows : (rows.map (·.1)).Nodup) : (db.moved keys pairs rows updated).lookup = rows :=
  filter_upsertRows hold hnew hrows

/-- What a type's labels were in between leaves no trace. -/
theorem retyped_moved {name : String} {between labels : List κ} {f : κ → κ}
    (hlookup : ((db.retyped name between).moved keys pairs rows updated).lookup = rows)
    (hf : ∀ row ∈ db.referring, substitute pairs row.1 = f row.1) :
    ((db.retyped name between).moved keys pairs rows updated).retyped name labels
      = ((db.repointed f).retyped name labels).withLookup rows := by
  refine Database.ext ?_ hlookup rfl ?_ rfl rfl
  · exact Function.update_idem ..
  · apply List.map_congr_left
    intro row hrow
    rw [hf row hrow]

/-- The labels of a type are exchanged for others: these are added, everything is moved over to them,
and the type is made again without the old ones. -/
theorem run_exchange {name old : String} {values : List κ} {f : κ → κ} (h : At name current db)
    (hfree : db.types old = none) (hrows : rows.map (·.1) = values) (hvalues : values.Nodup)
    (hnew : ∀ value ∈ values, value ∉ current)
    (hpairs : ∀ pair ∈ pairs, pair.1 ∈ current ∧ pair.2 ∈ values)
    (hsent : ∀ k ∈ current, substitute pairs k = f k ∧ f k ∈ values) :
    Script.run (addValues name values ++ (move current pairs rows updated ++ retype name old values)) db
      = .ok (((db.repointed f).retyped name values).withLookup rows) := by
  have hadded : At name (current ++ values) (db.retyped name (current ++ values)) :=
    h.retyped fun k hk => List.mem_append_left _ (h.keys_typed k hk)
  have hkey : ∀ row ∈ db.referring, row.1 ∈ current := fun row hrow => h.keys_typed _ (h.refers row hrow)
  have hmove : Script.run (move current pairs rows updated) (db.retyped name (current ++ values))
      = .ok ((db.retyped name (current ++ values)).moved current pairs rows updated) := by
    apply run_move hadded
    · intro row hrow
      exact List.mem_append_right _ (hrows ▸ List.mem_map_of_mem hrow)
    · intro pair hpair
      rw [hrows]
      exact ⟨List.mem_append_left _ (hpairs pair hpair).1, (hpairs pair hpair).2⟩
    · exact fun k hk => List.mem_append_left _ hk
    · intro row hrow hmem
      obtain ⟨hsame, hvalue⟩ := hsent _ (hkey row hrow)
      exact hnew _ hvalue (hsame ▸ hmem)
  have hmoved := hadded.of_run hmove rfl rfl rfl rfl
  have hlookup : ((db.retyped name (current ++ values)).moved current pairs rows updated).lookup = rows := by
    apply lookup_moved pairs updated h.keys_typed
    · rw [hrows]
      exact hnew
    · rw [hrows]
      exact hvalues
  have hother : old ≠ name := by
    rintro rfl
    rw [h.type] at hfree
    cases hfree
  refine (Script.run_append (run_addNewValues h hnew hvalues)).trans ?_
  refine (Script.run_append hmove).trans ?_
  refine (run_retype hmoved ?_ hvalues ?_).trans (congrArg Except.ok ?_)
  · rw [types_moved, types_retyped hother, hfree]
  · intro k hk
    rw [Database.keys, hlookup, hrows] at hk
    exact hk
  · exact retyped_moved hlookup fun row hrow => (hsent _ (hkey row hrow)).1

/-- Labels that are given up: what refers to them is sent elsewhere, their rows are deleted, and the type
is made again without them. -/
theorem run_retire {bare : α} {name fresh : String} {values : List κ} {f : κ → κ} (h : At name current db)
    (hfresh : db.types fresh = none) (hvalues : values.Nodup)
    (hpairs : ∀ pair ∈ pairs, pair.1 ∈ current ∧ pair.2 ∈ current)
    (hsent : ∀ k ∈ current, substitute pairs k = f k ∧ f k ∉ pairs.map (·.1))
    (hleft : ∀ k ∈ current, k ∉ pairs.map (·.1) → k ∈ values) :
    ∃ rows, Script.run (redirects bare pairs
          ++ (deletes (pairs.map (·.1)) ++ replaceType name fresh values)) db
      = .ok (((db.repointed f).retyped name values).withLookup rows) := by
  have hredirect := run_redirects pairs bare h hpairs
  have hredirected := h.of_run hredirect rfl rfl rfl rfl
  have hsources : ∀ k ∈ pairs.map (·.1), k ∈ current := by
    intro k hk
    obtain ⟨pair, hpair, rfl⟩ := List.mem_map.mp hk
    exact (hpairs pair hpair).1
  have hkey : ∀ row ∈ db.referring, row.1 ∈ current := fun row hrow => h.keys_typed _ (h.refers row hrow)
  have hfree : ∀ row ∈ (db.redirected bare pairs).referring, row.1 ∉ pairs.map (·.1) := by
    intro row hrow
    obtain ⟨old, hold, rfl⟩ := List.mem_map.mp hrow
    obtain ⟨hsame, hgone⟩ := hsent _ (hkey old hold)
    exact hsame ▸ hgone
  have hdelete := run_deletes hredirected hsources hfree
  have hdeleted := hredirected.of_run hdelete rfl rfl rfl rfl
  refine ⟨(db.redirected bare pairs).lookup.filter fun row => row.1 ∉ pairs.map (·.1), ?_⟩
  rw [Script.run_append hredirect, Script.run_append hdelete]
  refine (run_replaceType hdeleted hfresh hvalues ?_).trans (congrArg Except.ok ?_)
  · intro k hk
    obtain ⟨row, hrow, rfl⟩ := List.mem_map.mp hk
    exact hleft _ (hdeleted.keys_typed _ hk) (of_decide_eq_true (List.mem_filter.mp hrow).2)
  · refine Database.ext rfl rfl rfl ?_ rfl rfl
    apply List.map_congr_left
    intro row hrow
    rw [(hsent _ (hkey row hrow)).1]

omit [DecidableEq κ] in
theorem types_exchanged {name other : String} {values : List κ} {f : κ → κ} (h : other ≠ name) :
    (((db.repointed f).retyped name values).withLookup rows).types other = db.types other :=
  Function.update_of_ne h ..

omit [DecidableEq κ] in
theorem exchanged_again {name : String} {values values' : List κ} {rows' : List (κ × α)} {f g : κ → κ} :
    ((((((db.repointed f).retyped name values).withLookup rows).repointed g).retyped name values').withLookup
        rows')
      = ((db.repointed fun k => g (f k)).retyped name values').withLookup rows' := by
  refine Database.ext ?_ rfl rfl ?_ rfl rfl
  · exact Function.update_idem ..
  · exact List.map_map

omit [DecidableEq κ] in
theorem exchanged_congr {name : String} {values : List κ} {f g : κ → κ}
    (h : ∀ row ∈ db.referring, f row.1 = g row.1) :
    ((db.repointed f).retyped name values).withLookup rows
      = ((db.repointed g).retyped name values).withLookup rows := by
  refine Database.ext rfl rfl rfl ?_ rfl rfl
  apply List.map_congr_left
  intro row hrow
  rw [h row hrow]

/-- After an exchange the database has the new labels. -/
theorem At.of_exchange {script : Script κ α} {name : String} {values : List κ} {f : κ → κ}
    (h : At name current db)
    (hrun : Script.run script db = .ok (((db.repointed f).retyped name values).withLookup rows)) :
    At name values (((db.repointed f).retyped name values).withLookup rows) where
  toWellFormed := run_wellFormed hrun h.toWellFormed
  type := Function.update_self ..
  lookupType := h.lookupType
  referringType := h.referringType
  foreignKey := h.foreignKey

/-- An upsert that overwrites leaves one row with the key, as it says. -/
theorem mem_upsertRow {inserted : α} : (k, a) ∈ Database.upsertRow key inserted (overwriting inserted) lookup
    ↔ k = key ∧ a = inserted ∨ k ≠ key ∧ (k, a) ∈ lookup := by
  unfold Database.upsertRow
  by_cases hmem : key ∈ lookup.map (·.1)
  · rw [if_pos hmem, List.mem_map]
    constructor
    · rintro ⟨row, hrow, hresult⟩
      by_cases hkey : row.1 = key
      · rw [if_pos hkey] at hresult
        cases hresult
        exact Or.inl ⟨hkey, rfl⟩
      · rw [if_neg hkey] at hresult
        subst hresult
        exact Or.inr ⟨hkey, hrow⟩
    · rintro (⟨rfl, rfl⟩ | ⟨hkey, hrow⟩)
      · obtain ⟨row, hrow, hkey⟩ := List.mem_map.mp hmem
        exact ⟨row, hrow, by rw [if_pos hkey, hkey, overwriting]⟩
      · exact ⟨(k, a), hrow, if_neg hkey⟩
  · rw [if_neg hmem, List.mem_append, List.mem_singleton, Prod.mk.injEq]
    constructor
    · rintro (hrow | hadded)
      · refine Or.inr ⟨?_, hrow⟩
        rintro rfl
        exact hmem (List.mem_map_of_mem hrow)
      · exact Or.inl hadded
    · rintro (hadded | ⟨_, hrow⟩)
      · exact Or.inr hadded
      · exact Or.inl hrow

theorem mem_upsertRows (hrows : (rows.map (·.1)).Nodup) :
    (k, a) ∈ upsertRows overwriting lookup rows
      ↔ (k, a) ∈ rows ∨ k ∉ rows.map (·.1) ∧ (k, a) ∈ lookup := by
  induction rows generalizing lookup with
  | nil => simp [upsertRows]
  | cons row rest ih =>
      obtain ⟨hhead, hnodup⟩ := List.nodup_cons.mp hrows
      unfold upsertRows
      rw [List.foldl_cons]
      refine (ih hnodup).trans ?_
      rw [mem_upsertRow, List.mem_cons, List.map_cons, List.mem_cons]
      obtain ⟨key, inserted⟩ := row
      rw [Prod.mk.injEq]
      constructor
      · rintro (hrest | ⟨hother, hadded | ⟨hkey, hold⟩⟩)
        · exact Or.inl (Or.inr hrest)
        · exact Or.inl (Or.inl hadded)
        · exact Or.inr ⟨not_or.mpr ⟨hkey, hother⟩, hold⟩
      · rintro ((⟨rfl, rfl⟩ | hrest) | ⟨hnone, hold⟩)
        · exact Or.inr ⟨hhead, Or.inl ⟨rfl, rfl⟩⟩
        · exact Or.inl hrest
        · obtain ⟨hkey, hother⟩ := not_or.mp hnone
          exact Or.inr ⟨hother, Or.inr ⟨hkey, hold⟩⟩

end Loops

/-! ### A type made again between the changes of the rows -/

section Rebuilt

variable {db : Database κ α β} {name old : String} {current labels gone : List κ} {target : κ}
variable {rows : List (κ × α)}

/-- Without the foreign key: what refers to some rows is sent to another one, which need not be there yet,
the rows are deleted, the type is made again, and the rows that are to be there are put in. -/
def rebuild (name old : String) (labels gone : List κ) (target : κ) (rows : List (κ × α)) : Script κ α :=
  [.dropForeignKey, .repoint gone target, .delete gone, .renameType name old, .createType name labels,
      .alterLookup name, .alterReferring name]
    ++ (upserts overwriting rows ++ [.addForeignKey, .dropType old])

theorem run_rebuild (h : At name current db) (hold : db.types old = none) (hlabels : labels.Nodup)
    (hgone : ∀ k ∈ gone, k ∈ current) (htarget : target ∈ current ∧ target ∈ labels)
    (hleft : ∀ k ∈ current, k ∉ gone → k ∈ labels) (hrows : ∀ row ∈ rows, row.1 ∈ labels)
    (hpresent : ∀ k ∈ labels, k ∈ rows.map (·.1)) :
    Script.run (rebuild name old labels gone target rows) db
      = .ok (((db.repointed fun k => if k ∈ gone then target else k).retyped name labels).withLookup
          (upsertRows overwriting (db.lookup.filter fun row => row.1 ∉ gone) rows)) := by
  have hne : name ≠ old := by
    rintro rfl
    rw [h.type] at hold
    cases hold
  have hlookupLabels : db.labels db.lookupType = current := by rw [h.lookupType, h.labels_eq]
  have hreferringLabels : db.labels db.referringType = current := by rw [h.referringType, h.labels_eq]
  have hlookup : ∀ row ∈ db.lookup.filter (fun row => row.1 ∉ gone), row.1 ∈ labels := by
    intro row hrow
    obtain ⟨hmem, hstays⟩ := List.mem_filter.mp hrow
    exact hleft _ (h.keys_typed _ (List.mem_map_of_mem hmem)) (of_decide_eq_true hstays)
  let sent := db.referring.map fun row => if row.1 ∈ gone then (target, row.2) else row
  have hsent : ∀ row ∈ sent, row.1 ∈ labels := by
    intro row hrow
    obtain ⟨old, hmem, rfl⟩ := List.mem_map.mp hrow
    by_cases hsource : old.1 ∈ gone
    · rw [if_pos hsource]
      exact htarget.2
    · rw [if_neg hsource]
      exact hleft _ (h.keys_typed _ (h.refers old hmem)) hsource
  have hrefers : ∀ lookup, ∀ row ∈ sent,
      row.1 ∈ (upsertRows overwriting lookup rows).map (·.1) :=
    fun _ row hrow => mem_keys_upsertRows.mpr (Or.inr (hpresent _ (hsent row hrow)))
  apply Script.follow
  · exact h.foreignKey
  apply Script.follow
  · exact ⟨fun k hk => hreferringLabels ▸ hgone k hk, hreferringLabels ▸ htarget.1, fun hkey => nomatch hkey⟩
  apply Script.follow
  · exact ⟨fun k hk => hlookupLabels ▸ hgone k hk, fun hkey => nomatch hkey⟩
  apply Script.follow
  · exact ⟨Option.isSome_iff_exists.mpr ⟨current, h.type⟩, hold⟩
  apply Script.follow
  · exact ⟨by simp [Command.effect, hne], hlabels⟩
  apply Script.follow
  · exact ⟨rfl, by simp [Command.effect], by simpa [Command.effect, Database.labels] using hlookup⟩
  apply Script.follow
  · refine ⟨rfl, by simp [Command.effect], fun row hrow => ?_⟩
    rw [Database.labels_eq (Function.update_self ..)]
    exact hsent row hrow
  refine (Script.run_append (run_upserts _ ?_)).trans ?_
  · simpa [Command.effect, Database.labels] using hrows
  apply Script.follow
  · exact ⟨rfl, rfl, fun row hrow => hrefers _ row hrow⟩
  apply Script.follow
  · exact ⟨by simp [Command.effect, Database.withLookup, hne.symm, h.type], hne, hne⟩
  rw [Script.run_nil]
  congr 1
  refine Database.ext (types_remade hne hold) rfl h.lookupType.symm ?_ h.referringType.symm
    h.foreignKey.symm
  apply List.map_congr_left
  intro row _
  by_cases hsource : row.1 ∈ gone <;> simp [hsource]

variable {values : List κ} {updated : α → α → α}

variable (updated) in
/-- Values are added, then rows for them. -/
theorem run_extend (h : At name current db) (hvalues : values.Nodup)
    (hrows : ∀ row ∈ rows, row.1 ∈ values) :
    Script.run (addValues name values ++ upserts updated rows) db
      = .ok ((db.retyped name (current ++ values.filter fun value => value ∉ current)).withLookup
          (upsertRows updated db.lookup rows)) := by
  rw [Script.run_append (run_addValues h hvalues)]
  apply run_upserts
  intro row hrow
  change row.1 ∈ (db.retyped name _).labels db.lookupType
  rw [h.lookupType, labels_retyped]
  by_cases hvalue : row.1 ∈ current
  · exact List.mem_append_left _ hvalue
  · refine List.mem_append_right _ (List.mem_filter.mpr ⟨hrows row hrow, ?_⟩)
    exact decide_eq_true hvalue

/-- What refers to some rows is sent to another one, the rows are deleted, and the type is made again
without them. -/
theorem run_withdraw (h : At name current db) (hold : db.types old = none) (hlabels : labels.Nodup)
    (hgone : ∀ k ∈ gone, k ∈ current) (htarget : target ∈ db.keys) (hstays : target ∉ gone)
    (hleft : ∀ k ∈ current, k ∉ gone → k ∈ labels) :
    Script.run (.repoint gone target :: .delete gone :: retype name old labels) db
      = .ok (((db.repointed fun k => if k ∈ gone then target else k).retyped name labels).withLookup
          (db.lookup.filter fun row => row.1 ∉ gone)) := by
  have hrepoint : (Command.repoint gone target : Command κ α).Accepted db := by
    rw [Command.Accepted, h.referringType, h.labels_eq]
    exact ⟨hgone, h.keys_typed _ htarget, fun _ _ => htarget⟩
  have hrepointed := h.effect hrepoint rfl rfl rfl rfl
  have hdelete : (Command.delete gone : Command κ α).Accepted ((Command.repoint gone target).effect db) := by
    constructor
    · rw [hrepointed.lookupType, hrepointed.labels_eq]
      exact hgone
    · intro _ row hrow
      obtain ⟨old, _, rfl⟩ := List.mem_map.mp hrow
      by_cases hsource : old.1 ∈ gone
      · rw [if_pos hsource]
        exact hstays
      · rw [if_neg hsource]
        exact hsource
  have hdeleted := hrepointed.effect hdelete rfl rfl rfl rfl
  refine Script.follow hrepoint (Script.follow hdelete ?_)
  refine (run_retype hdeleted hold hlabels ?_).trans (congrArg Except.ok ?_)
  · intro k hk
    obtain ⟨row, hrow, rfl⟩ := List.mem_map.mp hk
    exact hleft _ (hdeleted.keys_typed _ hk) (of_decide_eq_true (List.mem_filter.mp hrow).2)
  · refine Database.ext rfl rfl rfl ?_ rfl rfl
    apply List.map_congr_left
    intro row _
    by_cases hsource : row.1 ∈ gone <;> simp [hsource]

/-- After a script that leaves the columns alone, they have the labels of their type. -/
theorem At.of_extend {script : Script κ α} (h : At name current db)
    (hrun : Script.run script db = .ok ((db.retyped name values).withLookup rows)) :
    At name values ((db.retyped name values).withLookup rows) where
  toWellFormed := run_wellFormed hrun h.toWellFormed
  type := Function.update_self ..
  lookupType := h.lookupType
  referringType := h.referringType
  foreignKey := h.foreignKey

end Rebuilt

end SchemaScript

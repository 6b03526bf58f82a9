import InquestsApi.Application
import InquestsApi.Lib.SchemaScript

/-! The migrations that replace the proceedings: what becomes of the proceeding of each application
when they are followed upwards and downwards. A row of `application_proceeding` is its proceeding and
whatever else it has. -/
namespace InquestsApi

open SchemaScript

variable {β : Type}

abbrev ProceedingDatabase (β : Type) := Database String Proceeding β

namespace RemoveOldProceedingIds

def oldToNew : List (String × String) :=
  [("PC049", "IQOT"), ("MN035", "IQMT"), ("MN036", "IQPC"), ("MH028", "IQMH"), ("MH030", "IQMH"),
    ("IQ001", "IQPO"), ("IQ002", "IQOT"), ("IQ003", "IQOT"), ("IQ004", "IQOT"), ("IQ010", "IQOT"),
    ("TEST1", "IQOT")]

def newValues : List String :=
  ["IQPC", "IQPO", "IQMT", "IQMH", "IQMC", "IQCC", "IQHO", "IQCA", "IQDV", "IQED", "IQTR", "IQOT"]

/-- The type as the revision before this one leaves it. -/
def syncedValues : List String :=
  ["IQ001", "IQ002", "IQ003", "IQ004", "IQ010", "IQCA", "IQCC", "IQDV", "IQED", "IQHO", "IQMC", "IQMH",
    "IQMT", "IQOT", "IQPC", "IQPO", "IQTR", "MH028", "MH030", "MN035", "MN036", "PC049", "TEST1"]

/-- A row with a proceeding and nothing else. -/
def bareProceeding : Proceeding := ⟨none, none, none, none, none, none, none, none, none⟩

def upgrade : Script String Proceeding :=
  redirects bareProceeding oldToNew ++ (deletes (oldToNew.map (·.1))
    ++ replaceType "proceedingid" "proceedingid_new" newValues)

/-- The data are not moved back. -/
def downgrade : Script String Proceeding :=
  retype "proceedingid" "proceedingid_old" (newValues ++ oldToNew.map (·.1))

/-- `OLD_TO_NEW`, where it has the value. -/
def moved (key : String) : String := (oldToNew.lookup key).getD key

variable {db : ProceedingDatabase β}

theorem run_upgrade
    (h : At "proceedingid" syncedValues db)
    (hfresh : db.types "proceedingid_new" = none) :
    ∃ rows, Script.run upgrade db
      = .ok (((db.repointed moved).retyped "proceedingid"
          newValues).withLookup rows) := by
  have hsent : ∀ k ∈ syncedValues, substitute oldToNew k = moved k ∧ moved k ∉ oldToNew.map (·.1) := by
    decide
  exact run_retire h hfresh (by decide) (by decide) hsent (by decide)

end RemoveOldProceedingIds

namespace AddNewProceedings

def oldValues : List String :=
  ["IQPC", "IQPO", "IQMT", "IQMH", "IQMC", "IQCC", "IQHO", "IQCA", "IQDV", "IQED", "IQTR", "IQOT"]

/-- `f"IQ{n:03d}"` for each `n` of `range(11, 43)`. -/
def newValues : List String := (List.range' 11 32).map fun n => "IQ" ++ threeDigits n

def upgrade : Script String Proceeding := addValues "proceedingid" newValues

def downgrade : Script String Proceeding := retype "proceedingid" "proceedingid_old" oldValues

end AddNewProceedings

namespace ReplaceProceedings

def newProceedings : List (String × String) :=
  [("IQ011", "An individual has died in police custody"),
    ("IQ012", "An individual has died during police pursuit"),
    ("IQ013", "An individual has died following a police shooting"),
    ("IQ014", "An individual has died in prison"),
    ("IQ015", "An individual has died following release from custody / prison"),
    ("IQ016", "An individual has died in a young offender’s institution"),
    ("IQ017", "An individual has died in detention under the Mental Health Act 1983"),
    ("IQ018", "An individual has died during or following medical care or treatment"),
    ("IQ019",
      "An individual has died following failure, or alleged failure, to provide medical treatment"),
    ("IQ020", "An individual has died while receiving mental health care in the community"),
    ("IQ021", "An individual has died while receiving care in the community (non-mental health)"),
    ("IQ022", "An individual has died while in supported living"),
    ("IQ023", "An individual has died following failure, or alleged failure, to provide care services"),
    ("IQ024", "An individual has died from alleged safeguarding failures"),
    ("IQ025", "A child has died that was subject to a care or interim care order"),
    ("IQ026", "A child has died following from failure, or alleged failure, to take a child into care"),
    ("IQ027", "A child has died from alleged deliberate abuse of a child in care"),
    ("IQ028", "A child has died by alleged suicide"),
    ("IQ029", "A child has died that was subject to safeguarding concerns"),
    ("IQ030", "A child has died that was referred to social services"),
    ("IQ031", "A child has died with Special Educational Needs and Disabilities (SEND)"),
    ("IQ032", "An individual has died in an educational setting"),
    ("IQ033",
      "An individual has died from failures, or alleged failures, of an educational institution"),
    ("IQ034", "An individual has died in immigration detention"),
    ("IQ035", "An individual has died that was seeking asylum in the country"),
    ("IQ036", "An individual has died from alleged issues with the condition of housing"),
    ("IQ037", "An individual has died in connection with their lack of housing"),
    ("IQ038", "An individual has died following the termination of disability benefits"),
    ("IQ039", "An individual has died following alleged mental health issues while in the military"),
    ("IQ040", "An individual has died from a road traffic collision"),
    ("IQ041", "An individual has died in an incident involving public transport"),
    ("IQ042", "A family member has died (Other)")]

def oldProceedings : List (String × String) :=
  [("IQPC", "Death in police custody"),
    ("IQPO", "Death in prison"),
    ("IQMT", "Death during medical treatment"),
    ("IQMH", "Death in mental health detention"),
    ("IQMC", "Death relating to mental health care in the community"),
    ("IQCC", "Death relating to other care in the community"),
    ("IQHO", "Death relating to issues with condition/safety of housing"),
    ("IQCA", "Death relating to a child’s care arrangements"),
    ("IQDV", "Death relating to failure to prevent domestic violence"),
    ("IQED", "Death relating to issues in an educational setting"),
    ("IQTR", "Death relating to issues relating to transport"),
    ("IQOT", "Other")]

def oldToNew : List (String × String) :=
  [("IQPC", "IQ011"), ("IQPO", "IQ014"), ("IQMT", "IQ018"), ("IQMH", "IQ017"), ("IQMC", "IQ020"),
    ("IQCC", "IQ021"), ("IQHO", "IQ036"), ("IQCA", "IQ025"), ("IQDV", "IQ042"), ("IQED", "IQ032"),
    ("IQTR", "IQ041"), ("IQOT", "IQ042")]

/-- New values without an old equivalent of their own fall back when they are moved back. -/
def newToOld : List (String × String) :=
  (oldToNew.filter fun pair => pair.1 ∉ ["IQDV", "IQOT"]).map Prod.swap

def downgradeFallback : String := "IQOT"

/-- What `_upsert_proceedings` inserts. -/
def insertedProceeding (name : String) : Proceeding where
  proceedingName := some name
  proceedingDescription := some name
  categoryOfLaw := some "INQUESTS"
  certificateType := some "SUBSTANTIVE"
  levelOfService := some "FULL_REPRESENTATION"
  matterType := some "INQUESTS"
  scopeLimitationHeading := some "FINAL_HEARING"
  scopeDescription := some "This is the scope description"
  substantiveCostLimitation := some 10000

def proceedingRows (proceedings : List (String × String)) : List (String × Proceeding) :=
  proceedings.map fun row => (row.1, insertedProceeding row.2)

/-- What a conflict sets. -/
def renamed (excluded old : Proceeding) : Proceeding :=
  { old with
    proceedingName := excluded.proceedingName
    proceedingDescription := excluded.proceedingDescription }

/-- `_upsert_proceedings`, `_repoint_application_proceedings` for each pair, `_delete_proceedings`. -/
def moveProceedings (deleted : List (String × String)) (pairs : List (String × String))
    (upserted : List (String × String)) : Script String Proceeding :=
  move (deleted.map (·.1)) pairs (proceedingRows upserted) renamed

def upgrade : Script String Proceeding :=
  moveProceedings oldProceedings oldToNew newProceedings
    ++ retype "proceedingid" "proceedingid_old" (newProceedings.map (·.1))

def downgradePairs : List (String × String) :=
  newProceedings.map fun row => (row.1, (newToOld.lookup row.1).getD downgradeFallback)

def downgrade : Script String Proceeding :=
  addValues "proceedingid" (oldProceedings.map (·.1))
    ++ moveProceedings newProceedings downgradePairs oldProceedings

end ReplaceProceedings

/-- `OLD_TO_NEW`, where it has the value. -/
def ReplaceProceedings.moved (key : String) : String :=
  (ReplaceProceedings.oldToNew.lookup key).getD key

def ReplaceProceedings.movedBack (key : String) : String :=
  (ReplaceProceedings.newToOld.lookup key).getD ReplaceProceedings.downgradeFallback

namespace ReplacedProceedings

open ReplaceProceedings

def upgrades : Script String Proceeding := AddNewProceedings.upgrade ++ ReplaceProceedings.upgrade

def downgrades : Script String Proceeding := ReplaceProceedings.downgrade ++ AddNewProceedings.downgrade

variable {db : ProceedingDatabase β}

def upgraded (f : String → String) (db : ProceedingDatabase β) : ProceedingDatabase β :=
  ((db.repointed f).retyped "proceedingid" AddNewProceedings.newValues).withLookup
    (proceedingRows newProceedings)

def downgraded (f : String → String) (db : ProceedingDatabase β) : ProceedingDatabase β :=
  ((db.repointed f).retyped "proceedingid" AddNewProceedings.oldValues).withLookup
    (proceedingRows oldProceedings)

/-- Each application is moved to the new proceeding of its old one, and nothing else about it changes. -/
theorem run_upgrades (h : At "proceedingid" AddNewProceedings.oldValues db)
    (hfree : db.types "proceedingid_old" = none) : Script.run upgrades db = .ok (upgraded moved db) := by
  have hsent : ∀ k ∈ AddNewProceedings.oldValues,
      substitute oldToNew k = moved k ∧ moved k ∈ AddNewProceedings.newValues := by decide
  exact run_exchange h hfree (by decide) (by decide) (by decide) (by decide) hsent

theorem run_downgrades (h : At "proceedingid" AddNewProceedings.newValues db)
    (hfree : db.types "proceedingid_old" = none) :
    Script.run downgrades db = .ok (downgraded movedBack db) := by
  have hsent : ∀ k ∈ AddNewProceedings.newValues,
      substitute downgradePairs k = movedBack k ∧ movedBack k ∈ AddNewProceedings.oldValues := by decide
  rw [downgrades, ReplaceProceedings.downgrade, List.append_assoc]
  exact run_exchange h hfree (by decide) (by decide) (by decide) (by decide) hsent

theorem free_after {f : String → String} {values : List String} {rows : List (String × Proceeding)}
    (hfree : db.types "proceedingid_old" = none) :
    (((db.repointed f).retyped "proceedingid" values).withLookup rows).types "proceedingid_old" = none :=
  (types_exchanged (by decide)).trans hfree

end ReplacedProceedings

section Migrated

open ReplaceProceedings ReplacedProceedings

/-- **Upwards.** From the revision before the first of the migrations on, no upgrade is refused, whatever
the two tables hold; in the end the type has the thirty-two new values, the reference table has a row for
each of them, and every application has the proceeding that its old one was replaced by. -/
theorem proceedings_upgraded (db : ProceedingDatabase β)
    (h : At "proceedingid" RemoveOldProceedingIds.syncedValues db)
    (hfresh : db.types "proceedingid_new" = none) (hfree : db.types "proceedingid_old" = none) :
    ∃ upgraded, Script.run (RemoveOldProceedingIds.upgrade ++ upgrades) db = .ok upgraded
      ∧ At "proceedingid" AddNewProceedings.newValues upgraded
      ∧ upgraded.lookup = proceedingRows newProceedings
      ∧ upgraded.referring
        = db.referring.map fun row => (moved (RemoveOldProceedingIds.moved row.1), row.2) := by
  obtain ⟨rows, hremove⟩ := RemoveOldProceedingIds.run_upgrade h hfresh
  have hremoved := h.of_exchange hremove
  have hupgrade := run_upgrades hremoved (free_after hfree)
  refine ⟨_, (Script.run_append hremove).trans hupgrade, hremoved.of_exchange hupgrade, rfl, ?_⟩
  exact List.map_map

/-- Two applications, of which the first has an old proceeding. -/
def sampleProceedings (labels : List String) (first second : String) : ProceedingDatabase ℕ where
  types := fun type => if type = "proceedingid" then some labels else none
  lookup := proceedingRows [(first, "First"), (second, "Second")]
  lookupType := "proceedingid"
  referring := [(first, 1), (second, 2)]
  referringType := "proceedingid"
  foreignKey := true

theorem sampleProceedings_at {labels : List String} {first second : String} (hfirst : first ∈ labels)
    (hsecond : second ∈ labels) (hne : first ≠ second) :
    At "proceedingid" labels (sampleProceedings labels first second) := by
  refine ⟨⟨?_, ?_, ?_, fun _ => ⟨rfl, ?_⟩⟩, rfl, rfl, rfl, rfl⟩
  · exact List.forall_mem_cons.mpr ⟨hfirst, List.forall_mem_singleton.mpr hsecond⟩
  · exact List.forall_mem_cons.mpr ⟨hfirst, List.forall_mem_singleton.mpr hsecond⟩
  · exact List.nodup_cons.mpr ⟨fun h => hne (List.mem_singleton.mp h), List.nodup_singleton second⟩
  · intro row hrow
    rcases List.mem_cons.mp hrow with rfl | hrow
    · exact List.mem_cons_self
    · rw [List.mem_singleton.mp hrow]
      exact List.mem_cons_of_mem _ List.mem_cons_self

/-- Two applications' proceedings are moved twice, "PC049" by way of "IQOT". -/
theorem proceedings_upgraded_sample :
    ∃ upgraded, Script.run (RemoveOldProceedingIds.upgrade ++ upgrades)
          (sampleProceedings RemoveOldProceedingIds.syncedValues "PC049" "MN036") = .ok upgraded
      ∧ At "proceedingid" AddNewProceedings.newValues upgraded
      ∧ upgraded.lookup = proceedingRows newProceedings
      ∧ upgraded.referring = [("IQ042", 1), ("IQ011", 2)] :=
  proceedings_upgraded _ (sampleProceedings_at (by decide) (by decide) (by decide)) rfl rfl

/-- What a round downwards and upwards does to a proceeding. -/
def keptBelow (key : String) : String := if key ∈ newToOld.map (·.1) then key else "IQ042"

/-- What a round upwards and downwards does to a proceeding. -/
def keptAbove (key : String) : String := if key = "IQDV" then "IQOT" else key

variable {db : ProceedingDatabase β}

theorem run_below (h : At "proceedingid" AddNewProceedings.newValues db)
    (hfree : db.types "proceedingid_old" = none) :
    Script.run (downgrades ++ upgrades) db = .ok (upgraded keptBelow db) := by
  have hkept : ∀ k ∈ AddNewProceedings.newValues, moved (movedBack k) = keptBelow k := by decide
  have hdown := run_downgrades h hfree
  rw [Script.run_append hdown]
  refine (run_upgrades (h.of_exchange hdown) (free_after hfree)).trans (congrArg Except.ok ?_)
  refine exchanged_again.trans (exchanged_congr ?_)
  intro row hrow
  exact hkept _ (h.keys_typed _ (h.refers row hrow))

theorem run_above (h : At "proceedingid" AddNewProceedings.oldValues db)
    (hfree : db.types "proceedingid_old" = none) :
    Script.run (upgrades ++ downgrades) db = .ok (downgraded keptAbove db) := by
  have hkept : ∀ k ∈ AddNewProceedings.oldValues, movedBack (moved k) = keptAbove k := by decide
  have hup := run_upgrades h hfree
  rw [Script.run_append hup]
  refine (run_downgrades (h.of_exchange hup) (free_after hfree)).trans (congrArg Except.ok ?_)
  refine exchanged_again.trans (exchanged_congr ?_)
  intro row hrow
  exact hkept _ (h.keys_typed _ (h.refers row hrow))

/-- **Down and up again.** Any number of rounds, begun from below or from above, is never refused and does
what one round does: of the new proceedings the ten that an old one is replaced by are kept and the others
become "IQ042"; of the old ones all are kept but "IQDV", which becomes "IQOT". Nothing else about an
application changes. -/
theorem proceedings_kept_by_rounds (n : ℕ) :
    (∀ db : ProceedingDatabase β, At "proceedingid" AddNewProceedings.newValues db →
        db.types "proceedingid_old" = none →
        Script.run (List.replicate (n + 1) (downgrades ++ upgrades)).flatten db
          = .ok (upgraded keptBelow db))
      ∧ ∀ db : ProceedingDatabase β, At "proceedingid" AddNewProceedings.oldValues db →
        db.types "proceedingid_old" = none →
        Script.run (List.replicate (n + 1) (upgrades ++ downgrades)).flatten db
          = .ok (downgraded keptAbove db) := by
  constructor
  · intro db h hfree
    refine Script.run_replicate (P := fun db => At "proceedingid" AddNewProceedings.newValues db
      ∧ db.types "proceedingid_old" = none) (fun db h => run_below h.1 h.2) ?_ ?_ n ⟨h, hfree⟩
    · exact fun db h => ⟨h.1.of_exchange (run_below h.1 h.2), free_after h.2⟩
    · intro db h
      have htwice : ∀ k ∈ AddNewProceedings.newValues, keptBelow (keptBelow k) = keptBelow k := by decide
      refine exchanged_again.trans (exchanged_congr ?_)
      exact fun row hrow => htwice _ (h.1.keys_typed _ (h.1.refers row hrow))
  · intro db h hfree
    refine Script.run_replicate (P := fun db => At "proceedingid" AddNewProceedings.oldValues db
      ∧ db.types "proceedingid_old" = none) (fun db h => run_above h.1 h.2) ?_ ?_ n ⟨h, hfree⟩
    · exact fun db h => ⟨h.1.of_exchange (run_above h.1 h.2), free_after h.2⟩
    · intro db h
      have htwice : ∀ k ∈ AddNewProceedings.oldValues, keptAbove (keptAbove k) = keptAbove k := by decide
      refine exchanged_again.trans (exchanged_congr ?_)
      exact fun row hrow => htwice _ (h.1.keys_typed _ (h.1.refers row hrow))

theorem proceedings_kept_by_rounds_sample :
    Script.run (List.replicate 3 (downgrades ++ upgrades)).flatten
          (sampleProceedings AddNewProceedings.newValues "IQ011" "IQ012")
        = .ok (upgraded keptBelow (sampleProceedings AddNewProceedings.newValues "IQ011" "IQ012"))
      ∧ Script.run (List.replicate 3 (upgrades ++ downgrades)).flatten
          (sampleProceedings AddNewProceedings.oldValues "IQDV" "IQED")
        = .ok (downgraded keptAbove (sampleProceedings AddNewProceedings.oldValues "IQDV" "IQED")) :=
  ⟨(proceedings_kept_by_rounds 2).1 _ (sampleProceedings_at (by decide) (by decide) (by decide)) rfl,
    (proceedings_kept_by_rounds 2).2 _ (sampleProceedings_at (by decide) (by decide) (by decide)) rfl⟩

end Migrated

end InquestsApi

import InquestsApi.Lib.SchemaScript

/-! The migrations of the public bodies: what `public_body` lists, and which body each row of
`application_public_body` has, when they are followed upwards and downwards. A row of `public_body` is its
key and its description. -/
namespace InquestsApi

open SchemaScript

variable {β : Type}

abbrev PublicBodyDatabase (β : Type) := Database String String β

namespace UpdatePublicBodies

def publicBodies : List (String × String) :=
  [("ATTORNEY_GENERAL", "Attorney General's Office"),
    ("CABINET_OFFICE", "Cabinet Office"),
    ("DEPARTMENT_DEVOLVED_TO_WALES", "Department Devolved to Wales"),
    ("DEPARTMENT_FOR_BUSINESS_AND_TRADE", "Department for Business and Trade"),
    ("DEPARTMENT_FOR_CULTURE_MEDIA_AND_SPORT", "Department for Culture, Media and Sport"),
    ("DEPARTMENT_FOR_EDUCATION", "Department for Education"),
    ("DEPARTMENT_FOR_ENERGY_SECURITY_AND_NET_ZERO", "Department for Energy Security and Net Zero"),
    ("DEPARTMENT_FOR_ENVIRONMENT_FOOD_AND_RURAL_AFFAIRS",
      "Department for Environment, Food and Rural Affairs"),
    ("DEPARTMENT_FOR_HOUSING_COMMUNITIES_AND_LOCAL_GOVERNMENT",
      "Department for Housing, Communities and Local Government"),
    ("DEPARTMENT_FOR_SCIENCE_INNOVATION_AND_TECHNOLOGY",
      "Department for Science, Innovation and Technology"),
    ("DEPARTMENT_FOR_TRANSPORT", "Department for Transport"),
    ("DEPARTMENT_FOR_WORK_AND_PENSIONS", "Department for Work and Pensions"),
    ("DEPARTMENT_OF_HEALTH_AND_SOCIAL_CARE", "Department of Health and Social Care"),
    ("FOREIGN_COMMONWEALTH_AND_DEVELOPMENT_OFFICE", "Foreign, Commonwealth and Development Office"),
    ("HM_TREASURY", "HM Treasury"),
    ("HOME_OFFICE", "Home Office"),
    ("MINISTRY_OF_DEFENCE", "Ministry of Defence"),
    ("MINISTRY_OF_JUSTICE", "Ministry of Justice")]

def preUpgradePublicBodies : List (String × String) :=
  [("PRIME_MINISTER_OFFICE", "Prime Minister's Office 10 Downing Street"),
    ("CABINET_OFFICE", "Cabinet Office"),
    ("ATTORNEY_GENERAL", "Attorney General's Office"),
    ("DEPARTMENT_FOR_BUSINESS_AND_TRADE", "Department for Business & Trade"),
    ("DEPARTMENT_FOR_CULTURE_MEDIA_AND_SPORT", "Department for Culture, Media & Sport"),
    ("DEPARTMENT_FOR_EDUCATION", "Department for Education"),
    ("DEPARTMENT_FOR_ENERGY_SECURITY_AND_NET_ZERO", "Department for Energy Security & Net Zero"),
    ("DEPARTMENT_FOR_ENVIRONMENT_FOOD_AND_RURAL_AFFAIRS",
      "Department for Environment, Food & Rural Affairs"),
    ("DEPARTMENT_FOR_SCIENCE_INNOVATION_AND_TECHNOLOGY", "Department for Science, Innovation & Technology"),
    ("DEPARTMENT_FOR_TRANSPORT", "Department for Transport"),
    ("DEPARTMENT_FOR_WORK_AND_PENSIONS", "Department for Work & Pensions"),
    ("DEPARTMENT_OF_HEALTH_AND_SOCIAL_CARE", "Department of Health & Social Care")]

def preUpgradeEnumValues : List String := preUpgradePublicBodies.map (·.1)

def newEnumValues : List String := (publicBodies.map (·.1)).filter fun key => key ∉ preUpgradeEnumValues

def upgrade : Script String String :=
  addValues "publicbodyid" (publicBodies.map (·.1)) ++ upserts overwriting publicBodies

def downgrade : Script String String :=
  rebuild "publicbodyid" "publicbodyid_old" preUpgradeEnumValues newEnumValues "CABINET_OFFICE"
    preUpgradePublicBodies

end UpdatePublicBodies

namespace RemoveOldPublicBodies

def newEnumValues : List String :=
  ["ATTORNEY_GENERAL", "CABINET_OFFICE", "DEPARTMENT_DEVOLVED_TO_WALES",
    "DEPARTMENT_FOR_BUSINESS_AND_TRADE", "DEPARTMENT_FOR_CULTURE_MEDIA_AND_SPORT",
    "DEPARTMENT_FOR_EDUCATION", "DEPARTMENT_FOR_ENERGY_SECURITY_AND_NET_ZERO",
    "DEPARTMENT_FOR_ENVIRONMENT_FOOD_AND_RURAL_AFFAIRS",
    "DEPARTMENT_FOR_HOUSING_COMMUNITIES_AND_LOCAL_GOVERNMENT",
    "DEPARTMENT_FOR_SCIENCE_INNOVATION_AND_TECHNOLOGY", "DEPARTMENT_FOR_TRANSPORT",
    "DEPARTMENT_FOR_WORK_AND_PENSIONS", "DEPARTMENT_OF_HEALTH_AND_SOCIAL_CARE",
    "FOREIGN_COMMONWEALTH_AND_DEVELOPMENT_OFFICE", "HM_TREASURY", "HOME_OFFICE", "MINISTRY_OF_DEFENCE",
    "MINISTRY_OF_JUSTICE"]

def upgrade : Script String String :=
  .repoint ["PRIME_MINISTER_OFFICE"] "CABINET_OFFICE" :: .delete ["PRIME_MINISTER_OFFICE"]
    :: retype "publicbodyid" "publicbodyid_old" newEnumValues

/-- A conflict does nothing. -/
def downgrade : Script String String :=
  addValues "publicbodyid" ["PRIME_MINISTER_OFFICE"]
    ++ upserts keeping [("PRIME_MINISTER_OFFICE", "Prime Minister's Office 10 Downing Street")]

end RemoveOldPublicBodies

section Migrated

open UpdatePublicBodies

variable {db : PublicBodyDatabase β}

def publicBodyUpgrades : Script String String := UpdatePublicBodies.upgrade ++ RemoveOldPublicBodies.upgrade

def publicBodyDowngrades : Script String String :=
  RemoveOldPublicBodies.downgrade ++ UpdatePublicBodies.downgrade

def extended (db : PublicBodyDatabase β) : PublicBodyDatabase β :=
  (db.retyped "publicbodyid" (preUpgradeEnumValues ++ UpdatePublicBodies.newEnumValues)).withLookup
    (upsertRows overwriting db.lookup publicBodies)

theorem run_extended (h : At "publicbodyid" preUpgradeEnumValues db) :
    Script.run UpdatePublicBodies.upgrade db = .ok (extended db) :=
  run_extend overwriting h (by decide) (by decide)

def withdrawn (db : PublicBodyDatabase β) : PublicBodyDatabase β :=
  ((db.repointed fun key => if key ∈ ["PRIME_MINISTER_OFFICE"] then "CABINET_OFFICE" else key).retyped
    "publicbodyid" RemoveOldPublicBodies.newEnumValues).withLookup
      (db.lookup.filter fun row => row.1 ∉ ["PRIME_MINISTER_OFFICE"])

theorem run_withdrawn
    (h : At "publicbodyid" (preUpgradeEnumValues ++ UpdatePublicBodies.newEnumValues) db)
    (hfree : db.types "publicbodyid_old" = none) (hoffice : "CABINET_OFFICE" ∈ db.keys) :
    Script.run RemoveOldPublicBodies.upgrade db = .ok (withdrawn db) :=
  run_withdraw h hfree (by decide) (by decide) hoffice (by decide) (by decide)

/-- The Prime Minister's Office with its old description, if it is not listed. -/
def restored (db : PublicBodyDatabase β) : PublicBodyDatabase β :=
  (db.retyped "publicbodyid" (RemoveOldPublicBodies.newEnumValues ++ ["PRIME_MINISTER_OFFICE"])).withLookup
    (upsertRows keeping db.lookup
      [("PRIME_MINISTER_OFFICE", "Prime Minister's Office 10 Downing Street")])

theorem run_restored (h : At "publicbodyid" RemoveOldPublicBodies.newEnumValues db) :
    Script.run RemoveOldPublicBodies.downgrade db = .ok (restored db) := by
  have hadded : (["PRIME_MINISTER_OFFICE"].filter fun value => value ∉ RemoveOldPublicBodies.newEnumValues)
      = ["PRIME_MINISTER_OFFICE"] := by decide
  refine (run_extend keeping h (by decide) (by decide)).trans ?_
  rw [hadded, restored]

def reduced (db : PublicBodyDatabase β) : PublicBodyDatabase β :=
  ((db.repointed fun key => if key ∈ UpdatePublicBodies.newEnumValues then "CABINET_OFFICE" else key).retyped
    "publicbodyid" preUpgradeEnumValues).withLookup
      (upsertRows overwriting (db.lookup.filter fun row => row.1 ∉ UpdatePublicBodies.newEnumValues)
        preUpgradePublicBodies)

theorem run_reduced
    (h : At "publicbodyid" (RemoveOldPublicBodies.newEnumValues ++ ["PRIME_MINISTER_OFFICE"]) db)
    (hfree : db.types "publicbodyid_old" = none) :
    Script.run UpdatePublicBodies.downgrade db = .ok (reduced db) :=
  run_rebuild h hfree (by decide) (by decide) (by decide) (by decide) (by decide) (by decide)

theorem lookup_extended : (extended db).lookup = upsertRows overwriting db.lookup publicBodies := by
  rw [extended, lookup_withLookup]

theorem free_extended (hfree : db.types "publicbodyid_old" = none) :
    (extended db).types "publicbodyid_old" = none := by
  rw [extended, types_withLookup, types_retyped (by decide), hfree]

theorem free_restored (hfree : db.types "publicbodyid_old" = none) :
    (restored db).types "publicbodyid_old" = none := by
  rw [restored, types_withLookup, types_retyped (by decide), hfree]

theorem lookup_withdrawn :
    (withdrawn db).lookup = db.lookup.filter fun row => row.1 ∉ ["PRIME_MINISTER_OFFICE"] := by
  rw [withdrawn, lookup_withLookup]

theorem lookup_reduced : (reduced db).lookup
    = upsertRows overwriting (db.lookup.filter fun row => row.1 ∉ UpdatePublicBodies.newEnumValues)
      preUpgradePublicBodies := by
  rw [reduced, lookup_withLookup]

theorem extended_at (h : At "publicbodyid" preUpgradeEnumValues db) :
    At "publicbodyid" (preUpgradeEnumValues ++ UpdatePublicBodies.newEnumValues) (extended db) :=
  h.of_extend (run_extended h)

theorem restored_at (h : At "publicbodyid" RemoveOldPublicBodies.newEnumValues db) :
    At "publicbodyid" (RemoveOldPublicBodies.newEnumValues ++ ["PRIME_MINISTER_OFFICE"]) (restored db) :=
  h.of_extend (run_restored h)

theorem office_listed : "CABINET_OFFICE" ∈ (extended db).keys := by
  have hlisted : "CABINET_OFFICE" ∈ publicBodies.map (·.1) := by decide
  rw [Database.keys, lookup_extended, mem_keys_upsertRows]
  exact Or.inr hlisted

/-- Of the old bodies only one is not listed anew. -/
theorem listed_after_upgrades (h : At "publicbodyid" preUpgradeEnumValues db) {key description : String} :
    (key, description) ∈ (withdrawn (extended db)).lookup ↔ (key, description) ∈ publicBodies := by
  have hold : ∀ k ∈ preUpgradeEnumValues, k ∉ publicBodies.map (·.1) → k ∈ ["PRIME_MINISTER_OFFICE"] := by
    decide
  have hnew : ∀ row ∈ publicBodies, row.1 ∉ ["PRIME_MINISTER_OFFICE"] := by decide
  have hnodup : (publicBodies.map (·.1)).Nodup := by decide
  rw [lookup_withdrawn, lookup_extended, List.mem_filter, mem_upsertRows hnodup, decide_eq_true_eq]
  constructor
  · rintro ⟨hlisted | ⟨hnone, hlookup⟩, hstays⟩
    · exact hlisted
    · exact absurd (hold _ (h.keys_typed _ (List.mem_map_of_mem hlookup)) hnone) hstays
  · exact fun hlisted => ⟨Or.inl hlisted, hnew _ hlisted⟩

theorem listed_after_downgrade
    (h : At "publicbodyid" (RemoveOldPublicBodies.newEnumValues ++ ["PRIME_MINISTER_OFFICE"]) db)
    {key description : String} :
    (key, description) ∈ (reduced db).lookup ↔ (key, description) ∈ preUpgradePublicBodies := by
  have hleft : ∀ k ∈ RemoveOldPublicBodies.newEnumValues ++ ["PRIME_MINISTER_OFFICE"],
      k ∉ preUpgradePublicBodies.map (·.1) → k ∈ UpdatePublicBodies.newEnumValues := by decide
  have hnodup : (preUpgradePublicBodies.map (·.1)).Nodup := by decide
  rw [lookup_reduced, mem_upsertRows hnodup]
  constructor
  · rintro (hlisted | ⟨hnone, hlookup⟩)
    · exact hlisted
    · obtain ⟨hmem, hstays⟩ := List.mem_filter.mp hlookup
      exact absurd (hleft _ (h.keys_typed _ (List.mem_map_of_mem hmem)) hnone) (of_decide_eq_true hstays)
  · exact Or.inl

theorem withdrawn_at
    (h : At "publicbodyid" (preUpgradeEnumValues ++ UpdatePublicBodies.newEnumValues) db)
    (hrun : Script.run RemoveOldPublicBodies.upgrade db = .ok (withdrawn db)) :
    At "publicbodyid" RemoveOldPublicBodies.newEnumValues (withdrawn db) := h.of_exchange hrun

theorem reduced_at
    (h : At "publicbodyid" (RemoveOldPublicBodies.newEnumValues ++ ["PRIME_MINISTER_OFFICE"]) db)
    (hrun : Script.run UpdatePublicBodies.downgrade db = .ok (reduced db)) :
    At "publicbodyid" preUpgradeEnumValues (reduced db) := h.of_exchange hrun

/-- **Upwards and downwards.** Neither way is refused, whatever the two tables hold. Upwards the table
lists in the end exactly the bodies of the last revision and only the rows of the Prime Minister's Office
are changed, to the Cabinet Office; downwards it lists exactly the bodies from before, with their old
descriptions, and only the rows of the bodies that are not among them are changed, to the same. -/
theorem public_bodies_migrated :
    (∀ db : PublicBodyDatabase β, At "publicbodyid" preUpgradeEnumValues db →
        db.types "publicbodyid_old" = none →
        ∃ upgraded, Script.run publicBodyUpgrades db = .ok upgraded
          ∧ At "publicbodyid" RemoveOldPublicBodies.newEnumValues upgraded
          ∧ (∀ key description,
              (key, description) ∈ upgraded.lookup ↔ (key, description) ∈ publicBodies)
          ∧ upgraded.referring = db.referring.map fun row =>
              (if row.1 ∈ ["PRIME_MINISTER_OFFICE"] then "CABINET_OFFICE" else row.1, row.2))
      ∧ ∀ db : PublicBodyDatabase β, At "publicbodyid" RemoveOldPublicBodies.newEnumValues db →
        db.types "publicbodyid_old" = none →
        ∃ downgraded, Script.run publicBodyDowngrades db = .ok downgraded
          ∧ At "publicbodyid" preUpgradeEnumValues downgraded
          ∧ (∀ key description,
              (key, description) ∈ downgraded.lookup ↔ (key, description) ∈ preUpgradePublicBodies)
          ∧ downgraded.referring = db.referring.map fun row =>
              (if row.1 ∈ UpdatePublicBodies.newEnumValues then "CABINET_OFFICE" else row.1, row.2) := by
  constructor
  · intro db h hfree
    have hextend := run_extended h
    have hwithdraw := run_withdrawn (extended_at h) (free_extended hfree) office_listed
    exact ⟨withdrawn (extended db), (Script.run_append hextend).trans hwithdraw,
      withdrawn_at (extended_at h) hwithdraw, fun _ _ => listed_after_upgrades h, rfl⟩
  · intro db h hfree
    have hrestore := run_restored h
    have hreduce := run_reduced (restored_at h) (free_restored hfree)
    exact ⟨reduced (restored db), (Script.run_append hrestore).trans hreduce,
      reduced_at (restored_at h) hreduce, fun _ _ => listed_after_downgrade (restored_at h), rfl⟩

/-- One row, of this body, and the body's row. -/
def samplePublicBody (labels : List String) (body : String) : PublicBodyDatabase ℕ where
  types := fun type => if type = "publicbodyid" then some labels else none
  lookup := [(body, "Described before")]
  lookupType := "publicbodyid"
  referring := [(body, 1)]
  referringType := "publicbodyid"
  foreignKey := true

theorem samplePublicBody_at {labels : List String} {body : String} (h : body ∈ labels) :
    At "publicbodyid" labels (samplePublicBody labels body) := by
  refine ⟨⟨?_, ?_, List.nodup_singleton body, fun _ => ⟨rfl, ?_⟩⟩, rfl, rfl, rfl, rfl⟩
  · exact List.forall_mem_singleton.mpr h
  · exact List.forall_mem_singleton.mpr h
  · exact List.forall_mem_singleton.mpr List.mem_cons_self

theorem public_bodies_migrated_sample :
    (∃ upgraded, Script.run publicBodyUpgrades (samplePublicBody preUpgradeEnumValues "PRIME_MINISTER_OFFICE")
          = .ok upgraded
        ∧ At "publicbodyid" RemoveOldPublicBodies.newEnumValues upgraded
        ∧ (∀ key description, (key, description) ∈ upgraded.lookup ↔ (key, description) ∈ publicBodies)
        ∧ upgraded.referring = [("CABINET_OFFICE", 1)])
      ∧ ∃ downgraded, Script.run publicBodyDowngrades
            (samplePublicBody RemoveOldPublicBodies.newEnumValues "HOME_OFFICE") = .ok downgraded
        ∧ At "publicbodyid" preUpgradeEnumValues downgraded
        ∧ (∀ key description,
            (key, description) ∈ downgraded.lookup ↔ (key, description) ∈ preUpgradePublicBodies)
        ∧ downgraded.referring = [("CABINET_OFFICE", 1)] :=
  ⟨public_bodies_migrated.1 _ (samplePublicBody_at (by decide)) rfl,
    public_bodies_migrated.2 _ (samplePublicBody_at (by decide)) rfl⟩

end Migrated

end InquestsApi

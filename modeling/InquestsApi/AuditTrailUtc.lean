import InquestsApi.AuditTrail

/-! The audit trail over tables whose timestamps are in UTC already: its events are those that are
listed when every table is read as it stands. -/
namespace InquestsApi
namespace AuditTrail

open AuditTrailRepositoryAdapter

section InUtc

variable {db : AuditDatabase} {window : Datetime × Datetime} {t : Timestamp}

theorem instant_wall (h : t.offset.getD 0 = 0) : t.instant = t.wall.instant := by
  unfold Timestamp.instant
  rw [h, sub_zero]

/-- What is in UTC shows after it was read what it showed before. -/
theorem asUtc_wall (h : t.offset.getD 0 = 0) :
    ∃ u, t.asUtc = some u ∧ u.wall = t.wall ∧ u.offset = some 0 := by
  cases hoffset : t.offset with
  | none =>
      refine ⟨t.replaceUtc, ?_, rfl, rfl⟩
      unfold Timestamp.asUtc
      rw [hoffset]
      rfl
  | some o =>
      rw [hoffset] at h
      cases h
      exact ⟨t, Timestamp.asUtc_utc hoffset, rfl, hoffset⟩

/-- The events of one source are those of its records. -/
theorem events_utc {ρ : Type} {timestamp : ρ → Timestamp} {event : Timestamp → ρ → ZonedEvent}
    {toEvent : ρ → AuditTrailEvent} {rows : List ρ} (h : ∀ row ∈ rows, (timestamp row).offset.getD 0 = 0)
    (htime : ∀ u row, (event u row).timestamp = u)
    (hevent : ∀ u row, u.wall = (timestamp row).wall → (event u row).record = toEvent row) :
    ∃ listed, events timestamp event rows = .ok listed
      ∧ (∀ e ∈ listed, e.timestamp.offset = some 0) ∧ listed.map (·.record) = rows.map toEvent := by
  have hread : ∀ row ∈ rows, ∃ occurredAt, (timestamp row).asUtc = some occurredAt :=
    fun row hrow => (asUtc_wall (h row hrow)).imp fun u hu => hu.1
  obtain ⟨listed, hlisted, hevents⟩ := events_ok event hread
  have hall : List.Forall₂ (fun row e => e.timestamp.offset = some 0 ∧ e.record = toEvent row)
      rows listed := by
    refine hevents.imp fun row e hrow => ?_
    obtain ⟨hmem, occurredAt, hutc, rfl⟩ := hrow
    obtain ⟨u, hu, hwall, hoffset⟩ := asUtc_wall (h row hmem)
    cases hutc.symm.trans hu
    exact ⟨by rw [htime, hoffset], hevent occurredAt row hwall⟩
  refine ⟨listed, hlisted, ?_⟩
  clear h hread hlisted hevents
  induction hall with
  | nil => exact ⟨List.forall_mem_nil _, rfl⟩
  | cons hhead _ ih =>
      exact ⟨List.forall_mem_cons.mpr ⟨hhead.1, ih.1⟩, by rw [List.map_cons, List.map_cons, hhead.2, ih.2]⟩

/-- What is selected of one source is what is selected of its records. -/
theorem selected_utc {ρ σ : Type} {timestamp : ρ → Timestamp} {record : ρ → σ} {clock : σ → Datetime}
    {rows : List ρ} (window : Datetime × Datetime) (id : σ → ℕ)
    (h : ∀ row ∈ rows, (timestamp row).offset.getD 0 = 0)
    (hclock : ∀ row, (timestamp row).wall = clock (record row)) :
    (selected timestamp (fun row => id (record row)) window rows).map record
      = ((rows.map record).filter fun x => (clock x).within window.1 window.2).insertionSort fun x y =>
        (clock x).instant < (clock y).instant ∨ (clock x).instant = (clock y).instant ∧ id x ≤ id y := by
  have hinstant : ∀ row ∈ rows, (timestamp row).instant = (clock (record row)).instant := by
    intro row hrow
    rw [instant_wall (h row hrow), hclock]
  have hfilter : (rows.map record).filter (fun x => (clock x).within window.1 window.2)
      = (rows.filter fun row => (timestamp row).within window).map record := by
    rw [List.filter_map]
    congr 1
    refine List.filter_congr fun row hrow => ?_
    rw [Bool.eq_iff_iff, decide_eq_true_eq, Function.comp_apply]
    unfold Timestamp.within Datetime.within
    rw [hinstant row hrow, Bool.and_eq_true, decide_eq_true_eq, decide_eq_true_eq]
  rw [hfilter]
  unfold selected
  refine List.map_insertionSort _ _ record _ fun x hx y hy => ?_
  unfold inOrder
  rw [hinstant x (List.mem_of_mem_filter hx), hinstant y (List.mem_of_mem_filter hy)]

/-- A source over such rows, as it is over their records. -/
theorem source_utc {ρ σ : Type} (timestamp : ρ → Timestamp) (record : ρ → σ) (clock : σ → Datetime)
    (id : σ → ℕ) (event : Timestamp → ρ → ZonedEvent) (toEvent : σ → AuditTrailEvent) (rows : List ρ)
    (h : ∀ row ∈ rows, (timestamp row).offset.getD 0 = 0)
    (hclock : ∀ row, (timestamp row).wall = clock (record row))
    (htime : ∀ u row, (event u row).timestamp = u)
    (hevent : ∀ u row, u.wall = (timestamp row).wall → (event u row).record = toEvent (record row)) :
    ∃ listed,
      events timestamp event (selected timestamp (fun row => id (record row)) window rows) = .ok listed
      ∧ (∀ e ∈ listed, e.timestamp.offset = some 0)
      ∧ listed.map (·.record)
        = (((rows.map record).filter fun x => (clock x).within window.1 window.2).insertionSort fun x y =>
          (clock x).instant < (clock y).instant
            ∨ (clock x).instant = (clock y).instant ∧ id x ≤ id y).map toEvent := by
  have hselected := selected_utc window id h hclock
  obtain ⟨listed, hresult, hoffset, hrecords⟩ :=
    events_utc (fun row hrow => h row (within_of_mem_selected hrow).1) htime hevent
  refine ⟨listed, hresult, hoffset, ?_⟩
  rw [hrecords, ← hselected, List.map_map]
  rfl

/-- The join over what is selected is what is selected of the join. -/
theorem filter_join {β γ : Type} {events : List β} {partners : β → List γ} {kept : β → Bool} :
    (events.flatMap fun event => (partners event).map fun a => (event, a)).filter (fun row => kept row.1)
      = (events.filter kept).flatMap fun event => (partners event).map fun a => (event, a) := by
  induction events with
  | nil => rfl
  | cons event rest ih =>
      rw [List.flatMap_cons, List.filter_append, ih, List.filter_map]
      by_cases hkept : kept event = true
      · have hall : (partners event).filter ((fun row : β × γ => kept row.1) ∘ fun a => (event, a))
            = partners event := List.filter_eq_self.mpr fun _ _ => hkept
        rw [hall, List.filter_cons_of_pos hkept, List.flatMap_cons]
      · have hnone : (partners event).filter ((fun row : β × γ => kept row.1) ∘ fun a => (event, a))
            = [] := List.filter_eq_nil_iff.mpr fun _ _ => hkept
        rw [hnone, List.filter_cons_of_neg hkept]
        rfl

/-- The tables, with every timestamp as what it shows. -/
structure AtWall (db : AuditDatabase) (s : Store) (audit : AuditTables) : Prop where
  utc : ∀ row ∈ rows db, row.timestamp.offset.getD 0 = 0
  applications : s.applications = db.applications
  historyEvents : s.historyEvents = db.historyEvents.map (·.record)
  views : audit.viewApplicationPagesAudit = db.viewApplicationPagesAudit.map (·.record)
  reports : audit.reportAudit = db.reportAudit.map (·.record)

variable {s : Store} {audit : AuditTables}

theorem iterHistoryEvents_utc (window : Datetime × Datetime) (h : AtWall db s audit) :
    ∃ events, iterHistoryEvents window db = .ok events
    ∧ (∀ event ∈ events, event.timestamp.offset = some 0)
    ∧ events.map (·.record) = AuditTrailRepository.iterHistoryEvents window.1 window.2 s := by
  have hjoin : ((historyRows db).map fun row => (row.1.record, row.2))
      = s.historyEvents.flatMap fun event =>
        (s.applications.filter fun a => event.applicationId = a.applicationId).map fun a => (event, a) := by
    unfold historyRows
    rw [h.applications, h.historyEvents, List.map_flatMap, List.flatMap_map]
    congr 1
    funext row
    rw [List.map_map]
    congr 1
    exact List.filter_congr fun a _ => decide_eq_decide.mpr eq_comm
  unfold AuditTrailRepository.iterHistoryEvents
  rw [← filter_join, ← hjoin]
  refine source_utc (·.1.timestamp) (fun row => (row.1.record, row.2)) (·.1.timestamp) (·.1.id) historyEvent
    (fun row => auditHistoryEvent row.1 row.2) (historyRows db) ?_ (fun _ => rfl)
    (fun _ _ => Zoned.timestamp_stamped) ?_
  · intro row hrow
    have hevent : row.1 ∈ db.historyEvents := by
      rw [← historyRows_fst]
      exact List.mem_map_of_mem hrow
    exact h.utc (.history row.1) (List.mem_append_left _ (List.mem_map_of_mem hevent))
  · intro u row hu
    exact congrArg (fun t => auditHistoryEvent { row.1.record with timestamp := t } row.2) hu

theorem iterApplicationViewEvents_utc (window : Datetime × Datetime) (h : AtWall db s audit) :
    ∃ events, iterApplicationViewEvents window db = .ok events
      ∧ (∀ event ∈ events, event.timestamp.offset = some 0)
      ∧ events.map (·.record) = AuditTrailRepository.iterApplicationViewEvents window.1 window.2 audit := by
  have hutc : ∀ row ∈ db.viewApplicationPagesAudit, row.timestamp.offset.getD 0 = 0 := fun row hrow =>
    h.utc (.view row) (List.mem_append_right _ (List.mem_append_left _ (List.mem_map_of_mem hrow)))
  unfold AuditTrailRepository.iterApplicationViewEvents
  rw [h.views]
  refine source_utc (·.timestamp) (·.record) (·.timestamp) (·.id) viewEvent AuditTrailRepository.viewEvent
    db.viewApplicationPagesAudit hutc (fun _ => rfl) (fun _ _ => Zoned.timestamp_stamped) ?_
  intro u row hu
  exact congrArg (fun t => AuditTrailRepository.viewEvent { row.record with timestamp := t }) hu

theorem iterReportEvents_utc (window : Datetime × Datetime) (h : AtWall db s audit) :
    ∃ events, iterReportEvents window db = .ok events
    ∧ (∀ event ∈ events, event.timestamp.offset = some 0)
    ∧ events.map (·.record) = AuditTrailRepository.iterReportEvents window.1 window.2 audit := by
  have hutc : ∀ row ∈ db.reportAudit, row.timestamp.offset.getD 0 = 0 := fun row hrow =>
    h.utc (.report row) (List.mem_append_right _ (List.mem_append_right _ (List.mem_map_of_mem hrow)))
  unfold AuditTrailRepository.iterReportEvents
  rw [h.reports]
  refine source_utc (·.timestamp) (·.record) (·.timestamp) (·.id) reportEvent reportDownloadEvent
    db.reportAudit hutc (fun _ => rfl) (fun _ _ => Zoned.timestamp_stamped) ?_
  intro u row hu
  exact congrArg (fun t => reportDownloadEvent { row.record with timestamp := t }) hu

/-- An event with its key, and the record that it has. -/
def Keyed (entry : Timestamp × ZonedEvent) (record : AuditTrailEvent) : Prop :=
  entry.2.record = record ∧ entry.1.instant = record.occurredAt.instant

theorem withKeys_keyed {events : List ZonedEvent} (h : ∀ event ∈ events, event.timestamp.offset = some 0) :
    List.Forall₂ Keyed (withKeys events) (events.map (·.record)) := by
  unfold withKeys
  rw [List.forall₂_map_left_iff, List.forall₂_map_right_iff, List.forall₂_same]
  intro event hevent
  refine ⟨rfl, instant_wall ?_⟩
  rw [h event hevent, Option.getD_some]

/-- Over such tables the events are those that the records have. -/
theorem readEvents_utc (window : Datetime × Datetime) (h : AtWall db s audit) :
    (readEvents window db).map (List.map (·.record))
      = .ok (GenerateAuditTrailReportUseCase.readEvents window.1 window.2 s audit) := by
  obtain ⟨history, hhistory, hhistoryUtc, hhistoryRecords⟩ := iterHistoryEvents_utc window h
  obtain ⟨views, hviews, hviewsUtc, hviewRecords⟩ := iterApplicationViewEvents_utc window h
  obtain ⟨reports, hreports, hreportsUtc, hreportRecords⟩ := iterReportEvents_utc window h
  have hutc : ∀ events ∈ [history, views, reports], ∀ event ∈ events, event.timestamp.offset = some 0 := by
    simp only [List.forall_mem_cons]
    exact ⟨hhistoryUtc, hviewsUtc, hreportsUtc, List.forall_mem_nil _⟩
  let earlier := fun a b : AuditTrailEvent => decide (a.occurredAt.instant ≤ b.occurredAt.instant)
  have hmerged : List.Forall₂ Keyed
      (Merge.mergeAll (fun a b => decide (a.1.instant ≤ b.1.instant))
        [withKeys history, withKeys views, withKeys reports])
      (Merge.mergeAll earlier
        [history.map (·.record), views.map (·.record), reports.map (·.record)]) := by
    refine Merge.mergeAll_forall₂ ?_ (.cons (withKeys_keyed hhistoryUtc)
      (.cons (withKeys_keyed hviewsUtc) (.cons (withKeys_keyed hreportsUtc) .nil)))
    intro a a' b b' ha hb
    change decide (a.1.instant ≤ b.1.instant) = decide (a'.occurredAt.instant ≤ b'.occurredAt.instant)
    rw [ha.2, hb.2]
  have hrecords : ∀ {entries : List (Timestamp × ZonedEvent)} {records : List AuditTrailEvent},
      List.Forall₂ Keyed entries records → (entries.map Prod.snd).map (·.record) = records := by
    intro entries records hall
    induction hall with
    | nil => rfl
    | cons hhead _ ih => rw [List.map_cons, List.map_cons, hhead.1, ih]
  have hread : GenerateAuditTrailReportUseCase.readEvents window.1 window.2 s audit
      = Merge.mergeAll earlier
        [history.map (·.record), views.map (·.record), reports.map (·.record)] := by
    rw [hhistoryRecords, hviewRecords, hreportRecords]
    unfold Merge.mergeAll
    rw [List.foldl_cons, List.foldl_cons, List.foldl_cons, List.foldl_nil, List.nil_merge]
    rfl
  rw [readEvents_merge hhistory hviews hreports hutc, hread]
  exact congrArg Except.ok (hrecords hmerged)

end InUtc

end AuditTrail
end InquestsApi

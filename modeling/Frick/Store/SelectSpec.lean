import Frick.Store.DumpSpec

/-!
# The rows a dump selects

`build_select` reads a table whole or by tenant, and the deliveries of a tenant through a join with
the tenant's events. What is selected are rows of the table, no two of them collide, and a table
that holds exactly the selected rows, in their order, selects the same.
-/

namespace Frick.Store

open Framework List

variable {engine : SqliteEngine}

/-! ## Ordering -/

instance (cols : List String) :
    Std.Total fun row other : SqlRow => rowLe engine cols row other = true :=
  ⟨rowLe_total cols⟩

instance (cols : List String) :
    IsTrans SqlRow fun row other => rowLe engine cols row other = true :=
  ⟨fun _ _ _ => rowLe_trans cols⟩

instance (cols : List String) : Std.Total fun pair other : SqlRow × SqlRow =>
    rowLe engine cols (joinKey pair) (joinKey other) = true :=
  ⟨fun _ _ => rowLe_total cols _ _⟩

instance (cols : List String) : IsTrans (SqlRow × SqlRow) fun pair other =>
    rowLe engine cols (joinKey pair) (joinKey other) = true :=
  ⟨fun _ _ _ => rowLe_trans cols⟩

lemma orderBy_perm (cols : List String) (rows : List SqlRow) :
    (orderBy engine cols rows).Perm rows :=
  perm_insertionSort _ rows

lemma orderBy_orderBy (cols : List String) (rows : List SqlRow) :
    orderBy engine cols (orderBy engine cols rows) = orderBy engine cols rows :=
  Pairwise.insertionSort_eq (pairwise_insertionSort _ rows)

/-! ## Events and deliveries -/

def isEventOf (tenantId : String) (delivery event : SqlRow) : Bool :=
  sqlEq (event.value "event_id") (delivery.value "event_id") && ofTenant tenantId event

lemma joinDeliveries_eq (db : Database engine) (tenantId : String) :
    joinDeliveries db tenantId = (db.rows "platform_event_deliveries").flatMap fun delivery =>
      ((db.rows "platform_events").filter (isEventOf tenantId delivery)).map
        fun event => (delivery, event) := rfl

variable {delivery : SqlRow} {tenantId : String} {db : Database engine}

lemma clash_of_isEventOf {event other : SqlRow} (hevent : isEventOf tenantId delivery event)
    (hother : isEventOf tenantId delivery other) :
    platformEventsTable.clash event other := by
  simp only [isEventOf, sqlEq, Bool.and_eq_true, decide_eq_true_eq] at hevent hother
  have hread : ∀ row : SqlRow, IndexedColumn.read { name := "event_id" } row =
      row.value "event_id" := by
    intro row
    unfold IndexedColumn.read
    cases row.value "event_id" <;> rfl
  have hentry : ∀ row : SqlRow, row.value "event_id" = delivery.value "event_id" →
      (UniqueIndex.over ["event_id"]).entry row = some [delivery.value "event_id"] := by
    intro row hrow
    have hnull : SqlValue.null ≠ delivery.value "event_id" := by
      rw [← hevent.1.2]
      exact Ne.symm hevent.1.1
    simp [UniqueIndex.entry, UniqueIndex.over, IndexCondition.holds, hread, hrow, hnull]
  rw [TableSchema.clash, any_eq_true]
  refine ⟨.over ["event_id"], by simp [platformEventsTable], ?_⟩
  rw [hentry event hevent.1.2, hentry other hother.1.2]
  simp

lemma events_of_delivery {events : List SqlRow}
    (hdist : events.Pairwise fun event other => platformEventsTable.clash event other = false)
    (tenantId : String) (delivery : SqlRow) :
    events.filter (isEventOf tenantId delivery) = [] ∨
      ∃ event, events.filter (isEventOf tenantId delivery) = [event] := by
  refine filter_eq_nil_or_singleton (hdist.imp fun hclash hboth => ?_)
  rw [clash_of_isEventOf hboth.1 hboth.2] at hclash
  cases hclash

lemma map_fst_joinDeliveries (hdist : (db.rows "platform_events").Pairwise
      fun event other => platformEventsTable.clash event other = false) (tenantId : String) :
    (joinDeliveries db tenantId).map Prod.fst =
      (db.rows "platform_event_deliveries").filter
        fun delivery => (db.rows "platform_events").any (isEventOf tenantId delivery) := by
  rw [joinDeliveries_eq]
  induction db.rows "platform_event_deliveries" with
  | nil => rfl
  | cons delivery _ ih =>
    rw [flatMap_cons, map_append, ih, filter_cons]
    rcases events_of_delivery hdist tenantId delivery with hnone | ⟨event, hone⟩
    · have hany : (db.rows "platform_events").any (isEventOf tenantId delivery) = false := by
        rw [any_eq_false]
        exact filter_eq_nil_iff.mp hnone
      rw [hnone, hany]
      rfl
    · have hmem : event ∈ (db.rows "platform_events").filter (isEventOf tenantId delivery) := by
        rw [hone]
        exact mem_singleton_self event
      have hany := any_eq_true.mpr ⟨event, (mem_filter.mp hmem).1, (mem_filter.mp hmem).2⟩
      rw [hone, hany]
      rfl

lemma mem_joinDeliveries {pair : SqlRow × SqlRow} :
    pair ∈ joinDeliveries db tenantId ↔ pair.1 ∈ db.rows "platform_event_deliveries" ∧
      pair.2 ∈ db.rows "platform_events" ∧ isEventOf tenantId pair.1 pair.2 := by
  rw [joinDeliveries_eq, mem_flatMap]
  constructor
  · rintro ⟨delivery, hdlv, hpair⟩
    obtain ⟨event, hevent, rfl⟩ := mem_map.mp hpair
    exact ⟨hdlv, mem_filter.mp hevent⟩
  · rintro ⟨hdlv, hevent⟩
    exact ⟨pair.1, hdlv, mem_map.mpr ⟨pair.2, mem_filter.mpr hevent, rfl⟩⟩

lemma exists_pair_of_mem_tenantDeliveries (h : delivery ∈ tenantDeliveries db tenantId) :
    ∃ event, (delivery, event) ∈ joinDeliveries db tenantId := by
  obtain ⟨pair, hpair, rfl⟩ := mem_map.mp h
  exact ⟨pair.2, (mem_insertionSort _).mp hpair⟩

lemma tenantDeliveries_selected {db' : Database engine} {columns : List String}
    (hdist : (db'.rows "platform_events").Pairwise
      fun event other => platformEventsTable.clash event other = false)
    (hevs : db'.rows "platform_events" =
      orderBy engine columns ((db.rows "platform_events").filter (ofTenant tenantId)))
    (hdlvs : db'.rows "platform_event_deliveries" = tenantDeliveries db tenantId) :
    tenantDeliveries db' tenantId = tenantDeliveries db tenantId := by
  let pairs := (joinDeliveries db tenantId).insertionSort fun pair other =>
    rowLe engine ["consumer", "id"] (joinKey pair) (joinKey other)
  have hone : ∀ pair ∈ pairs,
      (db'.rows "platform_events").filter (isEventOf tenantId pair.1) = [pair.2] := by
    intro pair hpair
    obtain ⟨_, hevent, hof⟩ := mem_joinDeliveries.mp ((mem_insertionSort _).mp hpair)
    have hten : ofTenant tenantId pair.2 := (Bool.and_eq_true _ _ ▸ hof).2
    have hmem : pair.2 ∈ (db'.rows "platform_events").filter (isEventOf tenantId pair.1) := by
      rw [hevs]
      exact mem_filter.mpr
        ⟨mem_orderBy.mpr (mem_filter.mpr ⟨hevent, hten⟩), hof⟩
    rcases events_of_delivery hdist tenantId pair.1 with hnone | ⟨event, hsing⟩
    · rw [hnone] at hmem
      cases hmem
    · rw [hsing] at hmem
      rw [hsing, mem_singleton.mp hmem]
  have hjoin : joinDeliveries db' tenantId = pairs := by
    rw [joinDeliveries_eq, hdlvs]
    change (pairs.map Prod.fst).flatMap _ = pairs
    rw [flatMap_map]
    calc pairs.flatMap (fun pair =>
            ((db'.rows "platform_events").filter (isEventOf tenantId pair.1)).map
              fun event => (pair.1, event))
        = pairs.flatMap fun pair => [pair] := by
          refine flatMap_congr fun pair hpair => ?_
          rw [hone pair hpair]
          rfl
      _ = pairs := flatMap_singleton' pairs
  unfold tenantDeliveries
  rw [hjoin, Pairwise.insertionSort_eq (pairwise_insertionSort _ _)]

/-! ## Selected rows -/

section Selected

variable {db db' : Database engine} {spec : TableSpec} {wholeDb : Bool} {tenantId : String}

lemma mem_rows_of_mem_selectTable {row : SqlRow} (h : row ∈ selectTable spec wholeDb tenantId db) :
    row ∈ db.rows spec.name := by
  unfold selectTable at h
  split_ifs at h with htens hdlvs hscope
  · exact mem_of_mem_filter (mem_orderBy.mp h)
  · obtain ⟨event, hpair⟩ := exists_pair_of_mem_tenantDeliveries h
    rw [hdlvs.1]
    exact (mem_joinDeliveries.mp hpair).1
  · exact mem_of_mem_filter (mem_orderBy.mp h)
  · exact mem_orderBy.mp h

lemma ofTenant_of_mem_selectTable {row : SqlRow} (hwhole : wholeDb = false)
    (hspec : spec.name = "tenants" ∨ spec.name ≠ "platform_event_deliveries" ∧ spec.tenantScoped)
    (h : row ∈ selectTable spec wholeDb tenantId db) : ofTenant tenantId row := by
  unfold selectTable at h
  split_ifs at h with htens hdlvs hscope
  · exact (mem_filter.mp (mem_orderBy.mp h)).2
  · rcases hspec with hname | hname
    · exact absurd ⟨hname, hwhole⟩ htens
    · exact absurd hdlvs.1 hname.1
  · exact (mem_filter.mp (mem_orderBy.mp h)).2
  · rcases hspec with hname | hname
    · exact absurd ⟨hname, hwhole⟩ htens
    · exact absurd ⟨hname.2, hwhole⟩ hscope

lemma pairwise_selectTable {schema : TableSchema}
    (hrows : (db.rows spec.name).Pairwise fun row other => schema.clash row other = false)
    (hevs : (db.rows "platform_events").Pairwise
      fun event other => platformEventsTable.clash event other = false) :
    (selectTable spec wholeDb tenantId db).Pairwise
      fun row other => schema.clash row other = false := by
  have horder : ∀ rows : List SqlRow,
      (rows.Pairwise fun row other => schema.clash row other = false) →
      (orderBy engine spec.orderBy rows).Pairwise
        fun row other => schema.clash row other = false := fun rows h =>
    h.perm (orderBy_perm spec.orderBy rows).symm TableSchema.clash_symm
  unfold selectTable
  split_ifs with htens hdlvs hscope
  · exact horder _ (hrows.filter _)
  · have hjoin : ((joinDeliveries db tenantId).map Prod.fst).Pairwise
        fun row other => schema.clash row other = false := by
      rw [map_fst_joinDeliveries hevs]
      rw [hdlvs.1] at hrows
      exact hrows.filter _
    exact hjoin.perm ((perm_insertionSort _ _).symm.map Prod.fst) TableSchema.clash_symm
  · exact horder _ (hrows.filter _)
  · exact horder _ hrows

/-- The events of a tenant, as a dump selects them. -/
def platformEventsSpec : TableSpec := ⟨"platform_events", true, false, ["tenant_id", "id"]⟩

/-- **Selecting the selected rows selects them all, in the same order.** -/
lemma selectTable_selected (hrows : db'.rows spec.name = selectTable spec wholeDb tenantId db)
    (hevs : db'.rows "platform_events" = selectTable platformEventsSpec wholeDb tenantId db)
    (hdist : (db'.rows "platform_events").Pairwise
      fun event other => platformEventsTable.clash event other = false) :
    selectTable spec wholeDb tenantId db' = selectTable spec wholeDb tenantId db := by
  have hfilt : ∀ rows : List SqlRow,
      (orderBy engine spec.orderBy (rows.filter (ofTenant tenantId))).filter (ofTenant tenantId) =
        orderBy engine spec.orderBy (rows.filter (ofTenant tenantId)) := fun rows =>
    filter_eq_self.mpr fun row hrow => (mem_filter.mp (mem_orderBy.mp hrow)).2
  unfold selectTable at hrows ⊢
  split_ifs at hrows ⊢ with htens hdlvs hscope
  · rw [hrows, hfilt, orderBy_orderBy]
  · have hsel : selectTable platformEventsSpec wholeDb tenantId db =
        orderBy engine ["tenant_id", "id"]
          ((db.rows "platform_events").filter (ofTenant tenantId)) := by
      simp [selectTable, platformEventsSpec, hdlvs.2]
    rw [hsel] at hevs
    rw [hdlvs.1] at hrows
    exact tenantDeliveries_selected hdist hevs hrows
  · rw [hrows, hfilt, orderBy_orderBy]
  · rw [hrows, orderBy_orderBy]

end Selected

end Frick.Store

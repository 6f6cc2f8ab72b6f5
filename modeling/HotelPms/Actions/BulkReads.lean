import HotelPms.Actions.Financials

/-!
# Reads in bulk are reads one by one

For each reservation of the list, the rows read for the whole list are the
rows its summary reads: the latest channel link, the adjustments that may have
an action and the financial facts.
-/

namespace HotelPms.Actions

open Hotel Payments Checked GroupSum KeySort

namespace ActionDatabase

variable {db : ActionDatabase} {hotelId : Int} {ids : List Int} {id : Int}

theorem mem_otaLinksOf {link : OtaReservationLink} : link ∈ db.otaLinksOf hotelId id ↔
      link ∈ ofHotel hotelId db.otaLinks ∧ link.reservationId = some id := by
  unfold otaLinksOf
  rw [mem_sortByKey, mem_sortByKey, List.mem_filter, decide_eq_true_eq]

theorem mem_latestOtaLinksByReservation {link : OtaReservationLink} (member : id ∈ ids) :
    (id, link) ∈ db.latestOtaLinksByReservation hotelId ids ↔
      (db.otaLinksOf hotelId id).head? = some link := by
  unfold latestOtaLinksByReservation
  rw [List.mem_filterMap]
  constructor
  · rintro ⟨row, -, listed⟩
    split at listed
    · cases listed
    · split_ifs at listed with latest
      cases listed
      exact latest.2
  · intro latest
    have linked := mem_otaLinksOf.mp (List.mem_of_mem_head? latest)
    refine ⟨link, linked.1, ?_⟩
    rw [linked.2]
    exact if_pos ⟨member, latest⟩

theorem lookup_latestOtaLinksByReservation (member : id ∈ ids) :
    (db.latestOtaLinksByReservation hotelId ids).lookup id = (db.otaLinksOf hotelId id).head? := by
  cases latest : (db.otaLinksOf hotelId id).head? with
  | none =>
    rw [List.lookup_eq_none_iff]
    rintro ⟨other, link⟩ listed
    rw [bne_iff_ne]
    rintro rfl
    rw [mem_latestOtaLinksByReservation member, latest] at listed
    cases listed
  | some link =>
    refine lookup_eq_some_of_entries ((mem_latestOtaLinksByReservation member).mpr latest) ?_
    intro other listed
    rw [mem_latestOtaLinksByReservation member, latest] at listed
    exact (Option.some.inj listed).symm

theorem addAdjustment_apply (grouped : Int -> List ReservationAdjustment) (own : Int)
    (adjustment : ReservationAdjustment) :
    addAdjustment grouped own adjustment id =
      grouped id ++ if own = id then [adjustment] else [] := by
  unfold addAdjustment
  by_cases same : own = id
  · rw [same, Function.update_self, if_pos rfl]
  · rw [Function.update_of_ne (Ne.symm same), if_neg same, List.append_nil]

theorem groupAdjustment_apply (member : id ∈ ids) (grouped : Int -> List ReservationAdjustment)
    (adjustment : ReservationAdjustment) :
    groupAdjustment ids grouped adjustment id =
      grouped id ++ if RelatedTo adjustment id then [adjustment] else [] := by
  have own : (if adjustment.reservationId ∈ ids then
        addAdjustment grouped adjustment.reservationId adjustment
      else grouped) id = grouped id ++
          if adjustment.reservationId = id then [adjustment] else [] := by
    by_cases same : adjustment.reservationId = id
    · rw [if_pos (same ▸ member), addAdjustment_apply]
    · rw [if_neg same, List.append_nil]
      split_ifs
      · rw [addAdjustment_apply, if_neg same, List.append_nil]
      · rfl
  unfold groupAdjustment
  cases resulting : adjustment.resultingReservationId with
  | none =>
    have isRelated : RelatedTo adjustment id ↔ adjustment.reservationId = id := by
      unfold RelatedTo
      simp [resulting]
    simp only [own, isRelated]
  | some other =>
    have isRelated : RelatedTo adjustment id ↔ adjustment.reservationId = id ∨ other = id := by
      unfold RelatedTo
      rw [resulting, Option.some.injEq]
    simp only [isRelated]
    by_cases added : other ∈ ids ∧ other ≠ adjustment.reservationId
    · rw [if_pos added, addAdjustment_apply, own, List.append_assoc]
      -- the two reservations differ, so it is added once
      by_cases same : adjustment.reservationId = id
      · rw [if_pos same, if_neg fun again => added.2 (again.trans same.symm),
          if_pos (.inl same), List.append_nil]
      · simp only [same, if_false, false_or, List.nil_append]
    · rw [if_neg added, own]
      congr 1
      refine if_congr ⟨.inl, ?_⟩ rfl rfl
      rintro (same | same)
      · exact same
      · by_contra differs
        exact added ⟨same ▸ member, fun again => differs (again.symm.trans same)⟩

theorem foldl_groupAdjustment_apply (member : id ∈ ids) (rows : List ReservationAdjustment)
    (grouped : Int -> List ReservationAdjustment) :
    rows.foldl (groupAdjustment ids) grouped id =
      grouped id ++ rows.filter fun row => decide (RelatedTo row id) := by
  induction rows generalizing grouped with
  | nil => rw [List.foldl_nil, List.filter_nil, List.append_nil]
  | cons row rows ih =>
    rw [List.foldl_cons, ih, groupAdjustment_apply member, List.append_assoc, List.filter_cons]
    by_cases isRelated : RelatedTo row id
    · rw [if_pos isRelated, if_pos (decide_eq_true isRelated)]
      rfl
    · rw [if_neg isRelated, if_neg (by simpa using isRelated)]
      rfl

theorem newestFirst_filter (rows : List ReservationAdjustment)
    (keep : ReservationAdjustment -> Bool) :
    newestFirst (rows.filter keep) = (newestFirst rows).filter keep := by
  unfold newestFirst
  rw [sortByKey_filter, sortByKey_filter]

theorem mem_relatedAdjustments {adjustment : ReservationAdjustment} :
    adjustment ∈ db.relatedAdjustments hotelId id ↔
      adjustment ∈ ofHotel hotelId db.reservationAdjustments ∧ RelatedTo adjustment id := by
  unfold relatedAdjustments newestFirst
  rw [mem_sortByKey, mem_sortByKey, List.mem_filter, decide_eq_true_eq]

theorem relatedAdjustmentsByReservation_apply (member : id ∈ ids) :
    db.relatedAdjustmentsByReservation hotelId ids id =
      (db.relatedAdjustments hotelId id).filter fun row =>
        decide (MayAct row) := by
  unfold relatedAdjustmentsByReservation candidateAdjustments relatedAdjustments
  rw [foldl_groupAdjustment_apply member, List.nil_append, ← newestFirst_filter,
    ← newestFirst_filter, List.filter_filter, List.filter_filter]
  congr 1
  refine List.filter_congr fun row _ => ?_
  rw [← Bool.decide_and, ← Bool.decide_and, decide_eq_decide]
  constructor
  · rintro ⟨isRelated, -, acts⟩
    exact ⟨acts, isRelated⟩
  · rintro ⟨acts, isRelated⟩
    refine ⟨isRelated, ?_, acts⟩
    rcases isRelated with same | same
    · exact .inl (same ▸ member)
    · exact .inr ⟨id, same, member⟩

theorem adjustmentCandidates_eq_nil (formatDate : Int -> String) (reservation : ActionReservation)
    (guestName : String) (adjustment : ReservationAdjustment) :
    adjustmentCandidates formatDate reservation guestName adjustment = [] ↔ ¬MayAct adjustment := by
  unfold adjustmentCandidates MayAct
  split_ifs with pending awaits awaits <;> simp [pending, awaits]

theorem buildPendingActions_mayAct (formatDate : Int -> String) (reservation : ActionReservation)
    (guest : Option Guest) (otaLink : Option OtaReservationLink)
    (adjustments : List ReservationAdjustment)
    (financial : ActionFinancials) (today : Int) :
    buildPendingActions formatDate reservation guest otaLink
        (adjustments.filter (MayAct ·)) financial today =
      buildPendingActions formatDate reservation guest otaLink adjustments financial today := by
  have acting : ∀ guestName, (adjustments.filter (MayAct ·)).flatMap
          (adjustmentCandidates formatDate reservation guestName) =
        adjustments.flatMap (adjustmentCandidates formatDate reservation guestName) := by
    intro guestName
    refine flatMap_filter_of_nil fun row _ quiet => ?_
    exact (adjustmentCandidates_eq_nil _ _ _ row).mpr (of_decide_eq_false quiet)
  unfold buildPendingActions actionCandidates
  simp only [acting]

/-- What the rules find for a reservation from its own rows. -/
def ownActions (db : ActionDatabase) (hotelId : Int) (formatDate : Int -> String) (today : Int)
    (reservation : ActionReservation) : List PendingAction :=
  buildPendingActions formatDate reservation (db.guestOf reservation)
    (db.otaLinksOf hotelId reservation.id).head?
    (db.relatedAdjustments hotelId reservation.id)
    (db.actionFinancials hotelId reservation) today

variable {formatDate : Int -> String} {today : Int} {reservation : ActionReservation}

theorem getReservationOperationsSummary_eq_ok
    (member : reservation ∈ db.actionReservations hotelId) :
    ∃ summary, db.getReservationOperationsSummary hotelId formatDate today
        reservation.id = .ok summary ∧
      summary.pendingActions = db.ownActions hotelId formatDate today reservation := by
  obtain ⟨financialSummary, summarized, facts⟩ := summaryFinancials_eq member
  have found := Table.find_of_mem actionReservations_distinct member
  unfold Table.find at found
  unfold getReservationOperationsSummary
  rw [found]
  simp only [summarized]
  refine ⟨_, rfl, ?_⟩
  unfold ownActions
  rw [← facts]

/-- The rows of the candidates are theirs, each once. -/
theorem loadPendingActionReservations_rows (member : reservation ∈ db.actionReservations hotelId)
    (listed : reservation.id ∈ ids) :
    reservation ∈ db.loadPendingActionReservations hotelId ids ∧
      (∀ row ∈ db.loadPendingActionReservations hotelId ids, row.hotelId = hotelId) ∧
      ((db.loadPendingActionReservations hotelId ids).map (·.id)).Nodup := by
  refine ⟨List.mem_filter.mpr ⟨member, decide_eq_true listed⟩, ?_, ?_⟩
  · intro row loaded
    exact (mem_actionReservations.mp (List.mem_of_mem_filter loaded)).2.1
  · exact actionReservations_distinct.sublist (List.filter_sublist.map _)

theorem candidateActions_eq_ok {candidates : List ActionReservation}
    (stored : ∀ row ∈ candidates, row ∈ db.actionReservations hotelId) :
    db.candidateActions hotelId today formatDate (candidates.map (·.id)) =
      .ok (candidates.flatMap (db.ownActions hotelId formatDate today)) := by
  refine bind_eq_ok.mpr ⟨candidates.map (db.ownActions hotelId formatDate today), ?_, ?_⟩
  · rw [List.mapM_map]
    refine mapM_eq_ok_map fun row member => ?_
    have listed : row.id ∈ candidates.map (·.id) :=
      List.mem_map_of_mem member
    obtain ⟨loaded, ofTheHotel, distinct⟩ :=
      loadPendingActionReservations_rows (stored row member) listed
    have found := Table.find_of_mem distinct loaded
    unfold Table.find at found
    simp only [Function.comp_apply, found, lookup_pendingActionFinancialInputs ofTheHotel distinct
      loaded, lookup_latestOtaLinksByReservation listed, relatedAdjustmentsByReservation_apply
      listed, buildPendingActions_mayAct]
    rfl
  · rfl

end ActionDatabase

end HotelPms.Actions

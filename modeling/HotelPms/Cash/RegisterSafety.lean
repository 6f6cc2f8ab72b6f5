import HotelPms.Cash.Register
import HotelPms.Foundation.Transition

/-!
# Sessions, reports and handoffs of the register

Whatever calls a hotel makes, its register has at most one open session per
currency, every other session has one close report, and the status of the
session follows from the difference of the report.  Movements go to open
sessions only, and the opening float a report declares for its successor is
declared once, out of the cash that was delivered.
-/

namespace HotelPms.Cash

open Checked Table Transition
open Payments (Ledger Transaction normalizeCurrency)

/-! ## What a call changes -/

def CashCloseReport.sessionStatus (report : CashCloseReport) :
    CashSessionStatus :=
  if report.difference = 0 ∨ report.differenceApproved = true then .closed
  else .pendingApproval

theorem CashCloseReport.sessionStatus_ne_opened (report : CashCloseReport) :
    report.sessionStatus ≠ .opened := by
  unfold CashCloseReport.sessionStatus
  split_ifs
  · decide
  · decide

/-- A session that is opened while none of its currency is. -/
structure Opening (register : Register) (session : CashSession) : Prop where
  isNext : session.id = register.nextSessionId
  isOpen : session.status = .opened
  alone : register.hasOpen session.currencyCode = false

/-- A close of an open session, with its report, its successor and the handoff
between them. -/
structure Closing
    (register : Register)
    (session closed successor : CashSession)
    (report : CashCloseReport)
    (handoff : CashCustodyHandoff) : Prop where
  member : session ∈ register.sessions
  isOpen : session.status = .opened
  unreported : ∀ other ∈ register.reports, other.sessionId ≠ session.id
  closedId : closed.id = session.id
  closedStatus : closed.status = report.sessionStatus
  reportId : report.id = register.nextReportId
  reportSession : report.sessionId = session.id
  difference : report.difference = report.declaredBalance - report.expectedBalance
  undeclared : report.successorFloatDeclaredAmount = none
  successorIsNext : successor.id = register.nextSessionId
  successorIsOpen : successor.status = .opened
  alone : ({ register with
      sessions := replace CashSession.id closed register.sessions } :
        Register).hasOpen successor.currencyCode = false
  handoffReport : handoff.closeReportId = register.nextReportId
  handoffPending : handoff.status = .pending

/-- A first confirmation of a handoff. -/
structure Confirming
    (register : Register)
    (session opened : CashSession)
    (report declared : CashCloseReport)
    (handoff received : CashCustodyHandoff)
    (amount : Int) : Prop where
  sessionIn : session ∈ register.sessions
  openedId : opened.id = session.id
  openedStatus : opened.status = session.status
  openedCurrency : opened.currencyCode = session.currencyCode
  reportIn : report ∈ register.reports
  declaredReport : declared = { report with
      successorFloatDeclaredAmount := some amount
      successorFloatDeclaredByUserId := declared.successorFloatDeclaredByUserId
      successorFloatDeclaredAt := declared.successorFloatDeclaredAt
      businessSuccessorFloatDeclaredAt :=
        declared.businessSuccessorFloatDeclaredAt }
  handoffIn : handoff ∈ register.handoffs
  handoffReport : handoff.closeReportId = report.id
  handoffPending : handoff.status = .pending
  receivedReport : received.closeReportId = handoff.closeReportId
  receivedAmount : received.deliveredAmount = handoff.deliveredAmount
  receivedStatus : received.status = .confirmed
  nonneg : 0 ≤ amount
  delivered : amount ≤ handoff.deliveredAmount

/-- A first approval of a difference. -/
structure Approving
    (register : Register)
    (session : CashSession)
    (report approved : CashCloseReport) : Prop where
  reportIn : report ∈ register.reports
  sessionIn : session ∈ register.sessions
  sessionId : session.id = report.sessionId
  approvedReport : approved =
    { report with differenceApproved := true, approvedByUserId := approved.approvedByUserId }

inductive RegisterChange (register : Register) : Register -> Prop
  | unchanged : RegisterChange register register
  | opened (session : CashSession) (opening : Opening register session) :
      RegisterChange register { register with
          sessions := register.sessions ++ [session]
          nextSessionId := register.nextSessionId + 1 }
  | moved (session : CashSession) (movement : CashMovement)
      (member : session ∈ register.sessions)
      (isOpen : session.status = .opened)
      (owner : movement.sessionId = session.id) :
      RegisterChange register { register with
          movements := register.movements ++ [movement]
          nextMovementId := register.nextMovementId + 1 }
  | closed (session : CashSession) {closed successor : CashSession}
      {report : CashCloseReport} {handoff : CashCustodyHandoff}
      (closing : Closing register session closed successor report handoff) :
      RegisterChange register { register with
          sessions := replace CashSession.id closed register.sessions ++ [successor]
          reports := register.reports ++ [report]
          handoffs := register.handoffs ++ [handoff]
          nextSessionId := register.nextSessionId + 1
          nextReportId := register.nextReportId + 1
          nextHandoffId := register.nextHandoffId + 1 }
  | confirmed (session : CashSession) (report : CashCloseReport)
      (handoff : CashCustodyHandoff) {opened : CashSession}
      {declared : CashCloseReport} {received : CashCustodyHandoff}
      {amount : Int}
      (confirming : Confirming register session opened report declared handoff received amount) :
      RegisterChange register { register with
          sessions := replace CashSession.id opened register.sessions
          reports := replace CashCloseReport.id declared register.reports
          handoffs := replace CashCustodyHandoff.closeReportId received register.handoffs }
  | approved {session : CashSession} {report approved : CashCloseReport}
      (approving : Approving register session report approved) :
      RegisterChange register { register with
          sessions := replace CashSession.id { session with status := .closed } register.sessions
          reports := replace CashCloseReport.id approved register.reports }

section

variable {env : CashEnvironment} {register after : Register}

variable {session : CashSession} {report result : CashCloseReport}

theorem openSession_change {openedByUserId : Option Int} {openingBalance : ℚ}
    {currencyCode : String} {notes : Option String}
    (opened : openSession env register openedByUserId openingBalance
      currencyCode notes = .ok (after, session)) :
    RegisterChange register after := by
  unfold openSession at opened
  simp only [bind_eq_ok, raiseIf_eq_ok, pure_eq_ok, Prod.mk.injEq] at opened
  obtain ⟨_, alone, _, -, _, -, rfl, -⟩ := opened
  apply RegisterChange.opened
  exact ⟨rfl, rfl, Bool.eq_false_iff.mpr alone⟩

theorem requireOpenSession_eq_ok {sessionId : Int}
    (found : requireOpenSession register sessionId = .ok session) :
    session ∈ register.sessions ∧ session.status = .opened := by
  unfold requireOpenSession at found
  split at found
  · next stored isStored =>
    split_ifs at found with isOpen
    cases found
    exact ⟨(find_eq_some isStored).1, isOpen⟩
  · cases found

theorem addMovement_change {request : MovementRequest} {movement : CashMovement}
    (added : addMovement env register request = .ok (after, movement)) :
    RegisterChange register after := by
  unfold addMovement at added
  simp only [bind_eq_ok, pure_eq_ok, Prod.mk.injEq] at added
  obtain ⟨session, isSession, _, -, _, -, _, -, transaction, -, _, -, rfl, -⟩ := added
  obtain ⟨member, isOpen⟩ := requireOpenSession_eq_ok isSession
  exact .moved session _ member isOpen rfl

theorem closeSession_change {sessionId : Int} {closedByUserId : Option Int} {countedBalance : ℚ}
    {notes : Option String} {approvedByUserId : Option Int}
    (closed : closeSession env register sessionId closedByUserId
      countedBalance notes approvedByUserId = .ok (after, report)) :
    RegisterChange register after := by
  unfold closeSession at closed
  split at closed
  · cases closed
  · next session isSession =>
    simp only [bind_eq_ok, raiseIf_eq_ok, pure_eq_ok, Prod.mk.injEq] at closed
    obtain ⟨_, isOpen, _, unreported, _, -, _, -, _, alone, _, -, rfl, -⟩ := closed
    apply RegisterChange.closed session
    exact
      { member := (find_eq_some isSession).1
        isOpen := not_not.mp isOpen
        unreported := by
          intro other otherIn same
          apply unreported
          rw [List.any_eq_true]
          exact ⟨other, otherIn, decide_eq_true same⟩
        closedId := rfl
        closedStatus := rfl
        reportId := rfl
        reportSession := rfl
        difference := rfl
        undeclared := rfl
        successorIsNext := rfl
        successorIsOpen := rfl
        alone := Bool.eq_false_iff.mpr alone
        handoffReport := rfl
        handoffPending := rfl }

theorem openSuccessor_eq_ok (found : openSuccessor register report = .ok session) :
    session ∈ register.sessions := by
  unfold openSuccessor at found
  split at found
  · cases found
  · next stored isStored =>
    split_ifs at found
    cases found
    obtain ⟨sessionId, -, isStored⟩ := Option.bind_eq_some_iff.mp isStored
    exact (find_eq_some isStored).1

theorem repeatedConfirmation_eq_ok {amount : Int}
    (repeated : repeatedConfirmation register report amount =
      .ok (after, result)) : after = register := by
  unfold repeatedConfirmation at repeated
  split at repeated
  · obtain ⟨_, -, same⟩ := bind_eq_ok.mp repeated
    exact (Prod.mk.inj (pure_eq_ok.mp same)).1.symm
  · obtain ⟨_, -, same⟩ := bind_eq_ok.mp repeated
    exact (Prod.mk.inj (pure_eq_ok.mp same)).1.symm

theorem confirmCashCustody_change {reportId receivedByUserId : Int} {successorFloatAmount : ℚ}
    (confirmed : confirmCashCustody env register reportId receivedByUserId
      successorFloatAmount = .ok (after, result)) :
    RegisterChange register after := by
  unfold confirmCashCustody at confirmed
  split at confirmed
  · next report handoff isReport isHandoff =>
    obtain ⟨_, within, confirmed⟩ := bind_eq_ok.mp confirmed
    rw [raiseIf_eq_ok, not_or, not_lt, not_lt] at within
    split_ifs at confirmed with again
    · rw [repeatedConfirmation_eq_ok confirmed]
      exact .unchanged
    · obtain ⟨session, isSession, result⟩ := bind_eq_ok.mp confirmed
      cases result
      obtain ⟨reportIn, isId⟩ := find_eq_some isReport
      obtain ⟨handoffIn, ofReport⟩ := find_eq_some isHandoff
      apply RegisterChange.confirmed session report handoff
      exact
        { sessionIn := openSuccessor_eq_ok isSession
          openedId := rfl
          openedStatus := rfl
          openedCurrency := rfl
          reportIn := reportIn
          declaredReport := rfl
          handoffIn := handoffIn
          handoffReport := ofReport.trans isId.symm
          handoffPending := by
            cases status : handoff.status with
            | pending => rfl
            | confirmed => exact absurd status again
          receivedReport := rfl
          receivedAmount := rfl
          receivedStatus := rfl
          nonneg := within.1
          delivered := within.2.trans (min_le_right _ _) }
  · cases confirmed

theorem approveCloseDifference_change {reportId : Int} {approvedByUserId : Option Int}
    (approved : approveCloseDifference register reportId approvedByUserId =
      .ok (after, result)) : RegisterChange register after := by
  unfold approveCloseDifference at approved
  split at approved
  · cases approved
  · next report isReport =>
    obtain ⟨_, -, approved⟩ := bind_eq_ok.mp approved
    split_ifs at approved
    · cases approved
      exact .unchanged
    · split at approved
      · cases approved
      · next session isSession =>
        cases approved
        obtain ⟨sessionIn, sessionId⟩ := find_eq_some isSession
        exact .approved
          { reportIn := (find_eq_some isReport).1, sessionIn := sessionIn, sessionId := sessionId
            approvedReport := rfl }

theorem performCall_change {call : RegisterCall}
    (performed : performCall env register call = .ok after) :
    RegisterChange register after := by
  cases call with
  | openSession =>
    obtain ⟨session, opened⟩ := map_fst_eq_ok.mp performed
    exact openSession_change opened
  | addMovement =>
    obtain ⟨movement, added⟩ := map_fst_eq_ok.mp performed
    exact addMovement_change added
  | closeSession =>
    obtain ⟨report, closed⟩ := map_fst_eq_ok.mp performed
    exact closeSession_change closed
  | confirmCashCustody =>
    obtain ⟨report, confirmed⟩ := map_fst_eq_ok.mp performed
    exact confirmCashCustody_change confirmed
  | approveCloseDifference =>
    obtain ⟨report, approved⟩ := map_fst_eq_ok.mp performed
    exact approveCloseDifference_change approved

theorem registerStep_change {event : CashEnvironment × RegisterCall}
    (taken : registerStep register event = some after) :
    RegisterChange register after := by
  unfold registerStep at taken
  split at taken
  · next performed =>
    cases taken
    exact performCall_change performed
  · cases taken
    exact .unchanged

end

/-! ## The invariant -/

/-- A report has one handoff, and declares a float once that is confirmed. -/
structure HandedOver
    (handoffs : List CashCustodyHandoff) (report : CashCloseReport)
    (handoff : CashCustodyHandoff) : Prop where
  member : handoff ∈ handoffs
  owner : handoff.closeReportId = report.id
  undeclared : handoff.status = .pending -> report.successorFloatDeclaredAmount = none
  delivered : ∀ amount, report.successorFloatDeclaredAmount = some amount ->
    0 ≤ amount ∧ amount ≤ handoff.deliveredAmount

/-- Sessions, reports and handoffs belong together. -/
structure RegisterInvariant (register : Register) : Prop where
  sessionIds : Numbered CashSession.id register.nextSessionId register.sessions
  reportIds : Numbered CashCloseReport.id register.nextReportId register.reports
  reportSessions : (register.reports.map CashCloseReport.sessionId).Nodup
  handoffReports : Numbered CashCustodyHandoff.closeReportId register.nextReportId register.handoffs
  oneOpen : ∀ session ∈ register.sessions, ∀ other ∈ register.sessions,
    session.status = .opened -> other.status = .opened ->
      session.currencyCode = other.currencyCode -> session = other
  reported : ∀ session ∈ register.sessions, session.status ≠ .opened ->
    ∃ report ∈ register.reports, report.sessionId = session.id
  session : ∀ report ∈ register.reports, ∃ session ∈ register.sessions,
    session.id = report.sessionId ∧ session.status = report.sessionStatus ∧
      report.difference = report.declaredBalance - report.expectedBalance
  handoff : ∀ report ∈ register.reports, ∃ handoff, HandedOver register.handoffs report handoff

section

variable {register : Register}

theorem hasOpen_eq_false {code : String} :
    register.hasOpen code = false ↔ ∀ session ∈ register.sessions, session.status = .opened ->
        session.currencyCode ≠ code := by
  unfold Register.hasOpen
  rw [List.any_eq_false]
  simp only [decide_eq_true_eq, not_and, ne_eq]

theorem RegisterInvariant.initial : RegisterInvariant {} where
  sessionIds := .nil _ _
  reportIds := .nil _ _
  reportSessions := List.nodup_nil
  handoffReports := .nil _ _
  oneOpen := by simp
  reported := by simp
  session := by simp
  handoff := by simp

variable {session : CashSession}

theorem oneOpen_append {sessions : List CashSession}
    (oneOpen : ∀ first ∈ sessions, ∀ second ∈ sessions,
      first.status = .opened -> second.status = .opened ->
        first.currencyCode = second.currencyCode -> first = second)
    (alone : ∀ other ∈ sessions, other.status = .opened ->
      other.currencyCode ≠ session.currencyCode) :
    ∀ first ∈ sessions ++ [session], ∀ second ∈ sessions ++ [session],
      first.status = .opened -> second.status = .opened ->
        first.currencyCode = second.currencyCode -> first = second := by
  intro first firstIn second secondIn firstOpen secondOpen same
  rcases List.mem_added.mp firstIn with firstOld | rfl
  · rcases List.mem_added.mp secondIn with secondOld | rfl
    · exact oneOpen first firstOld second secondOld firstOpen secondOpen same
    · exact absurd same (alone first firstOld firstOpen)
  · rcases List.mem_added.mp secondIn with secondOld | secondNew
    · exact absurd same.symm (alone second secondOld secondOpen)
    · exact secondNew.symm

section

variable (invariant : RegisterInvariant register)
include invariant

theorem RegisterInvariant.oneOpen_replace (changed : CashSession)
    (member : session ∈ register.sessions) (sameId : changed.id = session.id)
    (stillOpen : changed.status = .opened -> session.status = .opened ∧
      changed.currencyCode = session.currencyCode) :
    ∀ first ∈ replace CashSession.id changed register.sessions,
      ∀ second ∈ replace CashSession.id changed register.sessions,
        first.status = .opened -> second.status = .opened ->
          first.currencyCode = second.currencyCode -> first = second := by
  have differs {other : CashSession} (otherIn : other ∈ register.sessions)
      (otherId : other.id ≠ changed.id) (otherOpen : other.status = .opened)
      (changedOpen : changed.status = .opened) :
      other.currencyCode ≠ changed.currencyCode := by
    obtain ⟨wasOpen, sameCurrency⟩ := stillOpen changedOpen
    intro same
    have := invariant.oneOpen other otherIn session member otherOpen wasOpen
      (same.trans sameCurrency)
    exact otherId (this ▸ sameId.symm)
  intro first firstIn second secondIn firstOpen secondOpen same
  rcases mem_replace firstIn with rfl | ⟨firstOld, firstId⟩
  · rcases mem_replace secondIn with rfl | ⟨secondOld, secondId⟩
    · rfl
    · exact absurd same.symm (differs secondOld secondId secondOpen firstOpen)
  · rcases mem_replace secondIn with rfl | ⟨secondOld, secondId⟩
    · exact absurd same (differs firstOld firstId firstOpen secondOpen)
    · exact invariant.oneOpen first firstOld second secondOld firstOpen secondOpen same

theorem RegisterInvariant.opened (opening : Opening register session) : RegisterInvariant
      { register with
        sessions := register.sessions ++ [session]
        nextSessionId := register.nextSessionId + 1 } :=
  { invariant with
    sessionIds := invariant.sessionIds.append opening.isNext
    oneOpen := oneOpen_append invariant.oneOpen (hasOpen_eq_false.mp opening.alone)
    reported := by
      intro other member notOpen
      rcases List.mem_added.mp member with old | rfl
      · exact invariant.reported other old notOpen
      · exact absurd opening.isOpen notOpen
    session := by
      intro report member
      obtain ⟨owner, ownerIn, facts⟩ := invariant.session report member
      exact ⟨owner, List.mem_append_left _ ownerIn, facts⟩ }

variable {report : CashCloseReport} {handoff : CashCustodyHandoff}

theorem RegisterInvariant.closed {session closed successor : CashSession}
    (closing : Closing register session closed successor report handoff) :
    RegisterInvariant
      { register with
        sessions := replace CashSession.id closed register.sessions ++ [successor]
        reports := register.reports ++ [report]
        handoffs := register.handoffs ++ [handoff]
        nextSessionId := register.nextSessionId + 1
        nextReportId := register.nextReportId + 1
        nextHandoffId := register.nextHandoffId + 1 } where
  sessionIds := by
    apply Numbered.append _ closing.successorIsNext
    apply invariant.sessionIds.replace
    rw [closing.closedId]
    exact invariant.sessionIds.below session closing.member
  reportIds := invariant.reportIds.append closing.reportId
  reportSessions := by
    rw [List.map_append, List.nodup_append]
    refine ⟨invariant.reportSessions, List.nodup_singleton _, ?_⟩
    intro old oldIn new newIn same
    obtain ⟨other, otherIn, rfl⟩ := List.mem_map.mp oldIn
    rw [List.map_singleton, List.mem_singleton] at newIn
    apply closing.unreported other otherIn
    rw [same, newIn, closing.reportSession]
  handoffReports := invariant.handoffReports.append closing.handoffReport
  oneOpen := by
    apply oneOpen_append _ (hasOpen_eq_false.mp closing.alone)
    apply invariant.oneOpen_replace _ closing.member closing.closedId
    intro stillOpen
    rw [closing.closedStatus] at stillOpen
    exact absurd stillOpen report.sessionStatus_ne_opened
  reported := by
    intro other member notOpen
    rcases List.mem_added.mp member with old | rfl
    · rcases mem_replace old with rfl | ⟨otherIn, -⟩
      · refine ⟨report, by simp, ?_⟩
        rw [closing.reportSession, closing.closedId]
      · obtain ⟨owner, ownerIn, isOwner⟩ := invariant.reported other otherIn notOpen
        exact ⟨owner, List.mem_append_left _ ownerIn, isOwner⟩
    · exact absurd closing.successorIsOpen notOpen
  session := by
    intro other member
    rcases List.mem_added.mp member with old | rfl
    · obtain ⟨owner, ownerIn, isOwner, facts⟩ := invariant.session other old
      refine ⟨owner, List.mem_append_left _ (mem_replace_of_ne ownerIn ?_), isOwner, facts⟩
      rw [isOwner, closing.closedId]
      exact closing.unreported other old
    · have known : closed.id ∈ register.sessions.map CashSession.id := by
        rw [closing.closedId]
        exact List.mem_map_of_mem closing.member
      exact ⟨closed, List.mem_append_left _ (mem_replace_self known),
        closing.closedId.trans closing.reportSession.symm,
        closing.closedStatus, closing.difference⟩
  handoff := by
    intro other member
    rcases List.mem_added.mp member with old | rfl
    · obtain ⟨owner, handedOver⟩ := invariant.handoff other old
      exact ⟨owner, { handedOver with member := List.mem_append_left _ handedOver.member }⟩
    · exact ⟨handoff,
        { member := by simp
          owner := closing.handoffReport.trans closing.reportId.symm
          undeclared := fun _ => closing.undeclared
          delivered := by
            intro amount declared
            rw [closing.undeclared] at declared
            cases declared }⟩

theorem RegisterInvariant.undeclared (reportIn : report ∈ register.reports)
    (handoffIn : handoff ∈ register.handoffs)
    (owner : handoff.closeReportId = report.id)
    (pending : handoff.status = .pending) :
    report.successorFloatDeclaredAmount = none := by
  obtain ⟨known, handedOver⟩ := invariant.handoff report reportIn
  have same : known = handoff :=
    eq_of_key invariant.handoffReports.distinct handedOver.member handoffIn
      (handedOver.owner.trans owner.symm)
  exact handedOver.undeclared (same ▸ pending)

theorem RegisterInvariant.confirmed {session opened : CashSession} {declared : CashCloseReport}
    {received : CashCustodyHandoff} {amount : Int}
    (confirming : Confirming register session opened report declared handoff received amount) :
    RegisterInvariant
      { register with
        sessions := replace CashSession.id opened register.sessions
        reports := replace CashCloseReport.id declared register.reports
        handoffs := replace CashCustodyHandoff.closeReportId received
          register.handoffs } := by
  have declaredId : declared.id = report.id := by
    rw [confirming.declaredReport]
  have declaredSession : declared.sessionId = report.sessionId := by
    rw [confirming.declaredReport]
  have declaredStatus : declared.sessionStatus = report.sessionStatus := by
    rw [confirming.declaredReport]
    rfl
  have receivedOwner : received.closeReportId = report.id :=
    confirming.receivedReport.trans confirming.handoffReport
  have sameReport {other : CashCloseReport}
      (member : other ∈ register.reports) (same : other.id = declared.id) :
      other = report :=
    eq_of_key invariant.reportIds.distinct member confirming.reportIn (same.trans declaredId)
  exact
    { sessionIds := by
        apply invariant.sessionIds.replace
        rw [confirming.openedId]
        exact invariant.sessionIds.below session confirming.sessionIn
      reportIds := by
        apply invariant.reportIds.replace
        rw [declaredId]
        exact invariant.reportIds.below report confirming.reportIn
      reportSessions := by
        rw [map_replace CashCloseReport.sessionId fun other member same =>
          (congrArg _ (sameReport member same)).trans declaredSession.symm]
        exact invariant.reportSessions
      handoffReports := by
        apply invariant.handoffReports.replace
        rw [receivedOwner]
        exact invariant.reportIds.below report confirming.reportIn
      oneOpen := by
        apply invariant.oneOpen_replace _ confirming.sessionIn confirming.openedId
        intro stillOpen
        exact ⟨confirming.openedStatus.symm.trans stillOpen, confirming.openedCurrency⟩
      reported := by
        intro other member notOpen
        have columns : (replace CashCloseReport.id declared
            register.reports).map CashCloseReport.sessionId =
              register.reports.map CashCloseReport.sessionId :=
          map_replace _ fun known knownIn same =>
            (congrArg _ (sameReport knownIn same)).trans declaredSession.symm
        have earlier : ∃ old ∈ register.sessions, old.id = other.id ∧
            old.status = other.status := by
          rcases mem_replace member with rfl | ⟨old, -⟩
          · exact ⟨session, confirming.sessionIn, confirming.openedId.symm,
              confirming.openedStatus.symm⟩
          · exact ⟨other, old, rfl, rfl⟩
        obtain ⟨old, oldIn, sameId, sameStatus⟩ := earlier
        obtain ⟨owner, ownerIn, isOwner⟩ := invariant.reported old oldIn (sameStatus ▸ notOpen)
        rw [← sameId, ← isOwner]
        have known : owner.sessionId ∈ (replace CashCloseReport.id declared
            register.reports).map CashCloseReport.sessionId :=
          columns ▸ List.mem_map_of_mem ownerIn
        exact List.mem_map.mp known
      session := by
        intro other member
        have earlier : ∃ old ∈ register.reports, old.sessionId = other.sessionId ∧
              old.sessionStatus = other.sessionStatus ∧
              (old.difference = old.declaredBalance - old.expectedBalance ->
                other.difference = other.declaredBalance - other.expectedBalance) := by
          rcases mem_replace member with rfl | ⟨old, -⟩
          · refine ⟨report, confirming.reportIn, declaredSession.symm, declaredStatus.symm, ?_⟩
            rw [confirming.declaredReport]
            exact id
          · exact ⟨other, old, rfl, rfl, id⟩
        obtain ⟨old, oldIn, sameSession, sameStatus, difference⟩ := earlier
        obtain ⟨owner, ownerIn, isOwner, isStatus, isDifference⟩ := invariant.session old oldIn
        obtain ⟨kept, keptIn, keptId, isKept⟩ := exists_mem_replace CashSession.id opened ownerIn
        refine ⟨kept, keptIn, keptId.trans (isOwner.trans sameSession), ?_, difference isDifference⟩
        rw [← sameStatus, ← isStatus]
        rcases isKept with rfl | rfl
        · rfl
        · have same : owner = session :=
            eq_of_key invariant.sessionIds.distinct ownerIn
              confirming.sessionIn (keptId.symm.trans confirming.openedId)
          rw [same, confirming.openedStatus]
      handoff := by
        intro other member
        rcases mem_replace member with rfl | ⟨old, differs⟩
        · have known : received.closeReportId ∈
              register.handoffs.map CashCustodyHandoff.closeReportId := by
            rw [confirming.receivedReport]
            exact List.mem_map_of_mem confirming.handoffIn
          exact ⟨received,
            { member := mem_replace_self known
              owner := receivedOwner.trans declaredId.symm
              undeclared := by
                rw [confirming.receivedStatus]
                rintro ⟨⟩
              delivered := by
                intro declaredAmount isAmount
                rw [confirming.declaredReport] at isAmount
                rw [← Option.some.inj isAmount, confirming.receivedAmount]
                exact ⟨confirming.nonneg, confirming.delivered⟩ }⟩
        · obtain ⟨known, handedOver⟩ := invariant.handoff other old
          refine ⟨known, { handedOver with member := mem_replace_of_ne handedOver.member ?_ }⟩
          rw [handedOver.owner, receivedOwner, ← declaredId]
          exact differs }

theorem RegisterInvariant.approved {approved : CashCloseReport}
    (approving : Approving register session report approved) :
    RegisterInvariant
      { register with
        sessions := replace CashSession.id
          { session with status := .closed } register.sessions
        reports := replace CashCloseReport.id approved register.reports } := by
  have approvedId : approved.id = report.id := by
    rw [approving.approvedReport]
  have approvedSession : approved.sessionId = report.sessionId := by
    rw [approving.approvedReport]
  have sameReport {other : CashCloseReport}
      (member : other ∈ register.reports) (same : other.id = approved.id) :
      other = report :=
    eq_of_key invariant.reportIds.distinct member approving.reportIn (same.trans approvedId)
  have columns : (replace CashCloseReport.id approved register.reports).map
      CashCloseReport.sessionId = register.reports.map CashCloseReport.sessionId :=
    map_replace _ fun other member same =>
      (congrArg _ (sameReport member same)).trans approvedSession.symm
  have known : session.id ∈ register.sessions.map CashSession.id :=
    List.mem_map_of_mem approving.sessionIn
  exact
    { sessionIds := by
        apply invariant.sessionIds.replace
        exact invariant.sessionIds.below session approving.sessionIn
      reportIds := by
        apply invariant.reportIds.replace
        rw [approvedId]
        exact invariant.reportIds.below report approving.reportIn
      reportSessions := by
        rw [columns]
        exact invariant.reportSessions
      handoffReports := invariant.handoffReports
      oneOpen := by
        apply invariant.oneOpen_replace { session with status := .closed }
          approving.sessionIn rfl
        rintro ⟨⟩
      reported := by
        intro other member notOpen
        have reportedAs : other.id ∈ register.reports.map CashCloseReport.sessionId := by
          rcases mem_replace member with rfl | ⟨old, -⟩
          · exact List.mem_map.mpr ⟨report, approving.reportIn, approving.sessionId.symm⟩
          · exact List.mem_map.mpr (invariant.reported other old notOpen)
        rw [← columns] at reportedAs
        exact List.mem_map.mp reportedAs
      session := by
        intro other member
        rcases mem_replace member with rfl | ⟨old, differs⟩
        · refine ⟨_, mem_replace_self known, approving.sessionId.trans approvedSession.symm, ?_, ?_⟩
          · rw [approving.approvedReport]
            exact (if_pos (.inr rfl)).symm
          · obtain ⟨-, -, -, -, difference⟩ := invariant.session report approving.reportIn
            rw [approving.approvedReport]
            exact difference
        · obtain ⟨owner, ownerIn, isOwner, facts⟩ := invariant.session other old
          refine ⟨owner, mem_replace_of_ne ownerIn ?_, isOwner, facts⟩
          -- two reports of one session would be the same report
          intro same
          apply differs
          rw [approvedId]
          congr 1
          apply eq_of_key invariant.reportSessions old approving.reportIn
          rw [← isOwner, ← approving.sessionId]
          exact same
      handoff := by
        intro other member
        rcases mem_replace member with rfl | ⟨old, -⟩
        · obtain ⟨owner, handedOver⟩ := invariant.handoff report approving.reportIn
          refine ⟨owner,
            { member := handedOver.member, owner := handedOver.owner.trans approvedId.symm
              undeclared := ?_, delivered := ?_ }⟩
          · rw [approving.approvedReport]
            exact handedOver.undeclared
          · rw [approving.approvedReport]
            exact handedOver.delivered
        · exact invariant.handoff other old }

theorem RegisterInvariant.change {after : Register}
    (changed : RegisterChange register after) : RegisterInvariant after := by
  cases changed with
  | unchanged => exact invariant
  | opened session opening => exact invariant.opened opening
  | moved => exact { invariant with }
  | closed _ closing => exact invariant.closed closing
  | confirmed _ _ _ confirming => exact invariant.confirmed confirming
  | approved approving => exact invariant.approved approving

end

/-- At most one open session per currency; one report for each other session,
which its difference and approval close; and floats within what was
delivered. -/
structure SessionsConsistent (register : Register) : Prop where
  oneOpen : ∀ session ∈ register.sessions, ∀ other ∈ register.sessions,
    session.status = .opened -> other.status = .opened ->
      session.currencyCode = other.currencyCode -> session = other
  reportedOnce : ∀ session ∈ register.sessions, session.status ≠ .opened -> ∃ report,
      (register.reports.filter (·.sessionId = session.id)) = [report] ∧ report.difference =
          report.declaredBalance - report.expectedBalance ∧
        (session.status = .closed ↔ report.difference = 0 ∨ report.differenceApproved = true)
  float : ∀ report ∈ register.reports, ∀ amount,
    report.successorFloatDeclaredAmount = some amount ->
      ∃ handoff ∈ register.handoffs, handoff.closeReportId = report.id ∧
        0 ≤ amount ∧ amount ≤ handoff.deliveredAmount

theorem RegisterInvariant.consistent (invariant : RegisterInvariant register) :
    SessionsConsistent register where
  oneOpen := invariant.oneOpen
  reportedOnce := by
    intro session member notOpen
    obtain ⟨report, reportIn, ofSession⟩ := invariant.reported session member notOpen
    obtain ⟨owner, ownerIn, isOwner, isStatus, difference⟩ := invariant.session report reportIn
    have same : owner = session :=
      eq_of_key invariant.sessionIds.distinct ownerIn member (isOwner.trans ofSession)
    refine ⟨report, ?_, difference, ?_⟩
    · rw [← ofSession]
      exact filter_key invariant.reportSessions reportIn
    · rw [← same, isStatus]
      unfold CashCloseReport.sessionStatus
      split_ifs with settled
      · simp [settled]
      · simp [settled]
  float := by
    intro report member amount declared
    obtain ⟨handoff, handedOver⟩ := invariant.handoff report member
    exact ⟨handoff, handedOver.member, handedOver.owner, handedOver.delivered amount declared⟩

theorem RegisterChange.movements {after : Register} (changed : RegisterChange register after) :
    ∀ movement ∈ after.movements, movement ∈ register.movements ∨
      ∃ session ∈ register.sessions, session.id = movement.sessionId ∧
        session.status = .opened := by
  intro movement member
  cases changed with
  | moved session added sessionIn isOpen owner =>
    rcases List.mem_added.mp member with old | rfl
    · exact .inl old
    · exact .inr ⟨session, sessionIn, owner.symm, isOpen⟩
  | _ => exact .inl member

theorem RegisterInvariant.floats {after : Register} (invariant : RegisterInvariant register)
    (changed : RegisterChange register after) :
    ∀ report ∈ register.reports, ∀ amount, report.successorFloatDeclaredAmount = some amount ->
        ∃ later ∈ after.reports, later.id = report.id ∧
          later.successorFloatDeclaredAmount = some amount := by
  intro report member amount declared
  cases changed with
  | closed =>
    exact ⟨report, List.mem_append_left _ member, rfl, declared⟩
  | confirmed _ _ _ confirming =>
    refine ⟨report, mem_replace_of_ne member ?_, rfl, declared⟩
    intro same
    rw [confirming.declaredReport] at same
    have sameReport := eq_of_key invariant.reportIds.distinct member confirming.reportIn same
    rw [sameReport, invariant.undeclared confirming.reportIn confirming.handoffIn
      confirming.handoffReport confirming.handoffPending] at declared
    cases declared
  | approved approving =>
    obtain ⟨kept, keptIn, sameId, isKept⟩ := exists_mem_replace CashCloseReport.id _ member
    refine ⟨kept, keptIn, sameId, ?_⟩
    rcases isKept with same | same
    · rw [same]
      exact declared
    · rw [same, approving.approvedReport] at sameId
      have sameReport := eq_of_key invariant.reportIds.distinct member
        approving.reportIn sameId.symm
      rw [same, approving.approvedReport, ← sameReport]
      exact declared
  | _ => exact ⟨report, member, rfl, declared⟩

/-- Along every sequence of calls from an empty register, the sessions, their
reports and the floats are consistent, each movement is added to an open
session, and a declared float stays as it is. -/
theorem register_run_consistent {events : List (CashEnvironment × RegisterCall)}
    {event : CashEnvironment × RegisterCall} {before after : Register}
    (ran : run registerStep {} events = some before)
    (taken : registerStep before event = some after) :
    SessionsConsistent before ∧ SessionsConsistent after ∧
      (∀ movement ∈ after.movements, movement ∈ before.movements ∨
        ∃ session ∈ before.sessions, session.id = movement.sessionId ∧ session.status = .opened) ∧
      (∀ report ∈ before.reports, ∀ amount, report.successorFloatDeclaredAmount = some amount ->
          ∃ later ∈ after.reports, later.id = report.id ∧
            later.successorFloatDeclaredAmount = some amount) := by
  have reached : Reaches registerStep (fun _ _ => True) {} before :=
    reaches_of_run (guarded_of_forall (fun _ _ => trivial) _ _) ran
  have invariant : RegisterInvariant before :=
    reached.invariant .initial fun kept _ step => kept.change (registerStep_change step)
  have changed := registerStep_change taken
  exact ⟨invariant.consistent, (invariant.change changed).consistent,
    changed.movements, invariant.floats changed⟩

end

/-- A hotel without transactions or pending expenses. -/
def quietEnvironment : CashEnvironment where
  now := 0
  businessNow := 0
  ledger := .empty
  pendingExpense := fun _ => false

/-- A shift in pesos with 100.00 of income, closed with 90.00 and confirmed
with 50.00 for the next one. -/
def shortShift : List (CashEnvironment × RegisterCall) :=
  [(quietEnvironment, .openSession (some 1) 0 " ars" none), (quietEnvironment, .addMovement
      { sessionId := 1, movementType := .income, amount := 100 }),
    (quietEnvironment, .closeSession 1 (some 1) 90 none none),
    (quietEnvironment, .confirmCashCustody 1 2 50)]

/-- The shift waits for the approval of its difference. -/
theorem register_run_consistent_shortShift :
    ∃ before after, run registerStep {} shortShift = some before ∧
        registerStep before (quietEnvironment, .approveCloseDifference 1 none) = some after ∧
        SessionsConsistent before ∧ SessionsConsistent after ∧
        before.sessions.map CashSession.status = [.pendingApproval, .opened] ∧
        after.sessions.map CashSession.status = [.closed, .opened] := by
  have outcome : (run registerStep {} shortShift).map
          (fun before => (before.sessions.map CashSession.status, (registerStep before
              (quietEnvironment, .approveCloseDifference 1 none)).map
                (·.sessions.map CashSession.status))) =
        some ([.pendingApproval, .opened], some [.closed, .opened]) := by
    decide +kernel
  obtain ⟨before, ran, statuses⟩ := Option.map_eq_some_iff.mp outcome
  obtain ⟨pending, approved⟩ := Prod.mk.inj statuses
  obtain ⟨after, taken, closed⟩ := Option.map_eq_some_iff.mp approved
  obtain ⟨consistent, consistentAfter, -⟩ := register_run_consistent ran taken
  exact ⟨before, after, ran, taken, consistent, consistentAfter, pending, closed⟩

end HotelPms.Cash

import HotelPms.Access.TemporaryGrants

/-!
# Single use of temporary grants

Each update of a grant leads it further: from pending to approved or denied,
and from approved to used, expired or revoked.  The committed updates of a
grant form one such path, since the write of a loaded object repeats what its
own transaction has just written under the lock of the row.
-/

namespace HotelPms.Access

open Checked KeySort Transition RowStore

/-- Statuses that are never left. -/
def GrantStatus.Final (status : GrantStatus) : Prop :=
  status ≠ .pending ∧ status ≠ .approved

def GrantEffect.IsApproval (effect : GrantEffect) : Prop :=
  ∃ approver tokenHash now, effect = .approve approver tokenHash now

/-- A denial, a revocation or an expiry. -/
def GrantEffect.IsClosing (effect : GrantEffect) : Prop :=
  (∃ approver, effect = .deny approver) ∨
    (∃ actor, effect = .revoke actor) ∨ ∃ current, effect = .expire current

def GrantEffect.IsUse (effect : GrantEffect) : Prop :=
  ∃ requester resourceId now, effect = .use requester resourceId now

variable {row result : TemporaryActionGrant} {effect : GrantEffect} {effects : List GrantEffect}

theorem applyEffect_eq_some (applied : applyEffect row effect = some result) :
    effect.Accepts row ∧ effect.assign result = result ∧
      result.status = (effect.assign row).status := by
  unfold applyEffect at applied
  split_ifs at applied with accepts
  refine ⟨accepts, ?_⟩
  cases effect <;> cases applied <;> exact ⟨rfl, rfl⟩

theorem applyEffect_final (final : row.status.Final) : applyEffect row effect = none := by
  unfold applyEffect
  rw [if_neg]
  intro accepts
  cases effect with
  | approve => exact final.1 accepts.2
  | deny => exact final.1 accepts.2
  | revoke => exact final.2 accepts.2
  | expire => exact final.2 accepts.1
  | use => exact final.2 accepts.2.2.2.2.2.1

/-- Approval leads out of the pending status, and no update leads back. -/
theorem status_ne_pending (applied : applyEffect row effect = some result) :
    result.status ≠ .pending := by
  rw [(applyEffect_eq_some applied).2.2]
  cases effect <;> simp [GrantEffect.assign]

/-- Every update but an approval ends the path of a grant. -/
theorem final_of_not_approval (applied : applyEffect row effect = some result)
    (other : ¬effect.IsApproval) : result.status.Final := by
  unfold GrantStatus.Final
  rw [(applyEffect_eq_some applied).2.2]
  cases effect with
  | approve approver tokenHash now => exact absurd ⟨_, _, _, rfl⟩ other
  | _ => simp [GrantEffect.assign]

theorem not_isApproval_of_isClosing (closing : effect.IsClosing) : ¬effect.IsApproval := by
  rintro ⟨_, _, _, rfl⟩
  rcases closing with ⟨_, same⟩ | ⟨_, same⟩ | ⟨_, same⟩ <;> cases same

theorem not_isApproval_of_isUse (use : effect.IsUse) : ¬effect.IsApproval := by
  obtain ⟨_, _, _, rfl⟩ := use
  rintro ⟨_, _, _, same⟩
  cases same

/-- The first update of a path, and the path after it. -/
theorem run_cons_eq_some (ran : run applyEffect row (effect :: effects) = some result) :
    ∃ middle, applyEffect row effect = some middle ∧
      run applyEffect middle effects = some result := by
  exact Option.bind_eq_some_iff.mp ran

theorem run_final (final : row.status.Final)
    (ran : run applyEffect row effects = some result) : effects = [] := by
  cases effects with
  | nil => rfl
  | cons effect effects =>
    obtain ⟨middle, applied, -⟩ := run_cons_eq_some ran
    rw [applyEffect_final final] at applied
    cases applied

theorem run_not_pending (notPending : row.status ≠ .pending)
    (ran : run applyEffect row effects = some result) :
    ∀ effect ∈ effects, ¬effect.IsApproval := by
  induction effects generalizing row with
  | nil => exact fun _ member => absurd member List.not_mem_nil
  | cons first effects ih =>
    obtain ⟨middle, applied, rest⟩ := run_cons_eq_some ran
    intro effect member
    rcases List.mem_cons.mp member with rfl | later
    · rintro ⟨approver, tokenHash, now, rfl⟩
      exact notPending (applyEffect_eq_some applied).1.2
    · exact ih (status_ne_pending applied) rest effect later

/-- A grant is approved at most once. -/
theorem run_approvals (ran : run applyEffect row effects = some result) :
    effects.Pairwise fun earlier later =>
      ¬(earlier.IsApproval ∧ later.IsApproval) := by
  induction effects generalizing row with
  | nil => exact .nil
  | cons first effects ih =>
    obtain ⟨middle, applied, rest⟩ := run_cons_eq_some ran
    rw [List.pairwise_cons]
    refine ⟨fun later member both => ?_, ih rest⟩
    exact run_not_pending (status_ne_pending applied) rest later member both.2

theorem run_last (ran : run applyEffect row effects = some result) :
    effects.Pairwise fun earlier _ => earlier.IsApproval := by
  induction effects generalizing row with
  | nil => exact .nil
  | cons first effects ih =>
    obtain ⟨middle, applied, rest⟩ := run_cons_eq_some ran
    rw [List.pairwise_cons]
    refine ⟨fun later member => ?_, ih rest⟩
    by_contra other
    rw [run_final (final_of_not_approval applied other) rest] at member
    cases member

theorem applyEffect_fields (applied : applyEffect row effect = some result) :
    result.hotelId = row.hotelId ∧ result.requesterUserId = row.requesterUserId ∧
      result.permissionCode = row.permissionCode ∧
      result.resourceType = row.resourceType ∧
      result.resourceId = row.resourceId ∧
      (¬effect.IsApproval -> result.expiresAt = row.expiresAt) := by
  unfold applyEffect at applied
  split_ifs at applied with accepts
  cases effect with
  | approve approver tokenHash now =>
    cases applied
    exact ⟨rfl, rfl, rfl, rfl, rfl, (absurd ⟨_, _, _, rfl⟩ ·)⟩
  | _ => cases applied; exact ⟨rfl, rfl, rfl, rfl, rfl, fun _ => rfl⟩

theorem run_use (ran : run applyEffect row effects = some result)
    {requester : TemporaryGrantActor} {resourceId : String} {now : Int}
    (used : GrantEffect.use requester resourceId now ∈ effects) :
    result.status = .used ∧ result.hotelId = requester.hotelId ∧
      result.requesterUserId = requester.userId ∧
      result.permissionCode = permissionReservationCancel ∧
      result.resourceType = some "reservation" ∧
      result.resourceId = some resourceId ∧
      ∃ expiresAt ∈ result.expiresAt, now < expiresAt := by
  induction effects generalizing row with
  | nil => cases used
  | cons first effects ih =>
    obtain ⟨middle, applied, rest⟩ := run_cons_eq_some ran
    rcases List.mem_cons.mp used with rfl | later
    · have notApproval : ¬(GrantEffect.use requester resourceId now).IsApproval :=
        not_isApproval_of_isUse ⟨_, _, _, rfl⟩
      have final := final_of_not_approval applied notApproval
      rw [run_final final rest] at rest
      cases rest
      obtain ⟨accepts, -, status⟩ := applyEffect_eq_some applied
      obtain ⟨hotel, user, code, type, resource, expiry⟩ := applyEffect_fields applied
      rw [status, hotel, user, code, type, resource, expiry notApproval]
      exact ⟨rfl, accepts.1, accepts.2.1, accepts.2.2.1, accepts.2.2.2.1,
        accepts.2.2.2.2.1, accepts.2.2.2.2.2.2⟩
    · exact ih rest later

/-! ## The calls -/

/-- A use is the one that a request asks for. -/
def UsesFor (request : GrantRequest) (requester : TemporaryGrantActor)
    (resourceId : String) (now : Int) : Prop :=
  ∃ call membership, request = .consume call membership now ∧ call.requester = requester ∧
    canonicalReservationId call.resourceId = some resourceId

/-- A call has used no grant. -/
def NoUse (effects : List (Int × GrantEffect)) : Prop :=
  ∀ made ∈ effects, ¬made.2.IsUse

/-- A call tells that it is allowed exactly when it used a grant that its
request asks for. -/
def Reported (request : GrantRequest) (effects : List (Int × GrantEffect))
    (result : CallResult) : Prop :=
  (result = .consumed true -> ∃ made ∈ effects, made.2.IsUse) ∧ ∀ grantId requester resourceId now,
      (grantId, GrantEffect.use requester resourceId now) ∈ effects ->
        result = .consumed true ∧ UsesFor request requester resourceId now

/-- The loaded object repeats what its transaction has written. -/
def Repeats (pending : Int -> Option TemporaryActionGrant) (grantId : Int)
    (effect : GrantEffect) : Prop :=
  ∃ row, pending grantId = some row ∧ effect.assign row = row

/-- What holds of an open call at each stage. -/
def StageSound (pending : Int -> Option TemporaryActionGrant) (current : GrantSession) : Prop :=
  match current.stage with
  | .comparing _ effect => NoUse current.effects ∧ ¬effect.IsUse
  | .expiring now _ expired =>
    NoUse current.effects ∧ ∀ grantId ∈ expired, Repeats pending grantId (.expire now)
  | .flushingExpired now unflushed _ =>
    NoUse current.effects ∧ ∀ grantId ∈ unflushed, Repeats pending grantId (.expire now)
  | .matching requester _ resourceId now _ =>
    NoUse current.effects ∧ UsesFor current.request requester resourceId now
  | .flushing grantId effect result =>
    Repeats pending grantId effect ∧ Reported current.request current.effects result
  | .finished result => Reported current.request current.effects result

variable {effects : List (Int × GrantEffect)}

theorem Reported.of_noUse {request : GrantRequest} {result : CallResult}
    (noUse : NoUse effects) (notAllowed : result ≠ .consumed true) :
    Reported request effects result :=
  ⟨(absurd · notAllowed), fun _ _ _ _ member => absurd ⟨_, _, _, rfl⟩ (noUse _ member)⟩

theorem NoUse.append {grantId : Int} {effect : GrantEffect} (noUse : NoUse effects)
    (notUse : ¬effect.IsUse) : NoUse (effects ++ [(grantId, effect)]) := by
  intro made member
  rcases List.mem_added.mp member with before | rfl
  · exact noUse made before
  · exact notUse

theorem Reported.of_use {request : GrantRequest} {grantId : Int}
    {requester : TemporaryGrantActor} {resourceId : String} {now : Int}
    (noUse : NoUse effects)
    (usesFor : UsesFor request requester resourceId now) :
    Reported request (effects ++ [(grantId, .use requester resourceId now)]) (.consumed true) := by
  refine ⟨fun _ => ⟨_, List.mem_concat_self,
    _, _, _, rfl⟩, fun id other resource time member => ⟨rfl, ?_⟩⟩
  rcases List.mem_added.mp member with before | last
  · exact absurd ⟨_, _, _, rfl⟩ (noUse _ before)
  · cases last
    exact usesFor

namespace GrantSystem

variable {τ : Type} {system : GrantSystem τ} {session : τ}

/-- Updates a call has made, if it is open. -/
def madeEffects (current : Option GrantSession) : List (Int × GrantEffect) :=
  (current.map GrantSession.effects).getD []

/-- Updates of an open call. -/
def openEffects (system : GrantSystem τ) (session : τ) : List (Int × GrantEffect) :=
  madeEffects (system.sessions session)

/-- Updates of the committed calls. -/
def committedEffects (system : GrantSystem τ) : List (Int × GrantEffect) :=
  system.log.flatMap CommittedCall.effects

/-- What holds in every interleaving. -/
structure Sound (start : Int -> Option TemporaryActionGrant)
    (system : GrantSystem τ) : Prop where
  serial : Serial applyEffect start system.store system.committedEffects system.openEffects
  stages : ∀ session current, system.sessions session = some current ->
    StageSound (system.store.pending session) current
  reports : ∀ call ∈ system.log, Reported call.request call.effects call.result

variable {start : Int -> Option TemporaryActionGrant}

theorem sound_initial (ids : List Int) : Sound start (initial ids start : GrantSystem τ) where
  serial := serial_initial start
  stages := fun _ _ isOpen => by cases isOpen
  reports := fun _ member => absurd member List.not_mem_nil

variable {current : GrantSession}

theorem openEffects_of_open (isOpen : system.sessions session = some current) :
    system.openEffects session = current.effects := by
  unfold openEffects
  rw [isOpen]
  rfl

variable [DecidableEq τ]

/-- The updates of the calls after one of them goes on. -/
theorem openEffects_update (current : Option GrantSession) (changed : GrantSystem τ)
    (sessions : changed.sessions = Function.update system.sessions session current) :
    changed.openEffects = Function.update system.openEffects session (madeEffects current) := by
  funext other
  unfold openEffects
  rw [sessions]
  by_cases same : other = session
  · subst same
    rw [Function.update_self, Function.update_self]
  · rw [Function.update_of_ne same, Function.update_of_ne same]

section

variable (sound : Sound start system)
include sound

/-- A call goes on without a write. -/
theorem Sound.advance {stage : GrantStage} (effects : system.openEffects session = current.effects)
    (stageSound : StageSound (system.store.pending session) { current with stage := stage }) :
    Sound start (system.advance session system.store current stage) := by
  refine ⟨?_, ?_, sound.reports⟩
  · rw [openEffects_update (some { current with stage := stage })
      (system.advance session system.store current stage) rfl]
    show Serial _ _ _ _ (Function.update system.openEffects session current.effects)
    rw [← effects, Function.update_eq_self]
    exact sound.serial
  · intro other open_ isOpen
    by_cases same : other = session
    · subst same
      unfold GrantSystem.advance at isOpen
      simp only [Function.update_self] at isOpen
      cases isOpen
      exact stageSound
    · unfold GrantSystem.advance at isOpen
      simp only [Function.update_of_ne same] at isOpen
      exact sound.stages other open_ isOpen

theorem Sound.record {grantId : Int} {effect : GrantEffect} {stage : GrantStage}
    {row result : TemporaryActionGrant}
    (isOpen : system.sessions session = some current)
    (available : system.store.locks.Available grantId session)
    (isRow : system.store.visible session grantId = some row)
    (applied : applyEffect row effect = some result)
    (stageSound : StageSound (Function.update (system.store.pending session) grantId (some result))
      { current with
        stage := stage
        effects := current.effects ++ [(grantId, effect)] }) :
    Sound start (system.record session
      (system.store.write session grantId result available) current grantId
      effect stage) := by
  refine ⟨?_, ?_, sound.reports⟩
  · rw [openEffects_update (some { current with
        stage := stage
        effects := current.effects ++ [(grantId, effect)] })
      (system.record session (system.store.write session grantId result available) current grantId
        effect stage) rfl]
    show Serial _ _ _ _ (Function.update system.openEffects session
      (current.effects ++ [(grantId, effect)]))
    rw [← openEffects_of_open isOpen]
    exact sound.serial.write available isRow applied
  · intro other open_ isOpenThere
    by_cases same : other = session
    · subst same
      unfold GrantSystem.record at isOpenThere ⊢
      simp only [Function.update_self] at isOpenThere
      cases isOpenThere
      simpa [RowStore.write] using stageSound
    · unfold GrantSystem.record at isOpenThere ⊢
      simp only [Function.update_of_ne same] at isOpenThere
      have stageThere := sound.stages other open_ isOpenThere
      simpa [RowStore.write, Function.update_of_ne same] using stageThere

/-- A call is given up. -/
theorem Sound.rollback : Sound start (system.rollback session) := by
  refine ⟨?_, ?_, sound.reports⟩
  · rw [openEffects_update none (system.rollback session) rfl]
    exact sound.serial.rollback
  · intro other open_ isOpen
    by_cases same : other = session
    · subst same
      unfold GrantSystem.rollback at isOpen
      simp only [Function.update_self] at isOpen
      cases isOpen
    · unfold GrantSystem.rollback at isOpen ⊢
      simp only [Function.update_of_ne same] at isOpen
      have stageThere := sound.stages other open_ isOpen
      simpa [RowStore.rollback, Function.update_of_ne same] using stageThere

theorem Sound.commit {result : CallResult} (isOpen : system.sessions session = some current)
    (reported : Reported current.request current.effects result) :
    Sound start (system.commit session current result) := by
  refine ⟨?_, ?_, ?_⟩
  · rw [openEffects_update none (system.commit session current result) rfl]
    unfold committedEffects GrantSystem.commit
    rw [List.flatMap_append, List.flatMap_singleton]
    rw [← openEffects_of_open isOpen]
    exact sound.serial.commit
  · intro other open_ isOpenThere
    by_cases same : other = session
    · subst same
      unfold GrantSystem.commit at isOpenThere
      simp only [Function.update_self] at isOpenThere
      cases isOpenThere
    · unfold GrantSystem.commit at isOpenThere ⊢
      simp only [Function.update_of_ne same] at isOpenThere
      have stageThere := sound.stages other open_ isOpenThere
      simpa [RowStore.commit, Function.update_of_ne same] using stageThere
  · intro call member
    rcases List.mem_added.mp member with before | rfl
    · exact sound.reports call before
    · exact reported

theorem Sound.compareAndSet {grantId : Int} {effect : GrantEffect}
    {changed : GrantStage} {unchanged after : GrantSystem τ}
    (isOpen : system.sessions session = some current)
    (taken : system.compareAndSet session current grantId effect changed unchanged = some after)
    (unchangedSound : Sound start unchanged)
    (changedSound : ∀ result, effect.assign result = result -> StageSound
        (Function.update (system.store.pending session) grantId (some result))
        { current with
          stage := changed
          effects := current.effects ++ [(grantId, effect)] }) :
    Sound start after := by
  unfold GrantSystem.compareAndSet at taken
  cases updated : system.store.updateWhere session grantId fun row =>
      applyEffect row effect with
  | none => rw [updated] at taken; cases taken
  | some outcome =>
    obtain ⟨store, done⟩ := outcome
    rw [updated] at taken
    rcases system.store.updateWhere_cases session grantId updated with
      ⟨rfl, rfl⟩ | ⟨row, result, available, isRow, applied, rfl, rfl⟩
    · cases taken
      exact unchangedSound
    · cases taken
      exact sound.record isOpen available isRow applied
        (changedSound result (applyEffect_eq_some applied).2.1)

end

variable {after : GrantSystem τ}

/-- The write of a loaded object changes nothing. -/
theorem flush_eq {grantId : Int} {effect : GrantEffect} {next : GrantStage}
    (repeats : Repeats (system.store.pending session) grantId effect)
    (taken : system.flush session current grantId effect next = some after) :
    after = system.advance session system.store current next := by
  obtain ⟨row, written, same⟩ := repeats
  have isRow : system.store.visible session grantId = some row := by
    unfold RowStore.visible
    rw [written]
    rfl
  unfold GrantSystem.flush at taken
  cases updated : system.store.updateWhere session grantId fun row =>
      some (effect.assign row) with
  | none => rw [updated] at taken; cases taken
  | some outcome =>
    obtain ⟨store, done⟩ := outcome
    rw [updated] at taken
    rcases system.store.updateWhere_cases session grantId updated with
      ⟨rfl, rfl⟩ | ⟨old, result, available, isOld, assigned, rfl, rfl⟩
    · unfold RowStore.updateWhere at updated
      rw [isRow] at updated
      simp only [Option.bind_some] at updated
      split_ifs at updated with available
      rw [Option.some_inj, Prod.mk.injEq] at updated
      exact absurd updated.2 (by decide)
    · rw [isRow] at isOld
      cases isOld
      rw [same] at assigned
      cases assigned
      rw [write_pending available written] at taken
      cases taken
      rfl

theorem repeats_update {pending : Int -> Option TemporaryActionGrant} {grantId now : Int}
    {result : TemporaryActionGrant} {marked : List Int}
    (earlier : ∀ id ∈ marked, Repeats pending id (.expire now))
    (assigned : (GrantEffect.expire now).assign result = result) :
    ∀ id ∈ marked ++ [grantId],
      Repeats (Function.update pending grantId (some result)) id (.expire now) := by
  intro id member
  by_cases same : id = grantId
  · subst same
    exact ⟨result, Function.update_self .., assigned⟩
  · rcases List.mem_added.mp member with before | last
    · obtain ⟨row, written, kept⟩ := earlier id before
      exact ⟨row, (Function.update_of_ne same ..).trans written, kept⟩
    · exact absurd last same

variable {scheme : PasswordScheme}

theorem Sound.next (sound : Sound start system) (isOpen : system.sessions session = some current)
    (taken : system.next session scheme current = some after) :
    Sound start after := by
  have effects := openEffects_of_open isOpen
  have here := sound.stages session current isOpen
  unfold GrantSystem.next at taken
  cases atStage : current.stage with
  | comparing grantId effect =>
    rw [atStage] at taken
    unfold StageSound at here
    rw [atStage] at here
    refine sound.compareAndSet isOpen taken sound.rollback ?_
    intro result assigned
    exact ⟨⟨result, Function.update_self .., assigned⟩,
      .of_noUse (here.1.append here.2) (by decide)⟩
  | expiring now stale expired =>
    unfold StageSound at here
    rw [atStage] at here
    cases stale with
    | nil =>
      rw [atStage] at taken
      cases taken
      exact sound.advance effects here
    | cons grantId stale =>
      rw [atStage] at taken
      refine sound.compareAndSet isOpen taken (sound.advance effects here) ?_
      intro result assigned
      exact ⟨here.1.append (by rintro ⟨_, _, _, same⟩; cases same), repeats_update here.2 assigned⟩
  | flushingExpired now unflushed count =>
    unfold StageSound at here
    rw [atStage] at here
    cases unflushed with
    | nil =>
      rw [atStage] at taken
      cases taken
      refine sound.advance effects ?_
      unfold afterExpiry
      cases request : current.request with
      | consume call membership time =>
        cases canonical : canonicalReservationId call.resourceId with
        | none =>
          simp only [canonical]
          exact .of_noUse here.1 (by decide)
        | some resourceId =>
          simp only [canonical]
          exact ⟨here.1, call, membership, rfl, rfl, canonical⟩
      | approve => exact .of_noUse here.1 (by simp)
      | deny => exact .of_noUse here.1 (by simp)
      | revoke => exact .of_noUse here.1 (by simp)
      | expire => exact .of_noUse here.1 (by simp)
    | cons grantId unflushed =>
      rw [atStage] at taken
      rw [flush_eq (here.2 grantId List.mem_cons_self) taken]
      exact sound.advance effects ⟨here.1, fun id member =>
        here.2 id (List.mem_cons_of_mem _ member)⟩
  | matching requester token resourceId now candidates =>
    unfold StageSound at here
    rw [atStage] at here
    cases candidates with
    | nil =>
      rw [atStage] at taken
      cases taken
      exact sound.advance effects (.of_noUse here.1 (by decide))
    | cons candidate rest =>
      obtain ⟨grantId, hash⟩ := candidate
      rw [atStage] at taken
      simp only at taken
      split_ifs at taken with verified
      · refine sound.compareAndSet isOpen taken (sound.advance effects here) ?_
        intro result assigned
        exact ⟨⟨result, Function.update_self .., assigned⟩, .of_use here.1 here.2⟩
      · cases taken
        exact sound.advance effects here
  | flushing grantId effect result =>
    unfold StageSound at here
    rw [atStage] at here taken
    rw [flush_eq here.1 taken]
    exact sound.advance effects here.2
  | finished result =>
    unfold StageSound at here
    rw [atStage] at here taken
    cases taken
    exact sound.commit isOpen here

omit [DecidableEq τ] in
/-- A call that begins has made no update. -/
theorem stageSound_openRequest {request : GrantRequest} {stage : GrantStage}
    (opened : system.openRequest session scheme request = .ok stage) :
    StageSound (system.store.pending session)
      { request := request
        stage := stage } := by
  have noUse : NoUse [] := fun made member => absurd member List.not_mem_nil
  cases request with
  | approve =>
    simp only [openRequest, bind_eq_ok, pure_eq_ok] at opened
    obtain ⟨_, _, _, _, rfl⟩ := opened
    exact ⟨noUse, by rintro ⟨_, _, _, same⟩; cases same⟩
  | deny =>
    simp only [openRequest, bind_eq_ok, pure_eq_ok] at opened
    obtain ⟨_, _, rfl⟩ := opened
    exact ⟨noUse, by rintro ⟨_, _, _, same⟩; cases same⟩
  | revoke =>
    simp only [openRequest, bind_eq_ok, pure_eq_ok] at opened
    obtain ⟨_, _, rfl⟩ := opened
    exact ⟨noUse, by rintro ⟨_, _, _, same⟩; cases same⟩
  | expire =>
    cases opened
    exact ⟨noUse, fun id member => absurd member List.not_mem_nil⟩
  | consume call membership now =>
    simp only [openRequest] at opened
    split_ifs at opened with supported
    · cases canonical : canonicalReservationId call.resourceId with
      | none =>
        rw [canonical, pure_eq_ok] at opened
        subst opened
        exact .of_noUse noUse (by decide)
      | some resourceId =>
        rw [canonical] at opened
        simp only [bind_eq_ok, pure_eq_ok] at opened
        obtain ⟨_, _, rfl⟩ := opened
        exact ⟨noUse, fun id member => absurd member List.not_mem_nil⟩
    · cases opened
      exact .of_noUse noUse (by decide)

theorem Sound.step (sound : Sound start system) {statement : Statement τ}
    (taken : step scheme system statement = some after) :
    Sound start after := by
  cases statement with
  | begin_ session request =>
    simp only [GrantSystem.step] at taken
    cases isOpen : system.sessions session with
    | some current => rw [isOpen] at taken; cases taken
    | none =>
      rw [isOpen] at taken
      cases opened : system.openRequest session scheme request with
      | error refusal =>
        rw [opened] at taken
        cases taken
        exact sound
      | ok stage =>
        rw [opened] at taken
        cases taken
        refine sound.advance ?_ (stageSound_openRequest opened)
        unfold openEffects
        rw [isOpen]
        rfl
  | next session =>
    obtain ⟨current, isOpen, taken⟩ := Option.bind_eq_some_iff.mp taken
    exact sound.next isOpen taken
  | rollback session =>
    cases taken
    exact sound.rollback

/-- Every interleaving from no open call is sound. -/
theorem sound_of_run {ids : List Int} {statements : List (Statement τ)}
    (ran : run (step scheme) (initial ids start) statements =
      some system) : Sound start system := by
  have always := @run_invariant _ _ (step scheme) (initial ids start) system
    (fun _ system => Sound start system) (sound_initial ids)
    (fun sound taken => sound.step taken) statements ran
  exact always

end GrantSystem

/-! ## Single use -/

variable (call : CommittedCall) (grantId : Int)

def CommittedCall.Approves : Prop :=
  ∃ effect, (grantId, effect) ∈ call.effects ∧ effect.IsApproval

/-- The call denied, revoked or expired a grant. -/
def CommittedCall.Closes : Prop :=
  ∃ effect, (grantId, effect) ∈ call.effects ∧ effect.IsClosing

/-- The call is a consumption that returned true, by this grant. -/
def CommittedCall.Uses : Prop :=
  call.result = .consumed true ∧ ∃ effect, (grantId, effect) ∈ call.effects ∧ effect.IsUse

/-- An open call that has returned true, by this grant. -/
def GrantSession.Uses (current : GrantSession) (grantId : Int) : Prop :=
  current.stage = .finished (.consumed true) ∧
    ∃ effect, (grantId, effect) ∈ current.effects ∧ effect.IsUse

namespace GrantSystem

variable {τ : Type} {system : GrantSystem τ} {session : τ}
    {start : Int -> Option TemporaryActionGrant}

variable {grantId : Int}

/-- What holds between the updates of a grant holds between the calls that
made them. -/
theorem pairwise_log {related : GrantEffect -> GrantEffect -> Prop}
    (ordered : (effectsOn grantId system.committedEffects).Pairwise related) :
    system.log.Pairwise fun earlier later => ∀ first last, (grantId, first) ∈ earlier.effects ->
        (grantId, last) ∈ later.effects -> related first last := by
  unfold committedEffects at ordered
  generalize system.log = log at ordered
  induction log with
  | nil => exact .nil
  | cons call log ih =>
    rw [List.flatMap_cons, effectsOn_append, List.pairwise_append] at ordered
    rw [List.pairwise_cons]
    refine ⟨fun later member first last firstIn lastIn => ?_, ih ordered.2.1⟩
    refine ordered.2.2 first ((mem_effectsOn grantId).mpr firstIn) last
      ((mem_effectsOn grantId).mpr ?_)
    exact List.mem_flatMap.mpr ⟨later, member, lastIn⟩

theorem mem_committedEffects {call : CommittedCall}
    (member : call ∈ system.log) {made : Int × GrantEffect}
    (made_ : made ∈ call.effects) : made ∈ system.committedEffects :=
  List.mem_flatMap.mpr ⟨call, member, made_⟩

/-- A committed use of a grant was asked for by its requester, in its hotel,
for its reservation and before its expiry. -/
def UsedByRequester (row : TemporaryActionGrant) (request : GrantRequest) : Prop :=
  ∃ call membership now, request = .consume call membership now ∧
    row.hotelId = call.requester.hotelId ∧
    row.requesterUserId = call.requester.userId ∧
    row.permissionCode = permissionReservationCancel ∧
    row.resourceType = some "reservation" ∧
    row.resourceId = canonicalReservationId call.resourceId ∧
    ∃ expiresAt ∈ row.expiresAt, now < expiresAt

theorem Sound.usedByRequester (sound : Sound start system)
    {call : CommittedCall} (member : call ∈ system.log)
    (allowed : call.result = .consumed true) :
    ∃ grantId row, call.Uses grantId ∧
      system.store.committed grantId = some row ∧ row.status = .used ∧
      UsedByRequester row call.request := by
  obtain ⟨reported, asked⟩ := sound.reports call member
  obtain ⟨⟨grantId, effect⟩, made, use⟩ := reported allowed
  obtain ⟨requester, resourceId, now, rfl⟩ := use
  have listed := (mem_effectsOn grantId).mpr (mem_committedEffects member made)
  obtain ⟨first, last, -, isLast, path⟩ := sound.serial.path (List.ne_nil_of_mem listed)
  obtain ⟨status, hotel, user, code, type, resource, expiry⟩ := run_use path listed
  obtain ⟨-, consume, membership, isRequest, rfl, canonical⟩ := asked _ _ _ _ made
  exact ⟨grantId, last, ⟨allowed, _, made, _, _, _, rfl⟩, isLast, status,
    consume, membership, now, isRequest, hotel, user, code, type,
    resource.trans canonical.symm, expiry⟩

/-- The committed calls over one grant. -/
theorem Sound.pairwise_updates (sound : Sound start system) (grantId : Int) :
    system.log.Pairwise fun earlier later =>
      ∀ first last, (grantId, first) ∈ earlier.effects -> (grantId, last) ∈ later.effects ->
          ¬(first.IsApproval ∧ last.IsApproval) ∧ first.IsApproval := by
  apply pairwise_log
  rw [List.pairwise_and_iff]
  by_cases changed : effectsOn grantId system.committedEffects = []
  · rw [changed]
    exact ⟨.nil, .nil⟩
  · obtain ⟨first, last, -, -, path⟩ := sound.serial.path changed
    exact ⟨run_approvals path, run_last path⟩

variable [DecidableEq τ]

theorem Sound.openUse (sound : Sound start system) {current : GrantSession}
    (isOpen : system.sessions session = some current)
    (uses : current.Uses grantId) :
    (∀ call ∈ system.log, ¬call.Uses grantId) ∧
      ∀ other another, system.sessions other = some another ->
        another.Uses grantId -> other = session := by
  have written {writer : τ} {open_ : GrantSession}
      (isOpenThere : system.sessions writer = some open_)
      (usesThere : open_.Uses grantId) :
      effectsOn grantId (system.openEffects writer) ≠ [] := by
    obtain ⟨-, effect, made, -⟩ := usesThere
    rw [openEffects_of_open isOpenThere]
    exact List.ne_nil_of_mem ((mem_effectsOn grantId).mpr made)
  obtain ⟨first, last, isFirst, -, isPending, path⟩ := sound.serial.openPath (written isOpen uses)
  constructor
  · rintro call member ⟨-, effect, made, use⟩
    have listed :=
      (mem_effectsOn grantId).mpr (mem_committedEffects member made)
    obtain ⟨_, committed, -, isCommitted, committedPath⟩ :=
      sound.serial.path (List.ne_nil_of_mem listed)
    rw [isFirst] at isCommitted
    cases isCommitted
    obtain ⟨requester, resourceId, now, rfl⟩ := use
    have used := (run_use committedPath listed).1
    have final : first.status.Final := by
      rw [used]
      exact ⟨by decide, by decide⟩
    exact written isOpen uses (run_final final path)
  · intro other another isOpenThere usesThere
    by_contra different
    obtain ⟨_, _, _, -, isPendingThere, -⟩ := sound.serial.openPath (written isOpenThere usesThere)
    obtain ⟨row, isRow⟩ := Option.ne_none_iff_exists'.mp isPending
    exact isPendingThere (pending_eq_none_of_ne isRow different)

/-- A call's statements only add to the committed calls. -/
theorem log_prefix_of_step {scheme : PasswordScheme}
    {statement : Statement τ} {after : GrantSystem τ}
    (taken : step scheme system statement = some after) :
    system.log <+: after.log := by
  have compared {session : τ} {current : GrantSession} {grantId : Int}
      {effect : GrantEffect} {changed : GrantStage}
      {unchanged : GrantSystem τ}
      (taken : system.compareAndSet session current grantId effect changed
        unchanged = some after) (same : unchanged.log = system.log) :
      system.log <+: after.log := by
    unfold GrantSystem.compareAndSet at taken
    split at taken
    · cases taken
    · cases taken; exact List.prefix_refl _
    · cases taken; exact same ▸ List.prefix_refl _
  have flushed {session : τ} {current : GrantSession} {grantId : Int}
      {effect : GrantEffect} {next : GrantStage}
      (taken : system.flush session current grantId effect next =
        some after) : system.log <+: after.log := by
    unfold GrantSystem.flush at taken
    split at taken
    · cases taken
    · cases taken; exact List.prefix_refl _
    · cases taken; exact List.prefix_refl _
  cases statement with
  | begin_ session request =>
    simp only [GrantSystem.step] at taken
    split at taken
    · cases taken
    · split at taken
      · cases taken; exact List.prefix_refl _
      · cases taken; exact List.prefix_refl _
  | rollback session => cases taken; exact List.prefix_refl _
  | next session =>
    obtain ⟨current, isOpen, taken⟩ := Option.bind_eq_some_iff.mp taken
    unfold GrantSystem.next at taken
    split at taken
    · exact compared taken rfl
    · cases taken; exact List.prefix_refl _
    · exact compared taken rfl
    · cases taken; exact List.prefix_refl _
    · exact flushed taken
    · cases taken; exact List.prefix_refl _
    · split_ifs at taken
      · exact compared taken rfl
      · cases taken; exact List.prefix_refl _
    · exact flushed taken
    · cases taken; exact List.prefix_append _ _

theorem Sound.final_stays {scheme : PasswordScheme}
    (sound : Sound start system) {statements : List (Statement τ)}
    {later : GrantSystem τ}
    (ran : run (GrantSystem.step scheme) system statements = some later)
    {row : TemporaryActionGrant}
    (isRow : system.store.committed grantId = some row)
    (final : row.status.Final) : later.store.committed grantId = some row := by
  obtain ⟨soundLater, more, log⟩ :=
    @run_invariant _ _ (GrantSystem.step scheme) system later
      (fun _ later => Sound start later ∧ system.log <+: later.log)
      ⟨sound, List.prefix_refl _⟩
      (fun kept taken => ⟨kept.1.step taken,
        kept.2.trans (log_prefix_of_step taken)⟩) statements ran
  have effects : effectsOn grantId later.committedEffects =
      effectsOn grantId system.committedEffects ++
        effectsOn grantId (more.flatMap CommittedCall.effects) := by
    unfold committedEffects
    rw [← log, List.flatMap_append, effectsOn_append]
  have nothing : effectsOn grantId (more.flatMap CommittedCall.effects) = [] := by
    by_contra changed
    have changedAll : effectsOn grantId later.committedEffects ≠ [] := by
      rw [effects]
      exact fun nil => changed (List.append_eq_nil_iff.mp nil).2
    obtain ⟨first, last, isFirst, -, path⟩ := soundLater.serial.path changedAll
    have before := sound.serial.committed grantId
    rw [isFirst, isRow] at before
    rw [effects, run_append] at path
    obtain ⟨middle, isMiddle, rest⟩ := Option.bind_eq_some_iff.mp path
    rw [replay, Option.bind_some, isMiddle] at before
    cases before
    exact changed (run_final final rest)
  have after := soundLater.serial.committed grantId
  rw [effects, nothing, List.append_nil, sound.serial.committed, isRow] at after
  exact after.symm

/-- A temporary grant is used at most once.  In every interleaving of the
statements of any calls, the committed calls, in the order of their commits,
approve a grant at most once and use it at most once; no use follows a denial,
a revocation or an expiry; a call that returns true used a grant of its
requester; an open call that has returned true is alone with its grant; and
denied, revoked, expired and used grants stay as they are. -/
theorem grants_usedOnce (scheme : PasswordScheme) (ids : List Int)
    (rows : Int -> Option TemporaryActionGrant) (statements : List (Statement τ))
    (ran : run (step scheme) (initial ids rows) statements = some system) :
    (∀ grantId, (system.log.Pairwise fun earlier later =>
        ¬(earlier.Approves grantId ∧ later.Approves grantId)) ∧
      (system.log.Pairwise fun earlier later => ¬(earlier.Uses grantId ∧ later.Uses grantId)) ∧
      (system.log.Pairwise fun earlier later => later.Uses grantId -> ¬earlier.Closes grantId) ∧
      (∀ session current, system.sessions session = some current -> current.Uses grantId ->
          (∀ call ∈ system.log, ¬call.Uses grantId) ∧
            ∀ other another, system.sessions other = some another ->
              another.Uses grantId -> other = session)) ∧
      (∀ call ∈ system.log, call.result = .consumed true -> ∃ grantId row, call.Uses grantId ∧
          system.store.committed grantId = some row ∧
          row.status = .used ∧ UsedByRequester row call.request) ∧
      ∀ following later, run (step scheme) system following = some later ->
          ∀ grantId row, system.store.committed grantId = some row ->
            row.status.Final -> later.store.committed grantId = some row := by
  have sound : Sound rows system := sound_of_run ran
  refine ⟨fun grantId => ?_, fun call member allowed =>
    sound.usedByRequester member allowed, fun following later ranLater id row
      isRow final => sound.final_stays ranLater isRow final⟩
  have updates := sound.pairwise_updates grantId
  refine ⟨updates.imp ?_, updates.imp ?_, updates.imp ?_,
    fun session current isOpen uses => sound.openUse isOpen uses⟩
  · rintro earlier later between ⟨⟨first, firstIn, isFirst⟩, ⟨last, lastIn, isLast⟩⟩
    exact (between first last firstIn lastIn).1 ⟨isFirst, isLast⟩
  · rintro earlier later between ⟨⟨-, first, firstIn, isFirst⟩, ⟨-, last, lastIn, -⟩⟩
    exact not_isApproval_of_isUse isFirst (between first last firstIn lastIn).2
  · rintro earlier later between ⟨-, last, lastIn, -⟩ ⟨first, firstIn, isFirst⟩
    exact not_isApproval_of_isClosing isFirst (between first last firstIn lastIn).2

/-- A scheme that stores passwords as they are. -/
def plainScheme : PasswordScheme where
  hashPassword := id
  verifyPassword := fun password stored => password == stored

def approvedGrant : TemporaryActionGrant where
  hotelId := 1
  requesterUserId := 4
  approverUserId := some 2
  permissionCode := permissionReservationCancel
  resourceType := some "reservation"
  resourceId := some "7"
  status := .approved
  tokenHash := some "secret"
  createdAt := 0
  approvedAt := some 100
  expiresAt := some 1000

def cancellation : GrantRequest :=
  .consume {
    token := "secret"
    requester := {
      userId := 4
      hotelId := 1 }
    permissionCode := permissionReservationCancel
    resourceType := "reservation"
    resourceId := "7" } (some "receptionist") 500

/-- Both calls read the approved grant before one of them updates it. -/
def consumptionRace : List (Statement Bool) :=
  [.begin_ true cancellation, .begin_ false cancellation,
    .next true, .next false, .next true, .next false,
    .next true, .next true, .next true,
    .next false, .next false, .next false]

/-- One of two consumptions that read the same grant returns true. -/
theorem grants_usedOnce_race : ∃ system, run (step plainScheme)
        (initial [1] fun id => if id = 1 then some approvedGrant else none)
        consumptionRace = some system ∧
      system.log.map CommittedCall.result = [.consumed true, .consumed false] ∧
      system.log.Pairwise fun earlier later =>
        ¬(earlier.Uses 1 ∧ later.Uses 1) := by
  have results : (run (step plainScheme)
      (initial [1] fun id => if id = 1 then some approvedGrant else none)
      consumptionRace).map (fun system =>
        system.log.map CommittedCall.result) = some [.consumed true, .consumed false] := by
    decide +kernel
  obtain ⟨system, ran, isResult⟩ := Option.map_eq_some_iff.mp results
  exact ⟨system, ran, isResult, ((grants_usedOnce plainScheme [1]
    (fun id => if id = 1 then some approvedGrant else none)
    consumptionRace ran).1 1).2.1⟩

end GrantSystem
end HotelPms.Access

import HotelPms.Links.Revocations

/-!
# Fencing of revocation outcomes

The number of attempts of a link fences its claims: each claim raises the
number, and an outcome is recorded only under the lock of the row and while
the number is still the worker's.  The committed updates of a link therefore
form one path, in which an outcome follows the claim that it belongs to and
nothing follows an outcome.
-/

namespace HotelPms.Links

open RowStore Transition

variable {τ : Type}

/-! ## The path of one link -/

/-- The revocation has ended. -/
def RevocableLink.Settled (row : RevocableLink) : Prop :=
  row.providerRevocationStatus = .succeeded ∨ row.providerRevocationStatus = .failed

/-- The revocation was asked for. -/
def RevocableLink.Queued (row : RevocableLink) : Prop :=
  row.providerRevocationStatus ≠ .notRequired

def RevocableLink.ClaimTimed (row : RevocableLink) : Prop :=
  row.providerRevocationStatus = .processing -> row.providerRevocationLastAttemptAt ≠ none

/-- Waiting, claimed at a known time, or ended. -/
def RevocableLink.Tracked (row : RevocableLink) : Prop :=
  row.providerRevocationStatus = .pending ∨ row.providerRevocationStatus = .processing ∧
      row.providerRevocationLastAttemptAt ≠ none ∨
    row.Settled

theorem RevocableLink.Queued.tracked {row : RevocableLink}
    (queued : row.Queued) (timed : row.ClaimTimed) : row.Tracked := by
  unfold RevocableLink.Tracked RevocableLink.Settled
  cases status : row.providerRevocationStatus with
  | notRequired => exact absurd status queued
  | pending => exact .inl rfl
  | processing => exact .inr (.inl ⟨rfl, timed status⟩)
  | succeeded => exact .inr (.inr (.inl rfl))
  | failed => exact .inr (.inr (.inr rfl))

variable {first row result : RevocableLink}
    {effect : RevocationEffect τ} {effects : List (RevocationEffect τ)}

theorem applyRevocation_eq_some (applied : applyRevocation row effect = some result) :
    effect.Accepts row ∧ effect.assign row = result := by
  unfold applyRevocation at applied
  split_ifs at applied with accepts
  exact ⟨accepts, Option.some.inj applied⟩

theorem applyRevocation_of_accepts (accepts : effect.Accepts row) :
    applyRevocation row effect = some (effect.assign row) :=
  if_pos accepts

/-- No update is meant for a link whose revocation has ended. -/
theorem applyRevocation_settled (settled : row.Settled) : applyRevocation row effect = none := by
  have status : row.providerRevocationStatus ≠ .notRequired ∧
      row.providerRevocationStatus ≠ .pending ∧ row.providerRevocationStatus ≠ .processing := by
    rcases settled with same | same <;> rw [same] <;> decide
  unfold applyRevocation
  rw [if_neg]
  intro accepts
  cases effect with
  | queue => exact status.1 accepts
  | reclaim now => exact status.2.2 accepts.1
  | claim worker attempt now => exact status.2.1 accepts.1.2.1
  | settle worker attempt outcome => exact status.2.2 accepts.1

theorem settled_assign_settle (worker : τ) (attempt : Nat) (outcome : RevocationOutcome) :
    ((RevocationEffect.settle worker attempt outcome).assign row).Settled := by
  cases outcome with
  | succeeded => exact .inl rfl
  | failed error => exact .inr rfl

/-- An update never takes a link out of the queue. -/
theorem queued_assign (accepts : effect.Accepts row) : (effect.assign row).Queued := by
  unfold RevocableLink.Queued
  cases effect with
  | settle worker attempt outcome =>
    cases outcome <;> simp [RevocationEffect.assign]
  | _ => simp [RevocationEffect.assign]

theorem claimTimed_assign : (effect.assign row).ClaimTimed := by
  unfold RevocableLink.ClaimTimed
  cases effect with
  | settle worker attempt outcome =>
    cases outcome <;> simp [RevocationEffect.assign]
  | _ => simp [RevocationEffect.assign]

/-- What the updates of one link have led to. -/
structure RevocationPath (first : RevocableLink)
    (effects : List (RevocationEffect τ)) (row : RevocableLink) : Prop where
  /-- No claim has a higher number than the link. -/
  bounded : ∀ effect ∈ effects, ∀ attempt ∈ effect.claimNumber,
    attempt ≤ row.providerRevocationAttempts
  /-- Later claims have higher numbers. -/
  increasing : effects.Pairwise fun earlier later =>
    ∀ before ∈ earlier.claimNumber, ∀ after ∈ later.claimNumber, before < after
  /-- The processing goes on under the last claim. -/
  claimed : row.providerRevocationStatus = .processing -> effects = [] ∨
    ∃ earlier worker now, effects = earlier ++ [.claim worker row.providerRevocationAttempts now]
  queued : first.Queued -> row.Queued
  timed : first.ClaimTimed -> row.ClaimTimed

theorem RevocationPath.nil : RevocationPath first ([] : List (RevocationEffect τ)) first where
  bounded := fun _ member => absurd member List.not_mem_nil
  increasing := .nil
  claimed := fun _ => .inl rfl
  queued := fun queued => queued
  timed := fun timed => timed

theorem RevocationPath.append (path : RevocationPath first effects row)
    (accepts : effect.Accepts row) (noClaim : effect.claimNumber = none)
    (attempts : (effect.assign row).providerRevocationAttempts = row.providerRevocationAttempts)
    (left : (effect.assign row).providerRevocationStatus ≠ .processing) :
    RevocationPath first (effects ++ [effect]) (effect.assign row) where
  bounded := by
    intro other member attempt isNumber
    rw [attempts]
    rcases List.mem_added.mp member with before | rfl
    · exact path.bounded other before attempt isNumber
    · rw [noClaim] at isNumber
      cases isNumber
  increasing := by
    rw [List.pairwise_append]
    refine ⟨path.increasing, List.pairwise_singleton .., ?_⟩
    intro earlier _ later member before _ after isNumber
    rw [List.mem_singleton.mp member, noClaim] at isNumber
    cases isNumber
  claimed := (absurd · left)
  queued := fun _ => queued_assign accepts
  timed := fun _ => claimTimed_assign

variable {worker : τ} {attempt : Nat}

theorem RevocationPath.append_claim (path : RevocationPath first effects row) {now : Int}
    (accepts : (RevocationEffect.claim worker attempt now).Accepts row) :
    RevocationPath first (effects ++ [.claim worker attempt now])
      ((RevocationEffect.claim worker attempt now).assign row) where
  bounded := by
    intro other member number isNumber
    show number ≤ attempt
    rcases List.mem_added.mp member with before | rfl
    · have := path.bounded other before number isNumber
      have := accepts.2
      omega
    · exact (Option.some.inj isNumber).symm.le
  increasing := by
    rw [List.pairwise_append]
    refine ⟨path.increasing, List.pairwise_singleton .., ?_⟩
    intro earlier member later last before isBefore after isAfter
    rw [List.mem_singleton.mp last] at isAfter
    obtain rfl : attempt = after := Option.some.inj isAfter
    have := path.bounded earlier member before isBefore
    have := accepts.2
    omega
  claimed := fun _ => .inr ⟨effects, worker, now, rfl⟩
  queued := fun _ => queued_assign accepts
  timed := fun _ => claimTimed_assign

theorem RevocationPath.of_run (ran : run applyRevocation first effects = some row) :
    RevocationPath first effects row := by
  refine @run_invariant _ _ _ _ _ (fun effects row =>
    RevocationPath first effects row) .nil ?_ _ ran
  intro effects row effect result path applied
  obtain ⟨accepts, rfl⟩ := applyRevocation_eq_some applied
  cases effect with
  | queue =>
    exact path.append accepts rfl rfl (by simp [RevocationEffect.assign])
  | reclaim now =>
    exact path.append accepts rfl rfl (by simp [RevocationEffect.assign])
  | claim worker attempt now => exact path.append_claim accepts
  | settle worker attempt outcome =>
    have settled : ((RevocationEffect.settle worker attempt outcome).assign row).Settled :=
      settled_assign_settle worker attempt outcome
    refine path.append accepts rfl ?_ ?_
    · cases outcome <;> rfl
    · rcases settled with same | same <;> rw [same] <;> decide

theorem run_settled (settled : row.Settled)
    (ran : run applyRevocation row effects = some result) : effects = [] := by
  cases effects with
  | nil => rfl
  | cons effect effects =>
    rw [run, List.foldlM_cons, applyRevocation_settled settled] at ran
    cases ran

theorem settle_of_run {before after : List (RevocationEffect τ)} {outcome : RevocationOutcome}
    (ran : run applyRevocation first
      (before ++ .settle worker attempt outcome :: after) = some row) :
    after = [] ∧ (before = [] ∨ ∃ earlier holder now,
      before = earlier ++ [.claim holder attempt now]) := by
  rw [run_append] at ran
  obtain ⟨middle, toMiddle, onwards⟩ := Option.bind_eq_some_iff.mp ran
  obtain ⟨settled, applied, rest⟩ := Option.bind_eq_some_iff.mp onwards
  obtain ⟨accepts, rfl⟩ := applyRevocation_eq_some applied
  refine ⟨run_settled (settled_assign_settle worker attempt outcome) rest, ?_⟩
  obtain ⟨processing, isAttempt⟩ := accepts
  rw [← isAttempt]
  exact (RevocationPath.of_run toMiddle).claimed processing

/-- Two claims of a link with one number are the same. -/
theorem RevocationPath.claim_unique (path : RevocationPath first effects row) {other : τ}
    {now later : Int}
    (member : .claim worker attempt now ∈ effects)
    (memberOther : .claim other attempt later ∈ effects) :
    worker = other ∧ now = later := by
  by_contra different
  have apart : RevocationEffect.claim worker attempt now ≠ .claim other attempt later := by
    intro same
    cases same
    exact different ⟨rfl, rfl⟩
  rcases List.pairwise_iff_getElem.mp path.increasing with increasing
  obtain ⟨i, hi, isFirst⟩ := List.getElem_of_mem member
  obtain ⟨j, hj, isSecond⟩ := List.getElem_of_mem memberOther
  rcases Nat.lt_trichotomy i j with less | same | more
  · have := increasing i j hi hj less attempt (by rw [isFirst]; rfl) attempt (by rw [isSecond]; rfl)
    omega
  · subst same
    exact apart (isFirst.symm.trans isSecond)
  · have := increasing j i hj hi more attempt (by rw [isSecond]; rfl) attempt (by rw [isFirst]; rfl)
    omega

namespace RevocationSystem

variable {system after : RevocationSystem τ}
    {start : Int -> Option RevocableLink} {worker other : τ} {id : Int}
    {attempt : Nat}

def ClaimCommitted (system : RevocationSystem τ) (worker : τ) (id : Int) (attempt : Nat) : Prop :=
  ∃ now, (id, RevocationEffect.claim worker attempt now) ∈ system.log

/-- Updates that only give stale claims back. -/
def OnlyReclaims (effects : List (Int × RevocationEffect τ)) : Prop :=
  ∀ made ∈ effects, ∃ now, made.2 = .reclaim now

/-- The worker has locked the row and reads it in some condition. -/
def LockedWith (system : RevocationSystem τ) (worker : τ) (id : Int)
    (condition : RevocableLink -> Prop) : Prop :=
  system.store.locks.holder id = some worker ∧
    ∃ row, system.store.visible worker id = some row ∧ condition row

/-- A queued link whose next attempt has this number. -/
def ClaimableAs (attempt : Nat) (row : RevocableLink) : Prop :=
  row.Candidate ∧ row.providerRevocationAttempts + 1 = attempt

/-- What a worker relies on at each stage. -/
def StageSound (system : RevocationSystem τ) (worker : τ) : RevocationStage -> Prop
  | .ready => system.effects worker = []
  | .reclaiming _ _ => OnlyReclaims (system.effects worker)
  | .claiming id attempt _ => OnlyReclaims (system.effects worker) ∧
      system.LockedWith worker id (ClaimableAs attempt)
  | .verifying id attempt => system.effects worker = [] ∧ system.ClaimCommitted worker id attempt
  | .calling id attempt => system.effects worker = [] ∧ system.ClaimCommitted worker id attempt
  | .recording id attempt _ => system.effects worker = [] ∧ system.ClaimCommitted worker id attempt
  | .settling id attempt _ => system.effects worker = [] ∧ system.ClaimCommitted worker id attempt ∧
      system.LockedWith worker id (·.ClaimedWith attempt)

/-- A worker without a call has no open transaction. -/
def WorkerSound (system : RevocationSystem τ) (worker : τ) : Prop :=
  match system.workers worker with
  | none => system.effects worker = []
  | some current => system.StageSound worker current.stage

/-- What a worker relies on is the same after a step. -/
structure Unaffected (system after : RevocationSystem τ) (other : τ) :
    Prop where
  workers : after.workers other = system.workers other
  effects : after.effects other = system.effects other
  held : ∀ id, system.store.locks.holder id = some other -> after.store.locks.holder id = some other
  visible : ∀ id, system.store.locks.holder id = some other ->
    after.store.visible other id = system.store.visible other id
  log : ∀ made ∈ system.log, made ∈ after.log

theorem Unaffected.refl : Unaffected system system other where
  workers := rfl
  effects := rfl
  held := fun _ held => held
  visible := fun _ _ => rfl
  log := fun _ member => member

theorem Unaffected.trans {middle : RevocationSystem τ} (first : Unaffected system middle other)
    (second : Unaffected middle after other) :
    Unaffected system after other where
  workers := second.workers.trans first.workers
  effects := second.effects.trans first.effects
  held := fun id held => second.held id (first.held id held)
  visible := fun id held => (second.visible id (first.held id held)).trans (first.visible id held)
  log := fun made member => second.log made (first.log made member)

theorem Unaffected.lockedWith (unaffected : Unaffected system after other)
    {condition : RevocableLink -> Prop}
    (locked : system.LockedWith other id condition) :
    after.LockedWith other id condition := by
  obtain ⟨held, row, isRow, holds⟩ := locked
  exact ⟨unaffected.held id held, row, (unaffected.visible id held).trans isRow, holds⟩

theorem Unaffected.claimCommitted (unaffected : Unaffected system after other)
    (committed : system.ClaimCommitted worker id attempt) :
    after.ClaimCommitted worker id attempt := by
  obtain ⟨now, member⟩ := committed
  exact ⟨now, unaffected.log _ member⟩

/-- A worker that is not affected goes on relying on the same facts. -/
theorem Unaffected.workerSound (unaffected : Unaffected system after other)
    (sound : system.WorkerSound other) : after.WorkerSound other := by
  unfold WorkerSound at sound ⊢
  rw [unaffected.workers]
  cases isOpen : system.workers other with
  | none =>
    rw [isOpen] at sound
    exact unaffected.effects.trans sound
  | some current =>
    rw [isOpen] at sound
    simp only at sound ⊢
    cases atStage : current.stage with
    | ready =>
      rw [atStage] at sound
      exact unaffected.effects.trans sound
    | reclaiming now stale =>
      rw [atStage] at sound
      unfold StageSound at sound ⊢
      rw [unaffected.effects]
      exact sound
    | claiming id attempt now =>
      rw [atStage] at sound
      unfold StageSound at sound ⊢
      rw [unaffected.effects]
      exact ⟨sound.1, unaffected.lockedWith sound.2⟩
    | verifying id attempt =>
      rw [atStage] at sound
      exact ⟨unaffected.effects.trans sound.1, unaffected.claimCommitted sound.2⟩
    | calling id attempt =>
      rw [atStage] at sound
      exact ⟨unaffected.effects.trans sound.1, unaffected.claimCommitted sound.2⟩
    | recording id attempt outcome =>
      rw [atStage] at sound
      exact ⟨unaffected.effects.trans sound.1, unaffected.claimCommitted sound.2⟩
    | settling id attempt outcome =>
      rw [atStage] at sound
      exact ⟨unaffected.effects.trans sound.1, unaffected.claimCommitted sound.2.1,
        unaffected.lockedWith sound.2.2⟩

variable [DecidableEq τ]

theorem unaffected_advance (current : RevocationWorker)
    (stage : RevocationStage) (different : other ≠ worker) :
    Unaffected system (system.advance worker current stage) other where
  workers := Function.update_of_ne different ..
  effects := rfl
  held := fun _ held => held
  visible := fun _ _ => rfl
  log := fun _ member => member

theorem unaffected_return (counts : RevocationCounts) (different : other ≠ worker) :
    Unaffected system (system.return_ worker counts) other where
  workers := Function.update_of_ne different ..
  effects := rfl
  held := fun _ held => held
  visible := fun _ _ => rfl
  log := fun _ member => member

theorem unaffected_commit (different : other ≠ worker) :
    Unaffected system (system.commit worker) other where
  workers := rfl
  effects := Function.update_of_ne different ..
  held := fun _ held => LockTable.release_eq_some held different
  visible := by
    intro id held
    have same : (system.store.commit worker).committed id = system.store.committed id :=
      visible_eq_committed_of_locked held (Ne.symm different)
    unfold RowStore.visible
    show ((system.store.commit worker).pending other id).or
      ((system.store.commit worker).committed id) = _
    rw [same]
    simp [RowStore.commit, Function.update_of_ne different]
  log := fun _ member => List.mem_append_left _ member

theorem unaffected_rollback (different : other ≠ worker) :
    Unaffected system (system.rollback worker) other where
  workers := rfl
  effects := Function.update_of_ne different ..
  held := fun _ held => LockTable.release_eq_some held different
  visible := by
    unfold RowStore.visible
    simp [rollback, RowStore.rollback, Function.update_of_ne different]
  log := fun _ member => member

theorem unaffected_crash (different : other ≠ worker) :
    Unaffected system (system.crash worker) other :=
  (unaffected_rollback different).trans
    { workers := Function.update_of_ne different ..
      effects := rfl
      held := fun _ held => held
      visible := fun _ _ => rfl
      log := fun _ member => member }

variable {current : RevocationWorker} {stage : RevocationStage}

theorem unaffected_lockRow (different : other ≠ worker)
    (taken : system.lockRow worker id current stage = some after) :
    Unaffected system after other := by
  unfold lockRow at taken
  split_ifs at taken with available
  cases taken
  exact {
    workers := Function.update_of_ne different ..
    effects := rfl
    held := fun _ held => available.acquire_eq_some held
    visible := fun _ _ => rfl
    log := fun _ member => member }

variable {effect : RevocationEffect τ} {changed : Bool}
  {change : RevocableLink -> Option RevocableLink}

theorem update_cases (updated : system.update worker id effect change = some (after, changed)) :
    (after = system ∧ changed = false) ∨
      ∃ row result, ∃ available : system.store.locks.Available id worker,
        system.store.visible worker id = some row ∧
          change row = some result ∧
          after = { system with
            store := system.store.write worker id result available
            effects := Function.update system.effects worker
              (system.effects worker ++ [(id, effect)]) } ∧
          changed = true := by
  unfold update at updated
  cases outcome : system.store.updateWhere worker id change with
  | none => rw [outcome] at updated; cases updated
  | some written =>
    obtain ⟨store, done⟩ := written
    rw [outcome] at updated
    rcases system.store.updateWhere_cases worker id outcome with
      ⟨rfl, rfl⟩ | ⟨row, result, available, isRow, isResult, rfl, rfl⟩
    · cases updated
      exact .inl ⟨rfl, rfl⟩
    · cases updated
      exact .inr ⟨row, result, available, isRow, isResult, rfl, rfl⟩

theorem unaffected_update (different : other ≠ worker)
    (updated : system.update worker id effect change =
      some (after, changed)) : Unaffected system after other := by
  rcases update_cases updated with ⟨rfl, rfl⟩ | ⟨row, result, available, -, -, rfl, -⟩
  · exact .refl
  · exact {
      workers := rfl
      effects := Function.update_of_ne different ..
      held := fun _ held => available.acquire_eq_some held
      visible := fun _ _ => visible_write_other available different
      log := fun _ member => member }

/-- Every recorded outcome comes after its worker's claim. -/
def SettledByClaims (log : List (Int × RevocationEffect τ)) : Prop :=
  ∀ before id worker attempt outcome after,
    log = before ++ (id, .settle worker attempt outcome) :: after ->
      ∃ now, (id, RevocationEffect.claim worker attempt now) ∈ before

omit [DecidableEq τ] in
theorem SettledByClaims.append {log more : List (Int × RevocationEffect τ)}
    (settled : SettledByClaims log)
    (claims : ∀ id worker attempt outcome, (id, .settle worker attempt outcome) ∈ more ->
        ∃ now, (id, RevocationEffect.claim worker attempt now) ∈ log) :
    SettledByClaims (log ++ more) := by
  intro before id worker attempt outcome after same
  rcases List.append_eq_append_iff.mp same with ⟨front, isBefore, isMore⟩ | ⟨tail, isLog, isTail⟩
  · have member : (id, .settle worker attempt outcome) ∈ more := by
      rw [isMore]
      exact List.mem_append_right _ List.mem_cons_self
    obtain ⟨now, claimed⟩ := claims id worker attempt outcome member
    exact ⟨now, isBefore ▸ List.mem_append_left _ claimed⟩
  · cases tail with
    | nil =>
      have member : (id, .settle worker attempt outcome) ∈ more := by
        rw [List.nil_append] at isTail
        rw [← isTail]
        exact List.mem_cons_self
      obtain ⟨now, claimed⟩ := claims id worker attempt outcome member
      rw [List.append_nil] at isLog
      exact ⟨now, isLog ▸ claimed⟩
    | cons made tail =>
      rw [List.cons_append, List.cons.injEq] at isTail
      rw [← isTail.1] at isLog
      exact settled before id worker attempt outcome tail isLog

omit [DecidableEq τ] in
theorem OnlyReclaims.no_settle {effects : List (Int × RevocationEffect τ)}
    (only : OnlyReclaims effects) {outcome : RevocationOutcome} :
    (id, .settle worker attempt outcome) ∉ effects := by
  intro member
  obtain ⟨now, same⟩ := only _ member
  cases same

/-- What holds between any two statements of the calls. -/
structure Fenced (start : Int -> Option RevocableLink)
    (system : RevocationSystem τ) : Prop where
  serial : Serial applyRevocation start system.store system.log system.effects
  settled : SettledByClaims system.log
  workers : ∀ worker, system.WorkerSound worker

omit [DecidableEq τ] in
theorem fenced_initial (ids : List Int) :
    Fenced start (initial ids start : RevocationSystem τ) where
  serial := serial_initial start
  settled := by
    intro before id worker attempt outcome after same
    have empty : ([] : List (Int × RevocationEffect τ)) ≠
        before ++ (id, .settle worker attempt outcome) :: after := by simp
    exact absurd same empty
  workers := fun _ => rfl

theorem Fenced.of_statement (fenced : Fenced start system)
    (serial : Serial applyRevocation start after.store after.log after.effects)
    (settled : SettledByClaims after.log)
    (unaffected : ∀ other, other ≠ worker -> Unaffected system after other)
    (sound : after.WorkerSound worker) : Fenced start after where
  serial := serial
  settled := settled
  workers := by
    intro other
    by_cases same : other = worker
    · exact same ▸ sound
    · exact (unaffected other same).workerSound (fenced.workers other)

theorem workerSound_advance (sound : system.StageSound worker stage) :
    (system.advance worker current stage).WorkerSound worker := by
  unfold WorkerSound advance
  simp only [Function.update_self]
  cases stage <;> exact sound

/-- A call that returns leaves no open transaction. -/
theorem workerSound_return {counts : RevocationCounts} (empty : system.effects worker = []) :
    (system.return_ worker counts).WorkerSound worker := by
  unfold WorkerSound return_
  simp only [Function.update_self]
  exact empty

section

variable (fenced : Fenced start system)
include fenced

theorem Fenced.advance (sound : system.StageSound worker stage) :
    Fenced start (system.advance worker current stage) :=
  fenced.of_statement fenced.serial fenced.settled
    (fun _ different => unaffected_advance current stage different)
    (workerSound_advance sound)

theorem Fenced.return_ {counts : RevocationCounts} (empty : system.effects worker = []) :
    Fenced start (system.return_ worker counts) :=
  fenced.of_statement fenced.serial fenced.settled
    (fun _ different => unaffected_return counts different)
    (workerSound_return empty)

theorem Fenced.crash : Fenced start (system.crash worker) := by
  refine fenced.of_statement fenced.serial.rollback fenced.settled
    (fun _ different => unaffected_crash different) ?_
  unfold WorkerSound RevocationSystem.crash RevocationSystem.rollback
  simp only [Function.update_self]

theorem Fenced.commit_log (claims : ∀ id owner attempt outcome,
      (id, .settle owner attempt outcome) ∈ system.effects worker ->
        system.ClaimCommitted owner id attempt) :
    Serial applyRevocation start (system.commit worker).store
        (system.commit worker).log (system.commit worker).effects ∧
      SettledByClaims (system.commit worker).log :=
  ⟨fenced.serial.commit, fenced.settled.append claims⟩

theorem Fenced.commit_advance (claims : ∀ id owner attempt outcome,
      (id, .settle owner attempt outcome) ∈ system.effects worker ->
        system.ClaimCommitted owner id attempt)
    (sound : (system.commit worker).StageSound worker stage) :
    Fenced start ((system.commit worker).advance worker current stage) := by
  obtain ⟨serial, settled⟩ := fenced.commit_log claims
  exact fenced.of_statement serial settled (fun _ different => (unaffected_commit different).trans
      (unaffected_advance current stage different))
    (workerSound_advance sound)

omit fenced in
theorem commit_effects : (system.commit worker).effects worker = [] :=
  Function.update_self ..

omit fenced in
theorem rollback_effects : (system.rollback worker).effects worker = [] :=
  Function.update_self ..

theorem Fenced.update_serial (meant : ∀ row result, system.store.visible worker id = some row ->
      change row = some result -> applyRevocation row effect = some result)
    (updated : system.update worker id effect change = some (after, changed)) :
    Serial applyRevocation start after.store after.log after.effects := by
  rcases update_cases updated with ⟨rfl, rfl⟩ | ⟨row, result, available, isRow, isResult, rfl, -⟩
  · exact fenced.serial
  · exact fenced.serial.write available isRow (meant row result isRow isResult)

omit fenced in
omit [DecidableEq τ] in
theorem update_log [DecidableEq τ] (updated : system.update worker id effect change =
      some (after, changed)) : after.log = system.log := by
  rcases update_cases updated with ⟨rfl, rfl⟩ | ⟨_, _, _, _, _, rfl, -⟩ <;> rfl

/-! ### Statements -/

theorem Fenced.flushAndCommit
    (accepted : ∀ row, system.store.visible worker id = some row -> effect.Accepts row)
    (claims : ∀ other owner attempt outcome,
      (other, .settle owner attempt outcome) ∈ system.effects worker ++ [(id, effect)] ->
        system.ClaimCommitted owner other attempt)
    (sound : ∀ committed : RevocationSystem τ,
      committed.effects worker = [] -> (id, effect) ∈ committed.log ->
        committed.StageSound worker stage)
    (taken : system.flushAndCommit worker id effect current stage =
      some after) : Fenced start after := by
  unfold RevocationSystem.flushAndCommit at taken
  cases updated : system.update worker id effect fun row =>
      some (effect.assign row) with
  | none => rw [updated] at taken; cases taken
  | some outcome =>
    obtain ⟨middle, changed⟩ := outcome
    rw [updated] at taken
    cases changed with
    | false =>
      cases taken
      exact fenced.crash
    | true =>
      cases taken
      have serial := fenced.update_serial (by
        intro row result isRow assigned
        rw [applyRevocation_of_accepts (accepted row isRow)]
        exact assigned) updated
      have written : middle.effects worker = system.effects worker ++ [(id, effect)] := by
        rcases update_cases updated with ⟨-, same⟩ | ⟨row, result, available, -, -, rfl, -⟩
        · cases same
        · exact Function.update_self ..
      have isLog : (middle.commit worker).log = system.log ++
          (system.effects worker ++ [(id, effect)]) := by
        rw [← update_log updated, ← written]
        rfl
      refine fenced.of_statement serial.commit ?_ (fun other different =>
        ((unaffected_update different updated).trans
          (unaffected_commit different)).trans (unaffected_advance current stage different))
        (workerSound_advance (sound _ commit_effects ?_))
      · show SettledByClaims (middle.commit worker).log
        rw [isLog]
        exact fenced.settled.append claims
      · rw [isLog]
        exact List.mem_append_right _ (List.mem_concat_self)

variable {now : Int}

theorem Fenced.claiming (sound : system.StageSound worker (.claiming id attempt now))
    (taken : system.flushAndCommit worker id (.claim worker attempt now)
      current (.verifying id attempt) = some after) :
    Fenced start after := by
  obtain ⟨only, -, row, isRow, claimable⟩ := sound
  refine fenced.flushAndCommit ?_ ?_ ?_ taken
  · intro other isOther
    obtain rfl : row = other := Option.some.inj (isRow.symm.trans isOther)
    exact claimable
  · intro other owner number outcome member
    rcases List.mem_added.mp member with before | last
    · exact absurd before only.no_settle
    · cases last
  · intro committed empty member
    exact ⟨empty, now, member⟩

theorem Fenced.settling {outcome : RevocationOutcome}
    (sound : system.StageSound worker (.settling id attempt outcome))
    (taken : system.flushAndCommit worker id
      (.settle worker attempt outcome) current .ready = some after) :
    Fenced start after := by
  obtain ⟨empty, claimed, -, row, isRow, current⟩ := sound
  refine fenced.flushAndCommit ?_ ?_ ?_ taken
  · intro other isOther
    obtain rfl : row = other := Option.some.inj (isRow.symm.trans isOther)
    exact current
  · intro other owner number result member
    rw [empty, List.nil_append] at member
    cases List.mem_singleton.mp member
    exact claimed
  · intro committed nothing _
    exact nothing

/-- A stale claim is given back. -/
theorem Fenced.reclaim {stale : List Int} (only : OnlyReclaims (system.effects worker))
    (taken : system.reclaim worker current now id stale = some after) :
    Fenced start after := by
  obtain ⟨⟨middle, changed⟩, updated, rfl⟩ := Option.map_eq_some_iff.mp taken
  have serial := fenced.update_serial (by
    intro row result _ isResult
    split_ifs at isResult with stale
    cases isResult
    exact applyRevocation_of_accepts stale.2) updated
  refine fenced.of_statement serial (update_log updated ▸ fenced.settled)
    (fun other different => (unaffected_update different updated).trans
      (unaffected_advance current _ different))
    (workerSound_advance ?_)
  show OnlyReclaims (middle.effects worker)
  rcases update_cases updated with ⟨rfl, -⟩ | ⟨row, result, available, -, -, rfl, -⟩
  · exact only
  · simp only [Function.update_self]
    intro made member
    rcases List.mem_added.mp member with before | last
    · exact only made before
    · exact ⟨now, by rw [last]⟩

theorem Fenced.lockRow {row : RevocableLink} (isRow : system.store.visible worker id = some row)
    (sound : ∀ locked : RevocationSystem τ,
      locked.effects = system.effects -> locked.log = system.log ->
        (∀ condition : RevocableLink -> Prop, condition row ->
          locked.LockedWith worker id condition) ->
          locked.StageSound worker stage)
    (taken : system.lockRow worker id current stage = some after) :
    Fenced start after := by
  have unaffected : ∀ other, other ≠ worker -> Unaffected system after other :=
    fun other different => unaffected_lockRow different taken
  unfold RevocationSystem.lockRow at taken
  split_ifs at taken with available
  cases taken
  refine fenced.of_statement (fenced.serial.lock available) fenced.settled
    unaffected (workerSound_advance (sound _ rfl rfl ?_))
  intro condition holds
  exact ⟨LockTable.acquire_self, row, isRow, holds⟩

omit fenced in
theorem exists_of_any {row : Option RevocableLink}
    {condition : RevocableLink -> Bool} (holds : row.any condition = true) :
    ∃ found, row = some found ∧ condition found = true := by
  cases row with
  | none => cases holds
  | some found => exact ⟨found, rfl, holds⟩

omit fenced in
theorem selectForUpdateSkipLocked_eq_some {condition : RevocableLink -> Bool}
    (selected : system.selectForUpdateSkipLocked worker condition = some id) :
    ∃ row, system.store.visible worker id = some row ∧ condition row = true := by
  have member := List.mem_of_find?_eq_some selected
  unfold select at member
  rw [List.mem_filter] at member
  exact exists_of_any member.2

/-- The first queued link is locked, or the call returns. -/
theorem Fenced.selectCandidate (only : OnlyReclaims (system.effects worker))
    (taken : system.selectCandidate worker current now = some after) :
    Fenced start after := by
  unfold RevocationSystem.selectCandidate at taken
  split at taken
  · cases taken
    obtain ⟨serial, settled⟩ := fenced.commit_log fun id owner attempt outcome (member : (id,
        .settle owner attempt outcome) ∈ system.effects worker) => absurd member only.no_settle
    exact fenced.of_statement serial settled (fun _ different => (unaffected_commit different).trans
        (unaffected_return current.counts different))
      (workerSound_return commit_effects)
  · rename_i id selected
    obtain ⟨row, isRow, holds⟩ := selectForUpdateSkipLocked_eq_some selected
    rw [isRow] at taken
    refine fenced.lockRow isRow ?_ taken
    intro locked sameEffects _ lockedWith
    refine ⟨sameEffects ▸ only, lockedWith _ ?_⟩
    exact ⟨(of_decide_eq_true holds).2, rfl⟩

/-- The claimed row is read again. -/
theorem Fenced.verify (empty : system.effects worker = [])
    (claimed : system.ClaimCommitted worker id attempt) :
    Fenced start (system.verify worker current id attempt) := by
  have claims : ∀ id owner attempt outcome, (id, RevocationEffect.settle owner attempt outcome) ∈
        system.effects worker -> system.ClaimCommitted owner id attempt := by
    intro _ _ _ _ member
    rw [empty] at member
    exact absurd member List.not_mem_nil
  unfold RevocationSystem.verify
  split_ifs
  · obtain ⟨now, member⟩ := claimed
    exact fenced.commit_advance claims ⟨commit_effects, now, List.mem_append_left _ member⟩
  · exact fenced.commit_advance claims commit_effects

theorem Fenced.selectCurrentLink {outcome : RevocationOutcome} (empty : system.effects worker = [])
    (claimed : system.ClaimCommitted worker id attempt)
    (taken : system.selectCurrentLink worker current id attempt outcome =
      some after) : Fenced start after := by
  unfold RevocationSystem.selectCurrentLink at taken
  split_ifs at taken with matched
  · obtain ⟨row, isRow, holds⟩ := exists_of_any matched.1
    refine fenced.lockRow isRow ?_ taken
    intro locked sameEffects sameLog lockedWith
    obtain ⟨now, member⟩ := claimed
    exact ⟨sameEffects ▸ empty, ⟨now, sameLog ▸ member⟩, lockedWith _ (of_decide_eq_true holds).2⟩
  · cases taken
    exact fenced.of_statement fenced.serial.rollback fenced.settled
      (fun _ different => (unaffected_rollback different).trans (unaffected_advance _ _ different))
      (workerSound_advance rollback_effects)

theorem Fenced.next (isOpen : system.workers worker = some current)
    (taken : system.next worker current now = some after) :
    Fenced start after := by
  have sound := fenced.workers worker
  unfold WorkerSound at sound
  rw [isOpen] at sound
  simp only at sound
  unfold RevocationSystem.next at taken
  cases atStage : current.stage with
  | ready =>
    rw [atStage] at sound taken
    cases taken
    unfold beginIteration
    split_ifs
    · refine fenced.advance ?_
      intro made member
      rw [show system.effects worker = [] from sound] at member
      exact absurd member List.not_mem_nil
    · exact fenced.return_ sound
  | reclaiming started stale =>
    rw [atStage] at sound taken
    cases stale with
    | nil => exact fenced.selectCandidate sound taken
    | cons id stale => exact fenced.reclaim sound taken
  | claiming id attempt started =>
    rw [atStage] at sound taken
    exact fenced.claiming sound taken
  | verifying id attempt =>
    rw [atStage] at sound taken
    cases taken
    exact fenced.verify sound.1 sound.2
  | calling id attempt =>
    rw [atStage] at taken
    cases taken
  | recording id attempt outcome =>
    rw [atStage] at sound taken
    exact fenced.selectCurrentLink sound.1 sound.2 taken
  | settling id attempt outcome =>
    rw [atStage] at sound taken
    exact fenced.settling sound taken

/-- A link is queued by a session without a call. -/
theorem Fenced.queue (idle : system.workers worker = none) (empty : system.effects worker = [])
    (updated : system.update worker id .queue (fun row =>
      applyRevocation row (.queue : RevocationEffect τ)) =
        some (after, changed)) : Fenced start (after.commit worker) := by
  have serial := fenced.update_serial (fun row result _ applied => applied) updated
  refine fenced.of_statement serial.commit ?_
    (fun other (different : other ≠ worker) => (unaffected_update different updated).trans
      (unaffected_commit different)) ?_
  · show SettledByClaims (after.log ++ after.effects worker)
    rw [update_log updated]
    refine fenced.settled.append fun another owner attempt outcome member => ?_
    rcases update_cases updated with ⟨rfl, -⟩ | ⟨row, result, available, -, -, rfl, -⟩
    · rw [empty] at member
      exact absurd member List.not_mem_nil
    · simp only [Function.update_self, empty, List.nil_append] at member
      cases List.mem_singleton.mp member
  · have stillIdle : (after.commit worker).workers worker = none := by
      rcases update_cases updated with
        ⟨rfl, -⟩ | ⟨row, result, available, -, -, rfl, -⟩ <;> exact idle
    unfold WorkerSound
    rw [stillIdle]
    exact commit_effects

theorem Fenced.step {event : RevocationEvent τ}
    (taken : system.step event = some after) : Fenced start after := by
  cases event with
  | call worker hotelId reservationId limit enabled =>
    have sound := fenced.workers worker
    unfold WorkerSound at sound
    unfold RevocationSystem.step at taken
    simp only at taken
    cases isOpen : system.workers worker with
    | some current => rw [isOpen] at taken; cases taken
    | none =>
      rw [isOpen] at taken sound
      cases taken
      unfold RevocationSystem.call
      split_ifs
      · have ready : system.StageSound worker .ready := sound
        let opened : RevocationWorker :=
          { hotelId := hotelId, reservationId := reservationId
            boundedLimit := max 1 (min limit 100) }
        have advanced : Fenced start (system.advance worker opened .ready) := fenced.advance ready
        exact advanced
      · exact ⟨fenced.serial, fenced.settled, fenced.workers⟩
  | next worker now =>
    obtain ⟨current, isOpen, next⟩ := Option.bind_eq_some_iff.mp taken
    exact fenced.next isOpen next
  | answer worker answered =>
    obtain ⟨current, isOpen, answer⟩ := Option.bind_eq_some_iff.mp taken
    have sound := fenced.workers worker
    unfold WorkerSound at sound
    rw [isOpen] at sound
    simp only at sound
    unfold RevocationSystem.answer at answer
    cases atStage : current.stage with
    | calling id attempt =>
      rw [atStage] at sound answer
      cases answer
      exact fenced.advance sound
    | ready => rw [atStage] at answer; cases answer
    | reclaiming => rw [atStage] at answer; cases answer
    | claiming => rw [atStage] at answer; cases answer
    | verifying => rw [atStage] at answer; cases answer
    | recording => rw [atStage] at answer; cases answer
    | settling => rw [atStage] at answer; cases answer
  | crash worker =>
    cases taken
    exact fenced.crash
  | queue session id =>
    have sound := fenced.workers session
    unfold WorkerSound at sound
    unfold RevocationSystem.step at taken
    simp only at taken
    cases isOpen : system.workers session with
    | some current => rw [isOpen] at taken; cases taken
    | none =>
      rw [isOpen] at taken sound
      obtain ⟨⟨middle, changed⟩, updated, rfl⟩ := Option.map_eq_some_iff.mp taken
      exact fenced.queue isOpen sound updated

end

end RevocationSystem
end HotelPms.Links

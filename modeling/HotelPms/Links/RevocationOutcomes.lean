import HotelPms.Links.RevocationFencing

/-!
# Outcomes of revocations

Whatever the workers do and wherever they stop, an outcome is recorded by the
worker that holds the latest attempt, each attempt is held by one worker and
ends once, an ended revocation stays as it is, and a queued link never leaves
the queue without an outcome.
-/

namespace HotelPms.Links
namespace RevocationSystem

open RowStore Transition

variable {τ : Type} {system after : RevocationSystem τ}
    {start : Int -> Option RevocableLink} {worker other : τ} {id : Int}
    {attempt : Nat}

/-- The worker is at work on an attempt of a link. -/
def Holds (system : RevocationSystem τ) (worker : τ) (id : Int) (attempt : Nat) : Prop :=
  ∃ current, system.workers worker = some current ∧ current.stage.held = some (id, attempt)

section

variable (fenced : Fenced start system)
include fenced

theorem Fenced.held (holds : system.Holds worker id attempt) :
    system.ClaimCommitted worker id attempt ∨ OnlyReclaims (system.effects worker) ∧
        system.LockedWith worker id (ClaimableAs attempt) := by
  obtain ⟨current, isOpen, held⟩ := holds
  have sound := fenced.workers worker
  unfold WorkerSound at sound
  rw [isOpen] at sound
  simp only at sound
  cases atStage : current.stage with
  | ready => rw [atStage] at held; cases held
  | reclaiming => rw [atStage] at held; cases held
  | claiming => rw [atStage] at held sound; cases held; exact .inr sound
  | settling => rw [atStage] at held sound; cases held; exact .inl sound.2.1
  | _ => rw [atStage] at held sound; cases held; exact .inl sound.2

omit fenced in
/-- Giving claims back leaves the number of attempts. -/
theorem run_reclaims {effects : List (RevocationEffect τ)} {first row : RevocableLink}
    (only : ∀ effect ∈ effects, ∃ now, effect = .reclaim now)
    (ran : Transition.run applyRevocation first effects = some row) :
    row.providerRevocationAttempts = first.providerRevocationAttempts := by
  induction effects generalizing first with
  | nil =>
    obtain rfl : first = row := by simpa [Transition.run] using ran
    rfl
  | cons effect effects ih =>
    obtain ⟨middle, applied, rest⟩ := Option.bind_eq_some_iff.mp ran
    obtain ⟨now, rfl⟩ := only effect List.mem_cons_self
    obtain ⟨-, rfl⟩ := applyRevocation_eq_some applied
    show _ = ((RevocationEffect.reclaim now :
      RevocationEffect τ).assign first).providerRevocationAttempts
    exact ih ((List.forall_mem_cons.mp only).2) rest

theorem Fenced.not_claimCommitted (only : OnlyReclaims (system.effects worker))
    (locked : system.LockedWith worker id (ClaimableAs attempt)) :
    ¬system.ClaimCommitted other id attempt := by
  rintro ⟨now, member⟩
  rw [← mem_effectsOn] at member
  obtain ⟨first, last, -, isLast, path⟩ := fenced.serial.path (List.ne_nil_of_mem member)
  have bounded := (RevocationPath.of_run path).bounded _ member attempt rfl
  obtain ⟨-, row, isRow, -, next⟩ := locked
  have ran := fenced.serial.visible worker id
  rw [isRow, isLast] at ran
  have same := run_reclaims (fun effect made => ?_) ran
  · omega
  · obtain ⟨now, same⟩ := only _ ((mem_effectsOn id).mp made)
    exact ⟨now, same⟩

theorem Fenced.holder_unique (holds : system.Holds worker id attempt)
    (holdsToo : system.Holds other id attempt) : worker = other := by
  rcases fenced.held holds with ⟨now, claim⟩ | ⟨only, locked⟩
  · rcases fenced.held holdsToo with ⟨later, claimToo⟩ | ⟨only, locked⟩
    · rw [← mem_effectsOn] at claim claimToo
      obtain ⟨first, last, -, -, path⟩ := fenced.serial.path (List.ne_nil_of_mem claim)
      exact ((RevocationPath.of_run path).claim_unique claim claimToo).1
    · exact absurd ⟨now, claim⟩ (fenced.not_claimCommitted only locked)
  · rcases fenced.held holdsToo with claimed | ⟨-, lockedToo⟩
    · exact absurd claimed (fenced.not_claimCommitted only locked)
    · exact Option.some.inj (locked.1.symm.trans lockedToo.1)

theorem Fenced.outcome {before rest : List (Int × RevocationEffect τ)} {outcome : RevocationOutcome}
    (isLog : system.log = before ++ (id, .settle worker attempt outcome) :: rest) :
    (∃ earlier now, effectsOn id before = earlier ++ [.claim worker attempt now]) ∧
      effectsOn id rest = [] := by
  have onLink : effectsOn id system.log = effectsOn id before ++
      .settle worker attempt outcome :: effectsOn id rest := by
    rw [isLog, effectsOn_append, ← List.singleton_append, effectsOn_append,
      effectsOn_singleton_self]
    rfl
  obtain ⟨first, last, -, -, path⟩ := fenced.serial.path (show effectsOn id system.log ≠ [] by
      rw [onLink]
      simp)
  rw [onLink] at path
  obtain ⟨isLast, follows⟩ := settle_of_run path
  refine ⟨?_, isLast⟩
  obtain ⟨now, claimed⟩ := fenced.settled before id worker attempt outcome rest isLog
  rw [← mem_effectsOn] at claimed
  rcases follows with nothing | ⟨earlier, holder, later, follows⟩
  · rw [nothing] at claimed
    exact absurd claimed List.not_mem_nil
  · -- the claim that the outcome follows has the same number
    have path := RevocationPath.of_run path
    have claimedThere := List.mem_append_left
      (RevocationEffect.settle worker attempt outcome :: effectsOn id rest)
      claimed
    have followed : RevocationEffect.claim holder attempt later ∈
        effectsOn id before ++ .settle worker attempt outcome :: effectsOn id rest := by
      rw [follows]
      simp
    obtain ⟨rfl, -⟩ := path.claim_unique claimedThere followed
    exact ⟨earlier, later, follows⟩

theorem Fenced.claims_increase : (effectsOn id system.log).Pairwise fun earlier later =>
      ∀ before ∈ earlier.claimNumber, ∀ after ∈ later.claimNumber, before < after := by
  by_cases nothing : effectsOn id system.log = []
  · rw [nothing]
    exact .nil
  · obtain ⟨first, last, -, -, path⟩ := fenced.serial.path nothing
    exact (RevocationPath.of_run path).increasing

theorem Fenced.onwards {later : RevocationSystem τ} (fencedLater : Fenced start later)
    (grows : system.log <+: later.log)
    (timed : ∀ id, ∀ row ∈ start id, row.ClaimTimed)
    {row : RevocableLink} (isRow : system.store.committed id = some row) :
    (row.Settled -> later.store.committed id = some row ∧
      effectsOn id later.log = effectsOn id system.log) ∧
      (row.Queued -> ∃ result, later.store.committed id = some result ∧ result.Tracked) := by
  obtain ⟨more, isMore⟩ := grows
  have serialLater := fencedLater.serial
  rw [← isMore] at serialLater
  obtain ⟨result, isResult, ran⟩ := fenced.serial.onwards serialLater isRow
  constructor
  · intro settled
    have nothing := run_settled settled ran
    rw [nothing] at ran
    obtain rfl : row = result := by simpa [Transition.run] using ran
    refine ⟨isResult, ?_⟩
    rw [← isMore, effectsOn_append, nothing, List.append_nil]
  · intro queued
    refine ⟨result, isResult, ?_⟩
    refine ((RevocationPath.of_run ran).queued queued).tracked ?_
    refine (RevocationPath.of_run ran).timed ?_
    have committed := fenced.serial.committed id
    rw [isRow] at committed
    cases isFirst : start id with
    | none => rw [isFirst] at committed; cases committed
    | some first =>
      rw [isFirst] at committed
      exact (RevocationPath.of_run committed).timed (timed id first isFirst)

end

variable [DecidableEq τ]

variable {current : RevocationWorker}

theorem log_flushAndCommit {effect : RevocationEffect τ} {stage : RevocationStage}
    (taken : system.flushAndCommit worker id effect current stage =
      some after) : system.log <+: after.log := by
  unfold RevocationSystem.flushAndCommit at taken
  cases updated : system.update worker id effect fun row =>
      some (effect.assign row) with
  | none => rw [updated] at taken; cases taken
  | some outcome =>
    obtain ⟨middle, changed⟩ := outcome
    rw [updated] at taken
    cases changed with
    | false => cases taken; exact List.prefix_rfl
    | true =>
      cases taken
      exact update_log updated ▸ List.prefix_append ..

theorem log_lockRow {stage : RevocationStage}
    (taken : system.lockRow worker id current stage = some after) :
    after.log = system.log := by
  unfold RevocationSystem.lockRow at taken
  split_ifs at taken
  cases taken
  rfl

theorem log_next {now : Int} (taken : system.next worker current now = some after) :
    system.log <+: after.log := by
  unfold RevocationSystem.next at taken
  split at taken
  · cases taken
    unfold beginIteration
    split_ifs <;> exact List.prefix_rfl
  · obtain ⟨⟨middle, changed⟩, updated, rfl⟩ := Option.map_eq_some_iff.mp taken
    exact update_log updated ▸ List.prefix_rfl
  · unfold RevocationSystem.selectCandidate at taken
    split at taken
    · cases taken
      exact List.prefix_append ..
    · obtain ⟨row, -, locked⟩ := Option.bind_eq_some_iff.mp taken
      exact log_lockRow locked ▸ List.prefix_rfl
  · exact log_flushAndCommit taken
  · cases taken
    unfold RevocationSystem.verify
    split_ifs <;> exact List.prefix_append ..
  · cases taken
  · unfold RevocationSystem.selectCurrentLink at taken
    split_ifs at taken
    · exact log_lockRow taken ▸ List.prefix_rfl
    · cases taken
      exact List.prefix_rfl
  · exact log_flushAndCommit taken

/-- What is committed stays committed. -/
theorem log_step {event : RevocationEvent τ}
    (taken : system.step event = some after) : system.log <+: after.log := by
  cases event with
  | call worker hotelId reservationId limit enabled =>
    unfold RevocationSystem.step at taken
    simp only at taken
    cases isOpen : system.workers worker with
    | some current => rw [isOpen] at taken; cases taken
    | none =>
      rw [isOpen] at taken
      cases taken
      unfold RevocationSystem.call
      split_ifs <;> exact List.prefix_rfl
  | next worker now =>
    obtain ⟨current, -, next⟩ := Option.bind_eq_some_iff.mp taken
    exact log_next next
  | answer worker answered =>
    obtain ⟨current, -, answer⟩ := Option.bind_eq_some_iff.mp taken
    unfold RevocationSystem.answer at answer
    split at answer
    · cases answer
      exact List.prefix_rfl
    · cases answer
  | crash worker =>
    cases taken
    exact List.prefix_rfl
  | queue session id =>
    unfold RevocationSystem.step at taken
    simp only at taken
    cases isOpen : system.workers session with
    | some current => rw [isOpen] at taken; cases taken
    | none =>
      rw [isOpen] at taken
      obtain ⟨⟨middle, changed⟩, updated, rfl⟩ := Option.map_eq_some_iff.mp taken
      exact update_log updated ▸ List.prefix_append ..

theorem Fenced.run (fenced : Fenced start system) {events : List (RevocationEvent τ)}
    (ran : run RevocationSystem.step system events = some after) :
    Fenced start after ∧ system.log <+: after.log :=
  @run_invariant _ _ RevocationSystem.step system after
    (fun _ after => Fenced start after ∧ system.log <+: after.log)
    ⟨fenced, List.prefix_rfl⟩
    (fun kept taken => ⟨kept.1.step taken, kept.2.trans (log_step taken)⟩)
    events ran

/-- In every interleaving of the statements of all workers, an outcome is
recorded by the worker whose claim is the latest one of the link and is the
last update of the link, later claims have higher numbers and an attempt has
one holder, a revocation that has ended stays as it is, and a queued link is
waiting, claimed at a known time, or ended. -/
theorem processPaymentLinkRevocations_fenced (ids : List Int)
    (timed : ∀ id, ∀ row ∈ start id, row.ClaimTimed)
    {events : List (RevocationEvent τ)}
    (ran : run step (initial ids start) events = some system) :
    (∀ before id worker attempt outcome rest,
      system.log = before ++ (id, .settle worker attempt outcome) :: rest ->
        (∃ earlier now, effectsOn id before =
          earlier ++ [.claim worker attempt now]) ∧ effectsOn id rest = []) ∧
      (∀ id, (effectsOn id system.log).Pairwise fun earlier later =>
        ∀ before ∈ earlier.claimNumber, ∀ after ∈ later.claimNumber, before < after) ∧
      (∀ worker other id attempt, system.Holds worker id attempt ->
        system.Holds other id attempt -> worker = other) ∧
      ∀ later more, run step system more = some later ->
        ∀ id row, system.store.committed id = some row ->
          (row.Settled -> later.store.committed id = some row ∧
            effectsOn id later.log = effectsOn id system.log) ∧
            (row.Queued -> ∃ result, later.store.committed id = some result ∧ result.Tracked) := by
  have fenced : Fenced start system := ((fenced_initial ids).run ran).1
  refine ⟨fun _ _ _ _ _ _ isLog => fenced.outcome isLog, fun _ => fenced.claims_increase,
    fun _ _ _ _ holds holdsToo => fenced.holder_unique holds holdsToo,
    fun later more ranLater id row isRow => ?_⟩
  obtain ⟨fencedLater, grows⟩ := fenced.run ranLater
  exact fenced.onwards fencedLater grows timed isRow

def queuedLink : RevocableLink where
  hotelId := 1
  reservationId := 7
  status := .cancelled
  executionMode := .provider
  provider := "mercado_pago"
  providerRevocationStatus := .pending

/-- The first worker is still waiting for the provider when its claim has
become stale and the second one claims the link anew; then the first answer
comes. -/
def lateWorker : List (RevocationEvent Bool) :=
  [.call true 1 none 50 true, .next true 0, .next true 0, .next true 0, .next true 0,
    .call false 1 none 50 true, .next false 400, .next false 400,
    .next false 400, .next false 400, .next false 400,
    .answer true .otherError, .next true 401,
    .answer false (.returned (.object [("preference_expired", .bool true)])),
    .next false 402, .next false 402]

/-- The outcome of a late worker is skipped. -/
theorem processPaymentLinkRevocations_fenced_late : ∃ system, run step (initial [1] fun id =>
        if id = 1 then some queuedLink else none) lateWorker = some system ∧
      system.log = ([(1, .claim true 1 0), (1, .reclaim 400),
        (1, .claim false 2 400), (1, .settle false 2 .succeeded)] :
          List (Int × RevocationEffect Bool)) ∧
      (∃ earlier now, effectsOn 1 ([(1, .claim true 1 0), (1, .reclaim 400),
        (1, .claim false 2 400)] : List (Int × RevocationEffect Bool)) =
          earlier ++ [.claim false 2 now]) := by
  have results : (run step (initial [1] fun id =>
      if id = 1 then some queuedLink else none) lateWorker).map RevocationSystem.log =
      some ([(1, .claim true 1 0), (1, .reclaim 400),
        (1, .claim false 2 400), (1, .settle false 2 .succeeded)] :
          List (Int × RevocationEffect Bool)) := by
    decide +kernel
  obtain ⟨system, ran, isLog⟩ := Option.map_eq_some_iff.mp results
  refine ⟨system, ran, isLog, ?_⟩
  refine ((processPaymentLinkRevocations_fenced [1] ?_ ran).1 _ 1 false 2 .succeeded [] isLog).1
  intro id row isRow
  split_ifs at isRow
  · cases isRow
    unfold RevocableLink.ClaimTimed queuedLink
    simp
  · cases isRow

end RevocationSystem
end HotelPms.Links

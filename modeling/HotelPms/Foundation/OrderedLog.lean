import HotelPms.Foundation.KeySort

/-!
# Readers of an ordered log

Rows are appended to a log under growing keys, and a reader takes the rows
above its cursor in batches.  A batch is gapless from a cursor when it holds
every row of the log between the cursor and its own last row.  A reader that
works through a gapless batch in order meets each row as the next one of the
log, so that its cursor passes none.
-/

namespace OrderedLog

open KeySort

variable {ρ κ σ : Type*} [LinearOrder κ]

/-- The first rows above a cursor. -/
def batch (key : ρ -> κ) (limit : Nat) (log : List ρ) (cursor : κ) : List ρ :=
  ((sortByKey key log).filter (cursor < key ·)).take limit

/-- Rows in the order of distinct keys. -/
def Increasing (key : ρ -> κ) (rows : List ρ) : Prop :=
  rows.Pairwise fun first second => key first < key second

/-- No row of the log lies between the cursor and the last of the rows without
being one of them. -/
def Gapless (key : ρ -> κ) (log : List ρ) (cursor : κ) (rows : List ρ) : Prop :=
  ∀ row ∈ log, cursor < key row -> (∃ last ∈ rows, key row ≤ key last) -> row ∈ rows

variable {key : ρ -> κ} {log rows : List ρ} {cursor : κ} {row : ρ}

theorem sortByKey_of_increasing (increasing : Increasing key log) : sortByKey key log = log := by
  exact List.Pairwise.insertionSort_eq (increasing.imp le_of_lt)

theorem Increasing.append (increasing : Increasing key log)
    (above : ∀ other ∈ log, key other < key row) :
    Increasing key (log ++ [row]) := by
  unfold Increasing
  rw [List.pairwise_append]
  refine ⟨increasing, List.pairwise_singleton _ _, ?_⟩
  intro other member last isLast
  rw [List.mem_singleton.mp isLast]
  exact above other member

theorem Increasing.eq_of_key (increasing : Increasing key log)
    {other : ρ} (member : row ∈ log) (otherIn : other ∈ log)
    (same : key row = key other) : row = other := by
  induction log with
  | nil => cases member
  | cons first log ih =>
    obtain ⟨above, increasing⟩ := List.pairwise_cons.mp increasing
    rcases List.mem_cons.mp member with rfl | later
    · rcases List.mem_cons.mp otherIn with rfl | otherLater
      · rfl
      · exact absurd same (above other otherLater).ne
    · rcases List.mem_cons.mp otherIn with rfl | otherLater
      · exact absurd same (above row later).ne'
      · exact ih increasing later otherLater

theorem mem_log_of_mem_batch {limit : Nat} (member : row ∈ batch key limit log cursor) :
    row ∈ log ∧ cursor < key row := by
  have kept := List.mem_of_mem_take member
  rw [List.mem_filter, mem_sortByKey, decide_eq_true_eq] at kept
  exact kept

theorem mem_take_batch {limit : Nat} (short : (batch key (limit + 1) log cursor).length ≤ limit)
    (member : row ∈ log) (above : cursor < key row) :
    row ∈ (batch key (limit + 1) log cursor).take limit := by
  rw [List.take_of_length_le short]
  unfold batch at short ⊢
  rw [List.length_take] at short
  rw [List.take_of_length_le (by omega)]
  simp [member, above]

theorem batch_increasing (increasing : Increasing key log) (limit : Nat) :
    Increasing key (batch key limit log cursor) := by
  unfold batch
  rw [sortByKey_of_increasing increasing]
  exact (increasing.filter _).sublist (List.take_sublist _ _)

/-- A batch leaves no row out before its last one. -/
theorem batch_gapless (increasing : Increasing key log) (limit : Nat) :
    Gapless key log cursor (batch key limit log cursor) := by
  rintro row member above ⟨last, lastIn, within⟩
  unfold batch at lastIn ⊢
  rw [sortByKey_of_increasing increasing] at lastIn ⊢
  have kept : row ∈ log.filter fun other => decide (cursor < key other) := by
    simp [member, above]
  have ordered : Increasing key (log.filter (cursor < key ·)) :=
    increasing.filter _
  rw [← List.take_append_drop limit (log.filter _)] at kept ordered
  rcases List.mem_append.mp kept with taken | dropped
  · exact taken
  · have later := (List.pairwise_append.mp ordered).2.2 last lastIn row dropped
    exact absurd within (not_le.mpr later)

theorem Gapless.mono (gapless : Gapless key log cursor rows) {further : κ}
    (forward : cursor ≤ further) : Gapless key log further rows := by
  intro row member above within
  exact gapless row member (lt_of_le_of_lt forward above) within

theorem Gapless.append (gapless : Gapless key log cursor rows) (known : ∀ other ∈ rows, other ∈ log)
    (above : ∀ other ∈ log, key other < key row) :
    Gapless key (log ++ [row]) cursor rows := by
  rintro other member aboveCursor ⟨last, lastIn, within⟩
  rcases List.mem_append.mp member with old | new
  · exact gapless other old aboveCursor ⟨last, lastIn, within⟩
  · rw [List.mem_singleton.mp new] at within
    exact absurd within (not_le.mpr (above last (known last lastIn)))

theorem Gapless.next {rest : List ρ} (gapless : Gapless key log cursor (row :: rest))
    (increasing : Increasing key (row :: rest))
    {other : ρ} (otherIn : other ∈ log) (above : cursor < key other) :
    key row ≤ key other := by
  by_contra before
  have between := not_le.mp before
  have listed := gapless other otherIn above ⟨row, List.mem_cons_self, between.le⟩
  rcases List.mem_cons.mp listed with rfl | later
  · exact lt_irrefl _ between
  · exact absurd ((List.pairwise_cons.mp increasing).1 other later) (not_lt.mpr between.le)

theorem Gapless.tail {rest : List ρ} (gapless : Gapless key log cursor (row :: rest)) {further : κ}
    (forward : cursor ≤ further) (passed : key row ≤ further) :
    Gapless key log further rest := by
  rintro other otherIn above ⟨last, lastIn, within⟩
  have listed := gapless other otherIn (lt_of_le_of_lt forward above)
    ⟨last, List.mem_cons_of_mem _ lastIn, within⟩
  rcases List.mem_cons.mp listed with rfl | later
  · exact absurd passed (not_le.mpr above)
  · exact later

theorem foldl_of_gapless (key : ρ -> κ) (step : σ -> ρ -> σ) (position : σ -> κ) (property : σ -> Prop)
    (skips : ∀ state row, key row ≤ position state -> step state row = state)
    (moves : ∀ state row, position state < key row -> position (step state row) = key row)
    (kept : ∀ state row, property state -> row ∈ log -> position state < key row ->
      (∀ other ∈ log, position state < key other -> key row ≤ key other) -> property (step state row))
    {start : σ} (initial : property start) (known : ∀ row ∈ rows, row ∈ log)
    (increasing : Increasing key rows)
    (gapless : Gapless key log (position start) rows) :
    property (rows.foldl step start) := by
  induction rows generalizing start with
  | nil => exact initial
  | cons row rest ih =>
    rw [List.foldl_cons]
    have rowIn := known row List.mem_cons_self
    have restIn : ∀ other ∈ rest, other ∈ log := fun other member =>
      known other (List.mem_cons_of_mem _ member)
    have restIncreasing := (List.pairwise_cons.mp increasing).2
    rcases le_or_gt (key row) (position start) with passed | above
    · rw [skips start row passed]
      exact ih initial restIn restIncreasing (gapless.tail le_rfl passed)
    · apply ih _ restIn restIncreasing
      · rw [moves start row above]
        exact gapless.tail above.le le_rfl
      · exact kept start row initial rowIn above fun other otherIn =>
          gapless.next increasing otherIn

/-- A reader never moves back. -/
theorem le_foldl (key : ρ -> κ) (step : σ -> ρ -> σ) (position : σ -> κ)
    (skips : ∀ state row, key row ≤ position state -> step state row = state)
    (moves : ∀ state row, position state < key row -> position (step state row) = key row)
    (start : σ) (rows : List ρ) : position start ≤ position (rows.foldl step start) := by
  induction rows generalizing start with
  | nil => exact le_rfl
  | cons row rest ih =>
    refine le_trans ?_ (ih (step start row))
    rcases le_or_gt (key row) (position start) with passed | above
    · rw [skips start row passed]
    · rw [moves start row above]
      exact above.le

/-- A reader passes every row it is given. -/
theorem le_foldl_of_mem (key : ρ -> κ) (step : σ -> ρ -> σ) (position : σ -> κ)
    (skips : ∀ state row, key row ≤ position state -> step state row = state)
    (moves : ∀ state row, position state < key row -> position (step state row) = key row)
    (start : σ) {rows : List ρ} (member : row ∈ rows) :
    key row ≤ position (rows.foldl step start) := by
  obtain ⟨before, later, rfl⟩ := List.append_of_mem member
  rw [List.foldl_append, List.foldl_cons]
  refine le_trans ?_ (le_foldl key step position skips moves _ later)
  rcases le_or_gt (key row) (position (before.foldl step start)) with passed | above
  · rw [skips _ row passed]
    exact passed
  · rw [moves _ row above]

end OrderedLog

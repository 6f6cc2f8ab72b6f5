import Mathlib.Data.List.Forall2

/-!
# Checked computations

Validation code is a sequence of guards that raise an error or let the
computation go on.  The lemmas below say what is known once such a sequence,
or a loop of them, has returned a value.
-/

namespace Checked

variable {ε α β : Type}

/-- Raise an error when a condition holds. -/
def raiseIf (bad : Prop) [Decidable bad] (error : ε) : Except ε Unit :=
  if bad then .error error else .ok ()

@[simp] theorem raiseIf_eq_ok {bad : Prop} [Decidable bad] {error : ε} {done : Unit} :
    raiseIf bad error = .ok done ↔ ¬bad := by
  unfold raiseIf
  split
  · next holds => simp [holds]
  · next fails => simp [fails]

variable {computation : Except ε α} {continuation : α -> Except ε β}

variable {result : β} {value : α} {results : List β}

/-- A sequence returns a value exactly when both of its parts do. -/
@[simp] theorem bind_eq_ok :
    (computation >>= continuation) = .ok result ↔
      ∃ value, computation = .ok value ∧ continuation value = .ok result := by
  cases computation with
  | error error => simp [bind, Except.bind]
  | ok value => simp [bind, Except.bind]

@[simp] theorem pure_eq_ok {result : α} :
    (pure value : Except ε α) = .ok result ↔ value = result := by
  simp [pure, Except.pure]

@[simp] theorem throw_ne_ok {error : ε} {result : α} :
    ¬(throw error : Except ε α) = .ok result := by
  simp [throw, throwThe, MonadExceptOf.throw]

/-- The first part of a result comes from a whole result. -/
theorem map_fst_eq_ok {computation : Except ε (α × β)} {first : α} :
    computation.map Prod.fst = .ok first ↔ ∃ second, computation = .ok (first, second) := by
  cases computation with
  | error error => simp [Except.map]
  | ok result =>
    obtain ⟨found, second⟩ := result
    simp [Except.map]

theorem exists_ok_of_isOk {expected : Bool} (succeeds : computation.isOk = true)
    (decided : (computation.bind continuation).isOk = expected) :
    ∃ value, computation = .ok value ∧ (continuation value).isOk = expected := by
  cases computation with
  | error error => cases succeeds
  | ok value => exact ⟨value, rfl, decided⟩

variable {items : List α}

@[simp] theorem forM_eq_ok {check : α -> Except ε Unit} {done : Unit} :
    items.forM check = .ok done ↔ ∀ item ∈ items, check item = .ok () := by
  induction items with
  | nil => simp [List.forM, pure, Except.pure]
  | cons item items ih =>
    show (check item >>= fun _ => items.forM check) = _ ↔ _
    rw [bind_eq_ok]
    constructor
    · rintro ⟨_, first, rest⟩ other member
      rcases List.mem_cons.mp member with rfl | member
      · exact first
      · exact ih.mp rest other member
    · intro all
      exact ⟨(), all item (by simp), ih.mpr fun other member =>
          all other (List.mem_cons_of_mem _ member)⟩

variable {compute : α -> Except ε β}

/-- A loop that returns one value for each item returns them in order. -/
theorem forall₂_of_mapM_eq_ok (computed : items.mapM compute = .ok results) :
    List.Forall₂ (fun item result => compute item = .ok result) items results := by
  induction items generalizing results with
  | nil =>
    cases computed
    exact .nil
  | cons item items ih =>
    simp only [List.mapM_cons, bind_eq_ok, pure_eq_ok] at computed
    obtain ⟨first, firstComputed, rest, restComputed, rfl⟩ := computed
    exact .cons firstComputed (ih restComputed)

/-- A loop whose rounds all succeed returns their values. -/
theorem mapM_eq_ok_map {value : α -> β}
    (succeeds : ∀ item ∈ items, compute item = .ok (value item)) :
    items.mapM compute = .ok (items.map value) := by
  induction items with
  | nil => rfl
  | cons item items ih =>
    rw [List.mapM_cons, bind_eq_ok]
    refine ⟨_, succeeds item List.mem_cons_self, bind_eq_ok.mpr ⟨_, ih fun other member =>
        succeeds other (List.mem_cons_of_mem _ member), rfl⟩⟩

theorem eq_map_of_mapM_eq_ok {value : α -> β} (computed : items.mapM compute = .ok results)
    (computes : ∀ {item result}, compute item = .ok result -> result = value item) :
    results = items.map value := by
  have related := forall₂_of_mapM_eq_ok computed
  clear computed
  induction related with
  | nil => rfl
  | cons first _ ih =>
    rw [List.map_cons, computes first, ih]

theorem exists_of_mem_mapM (computed : items.mapM compute = .ok results)
    (member : result ∈ results) :
    ∃ item ∈ items, compute item = .ok result := by
  have related := forall₂_of_mapM_eq_ok computed
  clear computed
  induction related with
  | nil => cases member
  | cons first _ ih =>
    rcases List.mem_cons.mp member with rfl | member
    · exact ⟨_, by simp, first⟩
    · obtain ⟨item, itemIn, itemComputed⟩ := ih member
      exact ⟨item, List.mem_cons_of_mem _ itemIn, itemComputed⟩

theorem exists_result_of_mem_mapM (computed : items.mapM compute = .ok results) {item : α}
    (member : item ∈ items) :
    ∃ result ∈ results, compute item = .ok result := by
  have related := forall₂_of_mapM_eq_ok computed
  clear computed
  induction related with
  | nil => cases member
  | cons first _ ih =>
    rcases List.mem_cons.mp member with rfl | member
    · exact ⟨_, by simp, first⟩
    · obtain ⟨result, resultIn, resultComputed⟩ := ih member
      exact ⟨result, List.mem_cons_of_mem _ resultIn, resultComputed⟩

theorem foldlM_invariant {round : β -> α -> Except ε β} {start : β}
    (property : β -> Prop) (initial : property start)
    (kept : ∀ {state item next}, item ∈ items -> property state ->
      round state item = .ok next -> property next)
    (folded : items.foldlM round start = .ok result) : property result := by
  induction items generalizing start with
  | nil =>
    rw [List.foldlM_nil, pure_eq_ok] at folded
    exact folded ▸ initial
  | cons item items ih =>
    rw [List.foldlM_cons, bind_eq_ok] at folded
    obtain ⟨next, first, rest⟩ := folded
    exact ih (kept List.mem_cons_self initial first)
      (fun member => kept (List.mem_cons_of_mem _ member)) rest

theorem toOption_eq_some (accepted : computation.toOption = some value) :
    computation = .ok value := by
  cases computation with
  | error error => cases accepted
  | ok result => exact congrArg Except.ok (Option.some.inj accepted)

/-- Every failure of a computation is of one kind. -/
def FailsWith (kind : ε -> Prop) (computation : Except ε α) : Prop :=
  ∀ error, computation = .error error -> kind error

variable {kind : ε -> Prop}

theorem FailsWith.ok : FailsWith kind (.ok value : Except ε α) := by
  intro error failed
  cases failed

theorem FailsWith.error {error : ε} (ofKind : kind error) :
    FailsWith kind (.error error : Except ε α) := by
  intro other failed
  exact Except.error.inj failed ▸ ofKind

theorem FailsWith.raiseIf {bad : Prop} [Decidable bad] {error : ε}
    (ofKind : kind error) : FailsWith kind (raiseIf bad error) := by
  unfold Checked.raiseIf
  split
  · exact .error ofKind
  · exact .ok

theorem FailsWith.bind (first : FailsWith kind computation)
    (rest : ∀ value, FailsWith kind (continuation value)) :
    FailsWith kind (computation >>= continuation) := by
  cases computation with
  | error error => exact .error (first error rfl)
  | ok value => exact rest value

end Checked

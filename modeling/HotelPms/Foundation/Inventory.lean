import HotelPms.Foundation.GroupSum

/-!
# Balances of an inventory

An inventory is a ledger of entries.  Each entry adds an amount, which may be
negative, to an item, at a place or at none.  The balance of an item adds up
all its entries, and its balance at a place those made there.
-/

namespace Inventory

/-- An amount of an item that comes in, or goes out when it is negative. -/
structure Entry (ι π : Type*) where
  item : ι
  place : Option π
  amount : Int

variable {ι π : Type*}

def Entry.CountsIn (entry : Entry ι π) (item : ι) (place : Option π) : Prop :=
  entry.item = item ∧ (place = none ∨ entry.place = place)

variable [DecidableEq ι] [DecidableEq π]

instance (entry : Entry ι π) (item : ι) (place : Option π) :
    Decidable (entry.CountsIn item place) :=
  inferInstanceAs (Decidable (_ ∧ _))

/-- What an entry adds to a balance. -/
def Entry.effect (entry : Entry ι π) (item : ι) (place : Option π) : Int :=
  if entry.CountsIn item place then entry.amount else 0

/-- Balance of an item, at a place if one is given. -/
def balance (ledger : List (Entry ι π)) (item : ι) (place : Option π) : Int :=
  ((ledger.filter (·.CountsIn item place)).map Entry.amount).sum

def NeverNegative (ledger : List (Entry ι π)) : Prop :=
  ∀ item place, 0 ≤ balance ledger item place

/-- No balance at a place is negative. -/
def PlacesCovered (ledger : List (Entry ι π)) : Prop :=
  ∀ item place, 0 ≤ balance ledger item (some place)

variable {ledger : List (Entry ι π)} {entry : Entry ι π} {item : ι} {place : Option π}

theorem balance_append (first second : List (Entry ι π)) : balance (first ++ second) item place =
      balance first item place + balance second item place := by
  unfold balance
  rw [List.filter_append, List.map_append, List.sum_append]

theorem balance_singleton : balance [entry] item place = entry.effect item place := by
  unfold balance Entry.effect
  by_cases counts : entry.CountsIn item place
  · simp [counts]
  · simp [counts]

theorem balance_concat : balance (ledger ++ [entry]) item place =
      balance ledger item place + entry.effect item place := by
  rw [balance_append, balance_singleton]

theorem effect_self : entry.effect entry.item entry.place = entry.amount :=
  if_pos ⟨rfl, .inr rfl⟩

theorem effect_total : entry.effect entry.item none = entry.amount :=
  if_pos ⟨rfl, .inl rfl⟩

theorem effect_of_item_ne (differs : entry.item ≠ item) : entry.effect item place = 0 :=
  if_neg (differs ·.1)

theorem effect_of_place_ne {elsewhere : π} (differs : entry.place ≠ some elsewhere) :
    entry.effect item (some elsewhere) = 0 := by
  apply if_neg
  rintro ⟨-, nowhere | here⟩
  · cases nowhere
  · exact differs here

theorem neverNegative_iff :
    NeverNegative ledger ↔ PlacesCovered ledger ∧ ∀ item, 0 ≤ balance ledger item none := by
  constructor
  · intro nonneg
    exact ⟨fun item place => nonneg item (some place), (nonneg · none)⟩
  · rintro ⟨covered, total⟩ item place
    cases place with
    | none => exact total item
    | some place => exact covered item place

theorem PlacesCovered.concat (covered : PlacesCovered ledger) (within : entry.place ≠ none ->
      0 ≤ balance ledger entry.item entry.place + entry.amount) :
    PlacesCovered (ledger ++ [entry]) := by
  intro item place
  rw [balance_concat]
  have before := covered item place
  by_cases counts : entry.CountsIn item (some place)
  · obtain ⟨rfl, nowhere | here⟩ := counts
    · cases nowhere
    · have enough := within (here ▸ Option.some_ne_none place)
      rw [← here, effect_self]
      exact enough
  · rw [Entry.effect, if_neg counts, add_zero]
    exact before

theorem balance_move (amount : Int) (source target : Option π) (moved : ι) :
    balance (ledger ++ [⟨moved, source, -amount⟩, ⟨moved, target, amount⟩]) item none =
      balance ledger item none := by
  rw [List.append_cons, balance_concat, balance_concat]
  by_cases same : moved = item
  · simp [Entry.effect, Entry.CountsIn, same]
  · rw [effect_of_item_ne same, effect_of_item_ne same]
    omega

theorem balance_move_place (amount : Int) (source target elsewhere : π) (moved : ι) :
    balance (ledger ++ [⟨moved, some source, -amount⟩, ⟨moved, some target, amount⟩])
        item (some elsewhere) = balance ledger item (some elsewhere) -
          (if moved = item ∧ source = elsewhere then amount else 0) +
        (if moved = item ∧ target = elsewhere then amount else 0) := by
  rw [List.append_cons, balance_concat, balance_concat]
  unfold Entry.effect Entry.CountsIn
  simp only [reduceCtorEq, false_or, Option.some.injEq]
  split_ifs <;> omega

/-- Totals of the items by place: `GROUP BY item, place`. -/
def groupedBalances (ledger : List (Entry ι π)) : List ((ι × Option π) × Int) :=
  GroupSum.groupSum (fun entry => (entry.item, entry.place)) Entry.amount ledger

theorem getD_lookup_groupedBalances (place : π) :
    ((groupedBalances ledger).lookup (item, some place)).getD 0 =
      balance ledger item (some place) := by
  rw [lawful_beq_subsingleton instBEqProd instBEqOfDecidableEq,
    groupedBalances, GroupSum.getD_lookup_groupSum]
  unfold GroupSum.totalOf balance
  simp [Entry.CountsIn, Prod.ext_iff]

theorem sum_groupedBalances : (((groupedBalances ledger).filter (·.1.1 = item)).map Prod.snd).sum =
      balance ledger item none := by
  have keys : (groupedBalances ledger).filter (·.1.1 = item) =
        (((ledger.map fun entry => (entry.item, entry.place)).dedup).filter
          (·.1 = item)).map fun key =>
            (key, GroupSum.totalOf (fun entry : Entry ι π => (entry.item, entry.place))
              Entry.amount ledger key) := by
    unfold groupedBalances GroupSum.groupSum
    rw [List.filter_map]
    rfl
  rw [keys, List.map_map]
  -- an item's groups only read the entries of the item
  have own : ∀ key ∈ ((ledger.map fun entry =>
      (entry.item, entry.place)).dedup).filter (·.1 = item),
      GroupSum.totalOf (fun entry : Entry ι π => (entry.item, entry.place))
          Entry.amount ledger key =
        GroupSum.totalOf (fun entry : Entry ι π => (entry.item, entry.place)) Entry.amount
          (ledger.filter (·.item = item)) key := by
    intro key member
    rw [List.mem_filter, decide_eq_true_eq] at member
    symm
    apply GroupSum.totalOf_filter
    rintro entry - rfl
    exact decide_eq_true member.2
  refine (congrArg List.sum (List.map_congr_left own)).trans ?_
  rw [GroupSum.sum_totalOf]
  · unfold balance Entry.CountsIn
    simp
  · exact (List.nodup_dedup _).filter _
  · intro entry member
    rw [List.mem_filter, decide_eq_true_eq] at member
    rw [List.mem_filter, List.mem_dedup, decide_eq_true_eq]
    exact ⟨List.mem_map_of_mem member.1, member.2⟩

end Inventory

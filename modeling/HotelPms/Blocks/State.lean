import HotelPms.Allocation.Acceptance
import HotelPms.Booking.Availability
import HotelPms.Foundation.Table

/-!
# Room blocks and allocation runs of one hotel

Block rows with their numbers, beside the other tables of the hotel and the
stored runs whose plans make room for a block.  `BlockedHotel.hotel` shows the
tables as the availability reads see them, with the blocks of these rows.
-/

namespace HotelPms.Blocks

open Hotel HalfOpen Checked

/-- Last day of the calendar, 31 December 9999. -/
def dateMax : Int := 3652059

structure RoomBlockRow extends RoomBlock where
  id : Int

namespace RoomBlockRow

/-- Days the block keeps its room closed, without end if it is indefinite. -/
def window (row : RoomBlockRow) : WithTop Int × WithTop Int :=
  openEnded row.startsAt row.endsAt

/-- The block is still in force. -/
def Unresolved (row : RoomBlockRow) : Prop := row.resolvedAt = none
deriving Decidable

end RoomBlockRow

/-- Days of a stay, among the days without end. -/
def stayWindow (reservation : Reservation) : WithTop Int × WithTop Int :=
  openEnded reservation.checkInDate (some reservation.checkOutDate)

/-- Block that the constraints of a run name. -/
inductive ProposedBlock
  | roomBlock (roomId startsAt : Int) (endsAt : Option Int)
      (isIndefinite : Bool)
  | extension (blockId roomId previousEndsAt endsAt : Int)
  deriving DecidableEq

/-- What the stored constraints of a run decode to, apart from their kind. -/
inductive ProposalContext
  | missing
  | invalid
  | details (block : Option ProposedBlock)
      (conflictReservationIds : List Int)

structure StoredRun where
  id : Int
  run : Allocation.AllocationRun
  context : ProposalContext := .missing

/-- The tables of one hotel, its block rows and its allocation runs. -/
structure BlockedHotel where
  tables : HotelState
  blockRows : List RoomBlockRow := []
  nextBlockId : Int := 1
  numbered : Table.Numbered RoomBlockRow.id nextBlockId blockRows
  runs : List StoredRun := []

namespace BlockedHotel

/-- The tables with the blocks of the block rows. -/
def hotel (blocked : BlockedHotel) : HotelState :=
  { blocked.tables with blocks := blocked.blockRows.map RoomBlockRow.toRoomBlock }

def blockRow? (blocked : BlockedHotel) (id : Int) : Option RoomBlockRow :=
  Table.find RoomBlockRow.id id blocked.blockRows

/-- Stored run with an id. -/
def run? (blocked : BlockedHotel) (id : Int) : Option StoredRun :=
  Table.find StoredRun.id id blocked.runs

def insertBlock (blocked : BlockedHotel) (block : RoomBlock) : BlockedHotel :=
  { blocked with
    blockRows := blocked.blockRows ++ [{ block with id := blocked.nextBlockId }]
    nextBlockId := blocked.nextBlockId + 1
    numbered := blocked.numbered.append rfl }

/-- Overwrite the block row with the id of `row`. -/
def replaceBlock (blocked : BlockedHotel) (row : RoomBlockRow) : BlockedHotel :=
  { blocked with
    blockRows := Table.replace RoomBlockRow.id row blocked.blockRows
    numbered := blocked.numbered.of_map_key_eq Table.map_key_replace }

/-- Overwrite the tables beside the block rows. -/
def withTables (blocked : BlockedHotel) (tables : HotelState) : BlockedHotel :=
  { blocked with tables := tables }

@[simp] theorem withTables_tables (blocked : BlockedHotel) (tables : HotelState) :
    (blocked.withTables tables).tables = tables := rfl

variable {blocked : BlockedHotel} {row : RoomBlockRow}

theorem blockRow?_eq_some {id : Int} (found : blocked.blockRow? id = some row) :
    row ∈ blocked.blockRows ∧ row.id = id :=
  Table.find_eq_some found

theorem mem_insertBlock {block : RoomBlock} :
    row ∈ (blocked.insertBlock block).blockRows ↔ row ∈ blocked.blockRows ∨
        row = { block with id := blocked.nextBlockId } := by
  unfold insertBlock
  rw [List.mem_append, List.mem_singleton]

theorem meets_iff {start finish : Int} :
    row.Meets (start, finish) ↔ Overlap row.window (openEnded start (some finish)) := by
  unfold RoomBlockRow.window
  rw [overlap_openEnded]
  apply and_congr
  · simp
  · cases row.endsAt with
    | none => simp
    | some last => simp

theorem roomHasActiveBlock_eq_false {roomId start finish : Int} :
    Booking.roomHasActiveBlock blocked.hotel roomId (start, finish) = false ↔
      ∀ row ∈ blocked.blockRows, row.roomId = roomId -> row.Unresolved ->
        ¬Overlap row.window (openEnded start (some finish)) := by
  unfold Booking.roomHasActiveBlock
  rw [List.any_eq_false]
  constructor
  · intro none row member sameRoom unresolved overlap
    apply none row.toRoomBlock (List.mem_map_of_mem member)
    exact decide_eq_true ⟨sameRoom, unresolved, meets_iff.mpr overlap⟩
  · intro clear block member blocks
    obtain ⟨row, rowIn, rfl⟩ := List.mem_map.mp member
    obtain ⟨sameRoom, unresolved, meets⟩ := of_decide_eq_true blocks
    exact clear row rowIn sameRoom unresolved (meets_iff.mp meets)

end BlockedHotel
end HotelPms.Blocks

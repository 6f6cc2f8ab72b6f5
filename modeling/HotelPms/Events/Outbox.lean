import Mathlib.Algebra.Group.Int.Defs
import HotelPms.Foundation.Text

/-!
# Outbox rows and stream frames

A change of a hotel is stored as an outbox row together with the business
change, and reaches the browsers as a frame that names its domain.  Frames
carry no business data; a recovery frame asks for a whole domain to be read
again.
-/

namespace HotelPms.Events

/-- Domains that a change can be about, in alphabetical order. -/
def supportedDomains : List String :=
  ["analytics", "assistant", "cash", "guests", "notifications", "onboarding",
    "payments", "reservations", "rooms", "security", "settings", "stock",
    "users", "whatsapp"]

/-- A positive number that fits an integer column. -/
def IsId (number : Int) : Prop := 0 < number ∧ number < 2 ^ 31
deriving Decidable

/-- What the streams read of an outbox row.  Stream cursors are only ever set
to the number of their row. -/
structure OutboxRow where
  id : Int
  eventId : String
  hotelId : Int
  domain : String
  eventType : String
  schemaVersion : Int := 1
  streamCursor : Option Int := none
  revision : Int := 0
  occurredAt : Option String := none
  originKey : Option String := none
  isId : IsId id
  cursorIsId : ∀ cursor ∈ streamCursor, IsId cursor
  deriving DecidableEq

/-- Place of a row in the stream. -/
def OutboxRow.cursor (row : OutboxRow) : Int :=
  row.streamCursor.getD row.id

theorem OutboxRow.cursor_isId (row : OutboxRow) : IsId row.cursor := by
  unfold OutboxRow.cursor
  cases isCursor : row.streamCursor with
  | none => exact row.isId
  | some cursor => exact row.cursorIsId cursor isCursor

theorem OutboxRow.cursor_pos (row : OutboxRow) : 0 < row.cursor :=
  row.cursor_isId.1

/-- A frame of an event stream.  Recovery frames have no event. -/
structure Frame where
  hotelId : Int
  domain : String
  eventType : String
  cursor : Int
  schemaVersion : Option Int := none
  eventId : Option String := none
  revision : Option Int := none
  occurredAt : Option String := none
  originKey : Option String := none
  deriving DecidableEq

/-- Checks of a change that carries no payload. -/
def validEventInput (hotelId : Int) (domain eventType : String) : Bool :=
  decide (0 < hotelId) && supportedDomains.contains ((Text.strip domain).toLower) &&
    decide (Text.strip eventType ≠ "") &&
    decide ((Text.strip eventType).length ≤ 100) &&
    !(Text.strip eventType).toList.any Char.isWhitespace

def OutboxRow.frameDomain (row : OutboxRow) : String :=
  (Text.strip row.domain).toLower

/-- Frame of a committed row, unless the row is malformed. -/
def outboxSsePayload (row : OutboxRow) : Option Frame :=
  if validEventInput row.hotelId row.frameDomain (Text.strip row.eventType) = true then
    some
      { hotelId := row.hotelId, domain := row.frameDomain, eventType := Text.strip row.eventType
        cursor := row.cursor, schemaVersion := some row.schemaVersion, eventId := some row.eventId
        revision := some row.revision, occurredAt := row.occurredAt
        originKey := row.originKey.filter (· ≠ "") }
  else none

def recoveryRequired : String := "recovery_required"

def recoveryFrames (hotelId cursor : Int) : List Frame :=
  supportedDomains.map fun domain =>
    { hotelId := hotelId, domain := domain, eventType := recoveryRequired, cursor := cursor }

theorem outboxSsePayload_eq_some {row : OutboxRow} {frame : Frame}
    (isFrame : outboxSsePayload row = some frame) :
    frame.cursor = row.cursor ∧ frame.domain = row.frameDomain ∧
      frame.hotelId = row.hotelId ∧ frame.eventId = some row.eventId := by
  unfold outboxSsePayload at isFrame
  split_ifs at isFrame
  cases isFrame
  exact ⟨rfl, rfl, rfl, rfl⟩

theorem frameDomain_supported {row : OutboxRow} {frame : Frame}
    (isFrame : outboxSsePayload row = some frame) :
    row.frameDomain ∈ supportedDomains := by
  unfold outboxSsePayload at isFrame
  split_ifs at isFrame with valid
  unfold validEventInput OutboxRow.frameDomain at valid
  rw [Text.toLower_strip_toLower_strip] at valid
  simp only [Bool.and_eq_true, List.contains_iff_mem] at valid
  exact valid.1.1.1.2

theorem mem_recoveryFrames (hotelId cursor : Int) {domain : String}
    (supported : domain ∈ supportedDomains) :
    ∃ frame ∈ recoveryFrames hotelId cursor, frame.domain = domain ∧
      frame.eventType = recoveryRequired ∧ frame.cursor = cursor := by
  exact ⟨_, List.mem_map_of_mem supported, rfl, rfl, rfl⟩

def paymentRow : OutboxRow where
  id := 1
  eventId := "first"
  hotelId := 1
  domain := "payments"
  eventType := "payment.created"
  isId := by decide
  cursorIsId := by simp

/-- A later change of the rooms. -/
def roomRow : OutboxRow where
  id := 2
  eventId := "second"
  hotelId := 1
  domain := "rooms"
  eventType := "room.updated"
  isId := by decide
  cursorIsId := by simp

end HotelPms.Events

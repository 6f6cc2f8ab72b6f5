import HotelPms.Events.Hub

/-!
# The event loop of a browser tab

A tab keeps the cursor of the last frame it has taken in and drops frames that
are not above it.  A frame is passed to the refresh scheduler unless the tab
knows its event already, or handles the change itself: the change came from a
request of this tab that is in flight or was refreshed when it ended.  The
storage of the session is available, and frames arrive as they were queued.
-/

namespace HotelPms.Events

/-- Domains that the browser refreshes. -/
def queryDomains : List String :=
  ["analytics", "assistant", "cash", "guests", "onboarding", "payments",
    "reservations", "rooms", "security", "settings", "notifications", "stock",
    "users", "whatsapp"]

/-- Event ids a tab remembers. -/
def eventIdLimit : Nat := 2048

/-- Handled origins a tab remembers. -/
def originDomainLimit : Nat := 2048

/-- A mutation of this tab that is in flight, the domains it will refresh, and
those of them that were seen meanwhile. -/
structure PendingOrigin where
  hotelId : Int
  originKey : String
  domains : List String
  observedDomains : List String := []

/-- What a tab knows of the requests that changed something. -/
structure OriginMemory where
  pending : List PendingOrigin := []
  handled : List (Int × String × String) := []

def isHexDigit (letter : Char) : Bool :=
  letter.isDigit || (decide ('a' ≤ letter) && decide (letter ≤ 'f'))

/-- Letters of a key at a place of the pattern of a key. -/
def originLetterFits (place : Nat) (letter : Char) : Bool :=
  if [8, 13, 18, 23].contains place then decide (letter = '-')
  else if place = 14 then
    decide ('1' ≤ letter) && decide (letter ≤ '8')
  else if place = 19 then ['8', '9', 'a', 'b'].contains letter
  else isHexDigit letter

/-- A well-formed key in small letters. -/
def normalizeOriginKey (originKey : Option String) : Option String :=
  (originKey.map String.toLower).filter fun key =>
    decide (key.length = 36) && key.toList.zipIdx.all fun entry => originLetterFits entry.2 entry.1

namespace OriginMemory

variable (memory : OriginMemory)

/-- Remember a handled origin as the newest one, within the limit. -/
def rememberOriginDomain (key : Int × String × String) : OriginMemory :=
  let handled := memory.handled.filter (· ≠ key) ++ [key]
  { memory with handled := handled.drop (handled.length - originDomainLimit) }

/-- Note that a domain of a mutation in flight was seen. -/
def observe (hotelId : Int) (originKey : String) (domain : String) : OriginMemory :=
  { memory with pending := memory.pending.map fun entry =>
      if entry.hotelId = hotelId ∧ entry.originKey = originKey then
        { entry with observedDomains :=
            entry.observedDomains.filter (· ≠ domain) ++ [domain] }
      else entry }

/-- Whether a frame is to be refreshed, and what is remembered of it. -/
def shouldRefreshForDomainOrigin (hotelId : Int)
    (domain : String) (rawOriginKey : Option String) : OriginMemory × Bool :=
  match (normalizeOriginKey rawOriginKey).filter fun _ => 0 < hotelId with
  | none => (memory, true)
  | some originKey =>
    if memory.pending.any (fun entry =>
        decide (entry.hotelId = hotelId ∧ entry.originKey = originKey) &&
          entry.domains.contains domain) = true then
      (memory.observe hotelId originKey domain, false)
    else if memory.handled.contains (hotelId, originKey, domain) = true then
      (memory, false)
    else (memory.rememberOriginDomain (hotelId, originKey, domain), true)

end OriginMemory

/-- A tab: the session's hotel, the stored cursor, the events it knows, its
own requests, and the domains it has passed to the refresh scheduler. -/
structure Tab where
  hotelId : Int
  storedCursor : Int
  seenEventIds : List String := []
  memory : OriginMemory := {}
  scheduled : List String := []

/-- A number that a browser represents exactly. -/
def isSafeInteger (number : Int) : Bool :=
  decide (-(2 ^ 53 - 1) ≤ number ∧ number ≤ 2 ^ 53 - 1)

namespace Tab

variable (tab : Tab)

/-- Store a cursor; a stale one does not rewind the tab. -/
def writeCursor (cursor : Int) : Tab :=
  if isSafeInteger cursor = false ∨ cursor < 0 ∨ cursor < tab.storedCursor then
    tab
  else { tab with storedCursor := cursor }

variable (frame : Frame)

def eventId? : Option String :=
  frame.eventId.filter (· ≠ "")

/-- Remember an event, forgetting the oldest one beyond the limit. -/
def rememberEvent : Tab :=
  match eventId? frame with
  | none => tab
  | some eventId =>
    let seen := tab.seenEventIds ++ [eventId]
    { tab with seenEventIds :=
        if eventIdLimit < seen.length then seen.drop 1 else seen }

def knowsEvent : Bool :=
  match eventId? frame with
  | none => false
  | some eventId => tab.seenEventIds.contains eventId

/-- Pass the domain of a frame to the refresh scheduler, unless the tab
handles it itself. -/
def scheduleRefresh : Tab :=
  let answer := tab.memory.shouldRefreshForDomainOrigin tab.hotelId frame.domain frame.originKey
  { tab with
    memory := answer.1
    scheduled := if answer.2 = true then tab.scheduled ++ [frame.domain]
      else tab.scheduled }

/-- Take in one frame of the stream. -/
def onEvent : Tab :=
  if frame.hotelId ≠ tab.hotelId ∨ frame.domain ∉ queryDomains then tab
  else if tab.knowsEvent frame = true then tab
  else
    let seen := tab.rememberEvent frame
    if isSafeInteger frame.cursor = true ∧ frame.cursor ≤ tab.storedCursor then
      seen
    else (seen.writeCursor frame.cursor).scheduleRefresh frame

/-- Take in the frames of a stream in their order. -/
def runEventStream (frames : List Frame) : Tab :=
  frames.foldl onEvent tab

end Tab

end HotelPms.Events

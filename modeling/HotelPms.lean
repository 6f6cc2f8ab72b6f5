import HotelPms.Allocation.PhaseOptimality
import HotelPms.Payments.Idempotency
import HotelPms.Payments.LedgerRuns
import HotelPms.Payments.NightRefunds
import HotelPms.Payments.DeferredBalance
import HotelPms.Payments.CashConservation
import HotelPms.Cash.CorrectionOutcome
import HotelPms.Stock.CountSafety
import HotelPms.Laundry.CustodySafety
import HotelPms.Blocks.TransactionSafety
import HotelPms.Stays.DateChange
import HotelPms.Stays.Party
import HotelPms.Stays.Reverting
import HotelPms.Stays.LodgingSafety
import HotelPms.Rates.SellableRooms
import HotelPms.Actions.Completeness
import HotelPms.Promotions.LiveVersion
import HotelPms.Rates.SeasonConfirmation
import HotelPms.Access.GrantSafety
import HotelPms.Links.PromisedBalance
import HotelPms.Links.LinkInvariant
import HotelPms.Access.EnforcedPermissions
import HotelPms.Quotes.PinnedPrice
import HotelPms.Links.RevocationOutcomes
import HotelPms.Cash.ExpenseAgreement
import HotelPms.Cancellations.ReviewSafety
import HotelPms.Events.HubRuns
import HotelPms.Events.Recovery
import HotelPms.Events.BrowserRecovery
import HotelPms.Events.PublicationSafety
import HotelPms.Events.SignalSafety
import HotelPms.Events.PublishCooldown
import HotelPms.Ota.SharedBooking
import HotelPms.Housekeeping.ChecklistSafety
import HotelPms.Statuses.HistorySafety
import HotelPms.Subscriptions.EntitlementSafety
import HotelPms.Notifications.OutboxSafety
import HotelPms.Collaboration.EditingAgreement
import HotelPms.Reports.OpenBalances
import HotelPms.Allocation.GapPenalty
import HotelPms.Payments.Surcharges
import HotelPms.Stays.FieldUpdates
import HotelPms.Allocation.ApplyResult
import HotelPms.Quotes.CarriedTotal
import HotelPms.Payments.RefundRounding
import HotelPms.Access.SessionRotation
import HotelPms.Reports.ReadModelCache
import HotelPms.Links.SurchargeInverse
import HotelPms.Statuses.FinancialStatus
import HotelPms.Laundry.ShortageOverlay
import HotelPms.Payments.ReservationQuote
import HotelPms.Cash.SessionSummary
import HotelPms.Payments.NightCollection
import HotelPms.Rates.PriceSelection
import HotelPms.Rates.MaterialisedSeason
import HotelPms.Promotions.NightCascade

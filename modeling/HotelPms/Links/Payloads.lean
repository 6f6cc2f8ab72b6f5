import Mathlib.Data.Rat.Defs

/-!
# Payloads of a payment provider

Notifications and provider answers are decoded documents.  A value is looked
up under the first of several paths that leads to one, and the verified answer
of a provider is laid over the notification it belongs to.
-/

namespace HotelPms.Links

/-- A decoded document. -/
inductive Json
  | null
  | bool (value : Bool)
  | number (value : ℚ)
  | text (value : String)
  | array (items : List Json)
  | object (fields : List (String × Json))

namespace Json

/-- Fields of an object; anything else has none. -/
def fields : Json -> List (String × Json)
  | object entries => entries
  | _ => []

def isObject : Json -> Bool
  | object _ => true
  | _ => false

/-- Neither missing nor an empty text. -/
def isGiven : Json -> Bool
  | null => false
  | text value => decide (value ≠ "")
  | _ => true

/-- Neither missing, nor empty, zero or false. -/
def isTruthy : Json -> Bool
  | null => false
  | bool value => value
  | number value => decide (value ≠ 0)
  | text value => decide (value ≠ "")
  | array items => !items.isEmpty
  | object entries => !entries.isEmpty

/-- Texts, numbers and truth values. -/
def isScalar : Json -> Bool
  | bool _ => true
  | number _ => true
  | text _ => true
  | _ => false

/-- Value under a key. -/
def get? (document : Json) (key : String) : Option Json :=
  document.fields.lookup key

/-- Value at the end of a path of keys. -/
def at? (document : Json) (path : List String) : Option Json :=
  path.foldlM get? document

/-- The fields of a second document over those of a first one. -/
def overlay (document other : Json) : Json :=
  object (other.fields ++ document.fields)

end Json

/-- First value that is given under one of the paths. -/
def payloadValue (payload : Json) (paths : List (List String)) : Option Json :=
  paths.findSome? fun path => (payload.at? path).filter Json.isGiven

/-- Paths of the provider fields that are kept to reconcile a charge. -/
def paymentResponseFieldAliases : List (String × List (List String)) :=
  [("external_reference", [["external_reference"], ["data", "external_reference"],
        ["metadata", "external_reference"],
        ["data", "metadata", "external_reference"]]),
    ("status", [["status"], ["data", "status"]]),
    ("status_detail", [["status_detail"], ["data", "status_detail"]]),
    ("transaction_amount", [["transaction_amount"], ["amount"], ["data", "transaction_amount"],
        ["data", "amount"]]),
    ("currency_id", [["currency_id"], ["currency"], ["data", "currency_id"], ["data", "currency"]]),
    ("date_created", [["date_created"], ["data", "date_created"]]),
    ("date_approved", [["date_approved"], ["completed_at"], ["data", "date_approved"]]),
    ("date_last_updated", [["date_last_updated"], ["data", "date_last_updated"]]),
    ("collector_id", [["collector_id"], ["user_id"], ["data", "collector_id"],
        ["data", "user_id"], ["metadata", "account_id"],
        ["data", "metadata", "account_id"]]),
    ("transaction_amount_refunded",
      [["transaction_amount_refunded"], ["data", "transaction_amount_refunded"]]),
    ("amount_refunded", [["amount_refunded"], ["data", "amount_refunded"]])]

/-- Paths of one of the kept fields. -/
def responseAliases (field : String) : List (List String) :=
  (paymentResponseFieldAliases.lookup field).getD []

/-- The small subset of a provider answer that is kept with a payment. -/
def paymentResponseProjection (payload : Json) (externalPaymentId : String) :
    Json :=
  .object (("id", .text externalPaymentId) :: paymentResponseFieldAliases.filterMap fun entry =>
      ((payloadValue payload entry.2).filter Json.isScalar).map fun value => (entry.1, value))

/-- A verified answer over its notification, at the top and under `data`. -/
def verifiedEnvelope (payload verified : Json) : Json :=
  let originalData := ((payload.get? "data").filter Json.isObject).getD .null
  .object (("data", originalData.overlay verified) :: (payload.overlay verified).fields)

end HotelPms.Links

import PaymentSystem.Model.Routes
import PaymentSystem.Model.Zod

namespace PaymentModel

variable (formats : Formats)

def amountSchema : Schema JsNumber :=
  .number [.positive "Amount must be positive", .max (99999999999999 / 100) "Amount exceeds maximum limit"]
    "Amount is required"

def currencySchema : Schema String :=
  (Schema.string formats [.length 3 "Currency must be a 3-letter ISO 4217 code", .toUpperCase]
    "Currency is required").refine supportedCurrencies.contains
      ("Currency must be one of: " ++ String.intercalate ", " supportedCurrencies)

def merchantIdSchema : Schema String :=
  .string formats [.min 1 "Merchant ID cannot be empty", .max 64 "Merchant ID too long"] "Merchant ID is required"

def customerEmailSchema : Schema String :=
  .string formats [.email "Invalid email format", .max 255 "Email too long"] "Customer email is required"

def descriptionSchema : Schema (Option String) :=
  (Schema.string formats [.max 500 "Description too long"]).optional

/-- The members of `createPaymentSchema`, in its order. -/
def createPaymentMembers (body : Json) : Parsed CreatePaymentRequest :=
  CreatePaymentRequest.mk <$> amountSchema.key "amount" body <*> (currencySchema formats).key "currency" body <*>
    (merchantIdSchema formats).key "merchantId" body <*> (customerEmailSchema formats).key "customerEmail" body <*>
    (descriptionSchema formats).key "description" body <*> Schema.record.optional.key "metadata" body

def createPaymentSchema : Json → Except (List Issue) CreatePaymentRequest :=
  Schema.object (createPaymentMembers formats)

/-- `WebhookPayload` of types/index.ts. -/
structure WebhookPayload where
  eventId : String
  paymentId : String
  status : String
  gatewayReference : String
  errorCode : Option String
  errorMessage : Option String
  timestamp : String

/-- The members of `webhookPayloadSchema`, in its order. -/
def webhookPayloadMembers (body : Json) : Parsed WebhookPayload :=
  WebhookPayload.mk <$> (Schema.string formats [.min 1 "Event ID is required"]).key "eventId" body <*>
    (Schema.string formats [.uuid "Invalid payment ID format"]).key "paymentId" body <*>
    (Schema.enum ["success", "failed"]).key "status" body <*>
    (Schema.string formats [.min 1 "Gateway reference is required"]).key "gatewayReference" body <*>
    (Schema.string formats []).optional.key "errorCode" body <*>
    (Schema.string formats []).optional.key "errorMessage" body <*>
    (Schema.string formats [.datetime "Invalid timestamp format"]).key "timestamp" body

def webhookPayloadSchema : Json → Except (List Issue) WebhookPayload :=
  Schema.object (webhookPayloadMembers formats)

end PaymentModel

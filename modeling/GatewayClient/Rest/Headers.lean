import GatewayClient.Decimal.Scientific
import GatewayClient.RateLimit.Bucket
import GatewayClient.Text.Blank

/-!
# Headers on limits

What the headers of a response say about the limits. Names are compared without
regard to case, and of headers with one name the first counts. A value that is
not plain ASCII, or not of the form that its header has, is passed over.
-/

namespace GatewayClient

/-- The headers of a response, with the bytes of their values. -/
abbrev Headers := List (String × List UInt8)

namespace Headers

/-- A byte that a text in a header may have: a printable ASCII character or a
    tab. -/
def isTextByte (b : UInt8) : Bool := (0x20 ≤ b && b ≤ 0x7E) || b = 9

/-- The text of a value without the blanks at its ends. -/
def textOf? (value : List UInt8) : Option String :=
  if value.all isTextByte then
    some (trimmed (String.ofList (value.map fun b => Char.ofNat b.toNat)))
  else none

/-- The value of the first header with a name, which is in lower case. -/
def first? (h : Headers) (name : String) : Option (List UInt8) :=
  (h.find? fun header => header.1.toLower = name).map Prod.snd

/-- The text of the first header with a name. -/
def text? (h : Headers) (name : String) : Option String := (h.first? name).bind textOf?

/-- A fraction of seconds as a duration, to the nearest nanosecond with ties to
    even. Negative and infinite times are none, nor are those beyond 64 bits of
    seconds. -/
def secondsOf? (text : String) : Option Duration :=
  match Scientific.ofText? text.toList with
  | some (.finite x) =>
    if x.negative && !x.isZero then none
    else
      let (num, den) := x.magnitude
      if UInt64.size * den ≤ num then none
      else some (Binary64.roundHalfEven (num * Duration.perSecond) den)
  | _ => none

/-- A count of tokens. -/
def tokensOf? (text : String) : Option Nat := Natural.ofText? (UInt32.size - 1) text.toList

/-- What the headers say about the limits. -/
def report (h : Headers) : RateLimitReport where
  limit := (h.text? "x-ratelimit-limit").bind tokensOf?
  remaining := (h.text? "x-ratelimit-remaining").bind tokensOf?
  resetAfter := (h.text? "x-ratelimit-reset-after").bind secondsOf?
  bucket := (h.text? "x-ratelimit-bucket").filter (· ≠ "")
  isGlobal := (h.text? "x-ratelimit-global").any fun v => v.toLower = "true"
  retryAfter := (h.text? "retry-after").bind secondsOf?

end Headers

end GatewayClient

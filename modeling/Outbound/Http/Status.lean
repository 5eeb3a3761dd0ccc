/-! # Response statuses

A status is a number of three digits. The classes that matter for retries and validation are told
apart by number alone.

* `Status.isRetryable` holds for 429 and for 500 to 599; `isRetryable_iff` says so.
* `Status.describe` is the number with its registered reason. -/

namespace Outbound

/-- A response status. -/
structure Status where
  /-- The number. -/
  code : Nat
  /-- The number has three digits. -/
  inRange : 100 ≤ code ∧ code ≤ 999 := by decide
  deriving DecidableEq

namespace Status

/-- The status with a given number, if it has three digits. -/
def ofCode? (code : Nat) : Option Status :=
  if inRange : 100 ≤ code ∧ code ≤ 999 then some ⟨code, inRange⟩ else none

/-- The status 200. -/
def ok : Status := ⟨200, by decide⟩

/-- The status 429, by which a server asks for fewer requests. -/
def tooManyRequests : Status := ⟨429, by decide⟩

/-- Whether the server failed to answer a request: 500 to 599. -/
def isServerError (status : Status) : Bool := 500 ≤ status.code && status.code ≤ 599

/-- Whether a request answered with this status may be sent again. -/
def isRetryable (status : Status) : Bool :=
  status == tooManyRequests || status.isServerError

/-- Two statuses with the same number are the same. -/
theorem code_injective {left right : Status} (same : left.code = right.code) : left = right := by
  cases left
  cases right
  simp_all

/-- The retryable statuses are 429 and 500 to 599. -/
theorem isRetryable_iff (status : Status) :
    status.isRetryable = true ↔ status.code = 429 ∨ (500 ≤ status.code ∧ status.code ≤ 599) := by
  have same : status = tooManyRequests ↔ status.code = 429 :=
    ⟨fun equal => by rw [equal]; rfl, fun equal => code_injective equal⟩
  simp [isRetryable, isServerError, same]

/-- The registered reason of a status. -/
def reason? (status : Status) : Option String :=
  match status.code with
  | 100 => some "Continue"
  | 101 => some "Switching Protocols"
  | 102 => some "Processing"
  | 103 => some "Early Hints"
  | 200 => some "OK"
  | 201 => some "Created"
  | 202 => some "Accepted"
  | 203 => some "Non Authoritative Information"
  | 204 => some "No Content"
  | 205 => some "Reset Content"
  | 206 => some "Partial Content"
  | 207 => some "Multi-Status"
  | 208 => some "Already Reported"
  | 226 => some "IM Used"
  | 300 => some "Multiple Choices"
  | 301 => some "Moved Permanently"
  | 302 => some "Found"
  | 303 => some "See Other"
  | 304 => some "Not Modified"
  | 305 => some "Use Proxy"
  | 307 => some "Temporary Redirect"
  | 308 => some "Permanent Redirect"
  | 400 => some "Bad Request"
  | 401 => some "Unauthorized"
  | 402 => some "Payment Required"
  | 403 => some "Forbidden"
  | 404 => some "Not Found"
  | 405 => some "Method Not Allowed"
  | 406 => some "Not Acceptable"
  | 407 => some "Proxy Authentication Required"
  | 408 => some "Request Timeout"
  | 409 => some "Conflict"
  | 410 => some "Gone"
  | 411 => some "Length Required"
  | 412 => some "Precondition Failed"
  | 413 => some "Payload Too Large"
  | 414 => some "URI Too Long"
  | 415 => some "Unsupported Media Type"
  | 416 => some "Range Not Satisfiable"
  | 417 => some "Expectation Failed"
  | 418 => some "I'm a teapot"
  | 421 => some "Misdirected Request"
  | 422 => some "Unprocessable Entity"
  | 423 => some "Locked"
  | 424 => some "Failed Dependency"
  | 425 => some "Too Early"
  | 426 => some "Upgrade Required"
  | 428 => some "Precondition Required"
  | 429 => some "Too Many Requests"
  | 431 => some "Request Header Fields Too Large"
  | 451 => some "Unavailable For Legal Reasons"
  | 500 => some "Internal Server Error"
  | 501 => some "Not Implemented"
  | 502 => some "Bad Gateway"
  | 503 => some "Service Unavailable"
  | 504 => some "Gateway Timeout"
  | 505 => some "HTTP Version Not Supported"
  | 506 => some "Variant Also Negotiates"
  | 507 => some "Insufficient Storage"
  | 508 => some "Loop Detected"
  | 510 => some "Not Extended"
  | 511 => some "Network Authentication Required"
  | _ => none

/-- The number of a status with its reason. -/
def describe (status : Status) : String :=
  toString status.code ++ " " ++ status.reason?.getD "<unknown status code>"

end Status

end Outbound

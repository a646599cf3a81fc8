import SignedUpgrade.Net.Url
import SignedUpgrade.World.Basic

/-!
# Requests

The feed and the installers are fetched over the network.  What a server does with one request is up
to the `Network`; the client decides which requests are made and what an answer means.

* `Network` — answers one request at a time, `Connector` is how it is reached;
* `fetch` — makes the request for an address and those that redirections ask for;
* `Response.success` — the response of a request, if its status is a success;
* `Body.content?` — the content of a body that arrived as a whole.
-/

namespace SignedUpgrade.Net

open Text

/-- A request, always for reading. -/
structure Request where
  url : String
  accept : String
  deriving DecidableEq, Repr

/-- A body as it arrives: pieces, and whether the last of them completes it. -/
structure Body where
  chunks : List Bytes := []
  complete : Bool := true
  deriving DecidableEq, Repr

/-- The content of a body, if all of it arrives. -/
def Body.content? (b : Body) : Option Bytes :=
  if b.complete then some b.chunks.flatten else none

/-- A response to a request. -/
structure Response where
  status : Nat
  /-- Where the response sends the client on. -/
  location : Option String := none
  body : Body := {}
  deriving DecidableEq, Repr

/-- What becomes of a request. -/
inductive Answer where
  /-- The connection cannot be made or is closed without a response. -/
  | refused
  /-- No response arrives in time. -/
  | silent
  | response (r : Response)
  deriving DecidableEq, Repr

/-- The party that answers requests. -/
abbrev Network (σ : Type) := Request → Site σ → Answer × Site σ

/-- A way to reach a network, whose requests give up after a time limit in milliseconds; or the
reason why there is none. -/
abbrev Connector (σ : Type) := (limit : Nat) → Except String (Network σ)

/-- How the updater calls itself to servers. -/
def userAgent : String := "certbot-updater/0.3.0"

/-! ## Statuses -/

/-- The standard phrases of statuses. -/
def phrases : List (Nat × String) :=
  [(100, "Continue"), (101, "Switching Protocols"), (102, "Processing"), (103, "Early Hints"),
   (200, "OK"), (201, "Created"), (202, "Accepted"), (203, "Non Authoritative Information"),
   (204, "No Content"), (205, "Reset Content"), (206, "Partial Content"), (207, "Multi-Status"),
   (208, "Already Reported"), (226, "IM Used"), (300, "Multiple Choices"),
   (301, "Moved Permanently"), (302, "Found"), (303, "See Other"), (304, "Not Modified"),
   (305, "Use Proxy"), (307, "Temporary Redirect"), (308, "Permanent Redirect"),
   (400, "Bad Request"), (401, "Unauthorized"), (402, "Payment Required"), (403, "Forbidden"),
   (404, "Not Found"), (405, "Method Not Allowed"), (406, "Not Acceptable"),
   (407, "Proxy Authentication Required"), (408, "Request Timeout"), (409, "Conflict"),
   (410, "Gone"), (411, "Length Required"), (412, "Precondition Failed"),
   (413, "Payload Too Large"), (414, "URI Too Long"), (415, "Unsupported Media Type"),
   (416, "Range Not Satisfiable"), (417, "Expectation Failed"), (418, "I'm a teapot"),
   (421, "Misdirected Request"), (422, "Unprocessable Entity"), (423, "Locked"),
   (424, "Failed Dependency"), (425, "Too Early"), (426, "Upgrade Required"),
   (428, "Precondition Required"), (429, "Too Many Requests"),
   (431, "Request Header Fields Too Large"), (451, "Unavailable For Legal Reasons"),
   (500, "Internal Server Error"), (501, "Not Implemented"), (502, "Bad Gateway"),
   (503, "Service Unavailable"), (504, "Gateway Timeout"), (505, "HTTP Version Not Supported"),
   (506, "Variant Also Negotiates"), (507, "Insufficient Storage"), (508, "Loop Detected"),
   (510, "Not Extended"), (511, "Network Authentication Required")]

/-- A status with its phrase. -/
def statusText (status : Nat) : String :=
  toString status ++ " " ++ (phrases.lookup status).getD "<unknown status code>"

/-- Whether a status is a success. -/
def isSuccess (status : Nat) : Bool :=
  200 ≤ status && status ≤ 299

/-- Whether a status sends the client on. -/
def isRedirect (status : Nat) : Bool :=
  [301, 302, 303, 307, 308].contains status

/-- The response, if its status is a success, or what is wrong with it. -/
def Response.success (r : Response) : Except String Response :=
  if isSuccess r.status then .ok r else .error ("HTTP " ++ statusText r.status)

/-! ## Fetching -/

/-- What is wrong where no request was made. -/
def notBuilt : String := "builder error"

/-- What is wrong at an address. -/
def located (what : String) (url : Url) : String :=
  what ++ " for url (" ++ url.text ++ ")"

/-- What is wrong where no response arrived. -/
def notSent (url : Url) : String :=
  located "error sending request" url

/-- What is wrong where a body did not arrive as a whole. -/
def notDecoded : String := "error decoding response body"

/-- The longest address that a request can carry. -/
def longestUrl : Nat := 65534

/-- Whether requests can be made to an address. -/
def canAsk (url : Url) : Bool :=
  (url.scheme == "http" || url.scheme == "https") && url.text.utf8ByteSize ≤ longestUrl

/-- Where a response sends the client on to. -/
def nextUrl? (url : Url) (r : Response) : Option Url :=
  if isRedirect r.status then r.location.bind url.readFrom? else none

/-- How many redirections are followed. -/
def mostRedirects : Nat := 10

variable {σ : Type}

/-- Makes the request for an address, and `redirects` more at most. -/
def fetchFrom (network : Network σ) (accept : String) : (redirects : Nat) → Url → Site σ →
    Except String Response × Site σ
  | redirects, url, site =>
    if !canAsk url then (.error (located notBuilt url), site)
    else match network { url := url.text, accept } site with
      | (.refused, site) => (.error (notSent url), site)
      | (.silent, site) => (.error ("request timed out (" ++ notSent url ++ ")"), site)
      | (.response r, site) =>
        match nextUrl? url r, redirects with
        | none, _ => (.ok r, site)
        | some _, 0 => (.error (located "error following redirect" url), site)
        | some next, redirects + 1 => fetchFrom network accept redirects next.withoutUser site

/-- Makes the request for an address that is given as a text, and those that redirections ask for.
No request is made where the text is no address of the web. -/
def fetch (network : Network σ) (accept url : String) (site : Site σ) :
    Except String Response × Site σ :=
  match Url.read? url with
  | none => (.error notBuilt, site)
  | some url => fetchFrom network accept mostRedirects url.withoutUser site

/-- Fetches a response of success. -/
def fetchSuccess (network : Network σ) (accept url : String) (site : Site σ) :
    Except String Response × Site σ :=
  match fetch network accept url site with
  | (.ok r, site) => (r.success, site)
  | (.error reason, site) => (.error reason, site)

end SignedUpgrade.Net

import NetSurvey.Probe.Basic
import NetSurvey.Url

/-!
# Requests for pages

`pageFound` asks a web server for a page, without following redirects. A page is there if the status
is a success, or if it shows that something stands behind a redirect or a login.
-/

namespace NetSurvey.Probe

/-- Statuses besides the successes that show that a page is there. -/
def foundStatuses : List Int := [301, 302, 401, 403, 407]

/-- Whether a status shows that a page is there. -/
def isFound (status : Int) : Bool :=
  (200 ≤ status && status < 300) || status ∈ foundStatuses

/-- The size of a page as the server names it, or `-1` where it names none or one that cannot be
read. -/
def pageSize (p : Page) : Except Failure Int :=
  match p.contentLength with
  | none => .ok (-1)
  | some length =>
    match length.toInteger with
    | .ok n => .ok n
    | .error e => if e.isValue then .ok (-1) else .error e

/-- The URL of a page under a base URL, both of which have to be texts. -/
def pageUrl (base path : Datum) : Except Failure Text := do
  let base ← base.asText "rstrip"
  let path ← path.asText "lstrip"
  return Url.join base path

/-- Asks a web server for a page. Redirects are not followed, and the content is not read. -/
def pageFound (w : World) (base path : Text) (timeout : Timeout) (session : Bool)
    (userAgent : Text) : Probe Outcome := do
  let url := Url.join base path
  Activity.call (.get session url userAgent timeout false true)
  match w.get url with
  | .error e =>
    if e.isRequest then
      log .debug ("Request to " ++ url ++ " failed: " ++ e.message)
      return { candidate := .text path, positive := false, error := some e.message }
    throw e
  | .ok page =>
    Activity.call (.closeResponse url)
    let size ← Activity.ofExcept (pageSize page)
    if isFound page.status then log .info ("Found " ++ url ++ s!" (HTTP {page.status})")
    return { candidate := .text path, positive := isFound page.status,
             measurement := some (.int page.status),
             details := [("status_code", .int page.status), ("size", .int size)] }

end NetSurvey.Probe

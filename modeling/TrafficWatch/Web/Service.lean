import TrafficWatch.Web.Answer
import TrafficWatch.Web.Pages

/-!
The local HTTP server. Two actions change the store; all others only look. A refused request
changes nothing, and does not even count.
-/

namespace TrafficWatch.Web

open Files

def Action.perform (c : Config) (now : Nat) (d : Disk) (p : Pipeline) :
    Action → (Disk × Pipeline) × Answer
  | .table f => ((d, p), .text 200 (tablePage c p.store.view f p.own.moment.time))
  | .connections f => ((d, p), .json (listing p.store.view f))
  | .connection id =>
    ((d, p), match p.store.find? id with
      | some row => .json row.json
      | none => .text 404 ("Connection " ++ id ++ " not found\n"))
  | .clearClosed =>
    let (s, removed) := p.store.clearClosed
    ((d, p.setStore s), .json (.object [("removed", .nat removed)]))
  | .toggleKeepClosed =>
    let ((d, s), keep) := p.store.toggle d
    ((d, p.setStore s), .json (.object [("keep_closed", .bool keep)]))
  | .health => ((d, p), .text (Health.ofPipeline p).status (healthPage c p now))
  | .metrics =>
    let g := p.own.gauges.update p.store.view (p.reader.report now) p.store.applyTimes.last
    let scraped := { g with scrapeSeconds := p.own.moment.work / 1000 }
    ((d, { p with own := { p.own with gauges := scraped } }), .text 200 g.text)

def count (p : Pipeline) : Pipeline :=
  { p with own := { p.own with httpRequests := p.own.httpRequests + 1 } }

/-- Answers a request; the time is in milliseconds since the start. -/
def answer (c : Config) (now : Nat) (d : Disk) (p : Pipeline) (r : Request) :
    (Disk × Pipeline) × Answer :=
  let (s, a) := match r.action with
    | .error e => ((d, p), e.answer)
    | .ok action => action.perform c now d (count p)
  (s, { a with headOnly := r.method == "HEAD" })

end TrafficWatch.Web

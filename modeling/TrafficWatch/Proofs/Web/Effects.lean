import TrafficWatch.Proofs.Fallible
import TrafficWatch.Proofs.Splitting
import TrafficWatch.Proofs.Web.Fetching

/-!
What requests do to a pipeline, one after the other: dropping the closed rows and switching
retention are the two that change something. All others look, and those that are refused do not
count.
-/

namespace TrafficWatch.Web

open Files Tracking

/-! The paths of the routes. -/

theorem toList_of_segments {path : String} {parts : List String} (h : segments path = parts) :
    path.toList = ['/'].intercalate (parts.map String.toList) ∧ ∀ s ∈ parts, '/' ∉ s.toList := by
  subst h
  have hlists : (segments path).map String.toList = path.toList.splitOn '/' := by
    rw [segments, List.map_map, Function.comp_def]
    simp only [String.toList_ofList, List.map_id']
  refine ⟨?_, fun s hs => ?_⟩
  · rw [hlists]
    exact (List.intercalate_splitOn '/').symm
  · exact not_mem_of_mem_splitOn (hlists ▸ List.mem_map_of_mem hs)

namespace Route

def path : Route → String
  | .table => "/"
  | .connections => "/connections"
  | .closedConnections => "/connections/closed"
  | .connection segment => "/connections/" ++ segment
  | .keepClosed => "/keep-closed"
  | .health => "/health"
  | .metrics => "/metrics"

/-- The segment of a connection is one, and not the word that stands for the closed rows. -/
def Proper : Route → Prop
  | .connection segment => '/' ∉ segment.toList ∧ segment ≠ "" ∧ segment ≠ "closed"
  | _ => True

theorem path_of_ofPath? {path : String} {route : Route} (h : ofPath? path = some route) :
    route.path = path ∧ route.Proper := by
  have hwhole {parts : List String} (hs : segments path = parts) {p : String}
      (hp : p.toList = ['/'].intercalate (parts.map String.toList)) : p = path :=
    String.toList_inj.mp (hp.trans (toList_of_segments hs).1.symm)
  unfold ofPath? at h
  split at h
  · next hs => exact Option.some.inj h ▸ ⟨hwhole hs rfl, trivial⟩
  · next hs => exact Option.some.inj h ▸ ⟨hwhole hs rfl, trivial⟩
  · next segment hs =>
    by_cases hclosed : segment = "closed"
    · rw [if_pos hclosed] at h
      exact Option.some.inj h ▸ ⟨hwhole hs (by rw [hclosed]; rfl), trivial⟩
    · rw [if_neg hclosed] at h
      by_cases hempty : segment = ""
      · rw [if_pos hempty] at h
        cases h
      · rw [if_neg hempty] at h
        have hslash : '/' ∉ segment.toList := (toList_of_segments hs).2 _ (by simp)
        have hpath : (connection segment).path = path :=
          hwhole hs (by simp [Route.path, List.intercalate])
        exact Option.some.inj h ▸ ⟨hpath, hslash, hempty, hclosed⟩
  · next hs => exact Option.some.inj h ▸ ⟨hwhole hs rfl, trivial⟩
  · next hs => exact Option.some.inj h ▸ ⟨hwhole hs rfl, trivial⟩
  · next hs => exact Option.some.inj h ▸ ⟨hwhole hs rfl, trivial⟩
  · cases h

theorem ofPath?_path {route : Route} (h : route.Proper) : ofPath? route.path = some route := by
  cases route with
  | connection segment =>
    obtain ⟨hslash, hempty, hclosed⟩ := h
    have hpath := ofPath?_connection hslash (by simpa using hempty)
    rw [String.ofList_toList, if_neg hclosed] at hpath
    exact hpath
  | table | connections | closedConnections | keepClosed | health | metrics => decide

theorem ofPath?_eq_some_iff {path : String} {route : Route} :
    ofPath? path = some route ↔ route.path = path ∧ route.Proper := by
  refine ⟨path_of_ofPath?, ?_⟩
  rintro ⟨rfl, h⟩
  exact ofPath?_path h

end Route

/-! What requests ask for. -/

namespace Request

/-- A document is to be got, or its head. -/
structure Gets (r : Request) (path : String) : Prop where
  method : r.method = "GET" ∨ r.method = "HEAD"
  path : r.path = path

inductive Asks (r : Request) : Action → Prop where
  | table {f} (page : r.Gets "/") (query : filterOfQuery r.query = .ok f) : Asks r (.table f)
  | connections {f} (page : r.Gets "/connections") (query : filterOfQuery r.query = .ok f) :
    Asks r (.connections f)
  | connection {segment id} (page : r.Gets ("/connections/" ++ segment))
    (slash : '/' ∉ segment.toList) (some : segment ≠ "") (other : segment ≠ "closed")
    (text : segmentText segment = .ok id) : Asks r (.connection id)
  | clearClosed (method : r.method = "DELETE") (path : r.path = "/connections/closed") :
    Asks r .clearClosed
  | toggleKeepClosed (method : r.method = "POST") (path : r.path = "/keep-closed") :
    Asks r .toggleKeepClosed
  | health (page : r.Gets "/health") : Asks r .health
  | metrics (page : r.Gets "/metrics") : Asks r .metrics

variable {r : Request} {a : Action}

theorem allows_get {route : Route} {method : String} (h : route.method = "GET") :
    route.allows method = true ↔ method = "GET" ∨ method = "HEAD" := by
  simp [Route.allows, h]

theorem allows_other {route : Route} {method : String} (h : route.method ≠ "GET") :
    route.allows method = true ↔ method = route.method := by
  simp [Route.allows, h]

theorem action_of_route (route : Route) (hpath : route.path = r.path) (hproper : route.Proper)
    (hallows : route.allows r.method = true) : r.action = route.action r.query := by
  rw [action, Route.ofPath?_eq_some_iff.mpr ⟨hpath, hproper⟩]
  simp only [hallows, ↓reduceIte]

theorem exists_route_of_action (h : r.action = .ok a) :
    ∃ route : Route, route.path = r.path ∧ route.Proper ∧ route.allows r.method = true ∧
      route.action r.query = .ok a := by
  unfold action at h
  split at h
  · cases h
  · next route hroute =>
    obtain ⟨hpath, hproper⟩ := Route.ofPath?_eq_some_iff.mp hroute
    split at h
    · next hallows => exact ⟨route, hpath, hproper, hallows, h⟩
    · cases h

theorem Gets.action (route : Route) (h : r.Gets route.path) (hget : route.method = "GET")
    (hproper : route.Proper) : r.action = route.action r.query :=
  action_of_route route h.path.symm hproper ((allows_get hget).mpr h.method)

/-- What a request asks for is told by its method, path and query. -/
theorem asks_iff : r.Asks a ↔ r.action = .ok a := by
  constructor
  · intro h
    cases h with
    | table page query =>
      rw [Gets.action .table page rfl trivial, Route.action, query]
      rfl
    | connections page query =>
      rw [Gets.action .connections page rfl trivial, Route.action, query]
      rfl
    | @connection segment id page slash some other text =>
      rw [Gets.action (.connection segment) page rfl ⟨slash, some, other⟩, Route.action, text]
      rfl
    | clearClosed method path =>
      exact action_of_route .closedConnections path.symm trivial
        ((allows_other (by decide)).mpr method)
    | toggleKeepClosed method path =>
      exact action_of_route .keepClosed path.symm trivial
        ((allows_other (by decide)).mpr method)
    | health page => exact Gets.action .health page rfl trivial
    | metrics page => exact Gets.action .metrics page rfl trivial
  · intro h
    obtain ⟨route, hpath, hproper, hallows, hroute⟩ := exists_route_of_action h
    cases route with
    | table =>
      obtain ⟨f, hf, rfl⟩ := map_eq_ok.mp hroute
      exact .table ⟨(allows_get rfl).mp hallows, hpath.symm⟩ hf
    | connections =>
      obtain ⟨f, hf, rfl⟩ := map_eq_ok.mp hroute
      exact .connections ⟨(allows_get rfl).mp hallows, hpath.symm⟩ hf
    | connection segment =>
      obtain ⟨slash, some, other⟩ := hproper
      obtain ⟨id, hid, rfl⟩ := map_eq_ok.mp hroute
      exact .connection ⟨(allows_get rfl).mp hallows, hpath.symm⟩ slash some other hid
    | closedConnections =>
      obtain rfl := Except.ok.inj hroute
      exact .clearClosed ((allows_other (by decide)).mp hallows) hpath.symm
    | keepClosed =>
      obtain rfl := Except.ok.inj hroute
      exact .toggleKeepClosed ((allows_other (by decide)).mp hallows) hpath.symm
    | health =>
      obtain rfl := Except.ok.inj hroute
      exact .health ⟨(allows_get rfl).mp hallows, hpath.symm⟩
    | metrics =>
      obtain rfl := Except.ok.inj hroute
      exact .metrics ⟨(allows_get rfl).mp hallows, hpath.symm⟩

/-- A request that comes to be handled. -/
def Handled (r : Request) : Prop := ∃ a, r.Asks a

instance (r : Request) : Decidable r.Handled :=
  match h : r.action with
  | .ok a => .isTrue ⟨a, asks_iff.mpr h⟩
  | .error _ => .isFalse fun ⟨_, ha⟩ => nomatch (asks_iff.mp ha).symm.trans h

/-- Why a request is refused, and with which status. -/
inductive Refused (r : Request) : Nat → Prop where
  | path (unknown : ∀ route : Route, route.Proper → route.path ≠ r.path) : Refused r 404
  | method {route : Route} (path : route.path = r.path) (proper : route.Proper)
    (forbids : route.allows r.method = false) : Refused r 405
  | parts {route : Route} (path : route.path = r.path) (proper : route.Proper)
    (allows : route.allows r.method = true) : Refused r 400

theorem filterOfQuery_error {query : String} {e : Refusal} (h : filterOfQuery query = .error e) :
    e = .badQuery := by
  unfold filterOfQuery at h
  dsimp only at h
  split at h
  all_goals first
    | exact (Except.error.inj h).symm
    | split at h
      all_goals first
        | exact (Except.error.inj h).symm
        | cases h

theorem status_of_route_error {route : Route} {query : String} {e : Refusal}
    (h : route.action query = .error e) : e.answer.status = 400 := by
  have hquery {f : Render.RowFilter → Action} (h : (filterOfQuery query).map f = .error e) :
      e.answer.status = 400 := by
    cases hf : filterOfQuery query with
    | ok filter =>
      rw [hf] at h
      cases h
    | error e' =>
      rw [hf] at h
      obtain rfl : e' = e := Except.error.inj h
      rw [filterOfQuery_error hf]
      rfl
  cases route with
  | table | connections => exact hquery h
  | connection segment =>
    rw [Route.action, segmentText] at h
    split at h
    · cases h
    · obtain rfl := Except.error.inj h
      rfl
  | closedConnections | keepClosed | health | metrics => cases h

theorem refused_of_error {e : Refusal} (h : r.action = .error e) : r.Refused e.answer.status := by
  unfold action at h
  split at h
  · next hroute =>
    obtain rfl := Except.error.inj h
    refine .path fun route hproper hpath => ?_
    cases hroute.symm.trans (Route.ofPath?_eq_some_iff.mpr ⟨hpath, hproper⟩)
  · next route hroute =>
    obtain ⟨hpath, hproper⟩ := Route.ofPath?_eq_some_iff.mp hroute
    split at h
    · next hallows =>
      rw [status_of_route_error h]
      exact .parts hpath hproper hallows
    · next hallows =>
      obtain rfl := Except.error.inj h
      exact .method hpath hproper (by simpa using hallows)

/-- The operation on the store that a request stands for, if it does for any. -/
def operation? (r : Request) : Option Store.Op :=
  if r.method = "DELETE" ∧ r.path = "/connections/closed" then some .clearClosed
  else if r.method = "POST" ∧ r.path = "/keep-closed" then some .toggle
  else none

theorem operation?_eq_some {op : Store.Op} (h : r.operation? = some op) :
    (op = .clearClosed ∧ r.method = "DELETE" ∧ r.path = "/connections/closed") ∨
      op = .toggle ∧ r.method = "POST" ∧ r.path = "/keep-closed" := by
  unfold operation? at h
  split at h
  · next hr => exact Or.inl ⟨(Option.some.inj h).symm, hr⟩
  · split at h
    · next hr => exact Or.inr ⟨(Option.some.inj h).symm, hr⟩
    · cases h

theorem handled_of_operation? {op : Store.Op} (h : r.operation? = some op) : r.Handled := by
  rcases operation?_eq_some h with ⟨-, hmethod, hpath⟩ | ⟨-, hmethod, hpath⟩
  · exact ⟨_, .clearClosed hmethod hpath⟩
  · exact ⟨_, .toggleKeepClosed hmethod hpath⟩

end Request

/-! What a request does. -/

def Action.operation? : Action → Option Store.Op
  | .clearClosed => some .clearClosed
  | .toggleKeepClosed => some .toggle
  | .table _ | .connections _ | .connection _ | .health | .metrics => none

theorem Request.Asks.operation? {r : Request} {a : Action} (h : r.Asks a) :
    r.operation? = a.operation? := by
  have hget {path : String} (h : r.Gets path) : r.operation? = none := by
    rcases h.method with hm | hm <;> simp [Request.operation?, hm]
  cases h with
  | table page query | connections page query | connection page slash some other text
  | health page | metrics page => exact hget page
  | clearClosed method path => simp [Request.operation?, Action.operation?, method, path]
  | toggleKeepClosed method path => simp [Request.operation?, Action.operation?, method, path]

/-- The answer says what the operation returned. -/
def Answer.Reports (a : Answer) : Store.Result → Prop
  | .cleared count => a.content = some (.json (.object [("removed", .nat count)]))
  | .toggled keep => a.content = some (.json (.object [("keep_closed", .bool keep)]))
  | .fed _ | .retentionSet | .restarted => False

theorem Answer.Reports.headOnly {a : Answer} {result : Store.Result} (h : a.Reports result)
    (head : Bool) : Reports { a with headOnly := head } result := by
  cases result with
  | cleared count | toggled keep => exact h
  | fed outcome | retentionSet | restarted => exact h

/-- What a request makes of a pipeline and its files, and what it is answered. -/
structure Effect (r : Request) (s s' : Disk × Pipeline) (a : Answer) : Prop where
  reader : s'.2.reader = s.2.reader
  counted : s'.2.own.httpRequests = s.2.own.httpRequests + if r.Handled then 1 else 0
  looks : r.operation? = none → s'.1 = s.1 ∧ s'.2.store = s.2.store
  operates : ∀ op, r.operation? = some op →
    (s'.1, s'.2.store) = (Store.step s.1 s.2.store op).1 ∧ a.status = 200 ∧
      a.Reports (Store.step s.1 s.2.store op).2
  refused : ¬ r.Handled → r.Refused a.status

variable (c : Config)

theorem Action.effect (now : Nat) (d : Disk) (p : Pipeline) (a : Action) :
    (a.perform c now d p).1.2.reader = p.reader ∧
      (a.perform c now d p).1.2.own.httpRequests = p.own.httpRequests ∧
      (a.operation? = none → (a.perform c now d p).1.1 = d ∧
        (a.perform c now d p).1.2.store = p.store) ∧
      ∀ op, a.operation? = some op →
        ((a.perform c now d p).1.1, (a.perform c now d p).1.2.store) = (Store.step d p.store op).1 ∧
        (a.perform c now d p).2.status = 200 ∧
        (a.perform c now d p).2.Reports (Store.step d p.store op).2 := by
  cases a with
  | table f | connections f | connection id | health | metrics =>
    exact ⟨rfl, rfl, fun _ => ⟨rfl, rfl⟩, nofun⟩
  | clearClosed | toggleKeepClosed =>
    refine ⟨rfl, rfl, nofun, fun op h => ?_⟩
    obtain rfl := Option.some.inj h
    exact ⟨rfl, rfl, rfl⟩

theorem effect_answer (now : Nat) (d : Disk) (p : Pipeline) (r : Request) :
    Effect r (d, p) (answer c now d p r).1 (answer c now d p r).2 := by
  cases hr : r.action with
  | error e =>
    have hanswer : answer c now d p r = ((d, p), { e.answer with headOnly := r.method == "HEAD" }) := by
      rw [answer, hr]
    have hhandled : ¬ r.Handled := fun ⟨a, ha⟩ => nomatch (Request.asks_iff.mp ha).symm.trans hr
    rw [hanswer]
    exact
      { reader := rfl
        counted := by rw [if_neg hhandled]; rfl
        looks := fun _ => ⟨rfl, rfl⟩
        operates := fun op h => absurd (Request.handled_of_operation? h) hhandled
        refused := fun _ => Request.refused_of_error hr }
  | ok a =>
    have hasks : r.Asks a := Request.asks_iff.mpr hr
    have hhandled : r.Handled := ⟨a, hasks⟩
    have hanswer : answer c now d p r = ((a.perform c now d (count p)).1,
        { (a.perform c now d (count p)).2 with headOnly := r.method == "HEAD" }) := by
      rw [answer, hr]
    obtain ⟨hreader, hcounted, hlooks, hoperates⟩ := a.effect c now d (count p)
    rw [hanswer]
    exact
      { reader := hreader
        counted := by rw [if_pos hhandled]; exact hcounted
        looks := fun h => hlooks (hasks.operation?.symm.trans h)
        operates := fun op h => by
          obtain ⟨hstep, hstatus, hreports⟩ := hoperates op (hasks.operation?.symm.trans h)
          exact ⟨hstep, hstatus, hreports.headOnly _⟩
        refused := fun h => absurd hhandled h }

/-- A request, and when it comes. -/
structure Visit where
  now : Nat
  moment : Moment
  request : Request

/-- Answers requests one after the other. -/
def serve (s : Disk × Pipeline) : List Visit → (Disk × Pipeline) × List Answer
  | [] => (s, [])
  | v :: vs =>
    let (s, a) := answer c v.now s.1 (s.2.setMoment v.moment) v.request
    let (s, answers) := serve s vs
    (s, a :: answers)

theorem exists_effect (s : Disk × Pipeline) (vs : List Visit) {n : Nat} {v : Visit}
    (hv : vs[n]? = some v) : ∃ a, (serve c s vs).2[n]? = some a ∧
      Effect v.request (serve c s (vs.take n)).1 (serve c s (vs.take (n + 1))).1 a := by
  induction vs generalizing s n with
  | nil => cases hv
  | cons w vs ih =>
    let r := answer c w.now s.1 (s.2.setMoment w.moment) w.request
    cases n with
    | zero =>
      obtain rfl := Option.some.inj hv
      have h := effect_answer c w.now s.1 (s.2.setMoment w.moment) w.request
      exact ⟨r.2, rfl, h.reader, h.counted, h.looks, h.operates, h.refused⟩
    | succ n => exact ih r.1 hv

/-- Requests change the store and the files by the operations that they stand for, one after the
other, and leave the reader alone. Those that are handled are counted. -/
theorem serve_effect (s : Disk × Pipeline) (vs : List Visit) :
    let s' := (serve c s vs).1
    (s'.1, s'.2.store) = Store.run s.1 s.2.store (vs.filterMap (·.request.operation?)) ∧
      s'.2.reader = s.2.reader ∧
      s'.2.own.httpRequests = s.2.own.httpRequests + vs.countP (·.request.Handled) ∧
      ∀ n v, vs[n]? = some v → ∃ a, (serve c s vs).2[n]? = some a ∧
        Effect v.request (serve c s (vs.take n)).1 (serve c s (vs.take (n + 1))).1 a := by
  suffices h : ((serve c s vs).1.1, (serve c s vs).1.2.store) =
        Store.run s.1 s.2.store (vs.filterMap (·.request.operation?)) ∧
      (serve c s vs).1.2.reader = s.2.reader ∧
      (serve c s vs).1.2.own.httpRequests =
        s.2.own.httpRequests + vs.countP (·.request.Handled) from
    ⟨h.1, h.2.1, h.2.2, fun n v hv => exists_effect c s vs hv⟩
  induction vs generalizing s with
  | nil => exact ⟨rfl, rfl, rfl⟩
  | cons v vs ih =>
    let r := answer c v.now s.1 (s.2.setMoment v.moment) v.request
    have h : Effect v.request (s.1, s.2.setMoment v.moment) r.1 r.2 := effect_answer c _ _ _ _
    obtain ⟨hstore, hreader, hcounted⟩ := ih r.1
    have hserve : serve c s (v :: vs) = ((serve c r.1 vs).1, r.2 :: (serve c r.1 vs).2) := rfl
    simp only [hserve]
    refine ⟨hstore.trans ?_, hreader.trans h.reader, hcounted.trans ?_⟩
    · cases hop : v.request.operation? with
      | none =>
        obtain ⟨hdisk, hsame⟩ := h.looks hop
        simp only [List.filterMap_cons, hop, hdisk, hsame]
        rfl
      | some op =>
        obtain ⟨hstep, -⟩ := h.operates op hop
        obtain ⟨hdisk, hsame⟩ := Prod.mk.inj hstep
        simp only [List.filterMap_cons, hop, hdisk, hsame]
        rfl
    · have hone : r.1.2.own.httpRequests =
          s.2.own.httpRequests + if v.request.Handled then 1 else 0 := h.counted
      rw [hone, List.countP_cons]
      simp only [decide_eq_true_eq]
      omega

/-- The head of what may only be changed cannot be asked for. -/
example : ¬ Request.Handled { method := "HEAD", path := "/keep-closed" } := by decide

def visits : List Visit :=
  let requests : List Request :=
    [.ofTarget "HEAD" "/connections?open_only=true", .ofTarget "DELETE" "/connections/closed",
      .ofTarget "POST" "/keep-closed", .ofTarget "GET" "/connections/a",
      .ofTarget "GET" "/nowhere", .ofTarget "DELETE" "/connections/a",
      .ofTarget "HEAD" "/keep-closed", .ofTarget "GET" "/?open_only=1",
      .ofTarget "GET" "/connections/%FF"]
  requests.map fun r => ⟨0, { time := ⟨0, 0, 0⟩ }, r⟩

def unvisited : Disk × Pipeline :=
  (.empty, .create "connections" {} (.create ⟨"settings", {}⟩) { time := ⟨0, 0, 0⟩ })

theorem visits_effect :
    (serve {} unvisited visits).2.map (·.status) = [200, 200, 200, 404, 404, 405, 405, 400, 400] ∧
      (serve {} unvisited visits).1.2.own.httpRequests = 4 ∧
      ((serve {} unvisited visits).1.1, (serve {} unvisited visits).1.2.store) =
        Store.run .empty unvisited.2.store [.clearClosed, .toggle] := by
  obtain ⟨hstore, -, hcounted, -⟩ := serve_effect {} unvisited visits
  have hoperations : visits.filterMap (·.request.operation?) = [.clearClosed, .toggle] := rfl
  have hhandled : visits.countP (·.request.Handled) = 4 := by decide +kernel
  rw [hoperations] at hstore
  rw [hhandled] at hcounted
  exact ⟨by decide +kernel, hcounted, hstore⟩

end TrafficWatch.Web

import BuildVersion.Proofs.Lookup.Canonical
import BuildVersion.Proofs.Lookup.Kubecross
import BuildVersion.Proofs.Lookup.Session

namespace BuildVersion.Lookup

open Console (Notice Style)
open Version (FetchError VersionError)

/-- A branch of a search: its address with the trimmed reply there, or why it has no address, and
whether no branch comes after it. -/
structure Stop where
  branch : String
  reply : Except TemplateFault (String × Reply)
  last : Bool

namespace Stop

/-- Whether a search ends here whatever comes after. -/
def decides (stop : Stop) : Bool :=
  match stop.reply with
  | .error _ => true
  | .ok (_, reply) => reply.version?.isSome

theorem decides_of_reply (branch url : String) (reply : Reply) (last : Bool) :
    decides ⟨branch, .ok (url, reply), last⟩ = reply.version?.isSome := rfl

def url? (stop : Stop) : Option String :=
  match stop.reply with
  | .error _ => none
  | .ok (url, _) => some url

/-- The failure that a search passes over here. -/
def skipped? (stop : Stop) : Option FetchError :=
  match stop.reply, stop.last with
  | .ok (_, .error e), false => some e
  | _, _ => none

def trying (stop : Stop) : Notice :=
  .info s!"Trying to get the kube-cross version for {stop.branch}..."

def warnings (stop : Stop) : List Notice :=
  stop.skipped?.toList.map fun e =>
    .warning s!"Error retrieving the kube-cross version for the '{stop.branch}': {e.text}"

def notices (stop : Stop) : List Notice :=
  stop.trying :: stop.warnings

def events (stop : Stop) : List Event :=
  .said stop.trying :: stop.url?.toList.map .asked ++ stop.warnings.map .said

end Stop

def Resolver.stops (r : Resolver) (client : String → Reply) : List String → List Stop
  | [] => []
  | branch :: rest =>
    ⟨branch, (Template.expand r.endpoints.kubecrossUrl branch).map fun url =>
        (url, (client url).map Text.trimmed), rest.isEmpty⟩ :: r.stops client rest

/-- The stops up to the first one that decides. -/
def visited : List Stop → List Stop
  | [] => []
  | stop :: rest => if stop.decides then [stop] else stop :: visited rest

/-- One more than the number of the first reply that holds a version, or the number of replies. -/
def reach (answers : List Reply) : Nat :=
  match answers.findIdx? fun reply => reply.version?.isSome with
  | some i => i + 1
  | none => answers.length

/-- What is told at the end of a search that found a version. -/
def foundNotices : Outcome VersionError String → List Notice
  | .ok version => [.info s!"Found the following kube-cross version: {version}"]
  | _ => []

namespace Run

variable (outcome : Outcome VersionError String)

theorem urls_events (stop : Stop) : Run.urls ⟨stop.events, outcome⟩ = stop.url?.toList := by
  rw [Stop.events, urls_append, urls_map_said, List.append_nil]
  cases stop.url? <;> rfl

theorem notices_events (stop : Stop) : Run.notices ⟨stop.events, outcome⟩ = stop.notices := by
  rw [Stop.events, notices_append, notices_map_said]
  cases stop.url? <;> rfl

theorem urls_flatMap_events (stops : List Stop) :
    Run.urls ⟨stops.flatMap Stop.events, outcome⟩ = stops.filterMap Stop.url? := by
  induction stops with
  | nil => rfl
  | cons stop rest ih =>
      rw [List.flatMap_cons, urls_append, urls_events, ih, List.filterMap_cons]
      cases stop.url? <;> rfl

theorem notices_flatMap_events (stops : List Stop) :
    Run.notices ⟨stops.flatMap Stop.events, outcome⟩ = stops.flatMap Stop.notices := by
  induction stops with
  | nil => rfl
  | cons stop rest ih =>
      rw [List.flatMap_cons, notices_append, notices_events, ih, List.flatMap_cons]

theorem urls_of_events {run : Run} {stops : List Stop} {last : List Notice}
    (hevents : run.events = stops.flatMap Stop.events ++ last.map .said) :
    run.urls = stops.filterMap Stop.url? := by
  calc
    run.urls = Run.urls ⟨stops.flatMap Stop.events ++ last.map .said, run.outcome⟩ := by
      rw [← hevents]
    _ = stops.filterMap Stop.url? := by
      rw [urls_append, urls_flatMap_events, urls_map_said, List.append_nil]

theorem notices_of_events {run : Run} {stops : List Stop} {last : List Notice}
    (hevents : run.events = stops.flatMap Stop.events ++ last.map .said) :
    run.notices = stops.flatMap Stop.notices ++ last := by
  calc
    run.notices = Run.notices ⟨stops.flatMap Stop.events ++ last.map .said, run.outcome⟩ := by
      rw [← hevents]
    _ = stops.flatMap Stop.notices ++ last := by
      rw [notices_append, notices_flatMap_events, notices_map_said]

end Run

theorem visited_of_decides {stop : Stop} (hstop : stop.decides = true) (rest : List Stop) :
    visited (stop :: rest) = [stop] := if_pos hstop

theorem visited_of_not_decides {stop : Stop} (hstop : stop.decides = false) (rest : List Stop) :
    visited (stop :: rest) = stop :: visited rest := by
  rw [visited, hstop]
  rfl

theorem reach_of_version {reply : Reply} (answers : List Reply)
    (hreply : reply.version?.isSome = true) : reach (reply :: answers) = 1 := by
  rw [reach, List.findIdx?_cons, hreply]
  rfl

theorem reach_of_no_version {reply : Reply} (answers : List Reply)
    (hreply : reply.version?.isSome = false) : reach (reply :: answers) = reach answers + 1 := by
  rw [reach, List.findIdx?_cons, hreply, reach]
  cases answers.findIdx? fun reply => reply.version?.isSome <;> rfl

namespace Resolver

section Steps

variable {r : Resolver} {client : String → Reply} {branch url : String} (rest : List String)

theorem stops_of_fault {cause : TemplateFault}
    (hurl : Template.expand r.endpoints.kubecrossUrl branch = .error cause) :
    r.stops client (branch :: rest) =
      ⟨branch, .error cause, rest.isEmpty⟩ :: r.stops client rest := by
  rw [stops, hurl]
  rfl

theorem stops_of_url (hurl : Template.expand r.endpoints.kubecrossUrl branch = .ok url) :
    r.stops client (branch :: rest) =
      ⟨branch, .ok (url, (client url).map Text.trimmed), rest.isEmpty⟩ :: r.stops client rest := by
  rw [stops, hurl]
  rfl

theorem kubecrossFrom_of_fault (source : Source) (all : List String) {cause : TemplateFault}
    (hurl : Template.expand r.endpoints.kubecrossUrl branch = .error cause) :
    r.kubecrossFrom source all (branch :: rest) =
      ⟨[info s!"Trying to get the kube-cross version for {branch}..."],
        .aborted (.template cause)⟩ := by
  simp only [kubecrossFrom, hurl]

end Steps

/-- A search does at its stops what each of them does, up to the stop that decides, and tells of the
version at its end if it found one. -/
theorem kubecrossFrom_events (r : Resolver) (client : String → Reply)
    (all branches : List String) :
    (r.kubecrossFrom (answering client) all branches).events =
      (visited (r.stops client branches)).flatMap Stop.events ++
        (foundNotices (r.kubecrossFrom (answering client) all branches).outcome).map .said := by
  induction branches with
  | nil => rfl
  | cons branch rest ih =>
      cases hurl : Template.expand r.endpoints.kubecrossUrl branch with
      | error cause =>
          rw [stops_of_fault rest hurl, visited_of_decides rfl, kubecrossFrom_of_fault rest _ _ hurl]
          rfl
      | ok url =>
          rw [stops_of_url rest hurl]
          cases hreply : (client url).map Text.trimmed with
          | ok text =>
              by_cases htext : text = ""
              · subst htext
                rw [kubecrossFrom_of_empty all rest hurl hreply, visited_of_not_decides rfl,
                  List.flatMap_cons, List.append_assoc]
                exact congrArg (reached branch url ++ ·) ih
              · have hdecides : Stop.decides ⟨branch, .ok (url, .ok text), rest.isEmpty⟩ = true := by
                  rw [Stop.decides_of_reply, Reply.version?_ok_of_ne htext, Option.isSome_some]
                rw [kubecrossFrom_of_version all rest hurl hreply htext,
                  visited_of_decides hdecides]
                rfl
          | error e =>
              rw [visited_of_not_decides rfl]
              by_cases hlast : rest = []
              · subst hlast
                rw [kubecrossFrom_of_last_error all hurl hreply]
                rfl
              · rw [kubecrossFrom_of_error all hlast hurl hreply, List.flatMap_cons,
                  List.append_assoc, List.isEmpty_eq_false_iff.mpr hlast]
                exact congrArg (reached branch url ++ [passedOver branch e] ++ ·) ih

theorem urls_kubecross (r : Resolver) (client : String → Reply) (branches : List String) :
    (r.kubecross (answering client) branches).urls =
      (visited (r.stops client branches)).filterMap Stop.url? :=
  Run.urls_of_events (r.kubecrossFrom_events client branches branches)

theorem notices_kubecross (r : Resolver) (client : String → Reply) (branches : List String) :
    (r.kubecross (answering client) branches).notices =
      (visited (r.stops client branches)).flatMap Stop.notices ++
        foundNotices (r.kubecross (answering client) branches).outcome :=
  Run.notices_of_events (r.kubecrossFrom_events client branches branches)

theorem map_url?_stops (r : Resolver) (client : String → Reply) {branches urls : List String}
    (hurls : branches.map (Template.expand r.endpoints.kubecrossUrl) = urls.map .ok) :
    (r.stops client branches).map Stop.url? = urls.map some := by
  induction branches generalizing urls with
  | nil =>
      obtain rfl : urls = [] := by simpa using hurls.symm
      rfl
  | cons branch rest ih =>
      obtain _ | ⟨url, urls⟩ := urls
      · simp at hurls
      · obtain ⟨hurl, hrest⟩ := List.cons.inj hurls
        rw [stops_of_url rest hurl, List.map_cons, ih hrest]
        rfl

theorem filterMap_url?_take_stops (r : Resolver) (client : String → Reply)
    {branches urls : List String}
    (hurls : branches.map (Template.expand r.endpoints.kubecrossUrl) = urls.map .ok) (k : Nat) :
    ((r.stops client branches).take k).filterMap Stop.url? = urls.take k := by
  calc
    ((r.stops client branches).take k).filterMap Stop.url? =
        (((r.stops client branches).map Stop.url?).take k).filterMap id := by
      rw [← List.map_take, List.filterMap_map, Function.id_comp]
    _ = ((urls.take k).map some).filterMap id := by
      rw [map_url?_stops r client hurls, List.map_take]
    _ = urls.take k := by
      rw [List.filterMap_map]
      exact List.filterMap_some

theorem visited_stops (r : Resolver) (client : String → Reply) {branches urls : List String}
    (hurls : branches.map (Template.expand r.endpoints.kubecrossUrl) = urls.map .ok) :
    visited (r.stops client branches) =
      (r.stops client branches).take (reach (replies client urls)) := by
  induction branches generalizing urls with
  | nil => exact List.take_nil.symm
  | cons branch rest ih =>
      obtain _ | ⟨url, urls⟩ := urls
      · simp at hurls
      · obtain ⟨hurl, hrest⟩ := List.cons.inj hurls
        have hanswers : replies client (url :: urls) =
            (client url).map Text.trimmed :: replies client urls := rfl
        rw [stops_of_url rest hurl, hanswers]
        cases hversion : Reply.version? ((client url).map Text.trimmed) with
        | some version =>
            rw [visited_of_decides (by rw [Stop.decides_of_reply, hversion, Option.isSome_some]),
              reach_of_version _ (by rw [hversion, Option.isSome_some])]
            rfl
        | none =>
            rw [visited_of_not_decides (by rw [Stop.decides_of_reply, hversion, Option.isSome_none]),
              reach_of_no_version _ (by rw [hversion, Option.isSome_none]), ih hrest]
            rfl

end Resolver

/-- Whether records hold no error and this many warnings. -/
structure HasWarnings (records : List Console.Record) (n : Nat) : Prop where
  no_error : ∀ record ∈ records, record.style ≠ .error
  count : records.countP (fun record => record.style = .warning) = n

namespace HasWarnings

theorem append {first second : List Console.Record} {m n : Nat} (hfirst : HasWarnings first m)
    (hsecond : HasWarnings second n) : HasWarnings (first ++ second) (m + n) where
  no_error record hrecord := by
    rcases List.mem_append.mp hrecord with hrecord | hrecord
    · exact hfirst.no_error record hrecord
    · exact hsecond.no_error record hrecord
  count := by rw [List.countP_append, hfirst.count, hsecond.count]

theorem infos (messages : List String) :
    HasWarnings ((messages.map Notice.info).map Notice.record) 0 where
  no_error record hrecord := by
    simp only [List.map_map, List.mem_map] at hrecord
    obtain ⟨message, -, rfl⟩ := hrecord
    simp [Notice.record]
  count := by simp [List.countP_eq_zero, Notice.record]

theorem found (outcome : Outcome VersionError String) :
    HasWarnings ((foundNotices outcome).map Notice.record) 0 := by
  cases outcome with
  | ok version => exact infos [s!"Found the following kube-cross version: {version}"]
  | _ => exact infos []

theorem warning (message : String) : HasWarnings ([Notice.warning message].map Notice.record) 1 where
  no_error record hrecord := by
    obtain rfl := List.mem_singleton.mp hrecord
    simp [Notice.record]
  count := rfl

theorem stop (stop : Stop) :
    HasWarnings (stop.notices.map Notice.record) (if stop.skipped?.isSome then 1 else 0) := by
  have htrying : HasWarnings ([stop.trying].map Notice.record) 0 :=
    infos [s!"Trying to get the kube-cross version for {stop.branch}..."]
  rw [Stop.notices, Stop.warnings]
  cases stop.skipped? with
  | none => exact htrying
  | some e => exact htrying.append (warning _)

theorem stops (stops : List Stop) :
    HasWarnings ((stops.flatMap Stop.notices).map Notice.record)
      (stops.countP fun stop => stop.skipped?.isSome) := by
  induction stops with
  | nil => exact infos []
  | cons first rest ih =>
      rw [List.flatMap_cons, List.map_append, List.countP_cons, Nat.add_comm]
      exact (stop first).append ih

end HasWarnings

/-- What a client that has these responses replies. -/
def Responses.client (responses : Responses) (url : String) : Reply :=
  (responses.lookup url).getD (.error ⟨url, 404, "Not Found (mock)"⟩)

theorem Responses.source_eq_answering (responses : Responses) :
    responses.source = answering responses.client := by
  funext url
  rw [source, answering, client]
  rcases responses.lookup url with _ | (e | text) <;> rfl

/-- How many failures a step passes over; only a search passes over any. -/
def Step.skipped (r : Resolver) (responses : Responses) : Step → Nat
  | .kubecross branches =>
    (visited (r.stops responses.client branches)).countP fun stop => stop.skipped?.isSome
  | _ => 0

theorem Step.hasWarnings (r : Resolver) (responses : Responses) (step : Step) :
    HasWarnings (((step.run? r responses.source).elim [] Run.notices).map Notice.record)
      (step.skipped r responses) := by
  have hmarker : ∀ (lookup : Bool → Run) (branch url : String) (canonical : Bool),
      lookup ∈ [r.stable responses.source, r.prerelease responses.source,
        r.latestCi responses.source, r.ci responses.source branch,
        Lookup.marker responses.source url] →
      HasWarnings ((lookup canonical).notices.map Notice.record) 0 := by
    intro lookup branch url canonical hlookup
    obtain ⟨asked, opening, hreads⟩ := Resolver.exists_readsMarker hlookup
    rw [hreads.notices]
    exact HasWarnings.infos _
  cases step with
  | set url response => exact HasWarnings.infos []
  | get url => exact HasWarnings.infos []
  | stable canonical => exact hmarker (r.stable responses.source) "" "" canonical (by simp)
  | prerelease canonical => exact hmarker (r.prerelease responses.source) "" "" canonical (by simp)
  | latestCi canonical => exact hmarker (r.latestCi responses.source) "" "" canonical (by simp)
  | ci branch canonical => exact hmarker (r.ci responses.source branch) branch "" canonical (by simp)
  | marker url canonical =>
      exact hmarker (Lookup.marker responses.source url) "" url canonical (by simp)
  | kubecross branches =>
      rw [Responses.source_eq_answering, Step.run?, Option.elim_some,
        Resolver.notices_kubecross, List.map_append]
      exact (HasWarnings.stops _).append (HasWarnings.found _)

/-- How many failures the steps of a session pass over. -/
def Session.skipped (s : Session) : List Step → Nat
  | [] => 0
  | step :: rest => step.skipped s.resolver s.responses + (s.run step).2.skipped rest

theorem Session.exists_records (s : Session) (steps : List Step) :
    ∃ added, (s.runAll steps).2.journal.records = s.journal.records ++ added ∧
      HasWarnings added (s.skipped steps) := by
  induction steps generalizing s with
  | nil => exact ⟨[], (List.append_nil _).symm, HasWarnings.infos []⟩
  | cons step rest ih =>
      obtain ⟨added, hrecords, hadded⟩ := ih (s.run step).2
      refine ⟨_, ?_, (step.hasWarnings s.resolver s.responses).append hadded⟩
      rw [runAll_cons, hrecords, run_records, List.append_assoc]

namespace Resolver

/-- A search asks once at each branch up to the first reply that holds a version, or at every
branch, and at nothing else. It announces each of these branches, warns right after of a failure
there unless the branch is the last, and at its end tells of the version that it gives, if it gives
one; it tells nothing else. In a session no step records an error, and the warnings are as many as
the failures that searches passed over. -/
theorem kubecross_asks_and_tells (r : Resolver) (client : String → Reply) :
    (∀ branches urls : List String,
      branches.map (Template.expand r.endpoints.kubecrossUrl) = urls.map .ok →
      let run := r.kubecross (answering client) branches
      let k := reach (replies client urls)
      run.urls = urls.take k ∧
        run.notices = ((r.stops client branches).take k).flatMap Stop.notices ++
          foundNotices run.outcome) ∧
      ∀ (s : Session) (steps : List Step), ∃ added,
        (s.runAll steps).2.journal.records = s.journal.records ++ added ∧
          (∀ record ∈ added, record.style ≠ .error) ∧
          added.countP (fun record => record.style = .warning) = s.skipped steps := by
  constructor
  · intro branches urls hurls run k
    constructor
    · rw [urls_kubecross, visited_stops r client hurls, filterMap_url?_take_stops r client hurls]
    · rw [notices_kubecross, visited_stops r client hurls]
  · intro s steps
    obtain ⟨added, hrecords, hadded⟩ := s.exists_records steps
    exact ⟨added, hrecords, hadded.no_error, hadded.count⟩

/-- A search that passes over a failure, finds a blank text and ends before its last branch; and a
session of two searches in vain, which pass over one failure. -/
theorem kubecross_failed_blank_held_told :
    (sampleResolver.kubecross (answering sampleClient) ["gone", "blank", "master", "next"]).urls =
        ["https://host/gone", "https://host/blank", "https://host/master"] ∧
      (sampleResolver.kubecross (answering sampleClient)
          ["gone", "blank", "master", "next"]).notices =
        [.info "Trying to get the kube-cross version for gone...",
          .warning ("Error retrieving the kube-cross version for the 'gone': " ++
            "HTTP 404: Not Found (https://host/gone)"),
          .info "Trying to get the kube-cross version for blank...",
          .info "Trying to get the kube-cross version for master...",
          .info "Found the following kube-cross version: v1.13.9-1"] ∧
      (({ resolver := sampleResolver } : Session).runAll
          [.kubecross ["gone", "next"], .kubecross ["gone"]]).2.journal.records.countP
        (fun record => record.style = .warning) = 1 := by
  have hurls : ["gone", "blank", "master", "next"].map
      (Template.expand sampleResolver.endpoints.kubecrossUrl) =
        ["https://host/gone", "https://host/blank", "https://host/master",
          "https://host/next"].map .ok := by
    decide +kernel
  obtain ⟨hsearch, hsession⟩ := kubecross_asks_and_tells sampleResolver sampleClient
  obtain ⟨hasked, htold⟩ := hsearch _ _ hurls
  refine ⟨hasked.trans ?_, htold.trans ?_, ?_⟩
  · decide +kernel
  · decide +kernel
  · obtain ⟨added, hrecords, -, hcount⟩ := hsession { resolver := sampleResolver }
      [.kubecross ["gone", "next"], .kubecross ["gone"]]
    rw [hrecords, List.nil_append, hcount]
    decide +kernel

end Resolver

end BuildVersion.Lookup

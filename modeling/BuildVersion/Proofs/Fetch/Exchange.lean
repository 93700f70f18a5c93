import Mathlib.Data.List.Forall2
import BuildVersion.Fetch.Client
import BuildVersion.Proofs.Text.Utf8

namespace BuildVersion.Fetch

open Version (FetchError)

/-- Whether an address can be asked for. -/
def Url.isSendable (url : String) : Bool :=
  hasScheme url && (Authority.flaw? (authority url)).isNone

theorem Url.problem?_eq_none_iff {url : String} : problem? url = none ↔ isSendable url = true := by
  rw [problem?, isSendable]
  cases hasScheme url <;> simp

namespace Failure

/-- No handler stands behind one for a kind above its own, so that each is reached. -/
theorem pairwise_handlers :
    handlers.Pairwise fun earlier later => earlier.kind ∉ later.kind.lineage := by
  decide

/-- Every failure but a foreign one has a handler of its own kind, and is handled by no other. -/
theorem outcome_eq {α : Type} (url : String) (cause : Failure) :
    (cause.outcome url : Outcome FetchError α) =
      match cause with
      | .http status reason => .err ⟨url, status, reason⟩
      | .unreachable reason => .err ⟨url, 0, reason⟩
      | .timedOut => .err ⟨url, 0, "Request timed out"⟩
      | .invalid message => .err ⟨url, 0, message⟩
      | .io message => .err ⟨url, 0, message⟩
      | .foreign => .aborted .transport := by
  cases cause <;> rfl

end Failure

namespace Response

/-- The response with its failure, whenever that comes. -/
def unstaged : Response → Except Failure (List UInt8)
  | .body bytes => .ok bytes
  | .failure _ cause => .error cause

/-- The status that the server answers with in place of a body, zero if there is none. -/
def status : Response → Int
  | .failure _ (.http status _) => status
  | _ => 0

/-- What a response to the request for an address amounts to. -/
def answer (url : String) (response : Response) : Outcome FetchError String :=
  match response.unstaged with
  | .ok bytes => decode url bytes
  | .error cause => cause.outcome url

variable {url : String} {response : Response}

theorem answer_eq_ok_iff (url : String) {text : String} :
    response.answer url = .ok text ↔ response = .body text.toUTF8.data.toList := by
  cases response with
  | body bytes =>
      rw [Response.body.injEq, ← Text.Utf8.decode_eq_ok_iff]
      change decode url bytes = _ ↔ _
      rw [decode]
      cases Text.Utf8.decode bytes <;> simp
  | failure stage cause =>
      change cause.outcome url = _ ↔ _
      rw [cause.outcome_eq]
      cases cause <;> simp

theorem answer_eq_err {e : FetchError} (h : response.answer url = .err e) :
    e.url = url ∧ e.status = response.status := by
  cases response with
  | body bytes =>
      change decode url bytes = _ at h
      rw [decode] at h
      cases hdecode : Text.Utf8.decode bytes with
      | ok text =>
          rw [hdecode] at h
          contradiction
      | error malformed =>
          rw [hdecode] at h
          rw [← Outcome.err.inj h]
          exact ⟨rfl, rfl⟩
  | failure stage cause =>
      change cause.outcome url = _ at h
      rw [cause.outcome_eq] at h
      cases cause with
      | foreign => contradiction
      | _ =>
          rw [← Outcome.err.inj h]
          exact ⟨rfl, rfl⟩

/-- Only a failure that is not the transport's own gives no answer. -/
theorem exists_answer_eq (url : String) (h : ∀ stage, response ≠ .failure stage .foreign) :
    ∃ answer, response.answer url = .ofExcept answer := by
  cases hanswer : response.answer url with
  | ok text => exact ⟨.ok text, rfl⟩
  | err e => exact ⟨.error e, rfl⟩
  | aborted fault =>
      cases response with
      | body bytes =>
          change decode url bytes = _ at hanswer
          rw [decode] at hanswer
          cases hdecode : Text.Utf8.decode bytes <;> rw [hdecode] at hanswer <;> contradiction
      | failure stage cause =>
          change cause.outcome url = _ at hanswer
          rw [cause.outcome_eq] at hanswer
          cases cause with
          | foreign => exact absurd rfl (h stage)
          | _ => contradiction

end Response

/-- Sends requests over a transport and notes those that reach it. -/
def Transport.noting (transport : Transport) (request : Request) :
    StateM (List Request) Response := do
  modify (· ++ [request])
  return transport request.url

namespace Client

section Calls

variable {m : Type → Type} [Monad m] (client : Client) (send : Request → m Response)

/-- The request for an address that can be asked for. -/
def request (url : String) : Request :=
  ⟨Url.full url, client.userAgent, client.timeout⟩

/-- One call, which sends its request as `send` does. -/
def call (url : String) : m (Outcome FetchError String) :=
  match Url.problem? url with
  | some problem => pure (.err ⟨url, 0, problem⟩)
  | none => do
    let response ← send (client.request url)
    return response.answer url

def callAll : List String → m (List (Outcome FetchError String))
  | [] => pure []
  | url :: rest => do
    let answer ← client.call send url
    let answers ← callAll rest
    return answer :: answers

end Calls

variable {transport : Transport} {url : String}

theorem getText_of_sendable (h : Url.isSendable url = true) :
    getText transport url = (transport (Url.full url)).answer url := by
  rw [getText, Url.problem?_eq_none_iff.mpr h, Response.answer]
  cases transport (Url.full url) <;> rfl

theorem exists_getText_of_not_sendable (h : ¬Url.isSendable url = true) :
    ∃ problem, Url.problem? url = some problem ∧
      ∀ transport, getText transport url = .err ⟨url, 0, problem⟩ := by
  obtain ⟨problem, hproblem⟩ :=
    Option.ne_none_iff_exists'.mp (mt Url.problem?_eq_none_iff.mp h)
  refine ⟨problem, hproblem, fun transport => ?_⟩
  rw [getText, hproblem]

theorem requests_eq (client : Client) (url : String) :
    client.requests url = if Url.isSendable url = true then [client.request url] else [] := by
  simp only [requests, Option.isNone_iff_eq_none, Url.problem?_eq_none_iff, request]

/-- One call: the answer of the address on its own, with its requests behind those before. -/
theorem run_call (client : Client) (transport : Transport) (url : String) (sent : List Request) :
    (client.call transport.noting url).run sent =
      (getText transport url, sent ++ client.requests url) := by
  rw [call, requests_eq]
  by_cases h : Url.isSendable url = true
  · rw [Url.problem?_eq_none_iff.mpr h, getText_of_sendable h, if_pos h]
    rfl
  · obtain ⟨problem, hproblem, hanswer⟩ := exists_getText_of_not_sendable h
    rw [hproblem, hanswer, if_neg h, List.append_nil]
    rfl

theorem run_callAll (client : Client) (transport : Transport) (urls : List String)
    (sent : List Request) :
    (client.callAll transport.noting urls).run sent =
      (urls.map (getText transport), sent ++ urls.flatMap client.requests) := by
  induction urls generalizing sent with
  | nil =>
      rw [List.flatMap_nil, List.append_nil]
      rfl
  | cons url rest ih =>
      rw [callAll, StateT.run_bind, run_call]
      change (do
        let result ← (client.callAll transport.noting rest).run (sent ++ client.requests url)
        pure (getText transport url :: result.1, result.2) : Id _) = _
      rw [ih, List.flatMap_cons, List.append_assoc]
      rfl

theorem flatMap_requests (client : Client) (urls : List String) :
    urls.flatMap client.requests = (urls.filter Url.isSendable).map client.request := by
  induction urls with
  | nil => rfl
  | cons url rest ih =>
      rw [List.flatMap_cons, ih, requests_eq, List.filter_cons]
      split <;> rfl

/-- What an answer for an address says. -/
structure Answers (transport : Transport) (url : String) (answer : Except FetchError String) :
    Prop where
  ok_iff : ∀ text, answer = .ok text ↔
    Url.isSendable url = true ∧ transport (Url.full url) = .body text.toUTF8.data.toList
  url_eq : ∀ e, answer = .error e → e.url = url
  status_eq : ∀ e, answer = .error e →
    e.status = if Url.isSendable url = true then (transport (Url.full url)).status else 0

theorem exists_answers {transport : Transport} (url : String)
    (hown : ∀ stage, transport (Url.full url) ≠ .failure stage .foreign) :
    ∃ answer, getText transport url = .ofExcept answer ∧ Answers transport url answer := by
  by_cases hurl : Url.isSendable url = true
  · obtain ⟨answer, hanswer⟩ := Response.exists_answer_eq url hown
    refine ⟨answer, (getText_of_sendable hurl).trans hanswer, ⟨fun text => ?_, ?_, ?_⟩⟩
    · rw [← Response.answer_eq_ok_iff url, hanswer]
      cases answer <;> simp [Outcome.ofExcept, hurl]
    · rintro e rfl
      exact (Response.answer_eq_err hanswer).1
    · rintro e rfl
      rw [if_pos hurl]
      exact (Response.answer_eq_err hanswer).2
  · obtain ⟨problem, -, hproblem⟩ := exists_getText_of_not_sendable hurl
    refine ⟨.error ⟨url, 0, problem⟩, hproblem transport, ⟨fun text => ?_, ?_, ?_⟩⟩
    · exact ⟨fun h => by contradiction, fun h => absurd h.1 hurl⟩
    · rintro e he
      rw [← Except.error.inj he]
    · rintro e he
      rw [← Except.error.inj he, if_neg hurl]

/-- The answer for an address depends on nothing but the response to its own request, and not on
when that fails. -/
theorem getText_congr {transport' : Transport}
    (hsame : (transport' (Url.full url)).unstaged = (transport (Url.full url)).unstaged) :
    getText transport' url = getText transport url := by
  by_cases hurl : Url.isSendable url = true
  · rw [getText_of_sendable hurl, getText_of_sendable hurl, Response.answer, Response.answer, hsame]
  · obtain ⟨problem, -, hproblem⟩ := exists_getText_of_not_sendable hurl
    rw [hproblem, hproblem]

/-- Over a transport with failures of its own only, every call of a run answers with a text or an
error. The error is about the address that was asked for, and has the status that the server
answered with, if one did. An address without a scheme or with a malformed authority sends no
request, any other one for each call. An answer is the same after other calls, and over any
transport that has the same response for its address, whenever that fails. -/
theorem callAll_answers (client : Client) {transport : Transport}
    (hown : ∀ url stage, transport url ≠ .failure stage .foreign) (urls : List String)
    (sent : List Request) :
    (client.callAll transport.noting urls).run sent =
        (urls.map (getText transport), sent ++ urls.flatMap client.requests) ∧
      urls.flatMap client.requests = (urls.filter Url.isSendable).map client.request ∧
      ∃ answers : List (Except FetchError String),
        urls.map (getText transport) = answers.map .ofExcept ∧
        List.Forall₂ (Answers transport) urls answers ∧
        ∀ (i : Nat) (url : String) (answer : Except FetchError String),
          urls[i]? = some url → answers[i]? = some answer →
          ∀ (transport' : Transport) (before after : List String) (sent' : List Request),
            (transport' (Url.full url)).unstaged = (transport (Url.full url)).unstaged →
            ((client.callAll transport'.noting (before ++ url :: after)).run
              sent').1[before.length]? = some (.ofExcept answer) := by
  choose answer hanswer hsays using fun url =>
    exists_answers url (hown (Url.full url))
  refine ⟨run_callAll client transport urls sent, flatMap_requests client urls,
    urls.map answer, ?_, ?_, ?_⟩
  · rw [List.map_map]
    exact List.map_congr_left fun url _ => hanswer url
  · rw [List.forall₂_map_right_iff, List.forall₂_same]
    exact fun url _ => hsays url
  · intro i url found hurl hfound transport' before after sent' hsame
    rw [List.getElem?_map, hurl] at hfound
    obtain rfl : answer url = found := Option.some.inj hfound
    have hplace : (before ++ url :: after)[before.length]? = some url := by simp
    rw [run_callAll, List.getElem?_map, hplace, Option.map_some, getText_congr hsame, hanswer]

/-- A server that is busy, an address without scheme, and a body that is no text. -/
theorem callAll_busyServer :
    let transport : Transport := fun url =>
      if url = "https://host/busy" then .failure .reading (.http 503 "Busy") else .body [0x80]
    let urls := ["https://host/busy", "host/busy", "https://host/bytes"]
    (∀ url stage, transport url ≠ .failure stage .foreign) ∧
      (({} : Client).callAll transport.noting urls).run [] =
        ([.err ⟨"https://host/busy", 503, "Busy"⟩,
            .err ⟨"host/busy", 0, "unknown url type: 'host/busy'"⟩,
            .err ⟨"https://host/bytes", 0, "Decode error: " ++
              "'utf-8' codec can't decode byte 0x80 in position 0: invalid start byte"⟩],
          [⟨"https://host/busy", "relver/0.1.0", .ofInt 30⟩,
            ⟨"https://host/bytes", "relver/0.1.0", .ofInt 30⟩]) := by
  intro transport urls
  have hown : ∀ url stage, transport url ≠ .failure stage .foreign := by
    intro url stage
    dsimp only [transport]
    split <;> simp
  obtain ⟨hrun, hsent, -⟩ := callAll_answers {} hown urls []
  rw [hsent] at hrun
  exact ⟨hown, hrun.trans (Prod.ext (by decide +kernel) (by decide +kernel))⟩

/-- An address can have a scheme and send no request: the bracket that opens its host is never
closed. -/
theorem openBracket_not_sent :
    let transport : Transport := fun _ => .body (Text.Utf8.encode "v1\n")
    let url := "http://[::1/x"
    (∀ url stage, transport url ≠ .failure stage .foreign) ∧ Url.hasScheme url = true ∧
      (({} : Client).callAll transport.noting [url]).run [] =
        ([.err ⟨url, 0, "Invalid IPv6 URL"⟩], []) := by
  intro transport url
  have hrun := run_callAll {} transport [url] []
  exact ⟨fun url stage => by simp [transport], by decide +kernel,
    hrun.trans (Prod.ext (by decide +kernel) (by decide +kernel))⟩

end Client

end BuildVersion.Fetch

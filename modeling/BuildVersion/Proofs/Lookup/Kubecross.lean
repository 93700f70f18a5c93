import Mathlib.Control.Monad.Basic
import BuildVersion.Lookup.Resolver

namespace BuildVersion.Lookup

open Version (FetchError VersionError)

/-- What a client has for an address: a text or an error. -/
abbrev Reply := Except FetchError String

def answering (client : String → Reply) : Source :=
  fun url => .ofExcept (client url)

/-- What a client replies at addresses, without blanks around the texts. -/
def replies (client : String → Reply) (urls : List String) : List Reply :=
  urls.map fun url => (client url).map Text.trimmed

theorem fetchTrimmed_answering (client : String → Reply) (url : String) :
    fetchTrimmed (answering client) url = .ofExcept ((client url).map Text.trimmed) := by
  simp only [fetchTrimmed, answering]
  cases client url <;> rfl

namespace Reply

def version? : Reply → Option String
  | .ok text => if text = "" then none else some text
  | .error _ => none

@[simp] theorem version?_error (e : FetchError) : version? (.error e) = none := rfl

@[simp] theorem version?_ok_empty : version? (.ok "") = none := rfl

theorem version?_ok_of_ne {text : String} (htext : text ≠ "") :
    version? (.ok text) = some text := if_neg htext

theorem version?_eq_none_iff {reply : Reply} :
    version? reply = none ↔ ∀ text, reply = .ok text → text = "" := by
  cases reply with
  | error e => simp
  | ok text => simp [version?]

end Reply

namespace Resolver

open Reply (version?)

/-- What a search without a version ends with: the failure of the last reply, if it failed. -/
def failure (all : List String) (answers : List Reply) : VersionError :=
  match answers.getLast? with
  | some (.error e) => .fetch e
  | _ => .notFound ⟨imageVersion, searched all⟩

def settled (all : List String) (answers : List Reply) : Outcome VersionError String :=
  match answers.findSome? version? with
  | some version => .ok version
  | none => .err (failure all answers)

theorem settled_of_version (all : List String) {text : String} (htext : text ≠ "")
    (answers : List Reply) : settled all (.ok text :: answers) = .ok text := by
  simp only [settled, List.findSome?_cons, Reply.version?_ok_of_ne htext]

theorem settled_of_empty (all : List String) (answers : List Reply) :
    settled all (.ok "" :: answers) = settled all answers := by
  simp only [settled, List.findSome?_cons, Reply.version?_ok_empty, failure]
  cases answers <;> rfl

theorem settled_of_error (all : List String) (e : FetchError) {answers : List Reply}
    (hanswers : answers ≠ []) : settled all (.error e :: answers) = settled all answers := by
  simp only [settled, List.findSome?_cons, Reply.version?_error, failure,
    List.getLast?_cons_of_ne_nil hanswers]

theorem settled_of_first (all : List String) {answers : List Reply} {i : Nat} {text : String}
    (hi : answers[i]? = some (.ok text)) (htext : text ≠ "")
    (hbefore : ∀ j < i, ∀ w, answers[j]? = some (.ok w) → w = "") :
    settled all answers = .ok text := by
  obtain ⟨hlt, hget⟩ := List.getElem?_eq_some_iff.mp hi
  have hnone : ∀ reply ∈ answers.take i, version? reply = none := by
    intro reply hreply
    obtain ⟨j, hj, rfl⟩ := List.mem_take_iff_getElem.mp hreply
    rw [Reply.version?_eq_none_iff]
    intro w hw
    exact hbefore j (by omega) w (by rw [List.getElem?_eq_getElem (by omega), hw])
  have hfirst : answers.findSome? version? = some text := by
    rw [List.findSome?_eq_some_iff]
    refine ⟨answers.take i, .ok text, answers.drop (i + 1), ?_,
      Reply.version?_ok_of_ne htext, hnone⟩
    rw [← hget, List.getElem_cons_drop, List.take_append_drop]
  simp only [settled, hfirst]

theorem settled_of_none (all : List String) {answers : List Reply}
    (hnone : ∀ w, .ok w ∈ answers → w = "") :
    settled all answers = .err (failure all answers) := by
  have hsearch : answers.findSome? version? = none := by
    rw [List.findSome?_eq_none_iff]
    intro reply hreply
    rw [Reply.version?_eq_none_iff]
    rintro w rfl
    exact hnone w hreply
  simp only [settled, hsearch]

theorem failure_of_last_error (all : List String) {answers : List Reply} {e : FetchError}
    (hlast : answers.getLast? = some (.error e)) : failure all answers = .fetch e := by
  simp only [failure, hlast]

theorem failure_of_no_last_error (all : List String) {answers : List Reply}
    (hlast : ∀ e, answers.getLast? ≠ some (.error e)) :
    failure all answers = .notFound ⟨imageVersion, searched all⟩ := by
  unfold failure
  split
  · next e h => exact absurd h (hlast e)
  · rfl

theorem settled_of_last_error (all : List String) (e : FetchError) :
    settled all [.error e] = .err (.fetch e) := rfl

def reached (branch url : String) : List Event :=
  [info s!"Trying to get the kube-cross version for {branch}...", .asked url]

def passedOver (branch : String) (e : FetchError) : Event :=
  .said (.warning s!"Error retrieving the kube-cross version for the '{branch}': {e.text}")

def found (version : String) : Event :=
  info s!"Found the following kube-cross version: {version}"

section Step

variable {r : Resolver} {client : String → Reply} {branch url text : String} {e : FetchError}

theorem kubecrossFrom_of_version (all rest : List String)
    (hurl : Template.expand r.endpoints.kubecrossUrl branch = .ok url)
    (hreply : (client url).map Text.trimmed = .ok text) (htext : text ≠ "") :
    r.kubecrossFrom (answering client) all (branch :: rest) =
      ⟨reached branch url ++ [found text], .ok text⟩ := by
  simp only [kubecrossFrom, hurl, fetchTrimmed_answering, hreply, Outcome.ofExcept, htext,
    if_false, reached, found, List.cons_append, List.nil_append]

theorem kubecrossFrom_of_empty (all rest : List String)
    (hurl : Template.expand r.endpoints.kubecrossUrl branch = .ok url)
    (hreply : (client url).map Text.trimmed = .ok "") :
    r.kubecrossFrom (answering client) all (branch :: rest) =
      .after (reached branch url) (r.kubecrossFrom (answering client) all rest) := by
  simp only [kubecrossFrom, hurl, fetchTrimmed_answering, hreply, Outcome.ofExcept, if_true,
    reached]

theorem kubecrossFrom_of_error (all : List String) {rest : List String} (hrest : rest ≠ [])
    (hurl : Template.expand r.endpoints.kubecrossUrl branch = .ok url)
    (hreply : (client url).map Text.trimmed = .error e) :
    r.kubecrossFrom (answering client) all (branch :: rest) =
      .after (reached branch url ++ [passedOver branch e])
        (r.kubecrossFrom (answering client) all rest) := by
  simp only [kubecrossFrom, hurl, fetchTrimmed_answering, hreply, Outcome.ofExcept,
    List.isEmpty_iff, hrest, if_false, reached, passedOver, List.cons_append, List.nil_append]

theorem kubecrossFrom_of_last_error (all : List String)
    (hurl : Template.expand r.endpoints.kubecrossUrl branch = .ok url)
    (hreply : (client url).map Text.trimmed = .error e) :
    r.kubecrossFrom (answering client) all [branch] =
      ⟨reached branch url, .err (.fetch e)⟩ := by
  simp only [kubecrossFrom, hurl, fetchTrimmed_answering, hreply, Outcome.ofExcept,
    List.isEmpty_nil, if_true, reached]

end Step

/-- The search on the remaining branches comes to what the replies for these settle. -/
theorem kubecrossFrom_outcome (r : Resolver) (client : String → Reply) (all : List String)
    {branches urls : List String}
    (hurls : branches.map (Template.expand r.endpoints.kubecrossUrl) = urls.map .ok) :
    (r.kubecrossFrom (answering client) all branches).outcome =
      settled all (replies client urls) := by
  induction branches generalizing urls with
  | nil =>
      obtain rfl : urls = [] := by simpa using hurls.symm
      rfl
  | cons branch rest ih =>
      obtain _ | ⟨url, urls⟩ := urls
      · simp at hurls
      · obtain ⟨hurl, hrest⟩ := List.cons.inj hurls
        have hnext := ih hrest
        simp only [replies, List.map_cons] at hnext ⊢
        cases hreply : (client url).map Text.trimmed with
        | ok text =>
            by_cases htext : text = ""
            · subst htext
              rw [kubecrossFrom_of_empty all rest hurl hreply, settled_of_empty]
              exact hnext
            · rw [kubecrossFrom_of_version all rest hurl hreply htext,
                settled_of_version all htext]
        | error e =>
            -- Only the last failure is returned, so it matters whether branches remain.
            by_cases hlast : rest = []
            · subst hlast
              obtain rfl : urls = [] := by simpa using hrest.symm
              rw [kubecrossFrom_of_last_error all hurl hreply]
              exact (settled_of_last_error all e).symm
            · have hurls : urls ≠ [] := by
                rintro rfl
                exact hlast (by simpa using hrest)
              rw [kubecrossFrom_of_error all hlast hurl hreply,
                settled_of_error all e (by simpa using hurls)]
              exact hnext

theorem kubecross_outcome (r : Resolver) (client : String → Reply) {branches urls : List String}
    (hurls : branches.map (Template.expand r.endpoints.kubecrossUrl) = urls.map .ok) :
    (r.kubecross (answering client) branches).outcome =
      settled branches (replies client urls) :=
  kubecrossFrom_outcome r client branches hurls

/-- The search gives the version of the first branch that holds one, whatever failed or was blank
before it. Without such a branch it gives the failure of the last branch, if that one failed, and
else the names of the branches that hold no version. -/
theorem kubecross_first_version_or_last_failure (r : Resolver) (client : String → Reply)
    {branches urls : List String}
    (hurls : branches.map (Template.expand r.endpoints.kubecrossUrl) = urls.map .ok) :
    (∀ (i : Nat) (version : String), (replies client urls)[i]? = some (.ok version) →
        version ≠ "" →
        (∀ j < i, ∀ text, (replies client urls)[j]? = some (.ok text) → text = "") →
        (r.kubecross (answering client) branches).outcome = .ok version) ∧
      ((∀ text, .ok text ∈ replies client urls → text = "") →
        (∀ e, (replies client urls).getLast? = some (.error e) →
          (r.kubecross (answering client) branches).outcome = .err (.fetch e)) ∧
        ((∀ e, (replies client urls).getLast? ≠ some (.error e)) →
          (r.kubecross (answering client) branches).outcome =
            .err (.notFound ⟨"kube-cross version (must not continue with an empty version)",
              if ", ".intercalate branches = "" then "no branches"
              else ", ".intercalate branches⟩))) := by
  rw [kubecross_outcome r client hurls]
  refine ⟨?_, ?_⟩
  · intro i version hi hversion hbefore
    exact settled_of_first branches hi hversion hbefore
  · intro hnone
    rw [settled_of_none branches hnone]
    refine ⟨?_, ?_⟩
    · intro e hlast
      rw [failure_of_last_error branches hlast]
    · intro hlast
      rw [failure_of_no_last_error branches hlast]
      rfl

/-- A client with one blank text and one text with a version. -/
def sampleClient (url : String) : Reply :=
  if url = "https://host/blank" then .ok " \n"
  else if url = "https://host/master" then .ok "v1.13.9-1\n"
  else .error ⟨url, 404, "Not Found"⟩

def sampleResolver : Resolver :=
  { endpoints := { kubecrossUrl := "https://host/\x7bbranch\x7d" } }

/-- After a failure and a blank text the third branch decides; failures before a blank last branch
leave only the names. -/
theorem kubecross_failed_blank_held :
    (sampleResolver.kubecross (answering sampleClient) ["gone", "blank", "master"]).outcome =
        .ok "v1.13.9-1" ∧
      (sampleResolver.kubecross (answering sampleClient) ["gone", "gone", "blank"]).outcome =
        .err (.notFound ⟨imageVersion, "gone, gone, blank"⟩) := by
  constructor
  · have hurls : ["gone", "blank", "master"].map
        (Template.expand sampleResolver.endpoints.kubecrossUrl) =
          ["https://host/gone", "https://host/blank", "https://host/master"].map .ok := by
      decide +kernel
    have hreplies : replies sampleClient
        ["https://host/gone", "https://host/blank", "https://host/master"] =
          [.error ⟨"https://host/gone", 404, "Not Found"⟩, .ok "", .ok "v1.13.9-1"] := by
      decide +kernel
    refine (kubecross_first_version_or_last_failure sampleResolver sampleClient hurls).1
      2 "v1.13.9-1" (by simp [hreplies]) (by decide) ?_
    rw [hreplies]
    rintro (_ | _ | j) hj text htext
    · simp at htext
    · simpa using htext.symm
    · omega
  · have hurls : ["gone", "gone", "blank"].map
        (Template.expand sampleResolver.endpoints.kubecrossUrl) =
          ["https://host/gone", "https://host/gone", "https://host/blank"].map .ok := by
      decide +kernel
    have hreplies : replies sampleClient
        ["https://host/gone", "https://host/gone", "https://host/blank"] =
          [.error ⟨"https://host/gone", 404, "Not Found"⟩,
            .error ⟨"https://host/gone", 404, "Not Found"⟩, .ok ""] := by
      decide +kernel
    exact ((kubecross_first_version_or_last_failure sampleResolver sampleClient hurls).2
      (by simp [hreplies])).2 (by simp [hreplies])

end Resolver

end BuildVersion.Lookup

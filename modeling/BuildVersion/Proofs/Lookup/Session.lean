import BuildVersion.Lookup.Session

namespace BuildVersion.Lookup

open Version (FetchError)

/-- What a step sets for an address, if it sets something there. -/
def Step.set? (url : String) : Step → Option (Except FetchError String)
  | .set target response => if url = target then some response else none
  | _ => none

/-- The last response that steps set for an address. -/
def lastSet? (url : String) (steps : List Step) : Option (Except FetchError String) :=
  steps.reverse.findSome? (Step.set? url)

@[simp] theorem lastSet?_nil (url : String) : lastSet? url [] = none := rfl

theorem lastSet?_cons (url : String) (step : Step) (rest : List Step) :
    lastSet? url (step :: rest) = (lastSet? url rest).or (step.set? url) := by
  rw [lastSet?, List.reverse_cons, List.findSome?_append, List.findSome?_singleton, lastSet?]

theorem Step.lookup_responses (step : Step) (responses : Responses) (url : String) :
    (step.responses responses).lookup url = (step.set? url).or (responses.lookup url) := by
  cases step with
  | set target response =>
      by_cases htarget : url = target
      · simp [Step.responses, Responses.insert, Step.set?, htarget]
      · have hne : (url == target) = false := by simpa using htarget
        simp [Step.responses, Responses.insert, Step.set?, htarget, List.lookup_cons, hne]
  | _ => rfl

theorem Step.responses_eq_self {step : Step} (hstep : ∀ url response, step ≠ .set url response)
    (responses : Responses) : step.responses responses = responses := by
  cases step with
  | set url response => exact absurd rfl (hstep url response)
  | _ => rfl

theorem Responses.source_congr {m n : Responses} (h : ∀ url, m.lookup url = n.lookup url) :
    m.source = n.source := by
  funext url
  rw [source, source, h url]

namespace Session

variable (s : Session)

/-- A session that begins with these responses. -/
def fresh (resolver : Resolver) (responses : Responses) : Session :=
  { resolver := resolver, responses := responses }

@[simp] theorem run_resolver (step : Step) : (s.run step).2.resolver = s.resolver := by
  rw [run]
  cases step.run? s.resolver s.responses.source <;> rfl

@[simp] theorem run_responses (step : Step) :
    (s.run step).2.responses = step.responses s.responses := by
  rw [run]
  cases step.run? s.resolver s.responses.source <;> rfl

theorem run_answer (step : Step) :
    (s.run step).1 = step.run? s.resolver s.responses.source := by
  rw [run]
  cases step.run? s.resolver s.responses.source <;> rfl

theorem run_calls (step : Step) :
    (s.run step).2.calls =
      s.calls ++ (step.run? s.resolver s.responses.source).elim [] Run.urls := by
  rw [run]
  cases step.run? s.resolver s.responses.source <;> simp

theorem run_records (step : Step) :
    (s.run step).2.journal.records =
      s.journal.records ++
        ((step.run? s.resolver s.responses.source).elim [] Run.notices).map
          Console.Notice.record := by
  rw [run]
  cases step.run? s.resolver s.responses.source <;> simp [Console.Journal.append]

/-- A step in a session and the same step alone, against responses that say the same. -/
theorem run_eq_alone (step : Step) {m : Responses}
    (hm : ∀ url, m.lookup url = s.responses.lookup url) :
    (s.run step).1 = ((fresh s.resolver m).run step).1 ∧
      (s.run step).2.calls = s.calls ++ ((fresh s.resolver m).run step).2.calls ∧
      (s.run step).2.journal.records =
        s.journal.records ++ ((fresh s.resolver m).run step).2.journal.records := by
  have hsource : m.source = s.responses.source := Responses.source_congr hm
  have hcalls : (fresh s.resolver m).calls = [] := rfl
  have hrecords : (fresh s.resolver m).journal.records = [] := rfl
  refine ⟨?_, ?_, ?_⟩
  · rw [run_answer, run_answer, ← hsource]
    rfl
  · rw [run_calls, run_calls, hcalls, List.nil_append, ← hsource]
    rfl
  · rw [run_records, run_records, hrecords, List.nil_append, ← hsource]
    rfl

theorem runAll_cons (step : Step) (rest : List Step) :
    s.runAll (step :: rest) =
      ((s.run step).1 :: ((s.run step).2.runAll rest).1, ((s.run step).2.runAll rest).2) := rfl

@[simp] theorem runAll_resolver (steps : List Step) :
    (s.runAll steps).2.resolver = s.resolver := by
  induction steps generalizing s with
  | nil => rfl
  | cons step rest ih => rw [runAll_cons, ih, run_resolver]

@[simp] theorem length_runAll (steps : List Step) : (s.runAll steps).1.length = steps.length := by
  induction steps generalizing s with
  | nil => rfl
  | cons step rest ih => rw [runAll_cons, List.length_cons, ih, List.length_cons]

/-- The responses after steps: the last one that was set, or the one from before. -/
theorem lookup_runAll (steps : List Step) (url : String) :
    (s.runAll steps).2.responses.lookup url =
      (lastSet? url steps).or (s.responses.lookup url) := by
  induction steps generalizing s with
  | nil => rfl
  | cons step rest ih =>
      rw [runAll_cons, ih, run_responses, Step.lookup_responses, lastSet?_cons, Option.or_assoc]

theorem runAll_append (first second : List Step) :
    s.runAll (first ++ second) =
      ((s.runAll first).1 ++ ((s.runAll first).2.runAll second).1,
        ((s.runAll first).2.runAll second).2) := by
  induction first generalizing s with
  | nil => rfl
  | cons step rest ih => rw [List.cons_append, runAll_cons, ih, runAll_cons]; rfl

theorem calls_prefix_runAll (steps : List Step) : s.calls <+: (s.runAll steps).2.calls := by
  induction steps generalizing s with
  | nil => exact List.prefix_rfl
  | cons step rest ih =>
      have hstep : s.calls <+: (s.run step).2.calls := by
        rw [run_calls]
        exact List.prefix_append _ _
      exact hstep.trans (ih _)

theorem records_prefix_runAll (steps : List Step) :
    s.journal.records <+: (s.runAll steps).2.journal.records := by
  induction steps generalizing s with
  | nil => exact List.prefix_rfl
  | cons step rest ih =>
      have hstep : s.journal.records <+: (s.run step).2.journal.records := by
        rw [run_records]
        exact List.prefix_append _ _
      exact hstep.trans (ih _)

/-- Every step of a session does what it does alone, against the first responses with the last one
that was set before it for each address in their place. What it asks for and what it says are added
to the ends of the logs, which later steps only extend, and no lookup changes a response. -/
theorem each_step_as_alone (steps : List Step) {i : Nat} {step : Step}
    (hstep : steps[i]? = some step) {m : Responses}
    (hm : ∀ url, m.lookup url =
      (lastSet? url (steps.take i)).or (s.responses.lookup url)) :
    let before := (s.runAll (steps.take i)).2
    let after := (s.runAll (steps.take (i + 1))).2
    let alone := (fresh s.resolver m).run step
    (s.runAll steps).1[i]? = some alone.1 ∧
      after.calls = before.calls ++ alone.2.calls ∧
      after.journal.records = before.journal.records ++ alone.2.journal.records ∧
      ((∀ url response, step ≠ .set url response) → after.responses = before.responses) ∧
      after.calls <+: (s.runAll steps).2.calls ∧
      after.journal.records <+: (s.runAll steps).2.journal.records := by
  intro before after alone
  obtain ⟨hi, hget⟩ := List.getElem?_eq_some_iff.mp hstep
  have hafter : after = (before.run step).2 := by
    simp only [after, before, List.take_add_one, hstep, Option.toList_some, runAll_append]
    rfl
  have hdivide : s.runAll steps =
      ((s.runAll (steps.take i)).1 ++ (before.run step).1 :: (after.runAll (steps.drop (i + 1))).1,
        (after.runAll (steps.drop (i + 1))).2) := by
    calc
      s.runAll steps = s.runAll (steps.take i ++ step :: steps.drop (i + 1)) := by
        rw [← hget, List.getElem_cons_drop, List.take_append_drop]
      _ = _ := by rw [runAll_append, runAll_cons, hafter]
  have hresponses : ∀ url, m.lookup url = before.responses.lookup url := by
    intro url
    rw [hm, lookup_runAll]
  have hresolver : before.resolver = s.resolver := runAll_resolver s _
  obtain ⟨hanswer, hcalls, hrecords⟩ := before.run_eq_alone step hresponses
  rw [hresolver] at hanswer hcalls hrecords
  refine ⟨?_, ?_, ?_, ?_, ?_, ?_⟩
  · have hlength : (s.runAll (steps.take i)).1.length = i := by
      rw [length_runAll, List.length_take, Nat.min_eq_left (Nat.le_of_lt hi)]
    rw [hdivide, List.getElem?_append_right (Nat.le_of_eq hlength), hlength, Nat.sub_self,
      List.getElem?_cons_zero, hanswer]
  · rw [hafter, hcalls]
  · rw [hafter, hrecords]
  · intro hlookup
    rw [hafter, run_responses, Step.responses_eq_self hlookup]
  · rw [hdivide]
    exact after.calls_prefix_runAll _
  · rw [hdivide]
    exact after.records_prefix_runAll _

def sampleSession : Session :=
  { responses := [("https://host/latest.txt", .ok "v1.0.0")] }

def sampleSteps : List Step :=
  [.marker "https://host/latest.txt" false, .set "https://host/latest.txt" (.ok "v2.0.0\n"),
    .stable false, .marker "https://host/latest.txt" true]

/-- What the last step of the sample finds. -/
def sampleSet : Responses :=
  [("https://host/latest.txt", .ok "v2.0.0\n")]

/-- A marker that is read again after its response was set anew and another lookup failed. -/
theorem marker_read_again :
    sampleSteps[3]? = some (.marker "https://host/latest.txt" true) ∧
      (∀ url, sampleSet.lookup url =
        (lastSet? url (sampleSteps.take 3)).or (sampleSession.responses.lookup url)) ∧
      (sampleSession.runAll sampleSteps).1[3]?.join.map Run.outcome = some (.ok "2.0.0") ∧
      (sampleSession.runAll (sampleSteps.take 4)).2.calls =
        (sampleSession.runAll (sampleSteps.take 3)).2.calls ++ ["https://host/latest.txt"] := by
  have hstep : sampleSteps[3]? = some (.marker "https://host/latest.txt" true) := rfl
  have hset : ∀ url, sampleSet.lookup url =
      (lastSet? url (sampleSteps.take 3)).or (sampleSession.responses.lookup url) := by
    intro url
    by_cases hurl : url = "https://host/latest.txt"
    · rw [hurl]
      rfl
    · have hne : (url == "https://host/latest.txt") = false := by simpa using hurl
      simp [sampleSet, sampleSteps, sampleSession, lastSet?_cons, Step.set?, List.lookup_cons, hurl,
        hne]
  obtain ⟨hanswer, hcalls, -⟩ := sampleSession.each_step_as_alone sampleSteps hstep hset
  refine ⟨hstep, hset, ?_, ?_⟩
  · rw [hanswer]
    decide +kernel
  · rw [hcalls]
    decide +kernel

end Session

end BuildVersion.Lookup

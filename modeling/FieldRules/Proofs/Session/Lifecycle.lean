import FieldRules.Proofs.Session.Validate

namespace FieldRules

namespace Session

/-- A call on a session, made when the one before it has ended or has been given up. -/
inductive Request where
  | validate
  | validateField (field : String)
  /-- The saving itself fails with a reason, or succeeds. -/
  | save (failure : Option String)
  | set (field : String) (value : Value)
  /-- No call: by the next one the surroundings are others. Whether the record listens stays. -/
  | surroundings (env : Environment)

inductive Response where
  | report (report : Option Report)
  | outcome (outcome : Option Outcome)
  | saved (outcome : SaveOutcome)
  | done

def perform (session : Session) : Request → Response × Session
  | .validate =>
    let (report, session) := session.validate
    (.report report, session)
  | .validateField field =>
    match session.validator.rules? field with
    | none => (.outcome none, session)
    | some rules =>
      let (outcome, session) := session.runRules field rules
      (.outcome outcome, session)
  | .save failure =>
    let (outcome, session) := session.save failure
    (.saved outcome, session)
  | .set field value => (.done, session.set field value)
  | .surroundings env => (.done, { session with env := { env with bare := session.env.bare } })

/-- A request and its response, between the sessions before and after it. -/
structure Exchange where
  before : Session
  request : Request
  response : Response
  after : Session

def exchange (session : Session) (request : Request) : Exchange :=
  ⟨session, request, (session.perform request).1, (session.perform request).2⟩

/-- Makes requests one after another. -/
def performAll (session : Session) : List Request → List Exchange × Session
  | [] => ([], session)
  | request :: requests =>
    let first := session.exchange request
    let (rest, last) := first.after.performAll requests
    (first :: rest, last)

/-- The report on the record as it is, if the chains of all fields come to an end. -/
def report? (session : Session) : Option Report :=
  ((session.validator.run session.env).run patience session.atStart).1.map Report.ofOutcomes

/-- The report of the run that a request makes, if it makes one. -/
def runFor? (session : Session) : Request → Option (Option Report)
  | .validate => some session.report?
  | .save _ => if session.validator.required then some session.report? else none
  | _ => none

/-- What the record is told about a run. -/
def runEvents : Option Report → List Event
  | none => [.start]
  | some report => [.start, if report.valid then .pass else .fail]

/-- Whether a record may be saved after this run, or without any. -/
def maySave : Option (Option Report) → Bool
  | none => true
  | some report => report.any Report.valid

namespace Exchange

def run? (e : Exchange) : Option (Option Report) := e.before.runFor? e.request

/-- What the record is told. -/
def events (e : Exchange) : List Event := (e.run?.map runEvents).getD []

/-- The report of a run that has come to an end. -/
def finished? (e : Exchange) : Option Report := e.run?.join

/-- The records handed on to be saved. -/
def handedOn (e : Exchange) : List Record :=
  match e.request with
  | .save _ => if maySave e.run? then [e.after.record] else []
  | _ => []

/-- The answer to a save: how the saving itself ends, or why there was none. -/
def saveOutcome (e : Exchange) (failure : Option String) : SaveOutcome :=
  if maySave e.run? then (failure.map .failed).getD (.saved e.after.record)
  else (e.finished?.map .invalid).getD .unfinished

/-- What one exchange adds to the memory of a record that listens, and how it is answered. -/
structure Remembered (e : Exchange) : Prop where
  validator : e.after.validator = e.before.validator
  listens : e.after.env.bare = false
  events : e.after.events = e.before.events ++ e.events
  last : e.after.last = e.finished?.or e.before.last
  handedOn : e.after.handedOn = e.before.handedOn ++ e.handedOn
  report : e.request = .validate → e.response = .report e.before.report?
  saved : ∀ failure, e.request = .save failure → e.response = .saved (e.saveOutcome failure)

end Exchange

/-- What a session becomes by a run, or stays without one. -/
structure RunLeaves (session : Session) (run? : Option (Option Report)) (session' : Session) :
    Prop where
  validator : session'.validator = session.validator
  listens : session'.env.bare = false
  events : session'.events = session.events ++ (run?.map runEvents).getD []
  last : session'.last = run?.join.or session.last
  handedOn : session'.handedOn = session.handedOn

variable {session : Session}

theorem runLeaves_none (hlistens : session.env.bare = false) : RunLeaves session none session :=
  ⟨rfl, hlistens, (List.append_nil _).symm, rfl, rfl⟩

/-- A validation remembers its report and its end only if it comes to an end. -/
theorem runLeaves_validate (hlistens : session.env.bare = false) :
    RunLeaves session (some session.report?) session.validate.2 := by
  have hvalidate := session.validateFor_eq patience
  have htold : ∀ hook memory, session.env.tell hook memory = memory.tell hook :=
    fun hook memory => by simp [Environment.tell, hlistens]
  cases hrun : (session.validator.run session.env).run patience session.atStart with
  | mk result s =>
    have hreport : session.report? = result.map Report.ofOutcomes := by rw [report?, hrun]
    rw [hrun] at hvalidate
    cases result with
    | none =>
      constructor <;> simp [validate, hvalidate, htold, hreport, after, memory, hlistens, runEvents]
    | some outcomes =>
      constructor <;> simp [validate, hvalidate, htold, hreport, after, memory, hlistens, runEvents]

/-- A save makes its run, if it makes one, and then hands the record on or refuses to. -/
theorem save_eq (hlistens : session.env.bare = false) (failure : Option String) :
    ∃ session', RunLeaves session (session.runFor? (.save failure)) session' ∧
      session.save failure =
        if maySave (session.runFor? (.save failure)) then session'.handOn failure
        else (((session.runFor? (.save failure)).join.map .invalid).getD .unfinished, session') := by
  cases hgated : session.validator.required with
  | false =>
    have hrun : session.runFor? (.save failure) = none := by simp [runFor?, hgated]
    refine ⟨session, hrun ▸ runLeaves_none hlistens, ?_⟩
    simp [save, hgated, hrun, maySave]
  | true =>
    have hrun : session.runFor? (.save failure) = some session.report? := by simp [runFor?, hgated]
    refine ⟨session.validate.2, hrun ▸ runLeaves_validate hlistens, ?_⟩
    have hreport : session.validate.1 = session.report? := session.validateFor_report patience
    rw [hrun, ← hreport, save, if_pos hgated]
    rcases session.validate with ⟨_ | report, session'⟩
    · rfl
    · rfl

theorem remembered_save (hlistens : session.env.bare = false) (failure : Option String) :
    (session.exchange (.save failure)).Remembered := by
  obtain ⟨session', hleaves, hsave⟩ := save_eq hlistens failure
  have hexchange : session.exchange (.save failure) =
      ⟨session, .save failure, .saved (session.save failure).1, (session.save failure).2⟩ := rfl
  rw [hexchange, hsave]
  cases hmay : maySave (session.runFor? (.save failure)) with
  | false =>
    refine ⟨hleaves.validator, hleaves.listens, hleaves.events, hleaves.last, ?_, ?_, ?_⟩
    · simp [Exchange.handedOn, Exchange.run?, hmay, hleaves.handedOn]
    · intro hrequest
      cases hrequest
    · rintro _ ⟨⟩
      simp [Exchange.saveOutcome, Exchange.run?, Exchange.finished?, hmay]
  | true =>
    refine ⟨hleaves.validator, hleaves.listens, hleaves.events, hleaves.last, ?_, ?_, ?_⟩
    · simp [Exchange.handedOn, Exchange.run?, hmay, hleaves.handedOn, handOn]
    · intro hrequest
      cases hrequest
    · rintro _ ⟨⟩
      cases failure <;> simp [Exchange.saveOutcome, Exchange.run?, hmay, handOn]

theorem runLeaves_validateField (hlistens : session.env.bare = false) (field : String) :
    RunLeaves session none (session.perform (.validateField field)).2 := by
  cases hrules : session.validator.rules? field with
  | none =>
    simp only [perform, hrules]
    exact runLeaves_none hlistens
  | some rules =>
    simp only [perform, hrules]
    exact ⟨rfl, hlistens, (List.append_nil _).symm, rfl, rfl⟩

/-- A validation or a save apart, no request concerns the memory of the record. -/
theorem remembered_exchange (hlistens : session.env.bare = false) (request : Request) :
    (session.exchange request).Remembered := by
  have hnone : ∀ {α : Type} (as : List α), as = as ++ [] := fun as => (List.append_nil as).symm
  cases request with
  | validate =>
    have hleaves := runLeaves_validate hlistens
    refine ⟨hleaves.validator, hleaves.listens, hleaves.events, hleaves.last, ?_, ?_, nofun⟩
    · exact hleaves.handedOn.trans (hnone _)
    · intro _
      exact congrArg Response.report (session.validateFor_report patience)
  | save failure => exact remembered_save hlistens failure
  | validateField field =>
    have hleaves := runLeaves_validateField hlistens field
    refine ⟨hleaves.validator, hleaves.listens, hleaves.events, hleaves.last, ?_, nofun, nofun⟩
    exact hleaves.handedOn.trans (hnone _)
  | set field value => exact ⟨rfl, hlistens, hnone _, rfl, hnone _, nofun, nofun⟩
  | surroundings env => exact ⟨rfl, hlistens, hnone _, rfl, hnone _, nofun, nofun⟩

/-- By induction on the requests: each of them finds a record that listens, and leaves one. -/
theorem performAll_remembered (hlistens : session.env.bare = false) (requests : List Request) :
    (session.performAll requests).1.map (·.request) = requests ∧
      (∀ e ∈ (session.performAll requests).1,
        e.Remembered ∧ e.before.validator = session.validator) ∧
      (session.performAll requests).2.events =
        session.events ++ (session.performAll requests).1.flatMap (·.events) ∧
      (session.performAll requests).2.last =
        ((session.performAll requests).1.filterMap (·.finished?)).getLast?.or session.last ∧
      (session.performAll requests).2.handedOn =
        session.handedOn ++ (session.performAll requests).1.flatMap (·.handedOn) := by
  induction requests generalizing session with
  | nil => simp [performAll]
  | cons request requests ih =>
    have hfirst := remembered_exchange hlistens request
    obtain ⟨hrequests, hrest, hevents, hlast, hhandedOn⟩ := ih hfirst.listens
    simp only [performAll]
    refine ⟨?_, ?_, ?_, ?_, ?_⟩
    · rw [List.map_cons, hrequests]
      rfl
    · rw [List.forall_mem_cons]
      refine ⟨⟨hfirst, rfl⟩, fun e he => ?_⟩
      obtain ⟨hremembered, hvalidator⟩ := hrest e he
      exact ⟨hremembered, hvalidator.trans hfirst.validator⟩
    · rw [hevents, hfirst.events, List.flatMap_cons, List.append_assoc]
      rfl
    · rw [hlast, hfirst.last, List.filterMap_cons]
      cases (session.exchange request).finished? with
      | none => rfl
      | some report =>
        rw [List.getLast?_cons, ← Option.or_assoc]
        cases List.getLast? _ <;> rfl
    · rw [hhandedOn, hfirst.handedOn, List.flatMap_cons, List.append_assoc]
      rfl

/-- The whole memory of a record, whatever has been asked of it: for each run of all fields it has
    been told the start, and the one end that the run came to; the last report kept is that of the
    latest run that came to an end; and the record was handed on once for each save that nothing
    spoke against, and for no other. -/
theorem performAll_memory (validator : Validator) {env : Environment}
    (hlistens : env.bare = false) (record : Record) (requests : List Request) :
    let (exchanges, session) := (start validator env record).performAll requests
    exchanges.map (·.request) = requests ∧
      session.events = exchanges.flatMap (·.events) ∧
      session.last = (exchanges.filterMap (·.finished?)).getLast? ∧
      session.handedOn = exchanges.flatMap (·.handedOn) ∧
      ∀ e ∈ exchanges, e.Remembered ∧ e.before.validator = validator := by
  have hstart : (start validator env record).env.bare = false := hlistens
  obtain ⟨hrequests, hall, hevents, hlast, hhandedOn⟩ := performAll_remembered hstart requests
  refine ⟨hrequests, hevents, ?_, hhandedOn, hall⟩
  rw [hlast]
  exact Option.or_none

/-- Surroundings in which the record brings one rule along. -/
def deciding (rule : CustomRule) : Environment :=
  { Environment.empty with customRules := [("check", rule)] }

/-- A record that may only be saved when it is valid, which at first is never found out. -/
def gatedSession : Session :=
  let check : Rule := .check "$check" (.custom "check" ⟨"name", "name", none⟩)
  start ⟨⟨"Person", ["name"], false, none⟩, [("name", [check])], true⟩
    (deciding (.after (patience + 1) .accept)) ⟨[("name", .string "Ada")]⟩

def gatedRequests : List Request :=
  [.validate, .save none, .surroundings (deciding (.reject "no")), .save none,
    .surroundings (deciding .accept), .save (some "disk full"), .set "name" .null,
    .validateField "name", .save none]

theorem performAll_memory_gated :
    gatedSession.env.bare = false ∧
      let (exchanges, session) := gatedSession.performAll gatedRequests
      exchanges.map (·.events) =
          [[.start], [.start], [], [.start, .fail], [], [.start, .pass], [], [], [.start, .pass]] ∧
        session.events = exchanges.flatMap (·.events) ∧
        session.last = some ⟨[]⟩ ∧
        session.handedOn = [⟨[("name", .string "Ada")]⟩, ⟨[("name", .null)]⟩] := by
  have hlistens : gatedSession.env.bare = false := rfl
  obtain ⟨_, hevents, hlast, hhandedOn, _⟩ := performAll_memory gatedSession.validator hlistens
    gatedSession.record gatedRequests
  exact ⟨hlistens, rfl, hevents, hlast, hhandedOn⟩

end Session

end FieldRules

import Tocsin.Proofs.Delivery.Account

/-!
# Discretion about webhooks

The URL of a webhook is a secret, apart from its host.  Two configurations that differ in the rest
of their webhooks alone are compared here, action by action, in two runs with the same clock and the
same replies (`Provider.observe_alike`).  What callers and readers of the log learn is the same in
both, and the requests differ in their URLs alone.  Cookies may differ too, but are looked up in
vain for absolute URLs: none of them makes or breaks a request.

What the client says of its requests names their URLs.  Nothing is assumed of it but that it is said
through loggers of its own and is less severe than a warning (`Client`), and this is never written,
at any level of the log.

Webhooks have to be absolute URLs for this.  The path of one without a host is told by the error
that is raised where the cookies of a reply are looked up (`path_is_told`).
-/

set_option autoImplicit false

namespace Tocsin.Delivery

open Tocsin.Alerting Tocsin.Calendar Tocsin.Log
open Tocsin.Webhook

/-! ## The client's own remarks -/

/-- Something that a client says through a logger. -/
structure Remark where
  logger : String
  severity : Severity
  text : String
  deriving DecidableEq, Repr

/-- The lines that a remark makes in a log with a level. -/
def Remark.lines (level : Level) (r : Remark) : List String :=
  if level.effective r.logger ≤ r.severity.rank then [r.text] else []

/-- A client that says whatever it likes of an action, given what was so far and what is reported,
but through the loggers of clients and nothing as severe as a warning. -/
structure Client where
  remarks : Progress → Report → List Remark
  own : ∀ now report, ∀ r ∈ remarks now report, ∃ c ∈ Level.clientLoggers,
    r.logger = c ∨ (c ++ ".").toList.isPrefixOf r.logger.toList = true
  quiet : ∀ now report, ∀ r ∈ remarks now report, r.severity.rank < Level.clients

/-- Nothing that a client says is written, whatever the level is. -/
theorem Client.lines_eq_nil (client : Client) (level : Level) (now : Progress) (report : Report) :
    (client.remarks now report).flatMap (·.lines level) = [] := by
  rw [List.flatMap_eq_nil_iff]
  intro r hr
  obtain ⟨c, hc, hname⟩ := client.own now report r hr
  have hlevel : level.effective r.logger = Level.clients := by
    unfold Level.effective
    rw [if_pos]
    rw [List.any_eq_true]
    exact ⟨c, hc, decide_eq_true hname⟩
  unfold Remark.lines
  rw [hlevel, if_neg]
  exact Nat.not_le.mpr (client.quiet now report r hr)

/-! ## What is observed -/

/-- What everyone but the webhook learns of an action: its answer, its records, the lines in the
log, and the bodies of the requests. -/
structure Observation where
  answer : Except SendError Answer
  records : List Call
  lines : Except Log.Fault (List String)
  bodies : List String

/-- What is observed of an action. -/
def Report.observed (report : Report) (client : Client) (journal : Journal) (stamp : String)
    (now : Progress) : Observation where
  answer := report.answer
  records := report.records
  lines := (journal.writeAll stamp (report.records.map .call)).map
    ((client.remarks now report).flatMap (·.lines journal.level) ++ ·)
  bodies := report.requests.map (·.body)

/-- What is observed of actions one after the other; each bears the next stamp. -/
def Provider.observe (p : Provider) (client : Client) (journal : Journal) (now : Progress) :
    List (String × Action) → List Observation
  | [] => []
  | (stamp, action) :: rest =>
    (p.step now action).2.observed client journal stamp now
      :: p.observe client journal (p.step now action).1 rest

/-- What is observed is told by the answer, the records and the bodies of the requests. -/
theorem Report.observed_congr {r s : Report} (hanswer : r.answer = s.answer)
    (hrecords : r.records = s.records)
    (hbodies : r.requests.map (·.body) = s.requests.map (·.body)) (client : Client)
    (journal : Journal) (stamp : String) (now later : Progress) :
    r.observed client journal stamp now = s.observed client journal stamp later := by
  unfold observed
  rw [hanswer, hrecords, hbodies, client.lines_eq_nil, client.lines_eq_nil]

/-! ## Webhooks that are alike -/

/-- A client makes requests for the text of a webhook, which is that of an absolute URL. -/
def IsWebhook (webhook : String) : Prop :=
  ∃ u, requestUrl [] webhook = .ok u ∧ u.isAbsolute = true

/-- Two webhooks that cannot be told apart by the host that may be logged. -/
structure AreAlike (v w : String) : Prop where
  host : loggedHost v = loggedHost w
  left : IsWebhook v
  right : IsWebhook w

/-- Overrides of the same groups in the same order, with webhooks that are alike. -/
inductive OverridesAlike : List Override → List Override → Prop
  | nil : OverridesAlike [] []
  | cons {group v w : String} {os os' : List Override} (h : AreAlike v w)
      (rest : OverridesAlike os os') : OverridesAlike (⟨group, v⟩ :: os) (⟨group, w⟩ :: os')

/-- Two configurations that differ in their webhooks alone, which are alike. -/
structure ConfigsAlike (c d : ProviderConfig) : Prop where
  webhook : AreAlike c.webhookUrl d.webhookUrl
  defaultAlert : c.defaultAlert = d.defaultAlert
  overrides : OverridesAlike c.overrides d.overrides

/-- The webhook of a group is that of the first override if it is for the group; else the others
decide. -/
theorem webhookFor_cons (url : String) (alert : Option (Config.Declared Alert)) (o : Override)
    (os : List Override) (group : String) :
    ProviderConfig.webhookFor ⟨url, alert, o :: os⟩ group =
      if o.group = group then o.webhookUrl
      else ProviderConfig.webhookFor ⟨url, alert, os⟩ group := by
  unfold ProviderConfig.webhookFor
  by_cases hgroup : o.group = group <;> simp [hgroup]

/-- The webhooks of a group are alike. -/
theorem OverridesAlike.webhookFor {os os' : List Override} (h : OverridesAlike os os')
    {v w : String} (hdefault : AreAlike v w) (alert alert' : Option (Config.Declared Alert))
    (group : String) :
    AreAlike (ProviderConfig.webhookFor ⟨v, alert, os⟩ group)
      (ProviderConfig.webhookFor ⟨w, alert', os'⟩ group) := by
  induction h with
  | nil => exact hdefault
  | cons hown _ ih =>
      rw [webhookFor_cons, webhookFor_cons]
      split
      · exact hown
      · exact ih

/-- A reply that does not redirect to a place. -/
def Stays : Reply → Prop
  | .response r => r.isRedirect = true → r.header? "location" = none
  | .raised _ _ => True

/-- The replies of a script stay if all of them do. -/
theorem stays_replyAt {replies : List Reply} (h : ∀ reply ∈ replies, Stays reply) (sent : Nat) :
    Stays (replyAt replies sent) := by
  unfold replyAt
  rw [List.getD_eq_getElem?_getD]
  cases hreply : replies[sent]? with
  | none =>
      intro hredirect
      cases hredirect
  | some reply => exact h reply (List.mem_of_getElem? hreply)

/-- What comes of a reply that stays is the same for all absolute URLs and all cookies. -/
theorem receive_alike {u v : Url} (hu : checkTyped u.chars = .ok ())
    (hv : checkTyped v.chars = .ok ()) {reply : Reply} (h : Stays reply) (now : Int)
    (jar jar' : Jar) : (receive now jar u reply).2 = (receive now jar' v reply).2 := by
  cases reply with
  | raised kind message => rfl
  | response raw =>
      have haccept : accept u raw = accept v raw := by
        unfold accept
        rw [hu, hv]
      cases hr : accept v raw with
      | error fault =>
          rw [receive_of_fault hr, receive_of_fault (haccept.trans hr)]
      | ok r =>
          rw [receive_of_accepted hr, receive_of_accepted (haccept.trans hr)]
          have hcheck (jar : Jar) (request : Url) : checkRedirect jar request r = .ok () := by
            apply checkRedirect_eq_ok_iff.mpr
            obtain ⟨body, rfl⟩ := Response.eq_of_decompressed (accept_eq_ok_iff.mp hr).2.1
            intro hredirect place hplace
            cases (h hredirect).symm.trans hplace
          rw [hcheck, hcheck]

/-- Exchanges through alike webhooks have the same result, whichever cookies are kept, and their
requests differ in the URL alone. -/
theorem exchange_alike {v w : String} (h : AreAlike v w) {replies : List Reply}
    (hstays : ∀ reply ∈ replies, Stays reply) (arrival : Int) (sent : Nat) (isClosed : Bool)
    (jar jar' : Jar) (body : String) :
    let made := (Link.scripted replies arrival).exchange sent isClosed jar v body
    let made' := (Link.scripted replies arrival).exchange sent isClosed jar' w body
    made.request.map (·.body) = made'.request.map (·.body) ∧ made.result = made'.result := by
  obtain ⟨-, ⟨u, hu, huabsolute⟩, u', hu', huabsolute'⟩ := h
  have htyped := (checkTyped_eq_ok_iff (isTarget_of_requestUrl hu)).mpr huabsolute
  have htyped' := (checkTyped_eq_ok_iff (isTarget_of_requestUrl hu')).mpr huabsolute'
  have hurl : requestUrl jar v = .ok u := requestUrl_eq_ok_iff.mpr ⟨hu, Or.inr huabsolute⟩
  have hurl' : requestUrl jar' w = .ok u' := requestUrl_eq_ok_iff.mpr ⟨hu', Or.inr huabsolute'⟩
  cases isClosed with
  | true =>
      rw [exchange_of_closed hurl, exchange_of_closed hurl']
      exact ⟨rfl, rfl⟩
  | false =>
      rw [exchange_of_open hurl, exchange_of_open hurl']
      exact ⟨rfl, receive_alike htyped htyped' (stays_replyAt hstays sent) arrival jar jar'⟩

/-! ## Two runs -/

/-- Two progresses that differ in the cookies alone. -/
structure ProgressesAlike (now later : Progress) : Prop where
  closed : now.closed = later.closed
  readings : now.readings = later.readings
  sent : now.sent = later.sent

/-- Two reports that differ in the URLs of their requests alone. -/
structure ReportsAlike (r s : Report) : Prop where
  answer : r.answer = s.answer
  records : r.records = s.records
  bodies : r.requests.map (·.body) = s.requests.map (·.body)

/-- An action that is no query: it sends a notice or closes the client. -/
def Action.IsTask : Action → Prop
  | .send _ | .close => True
  | _ => False

namespace Provider

section

variable {c d : ProviderConfig} {zone : Zone} {clock : Clock} {replies : List Reply} {arrival : Int}

/-- Notices are sent alike. -/
theorem deliver_alike (h : ConfigsAlike c d) (hstays : ∀ reply ∈ replies, Stays reply)
    {now later : Progress} (hnow : ProgressesAlike now later) (n : Notice) (text : String) :
    let p : Provider := ⟨c, zone, clock, .scripted replies arrival⟩
    let q : Provider := ⟨d, zone, clock, .scripted replies arrival⟩
    ProgressesAlike (p.deliver now n text).1 (q.deliver later n text).1 ∧
      ReportsAlike (p.deliver now n text).2 (q.deliver later n text).2 := by
  intro p q
  obtain ⟨closed, readings, sent, jar⟩ := now
  obtain ⟨_, _, _, jar'⟩ := later
  obtain ⟨rfl, rfl, rfl⟩ := hnow
  have hwebhook := h.overrides.webhookFor h.webhook c.defaultAlert d.defaultAlert n.endpoint.group
  have hcontext : n.context (c.webhookFor n.endpoint.group) =
      n.context (d.webhookFor n.endpoint.group) := by
    unfold Notice.context
    rw [hwebhook.host]
  obtain ⟨hrequest, hresult⟩ := exchange_alike hwebhook hstays arrival sent closed jar jar'
    (messageBody (.ofText text))
  have hlength := congrArg (·.toList.length) hrequest
  have hbodies := congrArg Option.toList hrequest
  simp only [Option.toList_map, List.length_map] at hlength hbodies
  refine ⟨⟨rfl, rfl, congrArg (sent + ·) hlength⟩, ?_, ?_, hbodies⟩
  · show ((conclude _ _).1.map fun _ => Answer.done) = (conclude _ _).1.map fun _ => Answer.done
    rw [hcontext, hresult]
  · show (conclude _ _).2 = (conclude _ _).2
    rw [hcontext, hresult]

/-- Tasks are carried out alike. -/
theorem step_alike (h : ConfigsAlike c d) (hstays : ∀ reply ∈ replies, Stays reply)
    {now later : Progress} (hnow : ProgressesAlike now later) {action : Action}
    (htask : action.IsTask) :
    let p : Provider := ⟨c, zone, clock, .scripted replies arrival⟩
    let q : Provider := ⟨d, zone, clock, .scripted replies arrival⟩
    ProgressesAlike (p.step now action).1 (q.step later action).1 ∧
      ReportsAlike (p.step now action).2 (q.step later action).2 := by
  intro p q
  obtain ⟨closed, readings, sent, jar⟩ := now
  obtain ⟨_, _, _, jar'⟩ := later
  obtain ⟨rfl, rfl, rfl⟩ := hnow
  cases action with
  | close => exact ⟨⟨rfl, rfl, rfl⟩, rfl, rfl, rfl⟩
  | send raw =>
      cases hread : raw.read with
      | error e =>
          simp only [step, send, hread]
          exact ⟨⟨rfl, rfl, rfl⟩, rfl, rfl, rfl⟩
      | ok n =>
          cases htext : n.text (clock.reading readings) zone with
          | error e =>
              simp only [step, send, hread, p, q, htext]
              exact ⟨⟨rfl, rfl, rfl⟩, rfl, rfl, rfl⟩
          | ok text =>
              simp only [step, send, hread, p, q, htext]
              have hnext : ProgressesAlike ⟨closed, readings + 1, sent, jar⟩
                  ⟨closed, readings + 1, sent, jar'⟩ := ⟨rfl, rfl, rfl⟩
              exact deliver_alike h hstays hnext n text
  | defaultAlert | webhook group | isValid | config => exact htask.elim

/-- Two runs with configurations that differ in their webhooks alone cannot be told apart by what is
observed of them: the answers and the errors, the records, the lines of the log at any level and in
any format, with all that the client may say, and the bodies of the requests. -/
theorem observe_alike (h : ConfigsAlike c d) (hstays : ∀ reply ∈ replies, Stays reply)
    {now later : Progress} (hnow : ProgressesAlike now later) (client : Client) (journal : Journal)
    (tasks : List (String × Action)) (htasks : ∀ task ∈ tasks, task.2.IsTask) :
    let p : Provider := ⟨c, zone, clock, .scripted replies arrival⟩
    let q : Provider := ⟨d, zone, clock, .scripted replies arrival⟩
    p.observe client journal now tasks = q.observe client journal later tasks := by
  intro p q
  induction tasks generalizing now later with
  | nil => rfl
  | cons task tasks ih =>
      obtain ⟨stamp, action⟩ := task
      obtain ⟨hnext, hreport⟩ := step_alike h hstays hnow (htasks _ List.mem_cons_self)
      unfold Provider.observe
      rw [ih hnext fun task htask => htasks task (List.mem_cons_of_mem _ htask)]
      rw [Report.observed_congr hreport.answer hreport.records hreport.bodies]

end

end Provider

/-! ## Examples -/

/-- A client that says of every request where it goes. -/
def talkativeClient : Client where
  remarks _ report := report.requests.map fun r =>
    ⟨"httpx", .info, "HTTP Request: POST " ++ r.url ++ " \"HTTP/1.1 200 OK\""⟩
  own := by
    intro _ report r hr
    obtain ⟨request, -, rfl⟩ := List.mem_map.mp hr
    exact ⟨"httpx", List.mem_cons_self, Or.inl rfl⟩
  quiet := by
    intro _ report r hr
    obtain ⟨request, -, rfl⟩ := List.mem_map.mp hr
    show Severity.info.rank < Level.clients
    decide

/-- A configuration with one webhook. -/
def singleWebhook (webhook : String) : ProviderConfig := ⟨webhook, none, []⟩

/-- A send and the closing of the client, at the lowest level of the log: nobody but the webhook
learns what its key is. -/
theorem keys_alike :
    ConfigsAlike (singleWebhook "https://h/a?key=k") (singleWebhook "https://u@h:1/b?key=l#f") ∧
      (stillProvider (singleWebhook "https://h/a?key=k") []).observe talkativeClient
          (Journal.fresh 10 .json) .start [("t", bareSend ""), ("t", .close)] =
        (stillProvider (singleWebhook "https://u@h:1/b?key=l#f") []).observe talkativeClient
          (Journal.fresh 10 .json) .start [("t", bareSend ""), ("t", .close)] := by
  have hleft : IsWebhook "https://h/a?key=k" :=
    ⟨⟨"https".toList, [], "h".toList, none, "/a".toList, some "key=k".toList, none⟩, by cbv, by rfl⟩
  have hright : IsWebhook "https://u@h:1/b?key=l#f" :=
    ⟨⟨"https".toList, "u".toList, "h".toList, some 1, "/b".toList, some "key=l".toList,
      some "f".toList⟩, by cbv, by rfl⟩
  have hhost : loggedHost "https://h/a?key=k" = loggedHost "https://u@h:1/b?key=l#f" := by cbv
  have halike : ConfigsAlike (singleWebhook "https://h/a?key=k")
      (singleWebhook "https://u@h:1/b?key=l#f") := ⟨⟨hhost, hleft, hright⟩, rfl, .nil⟩
  refine ⟨halike, ?_⟩
  apply Provider.observe_alike halike
  · intro reply hreply
    cases hreply
  · exact ⟨rfl, rfl, rfl⟩
  · intro task htask
    simp only [List.mem_cons, List.not_mem_nil, or_false] at htask
    rcases htask with rfl | rfl <;> trivial

/-- What is raised for a reply to the first request leaves the send. -/
theorem answer_of_untyped {webhook : String} {u : Url} (hurl : requestUrl [] webhook = .ok u)
    {target : String} (h : (receive 0 [] u .usual).2 = .error (.untyped target)) :
    ((stillProvider (singleWebhook webhook) []).step .start (bareSend "")).2.answer =
      .error (.exchange (.untyped target)) := by
  have hposts : (stillProvider (singleWebhook webhook) []).Posts .start (bareSend "")
      (bareNotice "") _ u := ⟨notice?_bareSend "", text_still _ _ _ _, hurl, Or.inl rfl, rfl⟩
  rw [Provider.step_of_posts rfl hposts]
  show ((conclude _ (receive 0 [] u .usual).2).1.map fun _ => Answer.done) = _
  rw [h]
  rfl

/-- Of a webhook without a host the path is told: two of them have the same logged host, none, and a
client makes requests for both, but the errors differ that are raised where cookies are looked up. -/
theorem path_is_told :
    (∃ u, requestUrl [] "/a" = .ok u) ∧ (∃ u, requestUrl [] "/b" = .ok u) ∧
      loggedHost "/a" = loggedHost "/b" ∧
      ((stillProvider (singleWebhook "/a") []).step .start (bareSend "")).2.answer =
        .error (.exchange (.untyped "/a")) ∧
      ((stillProvider (singleWebhook "/b") []).step .start (bareSend "")).2.answer =
        .error (.exchange (.untyped "/b")) := by
  have ha : requestUrl [] "/a" = .ok ⟨[], [], [], none, "/a".toList, none, none⟩ := by cbv
  have hb : requestUrl [] "/b" = .ok ⟨[], [], [], none, "/b".toList, none, none⟩ := by cbv
  exact ⟨⟨_, ha⟩, ⟨_, hb⟩, by cbv, answer_of_untyped ha (by cbv), answer_of_untyped hb (by cbv)⟩

end Tocsin.Delivery

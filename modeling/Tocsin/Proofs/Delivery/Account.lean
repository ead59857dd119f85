import Tocsin.Proofs.Delivery.History
import Tocsin.Proofs.Webhook.Exchange

/-!
# The account of a run

A progress has four parts, and each is told by the actions and the reports that led to it: the
client is closed once it has been closed, the clock was read for every notice that could be read,
and every request took one reply (`Progress.Accounts`); the cookies are those that the replies left.
What the next action does is told by the progress alone (`Provider.Follows`).  The main statement,
`Provider.run_follows`, puts both together for all actions of all runs.

Whether a request is made for a URL without a host depends on the run: the client looks cookies up
for every URL as soon as it keeps any, and this fails without a scheme.  So no set of texts is that
of the URLs that are accepted throughout (`not_exists_accepted`).
-/

set_option autoImplicit false

namespace Tocsin.Delivery

open Tocsin.Alerting Tocsin.Calendar
open Tocsin.Webhook

/-- The notice that an action is about: that of a send, if it can be read. -/
def Action.notice? : Action → Option Notice
  | .send raw => raw.read.toOption
  | _ => none

/-- Whether an action closes the client. -/
def Action.isClose : Action → Bool
  | .close => true
  | _ => false

/-- What a configuration answers to a query; sending and closing are none. -/
def queryAnswer? (c : ProviderConfig) : Action → Option Answer
  | .defaultAlert => some (.alert c.defaultAlert)
  | .webhook group => some (.webhook (c.webhookFor group))
  | .isValid => some (.valid c.isValid)
  | .config => some (.config c)
  | .send _ | .close => none

/-- A progress is what actions with these reports come to. -/
structure Progress.Accounts (now : Progress) (actions : List Action) (reports : List Report) :
    Prop where
  /-- The client is closed if an action closed it. -/
  closed : now.closed = actions.any (·.isClose)
  /-- The clock was read once for every notice. -/
  readings : now.readings = (actions.filterMap (·.notice?)).length
  /-- As many replies were taken as requests were made. -/
  sent : now.sent = (reports.flatMap (·.requests)).length

/-- An action makes a request for a URL, which posts the text of a notice: the notice can be read,
its text can be written at the next time of the clock, a client without cookies accepts the text of
the webhook, cookies can be looked up for it if there are any, and the client is open. -/
structure Provider.Posts (p : Provider) (now : Progress) (action : Action) (n : Notice)
    (text : String) (u : Url) : Prop where
  notice : action.notice? = some n
  rendered : n.text (p.clock.reading now.readings) p.zone = .ok text
  accepted : requestUrl [] (p.config.webhookFor n.endpoint.group) = .ok u
  typed : now.jar = [] ∨ u.isAbsolute = true
  isOpen : now.closed = false

/-- What an action leads to and reports, where each request takes the next of some replies. -/
structure Provider.Follows (p : Provider) (replies : List Reply) (arrival : Int) (now : Progress)
    (action : Action) (next : Progress) (report : Report) : Prop where
  /-- No action makes two requests. -/
  single : report.requests.length ≤ 1
  /-- A request is made where all is well with it, and nowhere else. -/
  issued : report.requests ≠ [] ↔ ∃ n text u, p.Posts now action n text u
  /-- The request goes to the normal form of the webhook, and what comes of it is what the first
  reply that was not yet taken comes to. -/
  answered : ∀ n text u, p.Posts now action n text u →
    let received := receive arrival now.jar u (replyAt replies now.sent)
    let concluded := conclude (n.context (p.config.webhookFor n.endpoint.group)) received.2
    next = ⟨now.closed, now.readings + 1, now.sent + 1, received.1⟩ ∧
      report = ⟨concluded.1.map fun _ => .done, [⟨u.text, messageBody (.ofText text)⟩],
        concluded.2⟩
  /-- The clock is read once for a notice, and not at all without one. -/
  clock : next.readings = now.readings + action.notice?.toList.length
  /-- After the client was closed, what would have been sent is refused as such. -/
  refused : ∀ n text u, p.Posts { now with closed := false } action n text u → now.closed = true →
    report = ⟨.error (.exchange .closed), [], []⟩
  /-- Without a request no reply is taken, and the cookies stay. -/
  kept : report.requests = [] → next.sent = now.sent ∧ next.jar = now.jar
  /-- The client is closed by closing it, and by nothing else. -/
  closed : next.closed = (now.closed || action.isClose)
  /-- Closing the client always succeeds, and makes no request. -/
  closing : action = .close → report = ⟨.ok .done, [], []⟩
  /-- The answer to a query is told by the configuration, and leaves everything as it was. -/
  queried : ∀ answer, queryAnswer? p.config action = some answer →
    next = now ∧ report = ⟨.ok answer, [], []⟩

/-! ## Single actions -/

/-- An action is about a notice if it sends what the notice is read from. -/
theorem Action.notice?_eq_some {action : Action} {n : Notice} (h : action.notice? = some n) :
    ∃ raw, action = .send raw ∧ raw.read = .ok n := by
  cases action with
  | send raw =>
      refine ⟨raw, rfl, ?_⟩
      cases hread : raw.read with
      | error e => simp [notice?, hread, Except.toOption] at h
      | ok m =>
          simp only [notice?, hread, Except.toOption, Option.some.injEq] at h
          rw [h]
  | _ => cases h

namespace Provider

variable {p : Provider} {now : Progress} {action : Action}

/-- A notice is sent as its exchange comes out. -/
theorem deliver_eq (now : Progress) {n : Notice} {text : String} {made : Exchanged}
    (h : p.link.exchange now.sent now.closed now.jar (p.config.webhookFor n.endpoint.group)
      (messageBody (.ofText text)) = made) :
    p.deliver now n text =
      ({ now with sent := now.sent + made.request.toList.length, jar := made.jar },
        ⟨(conclude (n.context (p.config.webhookFor n.endpoint.group)) made.result).1.map
            fun _ => .done,
          made.request.toList,
          (conclude (n.context (p.config.webhookFor n.endpoint.group)) made.result).2⟩) := by
  rw [← h]
  rfl

/-- A notice whose text cannot be written is not sent. -/
theorem step_of_unrendered {n : Notice} {e : RangeError} (hnotice : action.notice? = some n)
    (h : n.text (p.clock.reading now.readings) p.zone = .error e) :
    p.step now action = ({ now with readings := now.readings + 1 }, ⟨.error (.time e), [], []⟩) := by
  obtain ⟨raw, rfl, hread⟩ := Action.notice?_eq_some hnotice
  simp only [step, send, hread, h]

/-- A notice whose text can be written is sent. -/
theorem step_of_rendered {n : Notice} {text : String} (hnotice : action.notice? = some n)
    (h : n.text (p.clock.reading now.readings) p.zone = .ok text) :
    p.step now action = p.deliver { now with readings := now.readings + 1 } n text := by
  obtain ⟨raw, rfl, hread⟩ := Action.notice?_eq_some hnotice
  simp only [step, send, hread, h]

/-- A request about a notice is made by sending the notice, whose text can be written. -/
theorem exists_deliver_of_request {n : Notice} {r : Request} (hnotice : action.notice? = some n)
    (h : r ∈ (p.step now action).2.requests) :
    ∃ text, n.text (p.clock.reading now.readings) p.zone = .ok text ∧
      p.step now action = p.deliver { now with readings := now.readings + 1 } n text := by
  cases htext : n.text (p.clock.reading now.readings) p.zone with
  | error e =>
      rw [step_of_unrendered hnotice htext] at h
      cases h
  | ok text => exact ⟨text, rfl, step_of_rendered hnotice htext⟩

/-- An action without a notice leaves the progress as it is, apart from closing the client. -/
theorem step_of_no_notice (p : Provider) (now : Progress) (h : action.notice? = none) :
    ∃ answer, p.step now action =
      ({ now with closed := now.closed || action.isClose }, ⟨answer, [], []⟩) := by
  cases action with
  | send raw =>
      cases hread : raw.read with
      | error e =>
          refine ⟨.error (.failed (.unreadable e)), ?_⟩
          simp only [step, send, hread, Action.isClose, Bool.or_false]
      | ok n => simp [Action.notice?, hread, Except.toOption] at h
  | close =>
      refine ⟨.ok .done, ?_⟩
      simp only [step, Action.isClose, Bool.or_true]
  | defaultAlert | webhook group | isValid | config =>
      simp only [step, Action.isClose, Bool.or_false]
      exact ⟨_, rfl⟩

/-- What becomes of a request that is made. -/
theorem step_of_posts {replies : List Reply} {arrival : Int}
    (hlink : p.link = .scripted replies arrival) {n : Notice} {text : String} {u : Url}
    (h : p.Posts now action n text u) :
    let received := receive arrival now.jar u (replyAt replies now.sent)
    let concluded := conclude (n.context (p.config.webhookFor n.endpoint.group)) received.2
    p.step now action =
      (⟨now.closed, now.readings + 1, now.sent + 1, received.1⟩,
        ⟨concluded.1.map fun _ => .done, [⟨u.text, messageBody (.ofText text)⟩], concluded.2⟩) := by
  have hexchange : p.link.exchange now.sent now.closed now.jar
      (p.config.webhookFor n.endpoint.group) (messageBody (.ofText text)) =
      ⟨some ⟨u.text, messageBody (.ofText text)⟩,
        (receive arrival now.jar u (replyAt replies now.sent)).1,
        (receive arrival now.jar u (replyAt replies now.sent)).2⟩ := by
    rw [hlink, h.isOpen]
    exact exchange_of_open (requestUrl_eq_ok_iff.mpr ⟨h.accepted, h.typed⟩) replies arrival _ _
  rw [step_of_rendered h.notice h.rendered]
  exact deliver_eq { now with readings := now.readings + 1 } hexchange

/-- Where no request can be made, none is, and no reply is taken. -/
theorem step_of_not_posts (h : ∀ n text u, ¬ p.Posts now action n text u) :
    ∃ answer records, p.step now action =
      ({ now with closed := now.closed || action.isClose,
                  readings := now.readings + action.notice?.toList.length },
        ⟨answer, [], records⟩) := by
  cases hnotice : action.notice? with
  | none =>
      obtain ⟨answer, hstep⟩ := step_of_no_notice p now hnotice
      exact ⟨answer, [], hstep⟩
  | some n =>
      have hclose : action.isClose = false := by
        obtain ⟨raw, rfl, -⟩ := Action.notice?_eq_some hnotice
        rfl
      simp only [hclose, Bool.or_false, Option.toList_some, List.length_singleton]
      cases htext : n.text (p.clock.reading now.readings) p.zone with
      | error e => exact ⟨_, _, step_of_unrendered hnotice htext⟩
      | ok text =>
          rw [step_of_rendered hnotice htext]
          cases hurl : requestUrl now.jar (p.config.webhookFor n.endpoint.group) with
          | error fault =>
              exact ⟨_, _, deliver_eq { now with readings := now.readings + 1 }
                (exchange_of_fault hurl p.link now.sent now.closed _)⟩
          | ok u =>
              cases hclosed : now.closed with
              | true =>
                  have hrefused := exchange_of_closed hurl p.link now.sent
                    (messageBody (.ofText text))
                  exact ⟨_, _, deliver_eq ⟨true, now.readings + 1, now.sent, now.jar⟩ hrefused⟩
              | false =>
                  obtain ⟨haccepted, htyped⟩ := requestUrl_eq_ok_iff.mp hurl
                  exact (h n text u ⟨hnotice, htext, haccepted, htyped, hclosed⟩).elim

/-- A closed client refuses what it would have sent. -/
theorem step_of_refused {n : Notice} {text : String} {u : Url}
    (h : p.Posts { now with closed := false } action n text u) (hclosed : now.closed = true) :
    (p.step now action).2 = ⟨.error (.exchange .closed), [], []⟩ := by
  have hexchange : p.link.exchange now.sent now.closed now.jar
      (p.config.webhookFor n.endpoint.group) (messageBody (.ofText text)) =
      ⟨none, now.jar, .error .closed⟩ := by
    rw [hclosed]
    exact exchange_of_closed (requestUrl_eq_ok_iff.mpr ⟨h.accepted, h.typed⟩) p.link _ _
  have hstep : p.step now action = p.deliver { now with readings := now.readings + 1 } n text :=
    step_of_rendered h.notice h.rendered
  rw [hstep, deliver_eq { now with readings := now.readings + 1 } hexchange]
  rfl

/-- An action that makes a request does what its progress makes it do. -/
theorem follows_of_posts {replies : List Reply} {arrival : Int}
    (hlink : p.link = .scripted replies arrival) {n : Notice} {text : String} {u : Url}
    (h : p.Posts now action n text u) :
    p.Follows replies arrival now action (p.step now action).1 (p.step now action).2 := by
  have hstep := step_of_posts hlink h
  constructor
  case single =>
    rw [hstep]
    exact Nat.le_refl 1
  case issued =>
    rw [hstep]
    exact ⟨fun _ => ⟨n, text, u, h⟩, fun _ => List.cons_ne_nil _ _⟩
  case answered =>
    intro n text u h
    rw [step_of_posts hlink h]
    exact ⟨rfl, rfl⟩
  case clock =>
    rw [hstep, h.notice]
    rfl
  case refused =>
    intro n text u h hclosed
    exact step_of_refused h hclosed
  case kept =>
    intro hnone
    rw [hstep] at hnone
    cases hnone
  case closed =>
    obtain ⟨raw, rfl, -⟩ := Action.notice?_eq_some h.notice
    rw [hstep]
    exact (Bool.or_false now.closed).symm
  case closing =>
    rintro rfl
    cases h.notice
  case queried =>
    obtain ⟨raw, rfl, -⟩ := Action.notice?_eq_some h.notice
    intro answer hanswer
    cases hanswer

/-- An action that makes no request does what its progress makes it do. -/
theorem follows_of_not_posts (replies : List Reply) (arrival : Int)
    (h : ∀ n text u, ¬ p.Posts now action n text u) :
    p.Follows replies arrival now action (p.step now action).1 (p.step now action).2 := by
  obtain ⟨answer, records, hstep⟩ := step_of_not_posts h
  constructor
  case single =>
    rw [hstep]
    exact Nat.zero_le 1
  case issued =>
    rw [hstep]
    exact ⟨fun hne => (hne rfl).elim, fun ⟨n, text, u, hposts⟩ => (h n text u hposts).elim⟩
  case answered =>
    intro n text u hposts
    exact (h n text u hposts).elim
  case clock => rw [hstep]
  case refused =>
    intro n text u hposts hclosed
    exact step_of_refused hposts hclosed
  case kept =>
    intro _
    rw [hstep]
    exact ⟨rfl, rfl⟩
  case closed => rw [hstep]
  case closing =>
    rintro rfl
    rfl
  case queried =>
    intro answer hanswer
    cases action with
    | send raw => cases hanswer
    | close => cases hanswer
    | defaultAlert | webhook group | isValid | config =>
        cases hanswer
        exact ⟨rfl, rfl⟩

/-- Every action does what its progress makes it do. -/
theorem follows_step {replies : List Reply} {arrival : Int}
    (hlink : p.link = .scripted replies arrival) :
    p.Follows replies arrival now action (p.step now action).1 (p.step now action).2 := by
  by_cases h : ∃ n text u, p.Posts now action n text u
  · obtain ⟨n, text, u, hposts⟩ := h
    exact follows_of_posts hlink hposts
  · exact follows_of_not_posts replies arrival fun n text u hposts => h ⟨n, text, u, hposts⟩

end Provider

/-! ## Runs -/

/-- The account is kept by every action. -/
theorem Progress.Accounts.follow {p : Provider} {replies : List Reply} {arrival : Int}
    {now next : Progress} {actions : List Action} {reports : List Report} {action : Action}
    {report : Report} (h : now.Accounts actions reports)
    (hfollows : p.Follows replies arrival now action next report) :
    next.Accounts (actions ++ [action]) (reports ++ [report]) := by
  constructor
  case closed =>
    rw [hfollows.closed, h.closed]
    simp
  case readings =>
    rw [hfollows.clock, h.readings, List.filterMap_append, List.length_append]
    cases hnotice : action.notice? <;> simp [hnotice]
  case sent =>
    have hsent : next.sent = now.sent + report.requests.length := by
      by_cases hnone : report.requests = []
      · rw [(hfollows.kept hnone).1, hnone]
        rfl
      · obtain ⟨n, text, u, hposts⟩ := hfollows.issued.mp hnone
        obtain ⟨rfl, rfl⟩ := hfollows.answered n text u hposts
        rfl
    rw [hsent, h.sent, List.flatMap_append, List.length_append]
    simp

namespace Provider

variable {p : Provider} {replies : List Reply} {arrival : Int}

/-- The account is kept by every run. -/
theorem accounts_run (hlink : p.link = .scripted replies arrival) {now : Progress}
    {earlier : List Action} {reports : List Report} (h : now.Accounts earlier reports)
    (actions : List Action) :
    (p.run now actions).1.Accounts (earlier ++ actions) (reports ++ (p.run now actions).2) := by
  induction actions generalizing now earlier reports with
  | nil => simpa [run] using h
  | cons action actions ih =>
      have hfollows : p.Follows replies arrival now action _ _ := follows_step hlink
      have hnext := ih (h.follow hfollows)
      rw [run_cons]
      simpa using hnext

/-- At every point of every run, the progress is what the actions so far and their reports come to,
and the next action does what this progress makes it do.  Closed clients, unreadable notices, times
that cannot be shown, refused URLs and failed attempts are all among them. -/
theorem run_follows (config : ProviderConfig) (zone : Zone) (clock : Clock) (replies : List Reply)
    (arrival : Int) (before : List Action) (action : Action) (after : List Action) :
    let p : Provider := ⟨config, zone, clock, .scripted replies arrival⟩
    let now := (p.run .start before).1
    let next := (p.run .start (before ++ [action])).1
    now.Accounts before (p.run .start before).2 ∧
      ∃ report, (p.run .start (before ++ action :: after)).2[before.length]? = some report ∧
        p.Follows replies arrival now action next report := by
  intro p now next
  have hstart : Progress.start.Accounts [] [] := ⟨rfl, rfl, rfl⟩
  refine ⟨?_, (p.step now action).2, ?_, ?_⟩
  · exact p.accounts_run rfl hstart before
  · exact p.report_run .start before action after
  · have hnext : next = (p.step now action).1 := by
      show (p.run .start (before ++ [action])).1 = _
      rw [run_concat]
    rw [hnext]
    exact follows_step rfl

end Provider

/-! ## Acceptance that depends on the run -/

/-- A notice about an endpoint of a group, as it arrives. -/
def bareSend (group : String) : Action :=
  .send ⟨.dict [(.text "name", .text "e"), (.text "group", .text group)], .null, .null, false⟩

/-- The notice that is read from it. -/
def bareNotice (group : String) : Notice := ⟨⟨"e", group, ""⟩, none, ⟨[]⟩, false⟩

/-- The notice is sent. -/
theorem notice?_bareSend (group : String) : (bareSend group).notice? = some (bareNotice group) :=
  rfl

/-- A provider in a zone of eight hours, with a clock that stands still. -/
def stillProvider (config : ProviderConfig) (replies : List Reply) : Provider where
  config := config
  zone := .utc8
  clock := ⟨⟨⟨2024, 3, 1⟩, 16, 30, 5, 0, .bare⟩, []⟩
  link := .scripted replies 0

/-- The text of a notice whenever it is sent. -/
theorem text_still (n : Notice) (config : ProviderConfig) (replies : List Reply) (readings : Nat) :
    n.text ((stillProvider config replies).clock.reading readings)
        (stillProvider config replies).zone = .ok (n.textAt "2024-03-02 00:30:05") := by
  have hmoment : (stillProvider config replies).clock.reading readings =
      ⟨⟨2024, 3, 1⟩, 16, 30, 5, 0, .bare⟩ := by
    cases readings <;> rfl
  have htime : (⟨⟨2024, 3, 1⟩, 16, 30, 5, 0, .bare⟩ : Moment).formatIn .utc8 =
      .ok "2024-03-02 00:30:05" := by cbv
  rw [hmoment]
  show (Moment.formatIn _ .utc8).map n.textAt = _
  rw [htime]
  rfl

/-- The URL of a webhook. -/
def webhookUrl : Url := ⟨"https".toList, [], "h".toList, none, "/a".toList, none, none⟩

/-- A request can be made for the URL. -/
theorem requestUrl_webhookUrl : requestUrl [] "https://h/a" = .ok webhookUrl := by cbv

/-- A provider whose webhook sets a cookie, and with a path for a webhook of one of its groups. -/
def cookieProvider : Provider :=
  stillProvider ⟨"https://h/a", none, [⟨"r", "/rel/x"⟩]⟩
    [.response ⟨200, [("set-cookie", "k=v")], []⟩]

/-- No set of texts is that of the webhooks that are accepted whenever a notice is sent by an open
client: a path is accepted at first, and no longer once a cookie is kept. -/
theorem not_exists_accepted :
    ¬ ∃ accepted : String → Prop, ∀ (p : Provider) (before : List Action) (action : Action),
      (∃ replies arrival, p.link = .scripted replies arrival) →
      let now := (p.run .start before).1
      (p.step now action).2.requests ≠ [] ↔
        ∃ n text, action.notice? = some n ∧
          n.text (p.clock.reading now.readings) p.zone = .ok text ∧
          accepted (p.config.webhookFor n.endpoint.group) ∧ now.closed = false := by
  rintro ⟨accepted, h⟩
  have hpath : requestUrl [] "/rel/x" = .ok ⟨[], [], [], none, "/rel/x".toList, none, none⟩ := by
    cbv
  -- Without cookies the path is accepted,
  have hposts : cookieProvider.Posts .start (bareSend "r") (bareNotice "r") _ _ :=
    ⟨notice?_bareSend "r", text_still _ _ _ _, hpath, Or.inl rfl, rfl⟩
  have hissued := (Provider.follows_step rfl).issued.mpr ⟨_, _, _, hposts⟩
  obtain ⟨n, text, hnotice, -, haccepted, -⟩ :=
    (h cookieProvider [] (bareSend "r") ⟨_, _, rfl⟩).mp hissued
  cases hnotice
  -- and with the cookie of another webhook it is not.
  have hother : cookieProvider.Posts .start (bareSend "") (bareNotice "") _ _ :=
    ⟨notice?_bareSend "", text_still _ _ _ _, requestUrl_webhookUrl, Or.inl rfl, rfl⟩
  have hnow : (cookieProvider.run .start [bareSend ""]).1 =
      ⟨false, 1, 1, [⟨"h.local".toList, ['/'], ['k']⟩]⟩ := by
    show (cookieProvider.step .start (bareSend "")).1 = _
    have hjar : (receive 0 [] webhookUrl (.response ⟨200, [("set-cookie", "k=v")], []⟩)).1 =
        [⟨"h.local".toList, ['/'], ['k']⟩] := by cbv
    rw [Provider.step_of_posts rfl hother]
    exact congrArg (Progress.mk false 1 1) hjar
  have hrefused := h cookieProvider [bareSend ""] (bareSend "r") ⟨_, _, rfl⟩
  rw [hnow] at hrefused
  have hagain := hrefused.mpr ⟨_, _, notice?_bareSend "r", text_still _ _ _ _, haccepted, rfl⟩
  obtain ⟨m, text, u, hposts⟩ := (Provider.follows_step rfl).issued.mp hagain
  cases hposts.notice
  rcases hposts.typed with hjar | habsolute
  · cases hjar
  · cases hpath.symm.trans hposts.accepted
    cases habsolute

end Tocsin.Delivery

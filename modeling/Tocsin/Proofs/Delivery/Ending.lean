import Tocsin.Proofs.Delivery.Account

/-!
# How a send ends

A send whose notice can be read and written ends in one of four ways (`Ending`): the webhook accepts
the alert, the webhook rejects it, the attempt fails for a reason of transport, or the client raises
something else, which leaves the send as it is.  When each of them is due is said in terms of the
reply (`Provider.Ends`), and what is seen of it in terms of the three views that there are: what the
caller gets, what the failure tells, and what is recorded (`Ending.IsSeen`).

One case is left out by this.  A response with an error status is to be rejected with the text of
its body; if the text cannot be read, because its content type names a charset that refuses to
decode, then the fault of the reading leaves the send, and nothing is recorded.  The main statement,
`Provider.ends_of_readable`, shows that this is the only case.
-/

set_option autoImplicit false

namespace Tocsin.Delivery

open Tocsin.Alerting Tocsin.Config
open Tocsin.Webhook

/-- The way in which a send ends. -/
inductive Ending where
  /-- The webhook accepts the alert with a status. -/
  | accepted (status : Int)
  /-- The webhook rejects the alert with a status and a text. -/
  | rejected (status : Int) (body : String)
  /-- The attempt fails for a reason of transport, which has a kind and a message. -/
  | failed (kind message : String)
  /-- The client raises another error. -/
  | escaped (fault : Fault)
  deriving DecidableEq, Repr

/-- What is seen of an ending: the answer of the send, the fields of its failure, and the records
about a notice with a context. -/
def Ending.IsSeen (context : List (String × Value)) (report : Report) : Ending → Prop
  | accepted status =>
    report.answer = .ok .done ∧
      report.records = [record .info "wecom_alert_sent" (("status_code", .int status) :: context)]
  | rejected status body =>
    report.answer = .error (.failed (.delivery status body)) ∧
      (Failure.delivery status body).message =
        "call to provider alert returned status code " ++ Display.int status ++ ": " ++ body ∧
      report.records = [record .warning "wecom_alert_rejected"
        (("status_code", .int status)
          :: ("response_text", .text (String.ofList (body.toList.take 200))) :: context)]
  | failed kind message =>
    ∃ failure : Failure, report.answer = .error (.failed failure) ∧
      failure.family = .transport ∧
      failure.message = "failed to call provider alert: " ++ message ∧
      failure.details = .dict [(.text "error_type", .text kind)] ∧
      failure.cause? = some kind ∧
      report.records = [record .warning "wecom_alert_transport_failed"
        (("error", .text message) :: ("error_type", .text kind) :: context)]
  | escaped fault => report.answer = .error (.exchange fault) ∧ report.records = []

namespace Provider

/-- The request about a notice is made, for a URL, and its reply is a response, which is another one
once its body is decompressed. -/
structure Replied (p : Provider) (replies : List Reply) (now : Progress) (n : Notice) (u : Url)
    (raw r : Response) : Prop where
  url : requestUrl now.jar (p.config.webhookFor n.endpoint.group) = .ok u
  isOpen : now.closed = false
  reply : replyAt replies now.sent = .response raw
  ascii : raw.notAscii? = none
  decompressed : raw.decompressed = .ok r
  typed : u.isAbsolute = true

/-- What the client gives or raises for the text of a notice. -/
def outcome (p : Provider) (now : Progress) (n : Notice) (text : String) :
    Except Fault Response :=
  (p.link.exchange now.sent now.closed now.jar (p.config.webhookFor n.endpoint.group)
    (messageBody (.ofText text))).result

/-- When the text of a notice ends in which way. -/
def Ends (p : Provider) (replies : List Reply) (arrival : Int) (now : Progress) (n : Notice)
    (text : String) : Ending → Prop
  | .accepted status =>
    ∃ u raw r, p.Replied replies now n u raw r ∧ raw.status = status ∧ status ≤ 399 ∧
      r.Leads (r.jarAfter arrival now.jar u) u
  | .rejected status body =>
    ∃ u raw r, p.Replied replies now n u raw r ∧ raw.status = status ∧ 400 ≤ status ∧
      r.text = .ok body
  | .failed kind message =>
    ∃ fault, p.outcome now n text = .error fault ∧ fault.transportKind? = some kind ∧
      fault.message = message
  | .escaped fault => p.outcome now n text = .error fault ∧ fault.transportKind? = none

variable {p : Provider} {replies : List Reply} {arrival : Int} {now : Progress} {n : Notice}
  {text : String}

/-! ## Responses -/

/-- The status of a response is that of the reply. -/
theorem Replied.status_eq {u : Url} {raw r : Response} (h : p.Replied replies now n u raw r) :
    r.status = raw.status := by
  obtain ⟨body, rfl⟩ := Response.eq_of_decompressed h.decompressed
  rfl

/-- The client gives a response where one is replied, and leads somewhere if it is to. -/
theorem outcome_eq_ok_iff (hlink : p.link = .scripted replies arrival) {r : Response} :
    p.outcome now n text = .ok r ↔
      ∃ u raw, p.Replied replies now n u raw r ∧ r.Leads (r.jarAfter arrival now.jar u) u := by
  unfold outcome
  rw [hlink]
  cases hurl : requestUrl now.jar (p.config.webhookFor n.endpoint.group) with
  | error fault =>
      rw [exchange_of_fault hurl]
      constructor
      · intro h
        cases h
      · rintro ⟨u, raw, hreplied, -⟩
        cases hurl.symm.trans hreplied.url
  | ok u =>
      cases hclosed : now.closed with
      | true =>
          rw [exchange_of_closed hurl]
          constructor
          · intro h
            cases h
          · rintro ⟨v, raw, hreplied, -⟩
            cases hclosed.symm.trans hreplied.isOpen
      | false =>
          rw [exchange_of_open hurl]
          have htarget := isTarget_of_requestUrl hurl
          constructor
          · intro h
            obtain ⟨raw, hreply, haccept, hleads⟩ := receive_eq_ok_iff.mp h
            obtain ⟨hascii, hdecompressed, htyped⟩ := htarget.accept_eq_ok_iff.mp haccept
            exact ⟨u, raw, ⟨hurl, hclosed, hreply, hascii, hdecompressed, htyped⟩, hleads⟩
          · rintro ⟨v, raw, hreplied, hleads⟩
            cases hurl.symm.trans hreplied.url
            refine receive_eq_ok_iff.mpr ⟨raw, hreplied.reply, ?_, hleads⟩
            exact htarget.accept_eq_ok_iff.mpr
              ⟨hreplied.ascii, hreplied.decompressed, hreplied.typed⟩

/-- A response with an error status is given, wherever it redirects to. -/
theorem Replied.outcome_of_error (hlink : p.link = .scripted replies arrival) {u : Url}
    {raw r : Response} (h : p.Replied replies now n u raw r) (hstatus : 400 ≤ raw.status) :
    p.outcome now n text = .ok r := by
  rw [← h.status_eq] at hstatus
  exact (outcome_eq_ok_iff hlink).mpr ⟨u, raw, h, Response.leads_of_error hstatus _ _⟩

/-! ## Endings -/

/-- The way in which a send ends that gives a response or a fault; none for a response with an error
status whose text cannot be read. -/
def endingOf? : Except Fault Response → Option Ending
  | .ok r =>
    if r.status ≤ maxAccepted then some (.accepted r.status)
    else
      match r.text with
      | .ok body => some (.rejected r.status body)
      | .error _ => none
  | .error fault =>
    match fault.transportKind? with
    | some kind => some (.failed kind fault.message)
    | none => some (.escaped fault)

/-- A reply with a status of at most 399 is an accepted message. -/
theorem endingOf?_of_accepted {r : Response} (h : r.status ≤ 399) :
    endingOf? (.ok r) = some (.accepted r.status) := if_pos h

/-- A reply with an error status and a readable text is a rejected message. -/
theorem endingOf?_of_rejected {r : Response} (h : 400 ≤ r.status) {body : String}
    (hbody : r.text = .ok body) : endingOf? (.ok r) = some (.rejected r.status body) := by
  have hnot : ¬ r.status ≤ maxAccepted := Int.not_le.mpr h
  simp only [endingOf?, if_neg hnot, hbody]

/-- A reply with an error status and an unreadable text is no ending. -/
theorem endingOf?_of_unreadable {r : Response} (h : 400 ≤ r.status) {fault : TextFault}
    (hfault : r.text = .error fault) : endingOf? (.ok r) = none := by
  have hnot : ¬ r.status ≤ maxAccepted := Int.not_le.mpr h
  simp only [endingOf?, if_neg hnot, hfault]

/-- A fault of transport is a failed attempt. -/
theorem endingOf?_of_failed {fault : Fault} {kind : String}
    (h : fault.transportKind? = some kind) :
    endingOf? (.error fault) = some (.failed kind fault.message) := by
  simp only [endingOf?, h]

/-- Any other fault escapes. -/
theorem endingOf?_of_escaped {fault : Fault} (h : fault.transportKind? = none) :
    endingOf? (.error fault) = some (.escaped fault) := by
  simp only [endingOf?, h]

/-- Only a response with an error status whose text cannot be read makes for no ending. -/
theorem endingOf?_eq_none {result : Except Fault Response} (h : endingOf? result = none) :
    ∃ r fault, result = .ok r ∧ 400 ≤ r.status ∧ r.text = .error fault := by
  cases result with
  | ok r =>
      by_cases hle : r.status ≤ 399
      · rw [endingOf?_of_accepted hle] at h
        cases h
      · have hle : 400 ≤ r.status := by omega
        cases hbody : r.text with
        | ok body =>
            rw [endingOf?_of_rejected hle hbody] at h
            cases h
        | error fault => exact ⟨r, fault, rfl, hle, hbody⟩
  | error fault =>
      cases hkind : fault.transportKind? with
      | some kind =>
          rw [endingOf?_of_failed hkind] at h
          cases h
      | none =>
          rw [endingOf?_of_escaped hkind] at h
          cases h

/-- What the client gives or raises makes for an ending. -/
def Gives (result : Except Fault Response) : Ending → Prop
  | .accepted status => ∃ r, result = .ok r ∧ r.status = status ∧ status ≤ 399
  | .rejected status body =>
    ∃ r, result = .ok r ∧ r.status = status ∧ 400 ≤ status ∧ r.text = .ok body
  | .failed kind message =>
    ∃ fault, result = .error fault ∧ fault.transportKind? = some kind ∧ fault.message = message
  | .escaped fault => result = .error fault ∧ fault.transportKind? = none

/-- A result makes for the one ending that is told by it. -/
theorem endingOf?_eq_some_iff {result : Except Fault Response} {e : Ending} :
    endingOf? result = some e ↔ Gives result e := by
  constructor
  · intro h
    cases result with
    | ok r =>
        by_cases hle : r.status ≤ 399
        · rw [endingOf?_of_accepted hle] at h
          cases h
          exact ⟨r, rfl, rfl, hle⟩
        · have hle : 400 ≤ r.status := by omega
          cases hbody : r.text with
          | ok body =>
              rw [endingOf?_of_rejected hle hbody] at h
              cases h
              exact ⟨r, rfl, rfl, hle, hbody⟩
          | error fault =>
              rw [endingOf?_of_unreadable hle hbody] at h
              cases h
    | error fault =>
        cases hkind : fault.transportKind? with
        | some kind =>
            rw [endingOf?_of_failed hkind] at h
            cases h
            exact ⟨fault, rfl, hkind, rfl⟩
        | none =>
            rw [endingOf?_of_escaped hkind] at h
            cases h
            exact ⟨rfl, hkind⟩
  · intro h
    cases e with
    | accepted status =>
        obtain ⟨r, rfl, rfl, hle⟩ := h
        exact endingOf?_of_accepted hle
    | rejected status body =>
        obtain ⟨r, rfl, rfl, hle, hbody⟩ := h
        exact endingOf?_of_rejected hle hbody
    | failed kind message =>
        obtain ⟨fault, rfl, hkind, rfl⟩ := h
        exact endingOf?_of_failed hkind
    | escaped fault =>
        obtain ⟨rfl, hkind⟩ := h
        exact endingOf?_of_escaped hkind

/-- A send ends in the way that is told by what the client gives or raises. -/
theorem ends_iff (hlink : p.link = .scripted replies arrival) {e : Ending} :
    p.Ends replies arrival now n text e ↔ endingOf? (p.outcome now n text) = some e := by
  rw [endingOf?_eq_some_iff]
  cases e with
  | accepted status =>
      constructor
      · rintro ⟨u, raw, r, hreplied, rfl, hle, hleads⟩
        have hout : p.outcome now n text = .ok r :=
          (outcome_eq_ok_iff hlink).mpr ⟨u, raw, hreplied, hleads⟩
        exact ⟨r, hout, hreplied.status_eq, hle⟩
      · rintro ⟨r, hout, rfl, hle⟩
        obtain ⟨u, raw, hreplied, hleads⟩ := (outcome_eq_ok_iff hlink).mp hout
        exact ⟨u, raw, r, hreplied, hreplied.status_eq.symm, hle, hleads⟩
  | rejected status body =>
      constructor
      · rintro ⟨u, raw, r, hreplied, rfl, hle, hbody⟩
        exact ⟨r, hreplied.outcome_of_error hlink hle, hreplied.status_eq, hle, hbody⟩
      · rintro ⟨r, hout, rfl, hle, hbody⟩
        obtain ⟨u, raw, hreplied, -⟩ := (outcome_eq_ok_iff hlink).mp hout
        exact ⟨u, raw, r, hreplied, hreplied.status_eq.symm, hle, hbody⟩
  | failed kind message => exact Iff.rfl
  | escaped fault => exact Iff.rfl

/-- What is concluded from what the client gives or raises is seen. -/
theorem isSeen_of_gives (context : List (String × Value)) (requests : List Request)
    {result : Except Fault Response} {e : Ending} (h : Gives result e) :
    e.IsSeen context ⟨(conclude context result).1.map fun _ => .done, requests,
      (conclude context result).2⟩ := by
  cases e with
  | accepted status =>
      obtain ⟨r, rfl, rfl, hle⟩ := h
      have hconclude : conclude context (.ok r) = (.ok (), [record .info "wecom_alert_sent"
          (("status_code", .int r.status) :: context)]) := if_pos hle
      rw [hconclude]
      exact ⟨rfl, rfl⟩
  | rejected status body =>
      obtain ⟨r, rfl, rfl, hle, hbody⟩ := h
      have hnot : ¬ r.status ≤ maxAccepted := Int.not_le.mpr hle
      simp only [conclude, if_neg hnot, hbody]
      exact ⟨rfl, rfl, rfl⟩
  | failed kind message =>
      obtain ⟨fault, rfl, hkind, rfl⟩ := h
      simp only [conclude, hkind]
      exact ⟨_, rfl, rfl, rfl, rfl, rfl, rfl⟩
  | escaped fault =>
      obtain ⟨rfl, hkind⟩ := h
      simp only [conclude, hkind]
      exact ⟨rfl, rfl⟩

/-- What a send reports is concluded from what the client gives or raises. -/
theorem report_of_rendered {action : Action} (hnotice : action.notice? = some n)
    (htext : n.text (p.clock.reading now.readings) p.zone = .ok text) :
    ∃ requests, (p.step now action).2 =
      ⟨(conclude (n.context (p.config.webhookFor n.endpoint.group)) (p.outcome now n text)).1.map
          fun _ => .done,
        requests,
        (conclude (n.context (p.config.webhookFor n.endpoint.group)) (p.outcome now n text)).2⟩ := by
  rw [step_of_rendered hnotice htext]
  exact ⟨_, rfl⟩

/-- A response with an error status whose text cannot be read ends in none of the four ways: the
fault of the reading is raised, and nothing is recorded. -/
theorem Replied.not_ends (hlink : p.link = .scripted replies arrival) {action : Action}
    (hnotice : action.notice? = some n)
    (htext : n.text (p.clock.reading now.readings) p.zone = .ok text) {u : Url} {raw r : Response}
    (hreplied : p.Replied replies now n u raw r) (hstatus : 400 ≤ raw.status) {fault : TextFault}
    (hfault : r.text = .error fault) :
    (p.step now action).2.answer = .error (.unreadableAnswer fault) ∧
      (p.step now action).2.records = [] ∧ ∀ e, ¬ p.Ends replies arrival now n text e := by
  obtain ⟨requests, hreport⟩ := report_of_rendered hnotice htext
  have hout : p.outcome now n text = .ok r := hreplied.outcome_of_error hlink hstatus
  have hle : 400 ≤ r.status := by rwa [hreplied.status_eq]
  have hnot : ¬ r.status ≤ maxAccepted := Int.not_le.mpr hle
  rw [hreport, hout]
  simp only [conclude, if_neg hnot, hfault]
  refine ⟨rfl, trivial, ?_⟩
  intro e he
  have hnone := (ends_iff hlink).mp he
  rw [hout, endingOf?_of_unreadable hle hfault] at hnone
  cases hnone

/-- A send ends in exactly one of the four ways, and is seen to, unless it is replied to with an
error status and a body whose text cannot be read.  Then it ends in none of them: the fault of the
reading is raised, and nothing is recorded. -/
theorem ends_of_readable (hlink : p.link = .scripted replies arrival) {action : Action}
    (hnotice : action.notice? = some n)
    (htext : n.text (p.clock.reading now.readings) p.zone = .ok text) :
    let report := (p.step now action).2
    let context := n.context (p.config.webhookFor n.endpoint.group)
    ((∀ u raw r, p.Replied replies now n u raw r → 400 ≤ raw.status → ∃ body, r.text = .ok body) →
      ∃ e, p.Ends replies arrival now n text e ∧ e.IsSeen context report ∧
        ∀ e', p.Ends replies arrival now n text e' → e' = e) ∧
    ∀ u raw r fault, p.Replied replies now n u raw r → 400 ≤ raw.status → r.text = .error fault →
      report.answer = .error (.unreadableAnswer fault) ∧ report.records = [] ∧
        ∀ e, ¬ p.Ends replies arrival now n text e := by
  intro report context
  refine ⟨?_, fun u raw r fault hreplied hstatus hfault =>
    hreplied.not_ends hlink hnotice htext hstatus hfault⟩
  intro hreadable
  cases hending : endingOf? (p.outcome now n text) with
  | some e =>
      refine ⟨e, (ends_iff hlink).mpr hending, ?_, ?_⟩
      · obtain ⟨requests, hreport⟩ := report_of_rendered hnotice htext
        show e.IsSeen context (p.step now action).2
        rw [hreport]
        exact isSeen_of_gives context requests (endingOf?_eq_some_iff.mp hending)
      · intro e' he'
        have he := (ends_iff hlink).mp he'
        rw [hending] at he
        exact (Option.some.inj he).symm
  | none =>
      obtain ⟨r, fault, hout, hstatus, hfault⟩ := endingOf?_eq_none hending
      obtain ⟨u, raw, hreplied, -⟩ := (outcome_eq_ok_iff hlink).mp hout
      rw [hreplied.status_eq] at hstatus
      obtain ⟨body, hbody⟩ := hreadable u raw r hreplied hstatus
      cases hfault.symm.trans hbody

/-- A redirect to a text that is no URL ends as a failure of transport. -/
theorem Replied.ends_of_misplaced (hlink : p.link = .scripted replies arrival) {u : Url}
    {raw r : Response} (h : p.Replied replies now n u raw r) (hredirect : r.isRedirect = true)
    {place : String} (hplace : r.header? "location" = some place) {fault : UrlFault}
    (hfault : Url.parse place = .error fault) :
    p.Ends replies arrival now n text
      (.failed "RemoteProtocolError" ("Invalid URL in location header: " ++ fault.message ++ ".")) := by
  refine ⟨.location fault, ?_, rfl, rfl⟩
  have haccept := (isTarget_of_requestUrl h.url).accept_eq_ok_iff.mpr
    ⟨h.ascii, h.decompressed, h.typed⟩
  have hcheck (jar : Jar) : checkRedirect jar u r = .error (.location fault) := by
    simp only [checkRedirect, redirect, hredirect, hplace, hfault]
    rfl
  unfold outcome
  rw [hlink, h.isOpen, exchange_of_open h.url, h.reply, receive_of_accepted haccept, hcheck]
  rfl

end Provider

/-! ## Replies with an error status -/

/-- A response with an error status and the letter `a` for a body. -/
def refusal (headers : List (String × String)) : Response := ⟨500, headers, [0x61]⟩

/-- A provider whose webhook replies to the first request with such a response. -/
def refusedProvider (headers : List (String × String)) : Provider :=
  stillProvider ⟨"https://h/a", none, []⟩ [.response (refusal headers)]

/-- The response is what is replied if its headers are plain. -/
theorem replied_refusal {headers : List (String × String)}
    (hascii : (refusal headers).notAscii? = none)
    (hplain : (refusal headers).decompressed = .ok (refusal headers)) :
    (refusedProvider headers).Replied [.response (refusal headers)] .start (bareNotice "") webhookUrl
      (refusal headers) (refusal headers) :=
  ⟨requestUrl_webhookUrl, rfl, rfl, hascii, hplain, rfl⟩

/-- A rejection whose text can be read ends as such, and is seen to. -/
theorem refused_ends :
    (refusedProvider []).Ends [.response (refusal [])] 0 .start (bareNotice "")
        ((bareNotice "").textAt "2024-03-02 00:30:05") (.rejected 500 "a") ∧
      (Ending.rejected 500 "a").IsSeen ((bareNotice "").context "https://h/a")
        ((refusedProvider []).step .start (bareSend "")).2 := by
  have hplain : (refusal []).decompressed = .ok (refusal []) := by cbv
  have hbody : (refusal []).text = .ok "a" := by cbv
  have hrejected : (refusedProvider []).Ends [.response (refusal [])] 0 .start (bareNotice "")
      ((bareNotice "").textAt "2024-03-02 00:30:05") (.rejected 500 "a") :=
    ⟨_, _, _, replied_refusal rfl hplain, rfl, by decide, hbody⟩
  have htext : (bareNotice "").text
      ((refusedProvider []).clock.reading Progress.start.readings) (refusedProvider []).zone =
      .ok ((bareNotice "").textAt "2024-03-02 00:30:05") := text_still _ _ _ _
  obtain ⟨hends, -⟩ := Provider.ends_of_readable rfl (notice?_bareSend "") htext
  obtain ⟨e, -, hseen, hunique⟩ := hends (by
    intro u raw r hreplied _
    cases hreplied.reply
    cases hplain.symm.trans hreplied.decompressed
    exact ⟨"a", hbody⟩)
  obtain rfl := hunique _ hrejected
  exact ⟨hrejected, hseen⟩

/-- The headers of a response whose text cannot be read. -/
def undecodable : List (String × String) := [("content-type", "a/b; charset=undefined")]

/-- The text of such a response cannot be read. -/
theorem text_undecodable : (refusal undecodable).text = .error (.coding .undefined) := by
  have hheader : (refusal undecodable).header? "content-type" = some "a/b; charset=undefined" := by
    cbv
  have hname : ContentType.charsetName? "a/b; charset=undefined" = .ok (some "undefined") := by cbv
  have hcharset : Text.Charset.ofName? "undefined" = some ⟨"undefined", .unusable .undefined⟩ := by
    decide +kernel
  have h : (refusal undecodable).charset = .ok ⟨"undefined", .unusable .undefined⟩ := by
    simp only [Response.charset, hheader, hname, bind, Except.bind, hcharset]
    rfl
  unfold Response.text
  rw [h]
  rfl

/-- A response with an error status does not always end in a rejection: where its text cannot be
read, the send ends in none of the four ways. -/
theorem undecodable_not_ends :
    ((refusedProvider undecodable).step .start (bareSend "")).2.answer =
        .error (.unreadableAnswer (.coding .undefined)) ∧
      ((refusedProvider undecodable).step .start (bareSend "")).2.records = [] ∧
      ∀ e, ¬ (refusedProvider undecodable).Ends [.response (refusal undecodable)] 0 .start
        (bareNotice "") ((bareNotice "").textAt "2024-03-02 00:30:05") e := by
  have hplain : (refusal undecodable).decompressed = .ok (refusal undecodable) := by cbv
  have hreplied := replied_refusal rfl hplain
  exact hreplied.not_ends rfl (notice?_bareSend "") (text_still (bareNotice "") _ _ _) (by decide)
    text_undecodable

end Tocsin.Delivery

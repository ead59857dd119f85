import Mathlib
import Tocsin.Proofs.Delivery.Account
import Tocsin.Proofs.Log.Redaction
import Tocsin.Proofs.Webhook.NormalForm

/-!
# The host that is contacted

The records about a notice name a host, which is found in the text of the webhook; the request goes
to another text, the normal form of the webhook.  For a webhook that is an address both are one
host: that of the address in lower case (`Provider.contacted_host_logged`).  Nothing hides this
field of a record, and a notice that was sent leaves no record only where the exchange fails for no
reason of transport or the answer cannot be read.
-/

set_option autoImplicit false

namespace Tocsin.Delivery

open Tocsin.Config Tocsin.Outcome Tocsin.Text
open Tocsin.Webhook

/-! ## Requests -/

/-- The request for an address goes to the normal form of the address. -/
theorem normalForm_of_requestUrl {jar : Jar} {a : Address} {u : Url}
    (h : requestUrl jar a.text = .ok u) : a.NormalForm u := by
  obtain ⟨v, hv, hu⟩ := bind_eq_ok.mp (target_of_requestUrl h)
  have hparse : Url.parseChars a.chars = .ok v := by
    rwa [Url.parse, Address.text, String.toList_ofList] at hv
  have hnormal := a.normalForm_of_parse hparse
  have habsolute : v.isAbsolute = true := by
    simp [Url.isAbsolute, hnormal.scheme, hnormal.host, lowerAscii, a.scheme_ne_nil,
      a.host_ne_nil]
  rw [Url.target, if_pos habsolute] at hu
  cases hu
  exact hnormal

/-- A request about a notice goes to the URL that the webhook of its group stands for. -/
theorem Provider.exists_url_of_request {p : Provider} {now : Progress} {action : Action}
    {n : Notice} {r : Request} (hnotice : action.notice? = some n)
    (h : r ∈ (p.step now action).2.requests) :
    ∃ u, requestUrl now.jar (p.config.webhookFor n.endpoint.group) = .ok u ∧ r.url = u.text := by
  obtain ⟨text, -, hstep⟩ := exists_deliver_of_request hnotice h
  rw [hstep] at h
  obtain ⟨u, hu, rfl⟩ := Webhook.exists_url_of_request (Option.mem_toList.mp h)
  exact ⟨u, hu, rfl⟩

/-! ## Records -/

/-- What a send ends in that no record tells of. -/
def SendError.IsSilent (e : SendError) : Prop :=
  (∃ fault, e = .exchange fault) ∨ ∃ fault, e = .unreadableAnswer fault

/-- A record about a notice names the host of the webhook. -/
theorem get?_webhook_host_context (n : Notice) (webhook : String) :
    Log.Fields.get? "webhook_host" (n.context webhook) = some (.text (loggedHost webhook)) := rfl

/-- Every record that an exchange leaves has the fields that all records about the notice have,
behind others of its own. -/
theorem get?_of_mem_conclude {context : List (String × Value)} {result : Except Fault Response}
    {call : Log.Call} (h : call ∈ (conclude context result).2) :
    Log.Fields.get? "webhook_host" call.fields = Log.Fields.get? "webhook_host" context := by
  unfold conclude at h
  split at h
  · split at h
    · cases h
    · cases List.mem_singleton.mp h
      simp [record, Log.Fields.get?_cons]
  · split at h
    · cases List.mem_singleton.mp h
      simp [record, Log.Fields.get?_cons]
    · split at h
      · cases h
      · cases List.mem_singleton.mp h
        simp [record, Log.Fields.get?_cons]

/-- An exchange leaves a record, unless what it ends in is silent. -/
theorem silent_of_conclude_eq_nil {context : List (String × Value)}
    {result : Except Fault Response} (h : (conclude context result).2 = []) :
    ∃ e, (conclude context result).1 = .error e ∧ e.IsSilent := by
  cases result with
  | error fault =>
      cases hkind : fault.transportKind? with
      | none =>
          simp only [conclude, hkind]
          exact ⟨_, rfl, .inl ⟨fault, rfl⟩⟩
      | some kind => simp [conclude, hkind] at h
  | ok response =>
      by_cases haccepted : response.status ≤ maxAccepted
      · simp [conclude, haccepted] at h
      · cases htext : response.text with
        | error fault =>
            simp only [conclude, haccepted, htext]
            exact ⟨_, rfl, .inr ⟨fault, rfl⟩⟩
        | ok text => simp [conclude, haccepted, htext] at h

/-- A send that makes a request leaves the records of an exchange about its notice. -/
theorem Provider.exists_conclude_of_request {p : Provider} {now : Progress} {action : Action}
    {n : Notice} {r : Request} (hnotice : action.notice? = some n)
    (h : r ∈ (p.step now action).2.requests) :
    ∃ result, let concluded := conclude (n.context (p.config.webhookFor n.endpoint.group)) result
      (p.step now action).2.answer = concluded.1.map (fun _ => .done) ∧
        (p.step now action).2.records = concluded.2 := by
  obtain ⟨text, -, hstep⟩ := exists_deliver_of_request hnotice h
  rw [hstep]
  exact ⟨_, rfl, rfl⟩

/-! ## Hosts -/

/-- The host that is contacted is the host that is logged.  For a webhook that is an address, a
request goes to a URL whose host is that of the address in lower case, and its text is that of an
address with this host, which a log would show for it as well.  Every record of the send names this
host and shows it; and there is a record, unless the exchange fails for no reason of transport or
the answer cannot be read. -/
theorem Provider.contacted_host_logged {p : Provider} {now : Progress} {action : Action} {n : Notice}
    {a : Address} {r : Request} (hnotice : action.notice? = some n)
    (hwebhook : p.config.webhookFor n.endpoint.group = a.text)
    (hr : r ∈ (p.step now action).2.requests) :
    (∃ u, requestUrl now.jar a.text = .ok u ∧ r.url = u.text ∧ u.host = lowerAscii a.host) ∧
      (∃ b : Address, r.url = b.text ∧ b.host = lowerAscii a.host) ∧
      loggedHost r.url = String.ofList (lowerAscii a.host) ∧
      (∀ call ∈ (p.step now action).2.records,
        Log.Fields.get? "webhook_host" call.fields =
            some (.text (String.ofList (lowerAscii a.host))) ∧
          Log.Fields.get? "webhook_host" (Log.redact call.fields) =
            some (.text (String.ofList (lowerAscii a.host)))) ∧
      ((p.step now action).2.records = [] →
        ∃ e, (p.step now action).2.answer = .error e ∧ e.IsSilent) := by
  obtain ⟨u, hurl, htext⟩ := exists_url_of_request hnotice hr
  rw [hwebhook] at hurl
  have hnormal := normalForm_of_requestUrl hurl
  obtain ⟨result, hanswer, hrecords⟩ := exists_conclude_of_request hnotice hr
  refine ⟨⟨u, hurl, htext, hnormal.host⟩, ?_, ?_, ?_, ?_⟩
  · exact ⟨hnormal.address, htext.trans hnormal.text_address.symm, hnormal.host⟩
  · -- The text of the URL is an address of its own, so a log would find its host by the same rule.
    have hlower : lowerAscii hnormal.address.host = lowerAscii a.host := by
      show lowerAscii u.host = _
      rw [hnormal.host, lowerAscii_lowerAscii]
    rw [htext, ← hnormal.text_address, Address.loggedHost_text, hlower]
  · intro call hcall
    rw [hrecords] at hcall
    have hfield : Log.Fields.get? "webhook_host" call.fields =
        some (.text (String.ofList (lowerAscii a.host))) := by
      rw [get?_of_mem_conclude hcall, get?_webhook_host_context, hwebhook, a.loggedHost_text]
    refine ⟨hfield, ?_⟩
    have hshown : Log.isSensitive "webhook_host" = false := by decide +kernel
    rw [Log.Fields.get?_redact, hfield, hshown]
    rfl
  · intro hnone
    obtain ⟨e, he, hsilent⟩ := silent_of_conclude_eq_nil (hrecords.symm.trans hnone)
    exact ⟨e, by rw [hanswer, he]; rfl, hsilent⟩

/-- An address with capital letters, a colon in its user, a port that is the usual one, dot segments
in its path, and marks of an authority in its query. -/
def markedAddress : Address where
  scheme := "HTTPS".toList
  user := some "me:p:w".toList
  host := "Robot.Example-1.COM".toList
  portNumber := some "0443".toList
  tail := "/a/../b?x=@y://z#f".toList
  scheme_http := .inr rfl
  user_plain := by
    rintro user ⟨⟩
    simp [isPrintableAscii, userMarks]
  host_ne_nil := by simp
  host_plain := by simp [isHostChar, isAsciiLetter, isAsciiDigit]
  port_digits := by
    rintro digits ⟨⟩
    simp [isAsciiDigit]
  tail_starts := by simp [IsTail, endsAuthority]
  tail_plain := by simp [isPrintableAscii]

/-- The URL of requests for the address. -/
def markedUrl : Url :=
  ⟨"https".toList, "me:p:w".toList, "robot.example-1.com".toList, some 443, "/b".toList,
    some "x=@y://z".toList, some "f".toList⟩

/-- A send to the address goes to its host in lower case, and its record names this host. -/
theorem markedAddress_contacted :
    let p := stillProvider ⟨markedAddress.text, none, []⟩ []
    let report := (p.step .start (bareSend "g")).2
    ∃ r call, report.requests = [r] ∧ report.records = [call] ∧
      r.url = "https://me:p:w@robot.example-1.com:443/b?x=@y://z#f" ∧
      loggedHost r.url = "robot.example-1.com" ∧
      Log.Fields.get? "webhook_host" call.fields = some (.text "robot.example-1.com") := by
  intro p report
  have hurl : requestUrl [] markedAddress.text = .ok markedUrl := by decide +kernel
  have hposts : p.Posts .start (bareSend "g") (bareNotice "g")
      ((bareNotice "g").textAt "2024-03-02 00:30:05") markedUrl :=
    ⟨notice?_bareSend "g", text_still _ _ _ _, hurl, .inl rfl, rfl⟩
  have hreceived : (receive 0 [] markedUrl (replyAt [] 0)).2 =
      .ok ⟨200, [], Utf8.encode "ok".toList⟩ := by cbv
  have hstep := Provider.step_of_posts (p := p) rfl hposts
  have hconcluded : conclude ((bareNotice "g").context markedAddress.text)
      (receive 0 [] markedUrl (replyAt [] 0)).2 =
      (.ok (), [record .info "wecom_alert_sent"
        (("status_code", .int 200) :: (bareNotice "g").context markedAddress.text)]) := by
    rw [hreceived]
    rfl
  have hrequests : report.requests =
      [⟨markedUrl.text, messageBody (.ofText ((bareNotice "g").textAt "2024-03-02 00:30:05"))⟩] :=
    congrArg (fun next => next.2.requests) hstep
  have hrecords : report.records = [record .info "wecom_alert_sent"
      (("status_code", .int 200) :: (bareNotice "g").context markedAddress.text)] :=
    (congrArg (fun next => next.2.records) hstep).trans (congrArg Prod.snd hconcluded)
  have hlower : String.ofList (lowerAscii markedAddress.host) = "robot.example-1.com" := by cbv
  have htext : markedUrl.text = "https://me:p:w@robot.example-1.com:443/b?x=@y://z#f" := by cbv
  have hsent : ⟨markedUrl.text, messageBody (.ofText ((bareNotice "g").textAt
      "2024-03-02 00:30:05"))⟩ ∈ (p.step .start (bareSend "g")).2.requests := by
    rw [hrequests]
    exact List.mem_singleton_self _
  have hwebhook : p.config.webhookFor (bareNotice "g").endpoint.group = markedAddress.text := rfl
  obtain ⟨-, -, hhost, hfields, -⟩ :=
    Provider.contacted_host_logged (notice?_bareSend "g") hwebhook hsent
  rw [hlower] at hhost hfields
  refine ⟨_, _, hrequests, hrecords, htext, hhost, (hfields _ ?_).1⟩
  rw [hrecords]
  exact List.mem_singleton_self _

end Tocsin.Delivery

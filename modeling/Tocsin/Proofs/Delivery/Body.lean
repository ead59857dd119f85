import Tocsin.Proofs.Delivery.Account
import Tocsin.Proofs.Json.ReadBack

/-!
# Bodies of requests

A request carries the message of the notice that is sent, written as JSON.  Whatever characters the
message contains, none of its control characters stands in the body, and a reader of JSON takes the
message from it character by character (`bodies_read_back`).
-/

set_option autoImplicit false

namespace Tocsin.Delivery

open Tocsin.Alerting Tocsin.Config
open Tocsin.Webhook

/-! ## Messages as JSON -/

/-- A message can be spelled in JSON. -/
theorem exists_spelling_messageJson (m : MarkdownMessage) :
    ∃ tokens, Json.Spelling tokens (messageJson m) := by
  have hcontent : ∃ tokens, Json.Spelling tokens (contentJson m.markdown) := by
    apply Json.exists_spelling_object (List.cons_ne_nil _ _)
    intro member hmember
    rw [List.mem_singleton] at hmember
    subst hmember
    exact ⟨_, Json.spelling_text _⟩
  apply Json.exists_spelling_object (List.cons_ne_nil _ _)
  intro member hmember
  rw [List.mem_pair] at hmember
  rcases hmember with rfl | rfl
  · exact ⟨_, Json.spelling_text _⟩
  · exact hcontent

/-- A message is read back from its body. -/
theorem read?_messageBody (m : MarkdownMessage) :
    Json.read? (messageBody m).toList = some (messageJson m) := by
  obtain ⟨tokens, h⟩ := exists_spelling_messageJson m
  rw [messageBody, String.toList_ofList]
  exact h.read?_write

/-- No control character stands in a body. -/
theorem le_toNat_of_mem_messageBody {m : MarkdownMessage} {c : Char}
    (hc : c ∈ (messageBody m).toList) : 0x20 ≤ c.toNat := by
  obtain ⟨tokens, h⟩ := exists_spelling_messageJson m
  rw [messageBody, String.toList_ofList] at hc
  exact h.legible c hc

/-- The mapping that a message is written as makes for the same JSON. -/
theorem toJson_toMapping_message (m : MarkdownMessage) :
    (Value.dict (MarkdownMessage.model.toMapping m)).toJson = .ok (messageJson m) := rfl

/-- The JSON of a message is a configuration for the message. -/
theorem read_ofJson_messageJson (t : String) :
    MarkdownMessage.model.read (Value.ofJson (messageJson (.ofText t))) =
      .ok ⟨.ofText t, ["msgtype", "markdown"]⟩ := by
  have hvalue : Value.ofJson (messageJson (.ofText t)) =
      .dict [(.text "msgtype", .text "markdown"),
        (.text "markdown", .dict [(.text "content", .text t)])] := by
    have hkeys : (Value.text "msgtype").sameKey (.text "markdown") = false := by
      simp [Value.sameKey]
    simp [messageJson, contentJson, Value.ofJson, Value.ofMembers, Mapping.ofPairs, Mapping.put,
      hkeys, MarkdownMessage.msgtype, MarkdownMessage.ofText]
  rw [hvalue]
  rfl

/-! ## Requests -/

/-- A request carries the body that it was made for. -/
theorem body_of_request {link : Link} {sent : Nat} {isClosed : Bool} {jar : Jar}
    {webhook body : String} {r : Request}
    (h : (link.exchange sent isClosed jar webhook body).request = some r) : r.body = body := by
  obtain ⟨u, -, rfl⟩ := exists_url_of_request h
  rfl

/-- A request is made for a notice that could be read and whose text could be written at the time of
the clock; it carries the message with this text. -/
theorem Provider.exists_notice_of_request {p : Provider} {now : Progress} {action : Action}
    {r : Request} (h : r ∈ (p.step now action).2.requests) :
    ∃ raw n text, action = .send raw ∧ raw.read = .ok n ∧
      n.text (p.clock.reading now.readings) p.zone = .ok text ∧
      r.body = messageBody (.ofText text) := by
  cases hnotice : action.notice? with
  | none =>
      obtain ⟨answer, hstep⟩ := step_of_no_notice p now hnotice
      rw [hstep] at h
      cases h
  | some n =>
      obtain ⟨raw, rfl, hread⟩ := Action.notice?_eq_some hnotice
      obtain ⟨text, htext, hstep⟩ := exists_deliver_of_request hnotice h
      rw [hstep] at h
      exact ⟨raw, n, text, rfl, hread, htext, body_of_request (Option.mem_toList.mp h)⟩

/-- The body of every request is the JSON of the message that was written for the notice at the time
of the clock; it is what the mapping of the message makes for as well, contains no control
characters, and is read as the message, character by character.  The JSON of every text is a
configuration for the message with this text. -/
theorem bodies_read_back :
    (∀ (p : Provider) (now : Progress) (action : Action) (r : Request),
      r ∈ (p.step now action).2.requests →
      ∃ raw n text, action = .send raw ∧ raw.read = .ok n ∧
        n.text (p.clock.reading now.readings) p.zone = .ok text ∧
        r.body = messageBody (.ofText text) ∧
        (∃ json, (Value.dict (MarkdownMessage.model.toMapping (.ofText text))).toJson = .ok json ∧
          r.body = String.ofList (json.write .compact)) ∧
        (∀ c ∈ r.body.toList, 0x20 ≤ c.toNat) ∧
        Json.read? r.body.toList =
          some (.object [("msgtype".toList, .text "markdown".toList),
            ("markdown".toList, .object [("content".toList, .text text.toList)])])) ∧
    ∀ t : String, ∃ json, Json.read? (messageBody (.ofText t)).toList = some json ∧
      ∃ d, MarkdownMessage.model.read (Value.ofJson json) = .ok d ∧
        d.value.markdown.content = t := by
  constructor
  · intro p now action r hr
    obtain ⟨raw, n, text, haction, hread, htext, hbody⟩ := Provider.exists_notice_of_request hr
    refine ⟨raw, n, text, haction, hread, htext, hbody, ?_, ?_, ?_⟩
    · exact ⟨_, toJson_toMapping_message (.ofText text), hbody⟩
    · rw [hbody]
      exact fun c hc => le_toNat_of_mem_messageBody hc
    · rw [hbody]
      exact read?_messageBody (.ofText text)
  · intro t
    exact ⟨_, read?_messageBody (.ofText t), _, read_ofJson_messageJson t, rfl⟩

/-- A group whose name consists of marks and control characters. -/
def markedGroup : String := "\"\\\n\x08\x1f\x7fé"

/-- The request about it carries its name. -/
theorem markedGroup_read_back :
    let p := stillProvider ⟨"https://h/a", none, []⟩ []
    let text := (bareNotice markedGroup).textAt "2024-03-02 00:30:05"
    ∃ r, (p.step .start (bareSend markedGroup)).2.requests = [r] ∧
      (∀ c ∈ r.body.toList, 0x20 ≤ c.toNat) ∧
      Json.read? r.body.toList =
        some (.object [("msgtype".toList, .text "markdown".toList),
          ("markdown".toList, .object [("content".toList, .text text.toList)])]) := by
  intro p text
  have hposts : p.Posts .start (bareSend markedGroup) (bareNotice markedGroup) text webhookUrl :=
    ⟨notice?_bareSend markedGroup, text_still _ _ _ _, requestUrl_webhookUrl, Or.inl rfl, rfl⟩
  have hlink : p.link = .scripted [] 0 := rfl
  have hstep := Provider.step_of_posts hlink hposts
  have hrequests : (p.step .start (bareSend markedGroup)).2.requests =
      [⟨webhookUrl.text, messageBody (.ofText text)⟩] := by
    rw [hstep]
  obtain ⟨raw, n, text', haction, hread, htext, -, -, hlegible, hbody⟩ :=
    bodies_read_back.1 p .start (bareSend markedGroup) _ (hrequests ▸ List.mem_singleton_self _)
  cases haction
  cases hread
  cases (text_still (bareNotice markedGroup) _ _ _).symm.trans htext
  exact ⟨_, hrequests, hlegible, hbody⟩

end Tocsin.Delivery

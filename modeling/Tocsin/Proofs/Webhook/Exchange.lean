import Tocsin.Proofs.Webhook.Target

/-!
# What exchanges come to

An exchange ends in one of three places: the text of the webhook is not accepted, the client is
closed, or a request is made and its reply is received.
-/

set_option autoImplicit false

namespace Tocsin.Webhook

open Tocsin.Outcome Tocsin.Text

/-! ## Requests -/

section

variable {jar : Jar} {webhook : String}

/-- Without a URL there is no request, whether the client is closed or not. -/
theorem exchange_of_fault {fault : Fault} (h : requestUrl jar webhook = .error fault) (link : Link)
    (sent : Nat) (isClosed : Bool) (body : String) :
    link.exchange sent isClosed jar webhook body = ⟨none, jar, .error fault⟩ := by
  unfold Link.exchange
  rw [h]

/-- A closed client makes no request. -/
theorem exchange_of_closed {u : Url} (h : requestUrl jar webhook = .ok u) (link : Link)
    (sent : Nat) (body : String) :
    link.exchange sent true jar webhook body = ⟨none, jar, .error .closed⟩ := by
  unfold Link.exchange
  rw [h]
  rfl

/-- An open client makes a request for a URL, and receives the next reply. -/
theorem exchange_of_open {u : Url} (h : requestUrl jar webhook = .ok u) (replies : List Reply)
    (arrival : Int) (sent : Nat) (body : String) :
    (Link.scripted replies arrival).exchange sent false jar webhook body =
      ⟨some ⟨u.text, body⟩, (receive arrival jar u (replyAt replies sent)).1,
        (receive arrival jar u (replyAt replies sent)).2⟩ := by
  unfold Link.exchange
  rw [h]
  rfl

/-- A request that is made goes to the URL that the text of the webhook stands for. -/
theorem exists_url_of_request {link : Link} {sent : Nat} {isClosed : Bool} {body : String}
    {r : Request} (h : (link.exchange sent isClosed jar webhook body).request = some r) :
    ∃ u, requestUrl jar webhook = .ok u ∧ r = ⟨u.text, body⟩ := by
  unfold Link.exchange at h
  split at h
  · cases h
  · next u hurl =>
      split at h
      · cases h
      · split at h
        · cases h
        · cases h
          exact ⟨u, hurl, rfl⟩

end

/-! ## Replies -/

/-- A body that is decompressed comes with the same status and the same headers. -/
theorem Response.eq_of_decompressed {raw r : Response} (h : raw.decompressed = .ok r) :
    ∃ body, r = { raw with body := body } := by
  obtain ⟨body, -, hr⟩ := map_eq_ok.mp h
  exact ⟨body, hr.symm⟩

/-- A response is accepted if its headers are in ASCII, its body can be decompressed, and cookies
can be looked up for the text of the request. -/
theorem accept_eq_ok_iff {u : Url} {raw r : Response} :
    accept u raw = .ok r ↔
      raw.notAscii? = none ∧ raw.decompressed = .ok r ∧ checkTyped u.chars = .ok () := by
  unfold accept
  cases hascii : raw.notAscii? with
  | some fault =>
      constructor
      · intro haccept
        cases haccept
      · rintro ⟨hnone, -⟩
        cases hnone
  | none =>
      constructor
      · intro haccept
        obtain ⟨w, hw, haccept⟩ := bind_eq_ok.mp haccept
        obtain ⟨_, htyped, haccept⟩ := bind_eq_ok.mp haccept
        cases haccept
        exact ⟨rfl, mapError_eq_ok.mp hw, htyped⟩
      · rintro ⟨-, hdecompressed, htyped⟩
        show (raw.decompressed.mapError Fault.coding >>= _) = _
        rw [hdecompressed]
        show (checkTyped u.chars >>= _) = _
        rw [htyped]
        rfl

/-- Of the replies to a request that can be made, only those to absolute URLs are accepted. -/
theorem Url.IsTarget.accept_eq_ok_iff {u : Url} (h : u.IsTarget) {raw r : Response} :
    accept u raw = .ok r ↔
      raw.notAscii? = none ∧ raw.decompressed = .ok r ∧ u.isAbsolute = true := by
  rw [Webhook.accept_eq_ok_iff, checkTyped_eq_ok_iff h]

/-- If the status of a response announces another place and its headers name it, then the request
for this place can be made by a client with cookies. -/
def Response.Leads (r : Response) (jar : Jar) (request : Url) : Prop :=
  r.isRedirect = true → ∀ place, r.header? "location" = some place →
    ∃ next, redirect request place = .ok next ∧ (jar = [] ∨ checkTyped next.chars = .ok ())

/-- The check of a response is whether it leads somewhere if it is to lead somewhere. -/
theorem checkRedirect_eq_ok_iff {jar : Jar} {request : Url} {r : Response} :
    checkRedirect jar request r = .ok () ↔ r.Leads jar request := by
  unfold checkRedirect Response.Leads
  cases hredirect : r.isRedirect with
  | false => simp [pure, Except.pure]
  | true =>
      cases hplace : r.header? "location" with
      | none => simp [pure, Except.pure]
      | some place =>
          constructor
          · rintro hcheck - _ ⟨⟩
            obtain ⟨next, hnext, hcheck⟩ := bind_eq_ok.mp hcheck
            refine ⟨next, hnext, ?_⟩
            cases jar with
            | nil => exact Or.inl rfl
            | cons cookie jar => exact Or.inr hcheck
          · intro hleads
            obtain ⟨next, hnext, htyped⟩ := hleads rfl place rfl
            show (redirect request place >>= _) = _
            rw [hnext]
            cases jar with
            | nil => rfl
            | cons cookie jar =>
                rcases htyped with hjar | htyped
                · cases hjar
                · exact htyped

/-- An error status announces no other place. -/
theorem Response.leads_of_error {r : Response} (h : 400 ≤ r.status) (jar : Jar) (request : Url) :
    r.Leads jar request := by
  intro hredirect
  have hmem : r.status ∈ [301, 302, 303, 307, 308] := by
    simpa [isRedirect] using hredirect
  simp only [List.mem_cons, List.not_mem_nil, or_false] at hmem
  omega

/-- The cookies that a response offers, taken up by a client. -/
def Response.jarAfter (r : Response) (now : Int) (jar : Jar) (request : Url) : Jar :=
  jar.receive now request r.offered

/-- A response that is not accepted offers no cookies. -/
theorem receive_of_fault {u : Url} {raw : Response} {fault : Fault}
    (h : accept u raw = .error fault) (now : Int) (jar : Jar) :
    receive now jar u (.response raw) = (jar, .error fault) := by
  simp only [receive, h]

/-- A response that is accepted offers its cookies, and is checked with them. -/
theorem receive_of_accepted {u : Url} {raw r : Response} (h : accept u raw = .ok r) (now : Int)
    (jar : Jar) :
    receive now jar u (.response raw) =
      (r.jarAfter now jar u, (checkRedirect (r.jarAfter now jar u) u r).map fun () => r) := by
  simp only [receive, h]
  rfl

/-- A response is received where a reply is one, is accepted, and leads somewhere if it is to. -/
theorem receive_eq_ok_iff {now : Int} {jar : Jar} {u : Url} {reply : Reply} {r : Response} :
    (receive now jar u reply).2 = .ok r ↔
      ∃ raw, reply = .response raw ∧ accept u raw = .ok r ∧
        r.Leads (r.jarAfter now jar u) u := by
  cases reply with
  | raised kind message =>
      constructor
      · intro h
        cases h
      · rintro ⟨raw, ⟨⟩, -⟩
  | response raw =>
      cases haccept : accept u raw with
      | error fault =>
          rw [receive_of_fault haccept]
          constructor
          · intro h
            cases h
          · rintro ⟨_, ⟨⟩, hr, -⟩
            rw [haccept] at hr
            cases hr
      | ok w =>
          rw [receive_of_accepted haccept]
          constructor
          · intro h
            obtain ⟨_, hcheck, rfl⟩ := map_eq_ok.mp h
            exact ⟨raw, rfl, haccept, checkRedirect_eq_ok_iff.mp hcheck⟩
          · rintro ⟨_, ⟨⟩, hr, hleads⟩
            rw [haccept] at hr
            cases hr
            exact map_eq_ok.mpr ⟨(), checkRedirect_eq_ok_iff.mpr hleads, rfl⟩

end Tocsin.Webhook

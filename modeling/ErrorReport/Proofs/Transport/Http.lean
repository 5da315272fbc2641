import ErrorReport.Proofs.Marshaller.Room
import ErrorReport.Transport.Http

/-!
# What sending over HTTP comes to

An event that cannot be written is never posted (`HttpTransport.send_of_error`).  One that can be
is, and then the reply decides.  `HttpTransport.meant` is what a status and a text are meant to come
to: a status from 200 to 299 is success, and any other is a refusal, which is settled if the server
explains it.

`HttpTransport.outcome` draws the line at 400 instead, so that a redirection nobody follows is
success, too.  And an explanation that is too long is none.  These are all the differences, by
`HttpTransport.outcome_eq_meant_iff`; `HttpTransport.send_spec` says what sending comes to in each
case.
-/

set_option autoImplicit false

namespace ErrorReport
namespace HttpTransport

/-! ## Replies -/

/-- What a status and a text are meant to come to, and the log. -/
def meant (e : Event) (status : Nat) (text : String) : Outcome × List LogRecord :=
  if 200 ≤ status ∧ status < 300 then (.done, [])
  else if Text.trim text = "" then (.failed (.serverStatus status), [])
  else (.done, [refusal e status (Text.trim text)])

/-- The text has an explanation, and not too long a one. -/
def IsExplained (text : String) : Prop :=
  Text.trim text ≠ "" ∧ text.utf8ByteSize ≤ longestText

theorem explanation_of_isExplained {text : String} (h : IsExplained text) :
    explanation text = Text.trim text :=
  if_neg (Nat.not_lt.2 h.2)

theorem explanation_eq_empty_iff {text : String} : explanation text = "" ↔ ¬IsExplained text := by
  unfold explanation IsExplained
  split <;> rename_i hlength
  · simp [Nat.not_le.2 hlength]
  · simp [Nat.not_lt.1 hlength]

variable {e : Event} {status : Nat} {text : String}

theorem outcome_of_lt (h : status < 400) : outcome e (.answered status text) = (.done, []) :=
  if_pos h

theorem outcome_of_isExplained (h : 400 ≤ status) (htext : IsExplained text) :
    outcome e (.answered status text) = (.done, [refusal e status (Text.trim text)]) := by
  have hne : ¬(Text.trim text).isEmpty := by simpa using htext.1
  rw [outcome, if_neg (Nat.not_lt.2 h), explanation_of_isExplained htext, if_neg hne]

theorem outcome_of_not_isExplained (h : 400 ≤ status) (htext : ¬IsExplained text) :
    outcome e (.answered status text) = (.failed (.serverStatus status), []) := by
  rw [outcome, if_neg (Nat.not_lt.2 h), explanation_eq_empty_iff.2 htext]
  rfl

/-- A reply comes to one of three things. -/
theorem outcome_cases (e : Event) (status : Nat) (text : String) :
    status < 400 ∧ outcome e (.answered status text) = (.done, []) ∨
      400 ≤ status ∧ IsExplained text ∧
        outcome e (.answered status text) = (.done, [refusal e status (Text.trim text)]) ∨
      400 ≤ status ∧ ¬IsExplained text ∧
        outcome e (.answered status text) = (.failed (.serverStatus status), []) := by
  rcases Nat.lt_or_ge status 400 with hlt | hle
  · exact .inl ⟨hlt, outcome_of_lt hlt⟩
  · by_cases htext : IsExplained text
    · exact .inr (.inl ⟨hle, htext, outcome_of_isExplained hle htext⟩)
    · exact .inr (.inr ⟨hle, htext, outcome_of_not_isExplained hle htext⟩)

theorem outcome_eq_done_iff :
    outcome e (.answered status text) = (.done, []) ↔ status < 400 := by
  rcases outcome_cases e status text with ⟨hlt, h⟩ | ⟨hle, -, h⟩ | ⟨hle, -, h⟩ <;> rw [h]
  · exact iff_of_true rfl hlt
  · exact iff_of_false (by simp) (by omega)
  · exact iff_of_false (by simp) (by omega)

theorem outcome_eq_refusal_iff :
    outcome e (.answered status text) = (.done, [refusal e status (Text.trim text)]) ↔
      400 ≤ status ∧ IsExplained text := by
  rcases outcome_cases e status text with ⟨hlt, h⟩ | ⟨hle, htext, h⟩ | ⟨hle, htext, h⟩ <;> rw [h]
  · exact iff_of_false (by simp) (by omega)
  · exact iff_of_true rfl ⟨hle, htext⟩
  · exact iff_of_false (by simp) fun hexplained => htext hexplained.2

theorem outcome_eq_serverStatus_iff :
    outcome e (.answered status text) = (.failed (.serverStatus status), []) ↔
      400 ≤ status ∧ ¬IsExplained text := by
  rcases outcome_cases e status text with ⟨hlt, h⟩ | ⟨hle, htext, h⟩ | ⟨hle, htext, h⟩ <;> rw [h]
  · exact iff_of_false (by simp) (by omega)
  · exact iff_of_false (by simp) fun hbare => hbare.2 htext
  · exact iff_of_true rfl ⟨hle, htext⟩

/-- **When a reply comes to what is meant.**  It does for success, and for a status from 400 on
unless there is an explanation and it is too long. -/
theorem outcome_eq_meant_iff :
    outcome e (.answered status text) = meant e status text ↔
      200 ≤ status ∧ status < 300 ∨
        400 ≤ status ∧ (Text.trim text = "" ∨ text.utf8ByteSize ≤ longestText) := by
  by_cases hsuccess : 200 ≤ status ∧ status < 300
  · rw [outcome_of_lt (by omega), meant, if_pos hsuccess]
    exact iff_of_true rfl (.inl hsuccess)
  · rw [meant, if_neg hsuccess, or_iff_right hsuccess]
    rcases outcome_cases e status text with ⟨hlt, h⟩ | ⟨hle, htext, h⟩ | ⟨hle, htext, h⟩ <;> rw [h]
    · refine iff_of_false ?_ (by omega)
      split <;> simp
    · rw [if_neg htext.1]
      exact iff_of_true rfl ⟨hle, .inr htext.2⟩
    · by_cases hblank : Text.trim text = ""
      · rw [if_pos hblank]
        exact iff_of_true rfl ⟨hle, .inl hblank⟩
      · have hlong : ¬text.utf8ByteSize ≤ longestText := fun hlength => htext ⟨hblank, hlength⟩
        rw [if_neg hblank]
        exact iff_of_false (by simp) (by simp [hblank, hlong])

/-! ## Sending -/

variable {t : HttpTransport} {now : Int}

theorem request?_of_error {cause : MarshalError} (h : t.marshaller.bytes? e = .error cause)
    (now : Int) : t.request? e now = .error (.serialization cause) := by
  rw [request?, h]

/-- An event that cannot be written is not sent, whatever the server. -/
theorem send_of_error {cause : MarshalError} (h : t.marshaller.bytes? e = .error cause) (now : Int)
    (server : HttpServer) :
    t.send server e now = (.failed (.serialization cause), t.marshaller.log e) := by
  rw [send, request?_of_error h]
  exact congrArg _ (List.append_nil _)

theorem request?_of_ok {body : List UInt8} (h : t.marshaller.bytes? e = .ok body) (now : Int) :
    t.request? e now = .ok ⟨t.storeUrl, Transport.clientName,
      Transport.authLine t.publicKey t.secretKey now, t.marshaller.contentType, body⟩ := by
  rw [request?, h]

theorem send_of_ok {post : HttpPost} (h : t.request? e now = .ok post) (server : HttpServer) :
    t.send server e now = ((outcome e (post.exchange server)).1,
      t.marshaller.log e ++ (outcome e (post.exchange server)).2) := by
  rw [send, h]

/-- What sending an event that can be written comes to is up to the reply, and so is what the log
has after the marshaller's part. -/
theorem send_eq_iff {post : HttpPost} (h : t.request? e now = .ok post) {server : HttpServer}
    {reply : HttpReply} (hreply : post.exchange server = reply) {result : Outcome}
    {log : List LogRecord} :
    t.send server e now = (result, t.marshaller.log e ++ log) ↔
      outcome e reply = (result, log) := by
  rw [send_of_ok h, hreply, Prod.mk.injEq, List.append_cancel_left_eq, Prod.ext_iff]

/-- **What sending comes to.**  An event that cannot be written fails without a request.  Any other
is posted; without an answer that is a failure of the network.  With one it is success, without a
record, exactly if the status is below 400.  From 400 on there is one record with the identifier,
the status and the explanation, if there is one that is not too long, and else an error with the
status.  This is what is meant for a status of success, and from 400 on unless the explanation is
too long, and for no other reply. -/
theorem send_spec (t : HttpTransport) (e : Event) (now : Int) :
    (∀ cause, t.marshaller.bytes? e = .error cause →
      t.request? e now = .error (.serialization cause) ∧
      ∀ server, t.send server e now = (.failed (.serialization cause), t.marshaller.log e)) ∧
    ∀ body, t.marshaller.bytes? e = .ok body →
      ∃ post, t.request? e now = .ok post ∧ post.body = body ∧ ∀ server,
        (∀ reason, post.exchange server = .failed reason →
          t.send server e now = (.failed (.io reason), t.marshaller.log e)) ∧
        ∀ status text, post.exchange server = .answered status text →
          (t.send server e now = (.done, t.marshaller.log e) ↔ status < 400) ∧
          (t.send server e now =
              (.done, t.marshaller.log e ++ [refusal e status (Text.trim text)]) ↔
            400 ≤ status ∧ IsExplained text) ∧
          (t.send server e now = (.failed (.serverStatus status), t.marshaller.log e) ↔
            400 ≤ status ∧ ¬IsExplained text) ∧
          (t.send server e now =
              ((meant e status text).1, t.marshaller.log e ++ (meant e status text).2) ↔
            200 ≤ status ∧ status < 300 ∨
              400 ≤ status ∧ (Text.trim text = "" ∨ text.utf8ByteSize ≤ longestText)) := by
  refine ⟨fun cause h => ⟨request?_of_error h now, send_of_error h now⟩, fun body h => ?_⟩
  have hpost := request?_of_ok h now
  refine ⟨_, hpost, rfl, fun server => ⟨fun reason hreply => ?_, fun status text hreply => ?_⟩⟩
  · rw [send_of_ok hpost, hreply]
    exact congrArg _ (List.append_nil _)
  · have hsilent {result : Outcome} : t.send server e now = (result, t.marshaller.log e) ↔
        outcome e (.answered status text) = (result, []) := by
      rw [← send_eq_iff hpost hreply, List.append_nil]
    exact ⟨hsilent.trans outcome_eq_done_iff,
      (send_eq_iff hpost hreply).trans outcome_eq_refusal_iff,
      hsilent.trans outcome_eq_serverStatus_iff,
      (send_eq_iff hpost hreply).trans outcome_eq_meant_iff⟩

/-- A transport that writes the sample event. -/
def httpSample : HttpTransport where
  storeUrl := "http://127.0.0.1:8080/api/1/store/"
  publicKey := "public"
  secretKey := "secret"
  marshaller := Marshaller.sampleMarshaller
  config := {}

/-- Its request can be sent. -/
theorem exchange_sample {post : HttpPost} {body : List UInt8}
    (hbody : httpSample.marshaller.bytes? Marshaller.sampleEvent = .ok body)
    (hpost : httpSample.request? Marshaller.sampleEvent 42 = .ok post) (server : HttpServer) :
    post.exchange server = server post := by
  cases hpost.symm.trans (request?_of_ok hbody 42)
  -- the body does not matter
  have hempty : HttpPost.isSendable ⟨httpSample.storeUrl, Transport.clientName,
      Transport.authLine httpSample.publicKey httpSample.secretKey 42,
      httpSample.marshaller.contentType, []⟩ = true := by decide +kernel
  exact if_pos hempty

theorem send_spec_refused :
    (∃ body, httpSample.marshaller.bytes? Marshaller.sampleEvent = .ok body) ∧
      httpSample.send (fun _ => .answered 403 " project disabled\n") Marshaller.sampleEvent 42 =
        (.done, httpSample.marshaller.log Marshaller.sampleEvent ++
          [refusal Marshaller.sampleEvent 403 "project disabled"]) := by
  obtain ⟨body, hbody⟩ := Marshaller.exists_bytes Marshaller.isAccepted_sample
  obtain ⟨post, hpost, -, hserver⟩ := (send_spec httpSample Marshaller.sampleEvent 42).2 body hbody
  have hreply := exchange_sample hbody hpost fun _ => .answered 403 " project disabled\n"
  obtain ⟨-, hrefused, -⟩ := (hserver _).2 403 " project disabled\n" hreply
  have htrim : Text.trim " project disabled\n" = "project disabled" := by decide
  rw [htrim] at hrefused
  exact ⟨⟨body, hbody⟩, hrefused.2 ⟨by decide, by decide, by decide⟩⟩

/-- **A redirection that leads nowhere is taken for success.** -/
theorem send_redirected :
    httpSample.send (fun _ => .answered 302 "") Marshaller.sampleEvent 42 =
        (.done, httpSample.marshaller.log Marshaller.sampleEvent) ∧
      meant Marshaller.sampleEvent 302 "" = (.failed (.serverStatus 302), []) := by
  obtain ⟨body, hbody⟩ := Marshaller.exists_bytes Marshaller.isAccepted_sample
  have hpost := request?_of_ok (t := httpSample) hbody 42
  refine ⟨?_, by decide⟩
  rw [send_of_ok hpost, exchange_sample hbody hpost]
  exact congrArg _ (List.append_nil _)

end HttpTransport
end ErrorReport

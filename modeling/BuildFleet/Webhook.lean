import BuildFleet.Digest.Signature
import BuildFleet.Failure
import BuildFleet.Http.Client
import BuildFleet.Job.Event
import BuildFleet.Json.Writer

/-!
# Webhooks

A webhook tells a front-end about events, one request per event. With a secret
the front-end can check where the event comes from: the content is signed.
-/

namespace BuildFleet

structure Webhook where
  url : Url
  secret : Option String
deriving DecidableEq

namespace Webhook

/-- The event as it is sent, its members in the order of the record. -/
def content (event : JobEvent) : String := event.toJson.compact

/-- The request that tells about an event. -/
def request (webhook : Webhook) (event : JobEvent) : ClientRequest :=
  let body := content event
  let signature := webhook.secret.map fun secret =>
    ("X-Buildit-Signature", Signature.sign secret body.toUTF8.toList)
  { method := "POST", url := webhook.url
    headers := ("content-type", "application/json") :: signature.toList
    content := body }

def unavailable (webhook : Webhook) (problem : String) : Except Failure Unit :=
  .error (.unavailable (webhook.url.text ++ problem))

/-- Whether the front-end has taken the event, by what became of the request. -/
def accepted (webhook : Webhook) (request : ClientRequest) : Exchange → Except Failure Unit
  | .unanswered => webhook.unavailable (": " ++ request.unansweredText)
  | .answered status _ =>
    if Http.isSuccess status then .ok ()
    else webhook.unavailable (" answered " ++ Http.statusText status)

/-- Tell a front-end about an event, over a transport that carries requests. -/
def deliver (webhook : Webhook) (transport : ClientRequest → Exchange) (event : JobEvent) :
    Except Failure Unit :=
  let request := webhook.request event
  match request.refusal? with
  | some problem => webhook.unavailable (": " ++ problem)
  | none => webhook.accepted request (transport request)

end Webhook

end BuildFleet

import DocScribe.Chat.Url
import DocScribe.Documentation.Document
import DocScribe.Json.Reader
import DocScribe.Json.Writer

/-!
# Chat completions

A client of a chat service. It sends the prompt as one message of the user, after the system message
if there is one, and answers with the text of the first choice. The service is a function from
requests to responses, so an exchange can be told in full: the request that was sent, if it got that
far, and the reply.
-/

namespace DocScribe.Chat

/-- What a client is set up with. -/
structure Settings where
  apiKey : Text
  model : Text
  /-- The address of the service; empty for the usual one. -/
  baseUrl : Text := []
  /-- The message that sets the role of the service; empty for none. -/
  system : Text := []
  temperature : Option Number.Binary64 := none
  /-- The most tokens in a reply; not sent unless positive. -/
  maxTokens : Int := 0

/-- The address of the usual service. -/
def defaultUrl : Text := "https://api.openai.com/v1/chat/completions"

/-- How long a response is waited for unless something else is asked for, in nanoseconds. -/
def defaultTimeLimit : Int := 120000000000

/-- A request to the service. -/
structure Request where
  method : Text
  url : Text
  headers : List (Text × Text)
  body : Text
deriving DecidableEq, Repr

/-- A response of the service. -/
structure Response where
  status : Int
  body : Text
  /-- Why the body could not be read to its end. -/
  broken : Option Text := none
deriving DecidableEq, Repr

/-- The way to the service; an error is the reason why there is no response. -/
abbrev Transport := Request → Except Text Response

/-- A fault of the client. -/
def clientFault (parts : List Fault) : Fault :=
  .compound ": " (.plain "openai" :: parts)

/-- Settings that a client can work with. -/
def Settings.check (s : Settings) : Except Fault Unit :=
  if s.apiKey.isEmpty then
    .error (clientFault [.plain "API key is missing", .marked .notConfigured])
  else if s.model.isEmpty then
    .error (clientFault [.plain "model is missing", .marked .notConfigured])
  else .ok ()

/-- A client: its settings and how long it waits for a response. -/
structure Client where
  settings : Settings
  /-- The time limit of a request in nanoseconds. -/
  timeLimit : Int

/-- The client with these settings and a time limit in nanoseconds; the default one unless it is
positive. -/
def Settings.client (s : Settings) (timeLimit : Int) : Except Fault Client :=
  match s.check with
  | .error f => .error f
  | .ok _ =>
    .ok { settings := s, timeLimit := if timeLimit ≤ 0 then defaultTimeLimit else timeLimit }

/-! ## Requests -/

/-- One message of a conversation. -/
def messageJson (role content : Text) : Json :=
  .object [("role", .string role), ("content", .string content)]

/-- The body of a request. -/
def Settings.body (s : Settings) (prompt : Text) : Json :=
  let system := if s.system.isEmpty then [] else [messageJson "system" s.system]
  let temperature : List (Text × Json) :=
    match s.temperature with
    | some x => [("temperature", .float x)]
    | none => []
  let tokens : List (Text × Json) :=
    if 0 < s.maxTokens then [("max_completion_tokens", .int s.maxTokens)] else []
  .object ([(("model" : Text), Json.string s.model),
    ("messages", .array (system ++ [messageJson "user" prompt]))] ++ temperature ++ tokens)

/-- The text of a temperature that cannot be sent. -/
def Settings.unsendable? (s : Settings) : Option Text :=
  match s.temperature with
  | some (.finite ..) => none
  | some x => some (x.render .general)
  | none => none

/-- The address that requests go to. -/
def Settings.url? (s : Settings) : Option Url :=
  (Url.read? (if s.baseUrl.isEmpty then defaultUrl else s.baseUrl)).map
    fun url => { url with host := dropEmptyTail url.host }

/-- The request for a prompt and the address it goes to. -/
def Settings.request (s : Settings) (prompt : Text) : Except Fault (Url × Request) :=
  match s.unsendable?, s.url? with
  | some text, _ =>
    .error (clientFault
      [.plain "marshaling request", .plain "json", .plain "unsupported value", .plain text])
  | none, none => .error (clientFault [.plain "creating HTTP request", .plain "malformed address"])
  | none, some url =>
    .ok (url,
      { method := "POST"
        url := url.text
        headers :=
          [("Content-Type", "application/json"), ("Authorization", ("Bearer " : Text) ++ s.apiKey)]
        body := Json.compact .document (s.body prompt) })

/-! ## Responses -/

/-- The first choice of a response, as far as it matters. -/
structure Choice where
  content : Text := []
  finishReason : Text := []
deriving DecidableEq, Repr, Inhabited

/-- An error that the service reports. -/
structure ServiceError where
  type : Text := []
  message : Text := []
deriving DecidableEq, Repr, Inhabited

/-- What a response body says. -/
structure Completion where
  choices : List Choice := []
  error : Option ServiceError := none
deriving DecidableEq, Repr, Inhabited

/-- Updates a record by the members of an object in order; `null` changes nothing, and any other
value is refused. -/
def updateBy {α : Type} (update : α → Text → Json → Option α) (start : α) : Json → Option α
  | .null => some start
  | .object members => members.foldlM (fun a m => update a (Json.foldName m.1) m.2) start
  | _ => none

/-- A string, or the old one for `null`. -/
def updateString (old : Text) : Json → Option Text
  | .null => some old
  | .string s => some s
  | _ => none

/-- Whether a value is an integer of 64 bits or `null`. -/
def isIntOrNull : Json → Bool
  | .null => true
  | v => v.int?.isSome

namespace Choice

/-- Updates a choice by a member of its message. -/
def updateMessage (c : Choice) (name : Text) (v : Json) : Option Choice :=
  if name == ("content" : Text) then (updateString c.content v).map fun s => { c with content := s }
  else if name == ("role" : Text) then (updateString [] v).map fun _ => c
  else some c

/-- Updates a choice by one of its members. -/
def update (c : Choice) (name : Text) (v : Json) : Option Choice :=
  if name == ("message" : Text) then updateBy updateMessage c v
  else if name == ("finish_reason" : Text) then
    (updateString c.finishReason v).map fun s => { c with finishReason := s }
  else if name == ("index" : Text) then if isIntOrNull v then some c else none
  else some c

end Choice

/-- Updates an error by one of its members. -/
def ServiceError.update (e : ServiceError) (name : Text) (v : Json) : Option ServiceError :=
  if name == ("type" : Text) then (updateString e.type v).map fun s => { e with type := s }
  else if name == ("message" : Text) then
    (updateString e.message v).map fun s => { e with message := s }
  else some e

namespace Completion

/-- Updates choices by the items of an array. An item is laid over the choice in its place. -/
def updateChoices : (old : List Choice) → (items : List Json) → Option (List Choice)
  | _, [] => some []
  | old, item :: items => do
    let choice ← updateBy Choice.update (old.head?.getD {}) item
    return choice :: (← updateChoices old.tail items)

/-- Updates a completion by one of its members. -/
def update (c : Completion) (name : Text) (v : Json) : Option Completion :=
  if name == ("id" : Text) then (updateString [] v).map fun _ => c
  else if name == ("choices" : Text) then
    match v with
    | .null => some { c with choices := [] }
    | .array items => (updateChoices c.choices items).map fun choices => { c with choices }
    | _ => none
  else if name == ("error" : Text) then
    match v with
    | .null => some { c with error := none }
    | _ =>
      (updateBy ServiceError.update (c.error.getD {}) v).map fun e => { c with error := some e }
  else some c

/-- Reads a response body. Names match in any case and unknown ones are skipped; a value of the
wrong type makes the whole body unreadable. -/
def read? (body : Text) : Option Completion :=
  (Json.read? body).bind (updateBy update {})

end Completion

/-! ## Exchanges -/

/-- A text cut after `size` bytes, with dots where something was cut off. -/
def abridged (size : Nat) (s : Text) : Text :=
  if s.length ≤ size then s else s.take size ++ ("..." : Text)

/-- A fault of generation with its reason. -/
def failedBecause (what reason : Text) : Fault :=
  clientFault [.plain what, .marked .generationFailed, .plain reason]

/-- A fault of generation. -/
def failed (what : Text) : Fault :=
  clientFault [.plain what, .marked .generationFailed]

/-- The event before a request is sent. -/
def sentEvent (s : Settings) (prompt : Text) : Log.Event :=
  .debug "Sending chat completion request"
    [("model", .string s.model), ("prompt_len", .int prompt.length)]

/-- The event after a completion is received. An exchange takes no time that is told. -/
def receivedEvent (choice : Choice) (text : Text) : Log.Event :=
  .debug "Received chat completion"
    [("finish_reason", .string choice.finishReason), ("response_len", .int text.length),
     ("duration_ms", .int 0)]

/-- The reply that a completion gives. -/
def Completion.reply (c : Completion) : Documentation.Reply :=
  match c.error, c.choices with
  | some e, _ =>
    { outcome := .error (failed (("API error: " : Text) ++ e.type ++ (" - " : Text) ++ e.message)) }
  | none, [] => { outcome := .error (failed "returned no choices") }
  | none, choice :: _ =>
    let text : Text := choice.content.trim
    { outcome := if text.isEmpty then .error (failed "empty response") else .ok text
      events := [receivedEvent choice text] }

/-- The reply that a response gives. -/
def Response.reply (r : Response) : Documentation.Reply :=
  match r.broken with
  | some reason => { outcome := .error (failedBecause "reading response body" reason) }
  | none =>
    if r.status != 200 then
      { outcome := .error (clientFault
          [.plain (("API returned status " : Text) ++ Number.signed r.status),
           .plain (abridged 200 r.body), .marked .generationFailed]) }
    else
      match Completion.read? r.body with
      | none => { outcome := .error (failedBecause "parsing response JSON" "malformed body") }
      | some completion => completion.reply

/-- A request that was sent, if any, and the reply. -/
structure Exchange where
  sent : Option Request := none
  reply : Documentation.Reply

/-- Asks the service for a text. -/
def Settings.exchange (s : Settings) (transport : Transport) (prompt : Text) : Exchange :=
  match s.request prompt with
  | .error f => { reply := { outcome := .error f } }
  | .ok (url, request) =>
    let reply : Documentation.Reply :=
      match transport request with
      | .error reason =>
        { outcome := .error (failedBecause "HTTP request failed"
            (("Post " : Text) ++ url.maskedText.quoted ++ (": " : Text) ++ reason)) }
      | .ok response => response.reply
    { sent := some request, reply := { reply with events := sentEvent s prompt :: reply.events } }

/-- The generator that asks the service. -/
def Settings.generator (s : Settings) (transport : Transport) : Documentation.Generator :=
  fun prompt => (s.exchange transport prompt).reply

end DocScribe.Chat

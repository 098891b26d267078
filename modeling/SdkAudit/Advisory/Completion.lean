import SdkAudit.Advisory.Exchange
import SdkAudit.Json
import SdkAudit.Json.Reader
import SdkAudit.Settings

/-!
# Advisors behind an endpoint

An endpoint is asked by a request that names the model and holds the two parts of the prompt, and
answers with a list of choices, of which the first one counts.

* `CompletionRequest`: what is sent;
* `CompletionResponse`: what comes back, and `CompletionResponse.answer`, what it says.
-/

namespace SdkAudit

/-- What is sent to an endpoint. -/
structure CompletionRequest where
  endpoint : String
  authorization : String
  contentType : String
  userAgent : String
  body : Json
deriving Repr

namespace CompletionRequest

/-- The tool and its version, as an endpoint is told. -/
def toolAgent : String := toolName ++ "/" ++ toolVersion

def message (role content : String) : Json :=
  .object [("role", .string role), ("content", .string content)]

/-- The request that puts a prompt to the model of some settings. -/
def ofPrompt (settings : AdvisorySettings) (key : String) (prompt : Prompt) :
    CompletionRequest where
  endpoint := settings.endpoint
  authorization := "Bearer " ++ key
  contentType := "application/json"
  userAgent := toolAgent
  body := .object [("model", .string settings.model),
    ("messages", .array [message "system" prompt.system, message "user" prompt.user])]

end CompletionRequest

/-- What comes back from an endpoint. -/
inductive CompletionResponse where
  | reply (status : Nat) (body : String)
  /-- Nothing, in the time that was given. -/
  | silence
  /-- Nothing, since the endpoint could not be reached. -/
  | unreachable (reason : String)
deriving DecidableEq, Repr

namespace CompletionResponse

def readMessage : JsonReader (Option String) :=
  JsonReader.readRecord
    ⟨"Message", "content", some none, JsonReader.readOptional JsonReader.readText⟩

def readChoice : JsonReader (Option String) :=
  JsonReader.readRecord ⟨"Choice", "message", none, readMessage⟩

def readChoices : JsonReader (List (Option String)) :=
  JsonReader.readRecord ⟨"CompletionResponse", "choices", some [], JsonReader.readList readChoice⟩

def isSuccess (status : Nat) : Bool := 200 ≤ status && status ≤ 299

/-- Whether a reply with a status has no body, whatever is sent. -/
def isBodiless (status : Nat) : Bool := status = 204 || status = 304

/-- The text of a body, without the mark of the byte order. -/
def bodyText (body : String) : String :=
  match body.toList with
  | '\uFEFF' :: rest => String.ofList rest
  | _ => body

/-- What a response says: the content of its first choice, which is blank if there is none. -/
def answer : CompletionResponse → Except AdvisorError String
  | silence => .error .timeout
  | unreachable reason => .error (.network reason)
  | reply status body =>
    let body := if isBodiless status then "" else body
    if isSuccess status then
      match readChoices.readAll body with
      | .ok choices => .ok (choices.head?.join.getD "")
      | .error e => .error (.malformed ("error decoding response body: " ++ e.message))
    else .error (.status status (bodyText body))

end CompletionResponse

def Advisor.ofEndpoint (send : CompletionRequest → CompletionResponse) (settings : AdvisorySettings)
    (key : String) : Advisor :=
  fun prompt => (send (CompletionRequest.ofPrompt settings key prompt)).answer

end SdkAudit

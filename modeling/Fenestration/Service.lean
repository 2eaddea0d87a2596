import Fenestration.Answer
import Fenestration.Project.Loading
import Fenestration.Service.Model
import Fenestration.Service.Route
import Fenestration.Service.Transfer
import Fenestration.Text.LetterCase

/-!
# The quoting service

The service answers an exchange of method, path and JSON body.  A body is first read as a
`QuoteRequest`, which checks its shape and leaves the single values as they are; then the project
is loaded from it.  What is answered is read through the model of its product before it is sent, and
the service fails where it cannot be sent.  The service holds nothing between exchanges.

The body is the value that was written: infinities and nan are numbers of it, written as such or as
a number that is too large.  Its texts are of characters.  Bodies with a surrogate that stands alone
are left out here, and so is what cannot be read as a value at all.
-/

namespace Fenestration

namespace Service

open Json (Fields fieldOf fieldOr)

/-! ## Exchanges -/

structure Exchange where
  method : String
  path : String
  body : Option Json

structure Response where
  status : Nat
  body : Json

/-! ## Bodies -/

structure OpeningRequest where
  style : Json
  width : Json
  height : Json

-- A room in a body; its openings may be left out.
structure RoomRequest where
  name : Json
  openings : Option (List OpeningRequest)

/-- A body of the right shape. -/
structure QuoteRequest where
  quoteName : Json
  existingFrame : Json
  glazingType : Json
  installationCosts : Json
  frameColour : Json
  rooms : Option (List RoomRequest)

-- A problem and the value that has it.
structure BodyProblem where
  problem : Problem
  input : Json

abbrev Reading (β : Type) := Gathered BodyProblem β

def Reading.under {β : Type} (step : Step) (reading : Reading β) : Reading β :=
  reading.mapError fun problems => problems.map fun p => { p with problem := p.problem.under step }

def problemWith {β : Type} (fault : Fault) (input : Json) : Reading β :=
  .error [⟨⟨[], fault⟩, input⟩]

-- Reads a list that may be left out.
def readItems {β : Type} (read : Json → Reading β) : Json → Reading (Option (List β))
  | .null => .ok none
  | .list values =>
      (Gathered.collect (values.mapIdx fun i value => (read value).under (.item i))).map some
  | value => problemWith .notList value

def readOpening : Json → Reading OpeningRequest
  | .object fields =>
      .ok ⟨fieldOr fields "style" (.text ""), fieldOf fields "width", fieldOf fields "height"⟩
  | value => problemWith .notObject value

def readRoom : Json → Reading RoomRequest
  | .object fields =>
      ((readItems readOpening (fieldOf fields "windows")).under (.field "windows")).map
        fun openings => ⟨fieldOr fields "name" (.text ""), openings⟩
  | value => problemWith .notObject value

def readRequest : Json → Reading QuoteRequest
  | .null => problemWith .missing .null
  | .object fields =>
      ((readItems readRoom (fieldOf fields "rooms")).under (.field "rooms")).map fun rooms =>
        { quoteName := fieldOf fields "quoteName"
          existingFrame := fieldOf fields "existingFrame"
          glazingType := fieldOf fields "glazingType"
          installationCosts := fieldOf fields "installationCosts"
          frameColour := fieldOf fields "frameColor"
          rooms := rooms }
  | value => problemWith .notObject value

-- Reads a body; a body that is left out is as good as null.
def readBody (body : Option Json) : Reading QuoteRequest :=
  (readRequest (body.getD .null)).under (.field "body")

/-! ## Requests as fields -/

def listField {β : Type} (toJson : β → Json) : Option (List β) → Json
  | none => .null
  | some values => .list (values.map toJson)

def OpeningRequest.toJson (opening : OpeningRequest) : Json :=
  .object [("style", opening.style), ("width", opening.width), ("height", opening.height)]

def RoomRequest.toJson (room : RoomRequest) : Json :=
  .object [("name", room.name), ("windows", listField OpeningRequest.toJson room.openings)]

def QuoteRequest.fields (request : QuoteRequest) : Fields :=
  [("quoteName", request.quoteName), ("existingFrame", request.existingFrame),
    ("glazingType", request.glazingType), ("installationCosts", request.installationCosts),
    ("frameColor", request.frameColour), ("rooms", listField RoomRequest.toJson request.rooms)]

/-! ## Answers -/

-- A failure of the service itself; it is answered with a plain text.
def internalError : Response :=
  ⟨500, .text "Internal Server Error"⟩

-- Writes an answer.  No number without a literal can be written.
def respond (status : Nat) (body : Json) : Response :=
  if isSendable body then ⟨status, body⟩ else internalError

def succeed (body : Json) : Response :=
  respond 200 (finiteJson body)

def fail (status : Nat) (detail : String) : Response :=
  respond status (.object [("detail", .text detail)])

/-- Answers a body with its problems, each with the value that has it. -/
def rejectBody (problems : List BodyProblem) : Response :=
  respond 422 (.object [("detail", .list (problems.map fun p =>
    p.problem.toJson [("input", shownJson p.input)]))])

def productJson (pricing : Pricing Binary64) (project : Project Binary64) :
    Product → Except Refusal Json
  | .calculate => .ok (project.estimate pricing).toJson
  | .production =>
      .ok (.object [("openings", workOrderJson (project.workOrder pricing.timberDeduction))])
  | .document name => (project.namedDocument pricing name).map Document.toJson

def Product.model : Product → Model
  | .calculate => .breakdown
  | .production => .productionPlan
  | .document _ => .document

-- The answer when a product cannot be made.  Whatever stands in the way of a document, its name
-- gets the blame.
def Product.refusal : Product → Response
  | .document _ => fail 400 "Invalid document type"
  | _ => internalError

-- Sends what its model keeps of a value; the service fails where that is nothing.
def send (model : Model) (value : Json) : Response :=
  match model value with
  | some kept => succeed kept
  | none => internalError

def answerBody (pricing : Pricing Binary64) (body : Option Json) (product : Product) : Response :=
  match readBody body with
  | .error problems => rejectBody problems
  | .ok request =>
      match ((Project.load request.fields).asForm .project).bind
          fun project => productJson pricing project product with
      | .ok value => send product.model value
      | .error _ => product.refusal

def healthJson : Json :=
  .object [("status", .text "ok"), ("app", .text Settings.standard.appName)]

/-- The answer to an exchange, under the pricing of the standard settings. -/
def answer (exchange : Exchange) : Response :=
  match route? exchange.path with
  | none => fail 404 "Not Found"
  | some route =>
      if exchange.method.toList.flatMap Text.upperCase ≠ route.method.toList then
        fail 405 "Method Not Allowed"
      else
        match route with
        | .health => succeed healthJson
        | .product product => answerBody (.ofSettings .standard) exchange.body product

/-- Asks the service.  A body with a number that has no literal cannot be sent, and a reference to
another host has to have a scheme that is spoken. -/
def ask (exchange : Exchange) : Except Refusal Response :=
  if !exchange.body.all isSendable then .error .unsendableNumber
  else
    match (Reference.ofText exchange.path).unknownScheme? with
    | some scheme => .error (.unknownScheme scheme)
    | none => .ok (answer exchange)

end Service

end Fenestration

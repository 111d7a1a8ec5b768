import Storefront.Json.Printer
import Storefront.Service.Body
import Storefront.Service.MediaType
import Storefront.Service.Uri

/-!
The service over HTTP: which path and method lead to which operation, and what is answered.

A fixed segment of a path goes before a parameter, and a path that leads to a route without the
method asked for goes nowhere else.
-/
namespace Storefront

structure Request where
  method : String
  address : String
  contentType : Option String
  body : String
deriving Repr

structure Response where
  status : Nat
  body : String
deriving DecidableEq, Repr

/-- Where a path leads. Parameters are segments as they stand in the path; none of them is empty at
the end of a path. -/
inductive Route where
  | root
  | health
  | projectionSearch (project : List Char)
  | productSearch (project : List Char)
  | resource (project resource : List Char)
  | document (project resource id : List Char)
deriving DecidableEq, Repr

namespace Route

def ofSegments? : List (List Char) → Option Route
  | [[]] => some root
  | [segment] => if segment = "health".toList then some health else none
  | [project, name] => if name = [] then none else some (resource project name)
  | [project, name, last] =>
    if last = [] then none
    else if name = "product-projections".toList ∧ last = "search".toList then
      some (projectionSearch project)
    else if name = "products".toList ∧ last = "search".toList then some (productSearch project)
    else some (document project name last)
  | _ => none

def methods : Route → List String
  | root => ["GET"]
  | health => ["GET"]
  | projectionSearch _ => ["GET"]
  | productSearch _ => ["POST"]
  | resource _ _ => ["GET", "POST"]
  | document _ _ _ => ["GET", "POST", "DELETE"]

def parameters : Route → List (String × List Char)
  | root => []
  | health => []
  | projectionSearch project => [("project", project)]
  | productSearch project => [("project", project)]
  | resource project name => [("project", project), ("resource", name)]
  | document project name id => [("project", project), ("resource", name), ("id", id)]

/-- The values of some parameters, or the name of the first one that has none. -/
def decode : List (String × List Char) → Except String (List String)
  | [] => .ok []
  | (name, segment) :: rest =>
    match Uri.decodeSegment? segment with
    | none => .error name
    | some value => (decode rest).map (value :: ·)

end Route

namespace Response

def empty (status : Nat) : Response := ⟨status, ""⟩

def json (status : Nat) (value : Json) : Response := ⟨status, value.render⟩

def ofFailure (failure : Failure) : Response := json failure.status failure.toJson

/-- The answer to an operation that succeeds with `status`. -/
def ofResult (status : Nat) : Except Failure Json → Response
  | .ok value => json status value
  | .error failure => ofFailure failure

def ofPage (result : Except Failure Page) : Response :=
  ofResult 200 (result.map Page.toJson)

end Response

namespace Service

def greeting : String := "Shelf Commerce API Test Double"

def version : String := "0.1.0"

def health (service : Service) : Json :=
  .ofMembers [("status", .string "ok"), ("version", .string version),
    ("projects", .ofNat service.store.tenantNames.length),
    ("strictReferences", .bool service.store.settings.strictReferences)]

/-- The most bytes that a body may have. -/
def bodyLimit : Nat := 2 * 1024 * 1024

/-- The body of a request, which has to be declared as JSON, to be short enough and to have some
form; of several faults the first of these counts. -/
def readBody {α : Type} (request : Request) (read : Reading → Body.Read α) : Except Failure α :=
  if (request.contentType.map MediaType.isJson).getD false then
    if request.body.utf8ByteSize ≤ bodyLimit then
      match Body.ofText read request.body with
      | .ok value => .ok value
      | .error fault => .error (.body fault)
    else .error (.body .tooLong)
  else .error (.body .contentType)

/-- Answers a request that has a route and a method of it, given the values of the parameters. -/
def dispatch (around : Circumstances) (service : Service) (request : Request)
    (parameters : Parameters) (route : Route) (values : List String) : Response × Service :=
  match route, values, request.method with
  | .root, _, _ => (⟨200, greeting⟩, service)
  | .health, _, _ => (.json 200 service.health, service)
  | .projectionSearch _, [project], _ =>
    (.ofPage (service.searchProjections project parameters), service)
  | .productSearch _, [project], _ =>
    (.ofPage (do service.searchProducts project (← readBody request Body.productSearch)), service)
  | .resource _ _, [project, resource], "POST" =>
    match readBody request Body.json with
    | .error failure => (.ofFailure failure, service)
    | .ok draft =>
      let (result, after) := service.create around project resource draft
      (.ofResult 201 result, after)
  | .resource _ _, [project, resource], _ =>
    let (result, after) := service.query project resource parameters
    (.ofPage result, after)
  | .document _ _ _, [project, resource, id], "POST" =>
    match readBody request Body.updateRequest with
    | .error failure => (.ofFailure failure, service)
    | .ok update =>
      let (result, after) := service.update around project resource id update
      (.ofResult 200 result, after)
  | .document _ _ _, [project, resource, id], "DELETE" =>
    let (result, after) := service.delete project resource id parameters
    (.ofResult 200 result, after)
  | .document _ _ _, [project, resource, id], _ =>
    (.ofResult 200 (service.get project resource id parameters), service)
  | _, _, _ => (.empty 404, service)

/-- Answers a request whose method is its own, not one answered on behalf of another. -/
def answer (around : Circumstances) (service : Service) (request : Request) :
    Response × Service :=
  let (path, query) := Uri.parts request.address.toList
  match Route.ofSegments? (Uri.segments path) with
  | none => (.empty 404, service)
  | some route =>
    if request.method ∈ route.methods then
      match Route.decode route.parameters with
      | .error name => (⟨400, s!"Invalid URL: Invalid UTF-8 in `{name}`"⟩, service)
      | .ok values => service.dispatch around request (Uri.decodeQuery query) route values
    else (.empty 405, service)

/-- Answers a request. `HEAD` is `GET` without the body of the answer, and `OPTIONS` is answered
for every path. -/
def respond (around : Circumstances) (service : Service) (request : Request) :
    Response × Service :=
  match request.method with
  | "OPTIONS" => (.empty 200, service)
  | "HEAD" =>
    let (response, after) := service.answer around { request with method := "GET" }
    (.empty response.status, after)
  | _ => service.answer around request

end Service
end Storefront

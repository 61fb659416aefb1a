import AsynGyanis.Http.HttpParser

/-!
# The router

`Router` keeps two indexes: the literal paths, each with the bindings
registered on it, and the patterns, in the order of their registration.
`route` looks into the first and then into the second, and collects on the
way which methods the path allows. `hasStreamingRoute` walks the same tables
once more, ahead of the body, to learn whether the route takes the body as a
stream.

A router of a virtual host has no virtual hosts of its own, so it is a
`RouteTable` and the root is a table with a list of such tables. Middleware
is left out: it runs around what the router has chosen. A handler is a value
of any type.
-/

namespace AsynGyanis.Http

variable {Handler : Type}

/-! ## Methods -/

def methodKeyword : HttpMethod → Bytes
  | .get => asciiText "GET"
  | .post => asciiText "POST"
  | .put => asciiText "PUT"
  | .delete => asciiText "DELETE"
  | .patch => asciiText "PATCH"
  | .head => asciiText "HEAD"
  | .options => asciiText "OPTIONS"
  | .unknown => []

/-- The order in which `Allow` lists the methods. -/
def kRecognizedMethodOrder : List HttpMethod :=
  [.get, .head, .post, .put, .delete, .patch, .options]

def kAllowedMethodSeparator : Bytes := asciiText ", "

/-- HEAD is answered by what GET is answered by, but only where no route is
registered for HEAD itself: it takes two passes. -/
def isRouteCandidateSelected (matchMethod : HttpMethod)
    (isRequestMethodRecognized : Bool) (candidateMethod : HttpMethod)
    (isAnyMethod : Bool) (pass : Nat) : Bool :=
  if !isRequestMethodRecognized then false
  else if matchMethod ≠ .head then
    isAnyMethod || candidateMethod = matchMethod
  else if pass = 0 then candidateMethod = .head && !isAnyMethod
  else isAnyMethod || candidateMethod = .get

/-! ## Parameters of a path -/

/-- `std::unordered_map`, a list with one entry for a name. -/
abbrev PathParameters := List (Bytes × Bytes)

def kWildcardParameterName : Bytes := asciiText "*"

/-- Assignment through `operator[]`. -/
def setParam (key value : Bytes) : PathParameters → PathParameters
  | [] => [(key, value)]
  | (name, old) :: rest =>
    if name = key then (name, value) :: rest
    else (name, old) :: setParam key value rest

def param (key : Bytes) (params : PathParameters) : Option Bytes := params.lookup key

/-- A request on its way to a handler. -/
structure RoutedRequest where
  request : HttpRequest
  params : PathParameters := []
  matchedRoute : Bytes := []
  deriving DecidableEq, Repr

/-- What is before the first question mark. -/
def HttpRequest.path (request : HttpRequest) : Bytes := request.uri.takeWhile (· ≠ 0x3F)

def HttpRequest.firstHeaderValueView (request : HttpRequest) (key : Bytes) : Option Bytes :=
  (request.headers.find? fun field => equalsIgnoringCase field.1 key).map (·.2)

/-! ## Routes -/

structure ExactRoute (Handler : Type) where
  method : HttpMethod
  isAnyMethod : Bool
  streaming : Bool
  handler : Handler

/-- The parts of a text between its slashes; a slash at the end ends the last
part and begins none. -/
def splitSegments (remainder : Bytes) : List Bytes :=
  match remainder with
  | [] => []
  | first :: rest =>
    let segment := (first :: rest).takeWhile (· ≠ 0x2F)
    match _hrest : (first :: rest).dropWhile (· ≠ 0x2F) with
    | [] => [segment]
    | _ :: after => segment :: splitSegments after
termination_by remainder.length
decreasing_by
  have hlength : ((first :: rest).dropWhile (· ≠ 0x2F)).length ≤ (first :: rest).length :=
    (List.dropWhile_sublist _).length_le
  rw [_hrest] at hlength
  simp only [List.length_cons] at hlength ⊢
  omega

/-- A pattern in parts. The star counts at the end only, and only behind a
slash or alone: `/static*` is no prefix of `/staticevil`. -/
structure PatternSegments where
  segments : List Bytes
  wildcardPrefix : Bytes
  isWildcard : Bool
  deriving DecidableEq, Repr

def dropLeadingSlash (text : Bytes) : Bytes :=
  match text with
  | 0x2F :: rest => rest
  | _ => text

def precomputeSegments (routePattern : Bytes) : PatternSegments :=
  let prefixPart := routePattern.dropLast
  let isBareWildcard : Bool := prefixPart = [] || prefixPart = [0x2F]
  let isBoundaryAligned : Bool := prefixPart.getLast? = some 0x2F
  let isWildcard : Bool := routePattern.getLast? = some 0x2A &&
    (isBareWildcard || isBoundaryAligned)
  let wildcardPrefix := if isWildcard then prefixPart else []
  let fixedPart :=
    if isWildcard then wildcardPrefix.dropLast else routePattern
  { segments := splitSegments (dropLeadingSlash fixedPart)
    wildcardPrefix := wildcardPrefix
    isWildcard := isWildcard }

/-- A route with a pattern, which is taken apart once. -/
structure PatternRoute (Handler : Type) where
  method : HttpMethod
  isAnyMethod : Bool
  pattern : Bytes
  parts : PatternSegments
  streaming : Bool
  handler : Handler
  parts_eq : parts = precomputeSegments pattern

def PatternRoute.create (routeMethod : HttpMethod) (matchAnyMethod : Bool)
    (routePattern : Bytes) (routeHandler : Handler) (isStreaming : Bool) :
    PatternRoute Handler :=
  { method := routeMethod
    isAnyMethod := matchAnyMethod
    pattern := routePattern
    parts := precomputeSegments routePattern
    streaming := isStreaming
    handler := routeHandler
    parts_eq := rfl }

/-- One table: `exactRoutes` has an empty list where the map has no key. -/
structure RouteTable (Handler : Type) where
  exactRoutes : Bytes → List (ExactRoute Handler) := fun _ => []
  patternRoutes : List (PatternRoute Handler) := []

structure Router (Handler : Type) where
  table : RouteTable Handler := {}
  virtualHosts : List (Bytes × RouteTable Handler) := []
  wildcardVirtualHostCount : Nat := 0

/-! ## Registration -/

def isLiteralPath (path : Bytes) : Bool := !path.contains 0x3A && !path.contains 0x2A

/-- Whether a route answers for the methods of a new registration. -/
def isSameBinding (candidateMethod : HttpMethod) (candidateIsAny : Bool)
    (method : HttpMethod) (isAnyMethod : Bool) : Bool :=
  candidateIsAny = isAnyMethod && (isAnyMethod || candidateMethod = method)

/-- The route that is there already keeps its place. -/
def replaceOrAppend {Route : Type} (isSame : Route → Bool)
    (replaced : Route → Route) (route : Route) : List Route → List Route
  | [] => [route]
  | existing :: rest =>
    if isSame existing then replaced existing :: rest
    else existing :: replaceOrAppend isSame replaced route rest

def addExactRoute (route : ExactRoute Handler) :
    List (ExactRoute Handler) → List (ExactRoute Handler) :=
  replaceOrAppend
    (fun candidate => isSameBinding candidate.method candidate.isAnyMethod
      route.method route.isAnyMethod)
    (fun candidate => { candidate with
      handler := route.handler, streaming := route.streaming })
    route

def addPatternRoute (route : PatternRoute Handler) :
    List (PatternRoute Handler) → List (PatternRoute Handler) :=
  replaceOrAppend
    (fun existing => isSameBinding existing.method existing.isAnyMethod
      route.method route.isAnyMethod && existing.pattern = route.pattern)
    (fun existing => { existing with
      handler := route.handler, streaming := route.streaming })
    route

/-- The empty path is the root. -/
def normalizedPath (path : Bytes) : Bytes :=
  if path = [] then [0x2F] else path

def RouteTable.addRoute (table : RouteTable Handler) (method : HttpMethod)
    (isAnyMethod : Bool) (path : Bytes) (handler : Handler)
    (streaming : Bool := false) : RouteTable Handler :=
  if isLiteralPath (normalizedPath path) then
    { table with
      exactRoutes := Function.update table.exactRoutes (normalizedPath path)
        (addExactRoute
          { method := method, isAnyMethod := isAnyMethod,
            streaming := streaming, handler := handler }
          (table.exactRoutes (normalizedPath path))) }
  else
    { table with
      patternRoutes := addPatternRoute
        (PatternRoute.create method isAnyMethod (normalizedPath path) handler streaming)
        table.patternRoutes }

/-- The functions that register a route. -/
inductive RouteEntry
  | get | post | put | postStreaming | putStreaming | del | patch | head
  | options | any
  deriving DecidableEq, Repr

def RouteTable.add (table : RouteTable Handler) (entry : RouteEntry)
    (path : Bytes) (handler : Handler) : RouteTable Handler :=
  match entry with
  | .get => table.addRoute .get false path handler
  | .post => table.addRoute .post false path handler
  | .put => table.addRoute .put false path handler
  | .postStreaming => table.addRoute .post false path handler true
  | .putStreaming => table.addRoute .put false path handler true
  | .del => table.addRoute .delete false path handler
  | .patch => table.addRoute .patch false path handler
  | .head => table.addRoute .head false path handler
  | .options => table.addRoute .options false path handler
  | .any => table.addRoute .unknown true path handler

/-! ## Virtual hosts -/

def kWildcardHostPrefix : Bytes := asciiText "*."

/-- The longest wildcard that the host ends with, the first of them. -/
def selectWildcardRow (hostKey : Bytes) :
    List (Bytes × RouteTable Handler) → Option (Bytes × RouteTable Handler) →
    Nat → Option (Bytes × RouteTable Handler)
  | [], best, _ => best
  | candidate :: rest, best, bestSuffixLength =>
    let pattern := candidate.1
    if !kWildcardHostPrefix.isPrefixOf pattern || pattern.length ≤ kWildcardHostPrefix.length then
      selectWildcardRow hostKey rest best bestSuffixLength
    else
      let suffix := pattern.drop (kWildcardHostPrefix.length - 1)
      if hostKey.length ≤ suffix.length || !suffix.isSuffixOf hostKey then
        selectWildcardRow hostKey rest best bestSuffixLength
      else if bestSuffixLength < suffix.length then
        selectWildcardRow hostKey rest (some candidate) suffix.length
      else selectWildcardRow hostKey rest best bestSuffixLength

def selectVirtualHostRow (tables : List (Bytes × RouteTable Handler))
    (wildcardCount : Nat) (hostKey : Bytes) :
    Option (Bytes × RouteTable Handler) :=
  if hostKey = [] then none
  else match tables.find? (fun row => row.1 = hostKey) with
    | some exact => some exact
    | none =>
      if wildcardCount = 0 then none
      else selectWildcardRow hostKey tables none 0

variable (router : Router Handler) (request : HttpRequest)

def Router.findHostTable (hostKey : Bytes) : Option (RouteTable Handler) :=
  (selectVirtualHostRow router.virtualHosts router.wildcardVirtualHostCount hostKey).map (·.2)

/-- A request without a host goes to the root. -/
def Router.selectVirtualHostTable : Option (RouteTable Handler) :=
  if router.virtualHosts = [] then none
  else match request.firstHeaderValueView (asciiText "host") with
    | none => none
    | some hostHeader =>
      router.findHostTable (normalizeHostComparisonKey hostHeader)

/-- The name of a virtual host that is no name. -/
inductive InvalidArgument
  | virtualHostName (hostName : Bytes)
  deriving DecidableEq, Repr

/-- The root with a table for the host, and the key it is kept under. -/
def Router.virtualHost (hostName : Bytes) : Except InvalidArgument (Router Handler × Bytes) :=
  let hostKey := normalizeHostComparisonKey hostName
  if hostKey = [] ∨ hostKey = asciiText "*" ∨ hostKey = kWildcardHostPrefix then
    .error (.virtualHostName hostName)
  else if router.virtualHosts.any (fun row => row.1 = hostKey) then
    .ok (router, hostKey)
  else
    .ok ({ router with
      virtualHosts := router.virtualHosts ++ [(hostKey, {})]
      wildcardVirtualHostCount :=
        if kWildcardHostPrefix.isPrefixOf hostKey then
          router.wildcardVirtualHostCount + 1
        else router.wildcardVirtualHostCount }, hostKey)

/-- A call that configures the server: on the root, or on the table that
`virtualHost` hands out. -/
inductive Registration (Handler : Type)
  | root (entry : RouteEntry) (path : Bytes) (handler : Handler)
  | virtualHost (hostName : Bytes)
  | onHost (hostName : Bytes) (entry : RouteEntry) (path : Bytes) (handler : Handler)

/-- A call that throws leaves the router as it was. -/
def Router.register : Registration Handler → Router Handler
  | .root entry path handler =>
    { router with table := router.table.add entry path handler }
  | .virtualHost hostName =>
    match router.virtualHost hostName with
    | .error _ => router
    | .ok (created, _) => created
  | .onHost hostName entry path handler =>
    match router.virtualHost hostName with
    | .error _ => router
    | .ok (created, hostKey) =>
      { created with
        virtualHosts := created.virtualHosts.map fun row =>
          if row.1 = hostKey then (row.1, row.2.add entry path handler)
          else row }

/-! ## Matching -/

/-- The segments of a pattern against what is left of the path. -/
def matchSegments (segments : List Bytes) (isWildcard : Bool)
    (remainingPath : Bytes) (collectedParameters : PathParameters) :
    Option PathParameters :=
  match segments with
  | [] =>
    if isWildcard then
      some (setParam kWildcardParameterName remainingPath collectedParameters)
    else if remainingPath = [] then some collectedParameters
    else none
  | patternSegment :: rest =>
    if remainingPath = [] then none
    else
      let currentSegment := remainingPath.takeWhile (· ≠ 0x2F)
      let remaining := (remainingPath.dropWhile (· ≠ 0x2F)).tail
      if patternSegment.head? = some 0x3A then
        if currentSegment = [] then none
        else
          matchSegments rest isWildcard remaining
            (setParam patternSegment.tail currentSegment collectedParameters)
      else if patternSegment ≠ currentSegment then none
      else matchSegments rest isWildcard remaining collectedParameters

/-- What the route collects from the path, where it matches. -/
def matchesPattern (route : PatternRoute Handler) (requestPath : Bytes) : Option PathParameters :=
  match requestPath with
  | 0x2F :: remainingPath =>
    matchSegments route.parts.segments route.parts.isWildcard remainingPath []
  | _ => none

/-- What the request has already stays. -/
def commitPathParameters (request : RoutedRequest)
    (collectedParameters : PathParameters) : RoutedRequest :=
  { request with
    params := collectedParameters.foldl
      (fun params entry =>
        if (param entry.1 params).isSome then params
        else setParam entry.1 entry.2 params)
      request.params }

/-! ## Dispatch -/

def rememberAllowedMethod (allowedMethodSet : List HttpMethod)
    (routeMethod : HttpMethod) (routeMatchesAnyMethod : Bool) :
    List HttpMethod :=
  if routeMatchesAnyMethod then
    kRecognizedMethodOrder.foldl
      (fun allowed recognizedMethod =>
        if allowed.contains recognizedMethod then allowed
        else allowed ++ [recognizedMethod])
      allowedMethodSet
  else if allowedMethodSet.contains routeMethod then allowedMethodSet
  else allowedMethodSet ++ [routeMethod]

/-- The route that `route` has chosen, and what it collected. -/
structure Selection (Handler : Type) where
  handler : Handler
  pattern : Bytes
  streaming : Bool
  collected : PathParameters
  deriving DecidableEq, Repr

def scanExactRoutes (requestPath : Bytes) (matchMethod : HttpMethod)
    (pass : Nat) : List (ExactRoute Handler) → List HttpMethod →
    List HttpMethod × Option (Selection Handler)
  | [], allowed => (allowed, none)
  | candidate :: rest, allowed =>
    let remembered :=
      if pass = 0 then
        rememberAllowedMethod allowed candidate.method candidate.isAnyMethod
      else allowed
    if isRouteCandidateSelected matchMethod (matchMethod ≠ .unknown)
        candidate.method candidate.isAnyMethod pass then
      (remembered, some ⟨candidate.handler, requestPath, candidate.streaming, []⟩)
    else scanExactRoutes requestPath matchMethod pass rest remembered

def scanPatternRoutes (requestPath : Bytes) (matchMethod : HttpMethod)
    (pass : Nat) : List (PatternRoute Handler) → List HttpMethod →
    List HttpMethod × Option (Selection Handler)
  | [], allowed => (allowed, none)
  | route :: rest, allowed =>
    let isSelected := isRouteCandidateSelected matchMethod
      (matchMethod ≠ .unknown) route.method route.isAnyMethod pass
    if pass ≠ 0 ∧ isSelected = false then
      scanPatternRoutes requestPath matchMethod pass rest allowed
    else match matchesPattern route requestPath with
      | none => scanPatternRoutes requestPath matchMethod pass rest allowed
      | some candidateParameters =>
        let remembered :=
          if pass = 0 then
            rememberAllowedMethod allowed route.method route.isAnyMethod
          else allowed
        if isSelected then
          (remembered, some ⟨route.handler, route.pattern, route.streaming, candidateParameters⟩)
        else scanPatternRoutes requestPath matchMethod pass rest remembered

/-- One pass after the other, until one of them has chosen. -/
def scanPasses (scan : Nat → List HttpMethod → List HttpMethod × Option (Selection Handler)) :
    List Nat → List HttpMethod →
    List HttpMethod × Option (Selection Handler)
  | [], allowed => (allowed, none)
  | pass :: rest, allowed =>
    match scan pass allowed with
    | (remembered, some selection) => (remembered, some selection)
    | (remembered, none) => scanPasses scan rest remembered

def RouteTable.selectHandlerForMethod (table : RouteTable Handler)
    (matchMethod : HttpMethod) (requestPath : Bytes) :
    List HttpMethod × Option (Selection Handler) :=
  let passes := if matchMethod = .head then [0, 1] else [0]
  match scanPasses
      (fun pass => scanExactRoutes requestPath matchMethod pass
        (table.exactRoutes requestPath)) passes [] with
  | (remembered, some selection) => (remembered, some selection)
  | (remembered, none) =>
    scanPasses
      (fun pass => scanPatternRoutes requestPath matchMethod pass
        table.patternRoutes) passes remembered

/-- A response that the router writes itself. -/
structure UnmatchedResponse where
  status : Nat
  body : Bytes
  headers : List (Bytes × Bytes)
  httpVersion : Bytes
  deriving DecidableEq, Repr

def writeNotFoundOrNotAllowed (isMethodNotAllowed : Bool) (allowedMethods : Bytes) :
    UnmatchedResponse :=
  let contentType := (asciiText "content-type", asciiText "text/plain")
  if !isMethodNotAllowed then
    { status := 404
      body := asciiText "Not Found"
      headers := [contentType]
      httpVersion := request.httpVersion }
  else
    { status := 405
      body := asciiText "Method Not Allowed"
      headers :=
        if allowedMethods ≠ [] then
          [(asciiText "allow", allowedMethods), contentType]
        else [contentType]
      httpVersion := request.httpVersion }

/-- The list of methods of `Allow`, in its fixed order. -/
def joinAllowedMethods (allowedMethodSet : List HttpMethod) : Bytes := kRecognizedMethodOrder.foldl
    (fun allowedMethods recognizedMethod =>
      if !allowedMethodSet.contains recognizedMethod then allowedMethods
      else if allowedMethods ≠ [] then
        allowedMethods ++ kAllowedMethodSeparator ++ methodKeyword recognizedMethod
      else allowedMethods ++ methodKeyword recognizedMethod)
    []

/-- Where a path answers GET it answers HEAD. -/
def withHeadOfGet (allowedMethodSet : List HttpMethod) : List HttpMethod :=
  if allowedMethodSet.contains .get && !allowedMethodSet.contains .head then
    allowedMethodSet ++ [.head]
  else allowedMethodSet

inductive RouteAnswer (Handler : Type)
  | dispatched (selection : Selection Handler) (request : RoutedRequest)
  | unmatched (response : UnmatchedResponse)
  deriving DecidableEq, Repr

/-- The path a request is matched by: the server as a whole stands in for
the root. -/
def matchedPath : Bytes :=
  if request.path = asciiText "*" ∧ request.method = .options then [0x2F]
  else request.path

def Router.matchTable : RouteTable Handler :=
  (router.selectVirtualHostTable request).getD router.table

def Router.route (routed : RoutedRequest) : RouteAnswer Handler :=
  match (router.matchTable routed.request).selectHandlerForMethod
      routed.request.method (matchedPath routed.request) with
  | (_, some selection) =>
    .dispatched selection
      { commitPathParameters routed selection.collected with
        matchedRoute := selection.pattern }
  | (allowedMethodSet, none) =>
    let isMethodNotAllowed : Bool := !allowedMethodSet.isEmpty
    let allowedMethods :=
      if isMethodNotAllowed then
        joinAllowedMethods (withHeadOfGet allowedMethodSet)
      else []
    .unmatched (writeNotFoundOrNotAllowed routed.request isMethodNotAllowed allowedMethods)

/-! ## The probe for streaming routes -/

def firstStreamingExact (matchMethod : HttpMethod) : List (ExactRoute Handler) → Option Bool
  | [] => none
  | candidate :: rest =>
    if candidate.isAnyMethod || candidate.method = matchMethod then
      some candidate.streaming
    else firstStreamingExact matchMethod rest

def firstStreamingPattern (requestPath : Bytes) (matchMethod : HttpMethod) :
    List (PatternRoute Handler) → Bool
  | [] => false
  | route :: rest =>
    if (matchesPattern route requestPath).isNone then
      firstStreamingPattern requestPath matchMethod rest
    else if route.isAnyMethod || route.method = matchMethod then
      route.streaming
    else firstStreamingPattern requestPath matchMethod rest

def RouteTable.matchedRouteIsStreaming (table : RouteTable Handler)
    (matchMethod : HttpMethod) (requestPath : Bytes) : Bool :=
  match firstStreamingExact matchMethod (table.exactRoutes requestPath) with
  | some streaming => streaming
  | none => firstStreamingPattern requestPath matchMethod table.patternRoutes

def Router.hasStreamingRoute (method : HttpMethod) (uri authority : Bytes) : Bool :=
  if method ≠ .post ∧ method ≠ .put then false
  else
    let requestPath := uri.takeWhile (· ≠ 0x3F)
    let table :=
      if router.virtualHosts = [] then router.table
      else
        (router.findHostTable (normalizeHostComparisonKey authority)).getD router.table
    table.matchedRouteIsStreaming method requestPath

end AsynGyanis.Http

import AsynGyanis.Http.RouterWalks

/-!
# The router agrees with itself

For every configuration of the server: a request is answered 405 where
another method of its path would be dispatched, `Allow` lists those methods,
the probe ahead of the body knows whether dispatch will choose a route for
streams, and the handler is given what the pattern of its own route takes
from the path.

What the configuration adds is an invariant: each route of a table comes from
a registration, and so it is for recognised methods, and for streams only
with POST or PUT.
-/

namespace AsynGyanis.Http

open List Router

variable {Handler : Type}

/-! ## What a registration leaves in the tables -/

variable {registrations : List (Registration Handler)}
  {P : RouteEntry → Bytes → Handler → Prop} {router : Router Handler}
  {routed : RoutedRequest} {table : RouteTable Handler}

def RouteEntry.method : RouteEntry → HttpMethod
  | .get => .get
  | .post | .postStreaming => .post
  | .put | .putStreaming => .put
  | .del => .delete
  | .patch => .patch
  | .head => .head
  | .options => .options
  | .any => .unknown

def RouteEntry.isAnyMethod (entry : RouteEntry) : Bool := entry = .any

def RouteEntry.isStreaming (entry : RouteEntry) : Bool :=
  entry = .postStreaming || entry = .putStreaming

theorem add_eq_addRoute (table : RouteTable Handler) (entry : RouteEntry)
    (path : Bytes) (handler : Handler) :
    table.add entry path handler =
    table.addRoute entry.method entry.isAnyMethod path handler
      entry.isStreaming := by
  cases entry <;> rfl

/-- Each route of the table is one of the registrations `P`. -/
structure RouteTable.Registered (P : RouteEntry → Bytes → Handler → Prop)
    (table : RouteTable Handler) : Prop where
  literal : ∀ path, table.exactRoutes path ≠ [] → isLiteralPath path = true
  exact : ∀ path, ∀ r ∈ table.exactRoutes path, ∃ entry raw,
    P entry raw r.handler ∧ normalizedPath raw = path ∧
    r.method = entry.method ∧ r.isAnyMethod = entry.isAnyMethod ∧
    r.streaming = entry.isStreaming
  pattern : ∀ r ∈ table.patternRoutes, ∃ entry raw,
    P entry raw r.handler ∧ normalizedPath raw = r.pattern ∧
    r.method = entry.method ∧ r.isAnyMethod = entry.isAnyMethod ∧
    r.streaming = entry.isStreaming

theorem RouteTable.Registered.mono
    {P Q : RouteEntry → Bytes → Handler → Prop} {table : RouteTable Handler}
    (h : table.Registered P) (hle : ∀ e p f, P e p f → Q e p f) : table.Registered Q := by
  refine ⟨h.literal, ?_, ?_⟩
  · intro path r hr
    obtain ⟨entry, raw, hP, hrest⟩ := h.exact path r hr
    exact ⟨entry, raw, hle _ _ _ hP, hrest⟩
  intro r hr
  obtain ⟨entry, raw, hP, hrest⟩ := h.pattern r hr
  exact ⟨entry, raw, hle _ _ _ hP, hrest⟩

theorem registered_empty (P : RouteEntry → Bytes → Handler → Prop) :
    ({} : RouteTable Handler).Registered P :=
  ⟨fun _ h => absurd rfl h, fun _ _ h => (nomatch h), fun _ h => (nomatch h)⟩

theorem method_eq_of_sameBinding {entry entry' : RouteEntry}
    (h : isSameBinding entry.method entry.isAnyMethod entry'.method entry'.isAnyMethod) :
    entry.method = entry'.method ∧ entry.isAnyMethod = entry'.isAnyMethod := by
  revert h
  cases entry <;> cases entry' <;> decide

/-- A route after a registration is an old one, the new one, or an old one
that the new one replaces in its place. -/
theorem mem_replaceOrAppend {Route : Type} {isSame : Route → Bool}
    {replaced : Route → Route} {route r : Route} {routes : List Route}
    (h : r ∈ replaceOrAppend isSame replaced route routes) :
    r ∈ routes ∨ r = route ∨ ∃ c ∈ routes, isSame c ∧ r = replaced c := by
  induction routes with
  | nil =>
    rw [replaceOrAppend, mem_singleton] at h
    exact .inr (.inl h)
  | cons existing rest ih =>
    rw [replaceOrAppend] at h
    split at h
    · next hsame =>
        rcases mem_cons.mp h with h | h
        · exact .inr (.inr ⟨existing, mem_cons_self, hsame, h⟩)
        · exact .inl (mem_cons_of_mem _ h)
    rcases mem_cons.mp h with h | h
    · exact .inl (mem_cons.mpr (.inl h))
    rcases ih h with h | h | ⟨c, hc, h⟩
    · exact .inl (mem_cons_of_mem _ h)
    · exact .inr (.inl h)
    · exact .inr (.inr ⟨c, mem_cons_of_mem _ hc, h⟩)

theorem RouteTable.Registered.add (h : table.Registered P) {entry : RouteEntry}
    {path : Bytes} {handler : Handler} (hP : P entry path handler) :
    (table.add entry path handler).Registered P := by
  rw [add_eq_addRoute, RouteTable.addRoute]
  split
  · next hliteral =>
      refine ⟨?_, ?_, h.pattern⟩
      · intro path' hne
        dsimp only at hne
        by_cases heq : path' = normalizedPath path
        · rw [heq]
          exact hliteral
        · rw [Function.update_of_ne heq] at hne
          exact h.literal path' hne
      intro path' r hr
      dsimp only at hr
      by_cases heq : path' = normalizedPath path
      · subst heq
        rw [Function.update_self] at hr
        rcases mem_replaceOrAppend hr with hr | rfl | ⟨c, hc, hsame, rfl⟩
        · exact h.exact _ r hr
        · exact ⟨entry, path, hP, rfl, rfl, rfl, rfl⟩
        obtain ⟨entry', -, -, -, hm, ha, -⟩ := h.exact _ c hc
        rw [hm, ha] at hsame ⊢
        obtain ⟨hm', ha'⟩ := method_eq_of_sameBinding hsame
        exact ⟨entry, path, hP, rfl, hm', ha', rfl⟩
      · rw [Function.update_of_ne heq] at hr
        exact h.exact path' r hr
  · refine ⟨h.literal, h.exact, ?_⟩
    intro r hr
    rcases mem_replaceOrAppend hr with hr | rfl | ⟨c, hc, hsame, rfl⟩
    · exact h.pattern r hr
    · exact ⟨entry, path, hP, rfl, rfl, rfl, rfl⟩
    obtain ⟨entry', -, -, -, hm, ha, -⟩ := h.pattern c hc
    rw [Bool.and_eq_true, decide_eq_true_eq] at hsame
    obtain ⟨hsame, hpat⟩ := hsame
    rw [hm, ha] at hsame ⊢
    obtain ⟨hm', ha'⟩ := method_eq_of_sameBinding hsame
    exact ⟨entry, path, hP, hpat.symm, hm', ha', rfl⟩

theorem RouteTable.Registered.recognised (h : table.Registered P) : table.Recognised := by
  have hentry : ∀ entry : RouteEntry, entry.isAnyMethod = true ∨ entry.method ≠ .unknown := by
    intro entry
    cases entry <;> decide
  refine ⟨?_, ?_⟩
  · intro path r hr
    obtain ⟨entry, -, -, -, hm, ha, -⟩ := h.exact path r hr
    rw [hm, ha]
    exact hentry entry
  intro r hr
  obtain ⟨entry, -, -, -, hm, ha, -⟩ := h.pattern r hr
  rw [hm, ha]
  exact hentry entry

/-! ## The configured server -/

/-- A call on the root registers the route. -/
def OnRoot (registrations : List (Registration Handler))
    (entry : RouteEntry) (path : Bytes) (handler : Handler) : Prop :=
  .root entry path handler ∈ registrations

/-- A call on a virtual host, under any spelling of its name. -/
def OnHost (registrations : List (Registration Handler)) (hostKey : Bytes)
    (entry : RouteEntry) (path : Bytes) (handler : Handler) : Prop :=
  ∃ hostName, normalizeHostComparisonKey hostName = hostKey ∧
    .onHost hostName entry path handler ∈ registrations

structure Router.Registered (registrations : List (Registration Handler))
    (router : Router Handler) : Prop where
  root : router.table.Registered (OnRoot registrations)
  hosts : ∀ row ∈ router.virtualHosts, row.2.Registered (OnHost registrations row.1)

theorem Router.Registered.mono {registrations more : List (Registration Handler)}
    {router : Router Handler} (h : router.Registered registrations)
    (hle : ∀ r ∈ registrations, r ∈ more) : router.Registered more := by
  refine ⟨h.root.mono fun _ _ _ hP => hle _ hP, ?_⟩
  intro row hrow
  refine (h.hosts row hrow).mono ?_
  rintro entry path handler ⟨hostName, hname, hmem⟩
  exact ⟨hostName, hname, hle _ hmem⟩

theorem Router.Registered.virtualHost {router created : Router Handler}
    {hostName hostKey : Bytes} (h : router.Registered registrations)
    (hcreated : router.virtualHost hostName = .ok (created, hostKey)) :
    created.Registered registrations ∧ hostKey = normalizeHostComparisonKey hostName := by
  rw [Router.virtualHost] at hcreated
  split at hcreated
  · cases hcreated
  split at hcreated
  · cases hcreated
    exact ⟨h, rfl⟩
  cases hcreated
  refine ⟨⟨h.root, ?_⟩, rfl⟩
  intro row hrow
  rcases mem_append.mp hrow with hrow | hrow
  · exact h.hosts row hrow
  · rw [mem_singleton.mp hrow]
    exact registered_empty _

theorem Router.Registered.register (h : router.Registered registrations)
    (registration : Registration Handler) :
    (router.register registration).Registered (registrations ++ [registration]) := by
  have hmore : router.Registered (registrations ++ [registration]) :=
    h.mono fun _ hr => mem_append_left _ hr
  have hnew : registration ∈ registrations ++ [registration] := mem_append_right _ mem_cons_self
  cases registration with
  | root entry path handler => exact ⟨hmore.root.add hnew, hmore.hosts⟩
  | virtualHost hostName =>
    rw [Router.register]
    cases hcreated : router.virtualHost hostName with
    | error e => exact hmore
    | ok created => exact (hmore.virtualHost hcreated).1
  | onHost hostName entry path handler =>
    rw [Router.register]
    cases hcreated : router.virtualHost hostName with
    | error e => exact hmore
    | ok result =>
      obtain ⟨created, hostKey⟩ := result
      obtain ⟨hok, hkey⟩ := hmore.virtualHost hcreated
      refine ⟨hok.root, ?_⟩
      intro row hrow
      obtain ⟨old, hold, rfl⟩ := mem_map.mp hrow
      split
      · next heq =>
          refine (hok.hosts old hold).add ?_
          exact ⟨hostName, hkey.symm.trans heq.symm, hnew⟩
      · exact hok.hosts old hold

/-- The router after the calls that configure the server. -/
def Router.configured (registrations : List (Registration Handler)) : Router Handler :=
  registrations.foldl register {}

theorem configured_registered (registrations : List (Registration Handler)) :
    (configured registrations).Registered registrations := by
  induction registrations using reverseRecOn with
  | nil => exact ⟨registered_empty _, fun _ h => (nomatch h)⟩
  | append_singleton front registration ih =>
    rw [configured, foldl_append]
    exact ih.register registration

theorem selectWildcardRow_mem {hostKey : Bytes} {rows : List (Bytes × RouteTable Handler)}
    {best : Option (Bytes × RouteTable Handler)} {length : Nat}
    {row : Bytes × RouteTable Handler}
    (h : selectWildcardRow hostKey rows best length = some row) :
    row ∈ rows ∨ best = some row := by
  induction rows generalizing best length with
  | nil => exact .inr h
  | cons candidate rest ih =>
    rw [selectWildcardRow] at h
    split at h
    · exact (ih h).imp_left (mem_cons_of_mem _)
    dsimp only at h
    split at h
    · exact (ih h).imp_left (mem_cons_of_mem _)
    split at h
    · rcases ih h with h | h
      · exact .inl (mem_cons_of_mem _ h)
      · cases h
        exact .inl mem_cons_self
    · exact (ih h).imp_left (mem_cons_of_mem _)

theorem selectVirtualHostRow_mem {hostKey : Bytes} {count : Nat}
    {rows : List (Bytes × RouteTable Handler)} {row : Bytes × RouteTable Handler}
    (h : selectVirtualHostRow rows count hostKey = some row) : row ∈ rows := by
  rw [selectVirtualHostRow] at h
  split at h
  · cases h
  cases hfind : rows.find? (fun row => row.1 = hostKey) with
  | some exact =>
    rw [hfind] at h
    cases h
    exact mem_of_find?_eq_some hfind
  | none =>
    rw [hfind] at h
    dsimp only at h
    split at h
    · cases h
    · exact (selectWildcardRow_mem h).resolve_right (nomatch ·)

/-- A call, on whatever table. -/
def Configures (registrations : List (Registration Handler))
    (entry : RouteEntry) (path : Bytes) (handler : Handler) : Prop :=
  OnRoot registrations entry path handler ∨
  ∃ hostKey, OnHost registrations hostKey entry path handler

/-- Whatever table a request is matched in, its routes are registered. -/
theorem matchTable_registered (registrations : List (Registration Handler))
    (request : HttpRequest) :
    ((configured registrations).matchTable request).Registered (Configures registrations) := by
  have h := configured_registered registrations
  rw [matchTable]
  cases htable : (configured registrations).selectVirtualHostTable request with
  | none => exact h.root.mono fun _ _ _ hP => .inl hP
  | some table =>
    rw [selectVirtualHostTable] at htable
    split at htable
    · cases htable
    split at htable
    · cases htable
    rw [findHostTable, Option.map_eq_some_iff] at htable
    obtain ⟨row, hrow, rfl⟩ := htable
    exact (h.hosts row (selectVirtualHostRow_mem hrow)).mono fun _ _ _ hP => .inr ⟨row.1, hP⟩

/-! ## The chosen route -/

variable {method : HttpMethod} {requestPath text : Bytes}
variable {selection : Selection Handler}

/-- A choice is a route of the table that serves the method, with what its
pattern collects from the path. -/
theorem chosen_cases (h : (table.selectHandlerForMethod method requestPath).2 = some selection) :
    (∃ r ∈ table.exactRoutes requestPath, Accepts method r.method r.isAnyMethod ∧
      selection = ⟨r.handler, requestPath, r.streaming, []⟩) ∨
    ∃ r ∈ table.patternRoutes, Accepts method r.method r.isAnyMethod ∧
      ∃ collected, matchesPattern r requestPath = some collected ∧
      selection = ⟨r.handler, r.pattern, r.streaming, collected⟩ := by
  rw [selectHandlerForMethod_snd, Option.or_eq_some_iff] at h
  rcases h with h | ⟨-, h⟩
  · obtain ⟨pass, hpass, h⟩ := exists_of_findSome?_eq_some h
    obtain ⟨r, hr, h⟩ := exists_of_findSome?_eq_some h
    refine .inl ⟨r, hr, ?_, ?_⟩
    · rw [← chooseExact_isSome_iff requestPath]
      exact ⟨pass, hpass, by rw [h]; rfl⟩
    rw [chooseExact] at h
    split at h
    · cases h
      rfl
    · cases h
  obtain ⟨pass, hpass, h⟩ := exists_of_findSome?_eq_some h
  obtain ⟨r, hr, h⟩ := exists_of_findSome?_eq_some h
  refine .inr ⟨r, hr, ?_, ?_⟩
  · refine ((choosePattern_isSome_iff requestPath method r).mp ?_).2
    exact ⟨pass, hpass, by rw [h]; rfl⟩
  rw [choosePattern] at h
  split at h
  · obtain ⟨collected, hmatch, h⟩ := Option.map_eq_some_iff.mp h
    exact ⟨collected, hmatch, h.symm⟩
  · cases h

/-! ## Parameters -/

/-- What the segments of a pattern take from the parts of a path: a segment
with a name takes the part at its place, the star the parts behind. -/
def takenBySegments (segments : List Bytes) (isWildcard : Bool)
    (pathSegments : List Bytes) : PathParameters :=
  ((segments.zip pathSegments).filterMap fun (patternSegment, value) =>
    if patternSegment.head? = some 0x3A then
      some (patternSegment.tail, value)
    else none) ++
  if isWildcard then
    [(kWildcardParameterName, intercalate [0x2F] (pathSegments.drop segments.length))]
  else []

/-- The parameters of a pattern at a path, in the order of the pattern. -/
def patternParameters (pattern requestPath : Bytes) : PathParameters :=
  takenBySegments (precomputeSegments pattern).segments
    (precomputeSegments pattern).isWildcard (requestPath.tail.splitOn 0x2F)

/-- Assigned one after the other: of two values for a name the last stays. -/
def assignAll (taken params : PathParameters) : PathParameters :=
  taken.foldl (fun params entry => setParam entry.1 entry.2 params) params

theorem splitOn_of_dropWhile : text.splitOn 0x2F = text.takeWhile (· ≠ 0x2F) ::
      match text.dropWhile (· ≠ 0x2F) with
      | [] => []
      | _ :: after => after.splitOn 0x2F := by
  have hfree : ∀ x ∈ text.takeWhile (· ≠ 0x2F), (x == 0x2F) = false := by
    intro x hx
    have h := mem_takeWhile_imp hx
    simpa using h
  conv_lhs => rw [← takeWhile_append_dropWhile (p := (· ≠ 0x2F)) (l := text)]
  cases hdrop : text.dropWhile (· ≠ 0x2F) with
  | nil =>
    rw [append_nil, splitOn_eq_splitOnP, splitOnP_eq_singleton hfree]
  | cons slash after =>
    have hslash : (slash == 0x2F) := by
      have h := head_dropWhile_not (· ≠ 0x2F) (l := text) (by rw [hdrop]; exact cons_ne_nil _ _)
      simp only [hdrop, head_cons] at h
      simpa using h
    rw [splitOn_eq_splitOnP, splitOnP_append_cons_of_forall_mem hfree slash hslash]
    rfl

theorem matchSegments_eq {segments : List Bytes} {isWildcard : Bool}
    {remaining : Bytes} {pathSegments : List Bytes} {collected params : PathParameters}
    (hpath : pathSegments = remaining.splitOn 0x2F ∨ (pathSegments = [] ∧ remaining = []))
    (h : matchSegments segments isWildcard remaining collected = some params) :
    params = assignAll (takenBySegments segments isWildcard pathSegments)
        collected := by
  induction segments generalizing remaining pathSegments collected with
  | nil =>
    have hjoin : intercalate [0x2F] pathSegments = remaining := by
      rcases hpath with rfl | ⟨rfl, rfl⟩
      · exact intercalate_splitOn 0x2F
      · rfl
    rw [matchSegments] at h
    cases isWildcard with
    | true =>
      cases h
      simp [takenBySegments, assignAll, hjoin]
    | false =>
      simp only [Bool.false_eq_true, if_false] at h
      split at h
      · cases h
        simp [takenBySegments, assignAll]
      · cases h
  | cons patternSegment rest ih =>
    rw [matchSegments] at h
    split at h
    · cases h
    rename_i hremaining
    have hsplit : pathSegments = remaining.splitOn 0x2F := by
      rcases hpath with h | ⟨-, h⟩
      · exact h
      · exact absurd h hremaining
    rw [splitOn_of_dropWhile] at hsplit
    generalize hparts : (match remaining.dropWhile (· ≠ 0x2F) with
      | [] => []
      | _ :: after => after.splitOn 0x2F) = parts at hsplit
    have hrest : parts = (remaining.dropWhile (· ≠ 0x2F)).tail.splitOn 0x2F ∨
        (parts = [] ∧ (remaining.dropWhile (· ≠ 0x2F)).tail = []) := by
      cases hdrop : remaining.dropWhile (· ≠ 0x2F) with
      | nil =>
        rw [hdrop] at hparts
        exact .inr ⟨hparts.symm, rfl⟩
      | cons slash after =>
        rw [hdrop] at hparts
        exact .inl hparts.symm
    dsimp only at h
    subst hsplit
    split at h
    · next hname =>
        split at h
        · cases h
        · rw [ih hrest h]
          simp [takenBySegments, assignAll, hname]
    rename_i hname
    split at h
    · cases h
    · rw [ih hrest h]
      simp [takenBySegments, assignAll, hname]

theorem matchesPattern_eq {route : PatternRoute Handler} {collected : PathParameters}
    (h : matchesPattern route requestPath = some collected) :
    collected = assignAll (patternParameters route.pattern requestPath) [] := by
  rw [matchesPattern.eq_def] at h
  split at h
  · rw [route.parts_eq] at h
    exact matchSegments_eq (.inl rfl) h
  · cases h

theorem mem_splitSegments {segment : Bytes} {c : UInt8}
    (h : segment ∈ splitSegments text) (hc : c ∈ segment) : c ∈ text := by
  induction hn : text.length using Nat.strongRecOn generalizing text with
  | ind n ih =>
    rw [splitSegments.eq_def] at h
    split at h
    · cases h
    rename_i first rest
    have hwhole := takeWhile_append_dropWhile
      (p := fun x : UInt8 => decide (x ≠ 0x2F)) (l := first :: rest)
    split at h
    · rw [mem_singleton] at h
      subst h
      exact (takeWhile_sublist _).subset hc
    rename_i slash after hdrop
    rw [hdrop] at hwhole
    rcases mem_cons.mp h with rfl | h
    · exact (takeWhile_sublist _).subset hc
    have hlt : after.length < n := by
      rw [← hn, ← hwhole]
      simp only [length_append, length_cons]
      omega
    have hmem := ih after.length hlt h rfl
    rw [← hwhole]
    exact mem_append_right _ (mem_cons_of_mem _ hmem)

theorem mem_dropLeadingSlash {c : UInt8} (h : c ∈ dropLeadingSlash text) : c ∈ text := by
  rw [dropLeadingSlash.eq_def] at h
  split at h
  · exact mem_cons_of_mem _ h
  · exact h

theorem patternParameters_literal {pattern : Bytes} (requestPath : Bytes)
    (h : isLiteralPath pattern) : patternParameters pattern requestPath = [] := by
  rw [isLiteralPath, Bool.and_eq_true, Bool.not_eq_true', Bool.not_eq_true'] at h
  obtain ⟨hcolon, hstar⟩ := h
  have hcolon : (0x3A : UInt8) ∉ pattern := by simpa using hcolon
  have hstar : (0x2A : UInt8) ∉ pattern := by simpa using hstar
  have hlast : pattern.getLast? ≠ some 0x2A := by
    intro h
    exact hstar (mem_of_getLast? h)
  have hparts : precomputeSegments pattern =
      ⟨splitSegments (dropLeadingSlash pattern), [], false⟩ := by
    simp [precomputeSegments, hlast]
  rw [patternParameters, hparts, takenBySegments]
  simp only [Bool.false_eq_true, if_false, append_nil, filterMap_eq_nil_iff]
  rintro ⟨segment, value⟩ hmem
  have hsegment := (of_mem_zip hmem).1
  have hnot : segment.head? ≠ some 0x3A := by
    intro hhead
    have hin := mem_of_mem_head? hhead
    exact hcolon (mem_dropLeadingSlash (mem_splitSegments hsegment hin))
  simp [hnot]

theorem param_cons (name key value : Bytes) (rest : PathParameters) :
    param name ((key, value) :: rest) =
    if name = key then some value else param name rest := by
  rw [param, lookup_cons]
  split
  · next h => rw [if_pos (eq_of_beq h)]
  rename_i h
  rw [if_neg (by simpa using h)]
  rfl

theorem param_setParam (key name value : Bytes) (params : PathParameters) :
    param name (setParam key value params) =
    if name = key then some value else param name params := by
  induction params with
  | nil =>
    rw [setParam, param_cons]
  | cons entry rest ih =>
    obtain ⟨first, old⟩ := entry
    rw [setParam]
    split
    · next h =>
        rw [param_cons, param_cons, h]
        split <;> rfl
    rename_i h
    rw [param_cons, param_cons, ih]
    by_cases hname : name = first
    · rw [if_pos hname, if_pos hname, if_neg (hname ▸ h)]
    · rw [if_neg hname, if_neg hname]

theorem param_commitPathParameters (request : RoutedRequest)
    (collected : PathParameters) (name : Bytes) :
    param name (commitPathParameters request collected).params =
    (param name request.params).or (param name collected) := by
  rw [commitPathParameters]
  generalize request.params = params
  induction collected generalizing params with
  | nil => simp [param]
  | cons entry rest ih =>
    obtain ⟨key, value⟩ := entry
    rw [foldl_cons, ih]
    rw [param_cons]
    split
    · next hpresent =>
        by_cases h : name = key
        · subst h
          obtain ⟨old, hold⟩ := Option.isSome_iff_exists.mp hpresent
          rw [hold]
          rfl
        · rw [if_neg h]
    rename_i habsent
    rw [param_setParam]
    by_cases h : name = key
    · subst h
      rw [if_pos rfl, if_pos rfl, Option.not_isSome_iff_eq_none.mp habsent]
      rfl
    · rw [if_neg h, if_neg h]

/-! ## The probe for streaming routes -/

theorem firstStreamingExact_eq (hhead : method ≠ .head) (hknown : method ≠ .unknown)
    (requestPath : Bytes) (routes : List (ExactRoute Handler)) :
    firstStreamingExact method routes =
    (routes.findSome? (chooseExact requestPath method 0)).map (·.streaming) := by
  induction routes with
  | nil => rfl
  | cons route rest ih =>
    rw [firstStreamingExact, findSome?_cons, chooseExact, isRouteCandidateSelected, ih]
    simp only [hknown, ne_eq, not_false_eq_true, decide_true,
      Bool.not_true, Bool.false_eq_true, if_false, hhead, if_true]
    split <;> rfl

theorem firstStreamingPattern_eq (hhead : method ≠ .head) (hknown : method ≠ .unknown)
    (requestPath : Bytes) (routes : List (PatternRoute Handler)) :
    firstStreamingPattern requestPath method routes =
    ((routes.findSome? (choosePattern requestPath method 0)).map (·.streaming)).getD false := by
  induction routes with
  | nil => rfl
  | cons route rest ih =>
    rw [firstStreamingPattern, findSome?_cons, choosePattern, isRouteCandidateSelected, ih]
    simp only [hknown, ne_eq, not_false_eq_true, decide_true,
      Bool.not_true, Bool.false_eq_true, if_false, hhead, if_true]
    cases matchesPattern route requestPath with
    | none => simp
    | some collected =>
      simp only [Option.isNone_some, Bool.false_eq_true, if_false, Option.map_some]
      split <;> rfl

theorem matchedRouteIsStreaming_eq (hhead : method ≠ .head) (hknown : method ≠ .unknown)
    (table : RouteTable Handler) (requestPath : Bytes) :
    table.matchedRouteIsStreaming method requestPath =
    ((table.selectHandlerForMethod method requestPath).2.map (·.streaming)).getD false := by
  have hpasses : passesOf method = [0] := if_neg hhead
  rw [selectHandlerForMethod_snd, RouteTable.chosenExact,
    RouteTable.chosenPattern, hpasses, findSome?_singleton,
    findSome?_singleton, RouteTable.matchedRouteIsStreaming,
    firstStreamingExact_eq hhead hknown requestPath,
    firstStreamingPattern_eq hhead hknown]
  cases (table.exactRoutes requestPath).findSome? (chooseExact requestPath method 0) <;> rfl

/-- The probe looks into the table that dispatch looks into, when it is told
the host of the request. -/
theorem probed_table (router : Router Handler) (request : HttpRequest) :
    (if router.virtualHosts = [] then router.table
      else (router.findHostTable (normalizeHostComparisonKey
        ((request.firstHeaderValueView (asciiText "host")).getD []))).getD router.table) =
    router.matchTable request := by
  rw [matchTable, selectVirtualHostTable]
  split
  · rfl
  cases request.firstHeaderValueView (asciiText "host") with
  | none =>
    have hkey : normalizeHostComparisonKey [] = [] := by decide
    rfl
  | some host => rfl

/-! ## One request -/

/-- A handler is called for the request. -/
def Router.Dispatches (router : Router Handler) (request : HttpRequest) :
    Prop :=
  ∃ selection handed, router.route { request := request } = .dispatched selection handed

/-- A request to the path that this one is matched by, with another
method. -/
def HttpRequest.askedWith (request : HttpRequest) (method : HttpMethod) :
    HttpRequest :=
  { request with method := method, uri := matchedPath request }

theorem route_of_some
    (h : ((router.matchTable routed.request).selectHandlerForMethod
      routed.request.method (matchedPath routed.request)).2 =
        some selection) : router.route routed = .dispatched selection
      { commitPathParameters routed selection.collected with
        matchedRoute := selection.pattern } := by
  rw [route]
  generalize (router.matchTable routed.request).selectHandlerForMethod
      routed.request.method (matchedPath routed.request) = scanned at h ⊢
  obtain ⟨allowed, chosen⟩ := scanned
  subst h
  rfl

theorem route_of_none
    (h : ((router.matchTable routed.request).selectHandlerForMethod
      routed.request.method (matchedPath routed.request)).2 = none) :
    router.route routed = .unmatched
      (let allowed := ((router.matchTable
        routed.request).selectHandlerForMethod routed.request.method (matchedPath routed.request)).1
      writeNotFoundOrNotAllowed routed.request (!allowed.isEmpty)
        (if !allowed.isEmpty then joinAllowedMethods (withHeadOfGet allowed)
        else [])) := by
  rw [route]
  generalize (router.matchTable routed.request).selectHandlerForMethod
      routed.request.method (matchedPath routed.request) = scanned at h ⊢
  obtain ⟨allowed, chosen⟩ := scanned
  subst h
  rfl

theorem dispatched_iff (router : Router Handler) (routed : RoutedRequest) :
    (∃ selection handed, router.route routed = .dispatched selection handed) ↔
    (router.matchTable routed.request).Serves (matchedPath routed.request)
      routed.request.method := by
  rw [← chosen_isSome_iff]
  constructor
  · rintro ⟨selection, handed, h⟩
    by_contra hnone
    rw [Option.not_isSome_iff_eq_none] at hnone
    rw [route_of_none hnone] at h
    cases h
  · intro h
    obtain ⟨selection, hselection⟩ := Option.isSome_iff_exists.mp h
    exact ⟨selection, _, route_of_some hselection⟩

theorem not_mem_path (request : HttpRequest) : (0x3F : UInt8) ∉ request.path := by
  intro h
  have himp := mem_takeWhile_imp h
  simp at himp

theorem takeWhile_self (h : (0x3F : UInt8) ∉ text) : text.takeWhile (· ≠ 0x3F) = text := by
  rw [takeWhile_eq_self_iff]
  intro c hc
  have hne : c ≠ 0x3F := fun heq => h (heq ▸ hc)
  simp [hne]

theorem matchedPath_askedWith {request : HttpRequest}
    (h : matchedPath request ≠ asciiText "*") (method : HttpMethod) :
    matchedPath (request.askedWith method) = matchedPath request := by
  have hfree : (0x3F : UInt8) ∉ matchedPath request := by
    rw [matchedPath]
    split
    · decide
    · exact not_mem_path request
  have hpath : (request.askedWith method).path = matchedPath request := takeWhile_self hfree
  rw [matchedPath, hpath, if_neg fun hstar => h hstar.1]

theorem matchTable_askedWith (router : Router Handler)
    (request : HttpRequest) (method : HttpMethod) :
    router.matchTable (request.askedWith method) =
    router.matchTable request := rfl

theorem dispatches_askedWith_iff (router : Router Handler)
    {request : HttpRequest} (h : matchedPath request ≠ asciiText "*") (method : HttpMethod) :
    router.Dispatches (request.askedWith method) ↔
    (router.matchTable request).Serves (matchedPath request) method := by
  rw [Router.Dispatches, dispatched_iff, matchTable_askedWith, matchedPath_askedWith h]
  exact Iff.rfl

theorem Serves.known (h : table.Serves requestPath method) : method ≠ .unknown := by
  rcases h with ⟨r, -, h⟩ | ⟨r, -, -, h⟩
  · exact h.1
  · exact h.1

theorem not_serves_star (h : table.Registered P) (method : HttpMethod) :
    ¬table.Serves (asciiText "*") method := by
  rintro (⟨r, hr, -⟩ | ⟨r, -, hmatch, -⟩)
  · have hliteral := h.literal (asciiText "*") (ne_nil_of_mem hr)
    revert hliteral
    decide
  have hnone : matchesPattern r (asciiText "*") = none := rfl
  cases hmatch

theorem isAnyMethod_of_streaming {entry : RouteEntry} (h : entry.isStreaming) :
    entry.isAnyMethod = false ∧ (entry.method = .post ∨ entry.method = .put) := by
  revert h
  cases entry <;> decide

theorem unmatched_status {request : HttpRequest} {isMethodNotAllowed : Bool} :
    (writeNotFoundOrNotAllowed request isMethodNotAllowed text).status =
      405 ↔ isMethodNotAllowed := by
  rw [writeNotFoundOrNotAllowed]
  cases isMethodNotAllowed <;> simp

/-- The answer where no route serves the request: 405 with the methods that
the path serves, or 404. -/
theorem route_unmatched (hrecognised : (router.matchTable routed.request).Recognised)
    (hserves : ¬(router.matchTable routed.request).Serves
      (matchedPath routed.request) routed.request.method) :
    ∃ methods : List HttpMethod, methods.Sublist kRecognizedMethodOrder ∧
      (∀ m, m ∈ methods ↔ (router.matchTable routed.request).Serves
        (matchedPath routed.request) m) ∧
      router.route routed = .unmatched
        (writeNotFoundOrNotAllowed routed.request (!methods.isEmpty)
          (intercalate kAllowedMethodSeparator (methods.map methodKeyword))) := by
  rw [← chosen_isSome_iff, Option.not_isSome_iff_eq_none] at hserves
  have hroute := route_of_none hserves
  have hmem := mem_allowed_iff hrecognised hserves
  generalize ((router.matchTable routed.request).selectHandlerForMethod
    routed.request.method (matchedPath routed.request)).1 = allowed
    at hroute hmem
  have hmethods : ∀ m, m ∈ kRecognizedMethodOrder.filter ((withHeadOfGet allowed).contains ·) ↔
      (router.matchTable routed.request).Serves (matchedPath routed.request) m := by
    intro m
    rw [mem_filter, mem_kRecognizedMethodOrder, contains_iff_mem, hmem]
    exact ⟨fun h => h.2, fun h => ⟨Serves.known h, h⟩⟩
  refine ⟨_, filter_sublist, hmethods, ?_⟩
  rw [hroute]
  have hempty : allowed.isEmpty = (kRecognizedMethodOrder.filter
      ((withHeadOfGet allowed).contains ·)).isEmpty := by
    cases hallowed : allowed with
    | nil => decide
    | cons first rest =>
      obtain ⟨m, hm⟩ := mem_withHeadOfGet_of_ne_nil (cons_ne_nil first rest)
      rw [← hallowed, hmem, ← hmethods, hallowed] at hm
      rw [isEmpty_cons, eq_comm, isEmpty_eq_false_iff]
      exact ne_nil_of_mem hm
  dsimp only
  rw [← hempty]
  cases hallowed : allowed.isEmpty with
  | true => rfl
  | false => rw [← joinAllowedMethods_eq]; rfl

theorem allow_of_notAllowed (request : HttpRequest) (h : text ≠ []) :
    (writeNotFoundOrNotAllowed request true text).headers.lookup
      (asciiText "allow") = some text := by
  rw [writeNotFoundOrNotAllowed]
  simp [h]

theorem notAllowed_consistent (hrecognised : (router.matchTable routed.request).Recognised)
    (hpath : matchedPath routed.request ≠ asciiText "*") :
    ((∃ response, router.route routed = .unmatched response ∧ response.status = 405) ↔
      ¬router.Dispatches routed.request ∧ ∃ m, m ≠ .unknown ∧
          router.Dispatches (routed.request.askedWith m)) ∧
    ∀ response, router.route routed = .unmatched response → response.status = 405 →
      ∃ methods : List HttpMethod, methods.Sublist kRecognizedMethodOrder ∧
        (∀ m, m ∈ methods ↔ router.Dispatches (routed.request.askedWith m)) ∧
        response.headers.lookup (asciiText "allow") =
          some (intercalate kAllowedMethodSeparator (methods.map methodKeyword)) := by
  simp only [dispatches_askedWith_iff router hpath]
  have hdispatches : router.Dispatches routed.request ↔
      (router.matchTable routed.request).Serves (matchedPath routed.request)
        routed.request.method :=
    dispatched_iff router { request := routed.request }
  rw [hdispatches]
  by_cases hserves : (router.matchTable routed.request).Serves
      (matchedPath routed.request) routed.request.method
  · obtain ⟨selection, handed, hroute⟩ := (dispatched_iff router routed).mpr hserves
    rw [hroute]
    refine ⟨⟨?_, fun h => absurd hserves h.1⟩, ?_⟩
    · rintro ⟨response, h, -⟩
      cases h
    · intro response h
      cases h
  obtain ⟨methods, hsublist, hmethods, hroute⟩ := route_unmatched hrecognised hserves
  rw [hroute]
  refine ⟨⟨?_, ?_⟩, ?_⟩
  · rintro ⟨response, h, hstatus⟩
    cases h
    rw [unmatched_status, Bool.not_eq_true', isEmpty_eq_false_iff] at hstatus
    obtain ⟨m, hm⟩ := exists_mem_of_ne_nil methods hstatus
    have hm := (hmethods m).mp hm
    exact ⟨hserves, m, Serves.known hm, hm⟩
  · rintro ⟨-, m, -, hm⟩
    refine ⟨_, rfl, ?_⟩
    rw [unmatched_status, Bool.not_eq_true', isEmpty_eq_false_iff]
    exact ne_nil_of_mem ((hmethods m).mpr hm)
  intro response h hstatus
  cases h
  rw [unmatched_status] at hstatus
  refine ⟨methods, hsublist, hmethods, ?_⟩
  rw [hstatus]
  refine allow_of_notAllowed _ (intercalate_ne_nil ?_ ?_)
  · simpa using hstatus
  intro text htext
  obtain ⟨m, hm, rfl⟩ := mem_map.mp htext
  exact methodKeyword_ne_nil (Serves.known ((hmethods m).mp hm))

theorem star_notFound (hregistered : (router.matchTable routed.request).Registered P)
    (hpath : matchedPath routed.request = asciiText "*") :
    ∃ response, router.route routed = .unmatched response ∧ response.status = 404 := by
  have hnone : ∀ m, ¬(router.matchTable routed.request).Serves (matchedPath routed.request) m := by
    intro m
    rw [hpath]
    exact not_serves_star hregistered m
  obtain ⟨methods, -, hmethods, hroute⟩ :=
    route_unmatched hregistered.recognised (hnone routed.request.method)
  have hempty : methods = [] := by
    rw [eq_nil_iff_forall_not_mem]
    intro m hm
    exact hnone m ((hmethods m).mp hm)
  rw [hroute, hempty]
  exact ⟨_, rfl, rfl⟩

theorem dispatched_selection {handed : RoutedRequest}
    (h : router.route routed = .dispatched selection handed) :
    ((router.matchTable routed.request).selectHandlerForMethod
      routed.request.method (matchedPath routed.request)).2 = some selection ∧
    handed = { commitPathParameters routed selection.collected with
      matchedRoute := selection.pattern } := by
  cases hchosen : ((router.matchTable routed.request).selectHandlerForMethod routed.request.method
        (matchedPath routed.request)).2 with
  | none =>
    rw [route_of_none hchosen] at h
    cases h
  | some chosen =>
    rw [route_of_some hchosen] at h
    cases h
    exact ⟨rfl, rfl⟩

theorem selection_registered (h : table.Registered P)
    (hchosen : (table.selectHandlerForMethod method requestPath).2 =
      some selection) : selection.collected =
      assignAll (patternParameters selection.pattern requestPath) [] ∧
    ∃ entry raw, P entry raw selection.handler ∧ normalizedPath raw = selection.pattern ∧
      Accepts method entry.method entry.isAnyMethod ∧
      selection.streaming = entry.isStreaming := by
  rcases chosen_cases hchosen with
    ⟨r, hr, haccepts, rfl⟩ | ⟨r, hr, haccepts, collected, hmatch, rfl⟩
  · have hliteral := h.literal requestPath (ne_nil_of_mem hr)
    obtain ⟨entry, raw, hP, hraw, hm, ha, hs⟩ := h.exact _ r hr
    rw [hm, ha] at haccepts
    refine ⟨?_, entry, raw, hP, hraw, haccepts, hs⟩
    rw [patternParameters_literal requestPath hliteral]
    rfl
  · obtain ⟨entry, raw, hP, hraw, hm, ha, hs⟩ := h.pattern r hr
    rw [hm, ha] at haccepts
    exact ⟨matchesPattern_eq hmatch, entry, raw, hP, hraw, haccepts, hs⟩

theorem method_of_streaming (h : table.Registered P)
    (hchosen : (table.selectHandlerForMethod method requestPath).2 =
      some selection) (hstreaming : selection.streaming) :
    method = .post ∨ method = .put := by
  obtain ⟨-, entry, -, -, -, ⟨-, haccepts⟩, hs⟩ := selection_registered h hchosen
  obtain ⟨hany, hmethod⟩ := isAnyMethod_of_streaming (hs.symm.trans hstreaming)
  rw [hany] at haccepts
  rcases haccepts with h | h | ⟨-, hget⟩
  · cases h
  · rw [← h]
    exact hmethod
  · rw [hget] at hmethod
    rcases hmethod with h | h <;> cases h

theorem streaming_consistent (h : (router.matchTable routed.request).Registered P) :
    router.hasStreamingRoute routed.request.method routed.request.uri
        ((routed.request.firstHeaderValueView (asciiText "host")).getD []) ↔
      ∃ selection handed, router.route routed =
        .dispatched selection handed ∧ selection.streaming := by
  rw [hasStreamingRoute]
  split
  · next hmethod =>
      constructor
      · intro h
        cases h
      rintro ⟨selection, handed, hroute, hstreaming⟩
      have hchosen := (dispatched_selection hroute).1
      rcases method_of_streaming h hchosen hstreaming with h | h
      · exact absurd h hmethod.1
      · exact absurd h hmethod.2
  rename_i hmethod
  have hpost : routed.request.method = .post ∨ routed.request.method = .put := by
    by_contra hne
    exact hmethod ⟨fun h => hne (.inl h), fun h => hne (.inr h)⟩
  have hpath : matchedPath routed.request = routed.request.uri.takeWhile (· ≠ 0x3F) := by
    rw [matchedPath, if_neg]
    · rfl
    rintro ⟨-, hoptions⟩
    rw [hoptions] at hpost
    rcases hpost with h | h <;> cases h
  have hhead : routed.request.method ≠ .head := by
    rcases hpost with h | h <;> rw [h] <;> decide
  have hknown : routed.request.method ≠ .unknown := by
    rcases hpost with h | h <;> rw [h] <;> decide
  rw [probed_table, matchedRouteIsStreaming_eq hhead hknown, ← hpath]
  cases hchosen : ((router.matchTable routed.request).selectHandlerForMethod routed.request.method
        (matchedPath routed.request)).2 with
  | none =>
    rw [route_of_none hchosen]
    constructor
    · intro h
      cases h
    · rintro ⟨selection, handed, hroute, -⟩
      cases hroute
  | some selection =>
    rw [route_of_some hchosen]
    constructor
    · intro h
      exact ⟨selection, _, rfl, h⟩
    rintro ⟨selection', handed, hroute, hstreaming⟩
    cases hroute
    exact hstreaming

/-- The router agrees with itself, however it is configured and whatever is
asked.

A request is answered 405 exactly if it is not dispatched while a request to
its path with another recognised method is, and `Allow` lists the methods of
such requests. The path is the one the request is matched by: OPTIONS for the
server as a whole stands for the root. Any other method with that target is
not found.

The probe for streams tells what dispatch will choose, if it is given the
host of the request. And the handler is given the request as it came, with
the parameters it had already; to these come those of the pattern of its own
route. That route is a registered one. -/
theorem router_consistent (registrations : List (Registration Handler)) (routed : RoutedRequest) :
    let router := configured registrations
    let request := routed.request
    (matchedPath request ≠ asciiText "*" →
      ((∃ response, router.route routed = .unmatched response ∧ response.status = 405) ↔
        ¬router.Dispatches request ∧ ∃ m, m ≠ .unknown ∧ router.Dispatches (request.askedWith m)) ∧
      ∀ response, router.route routed = .unmatched response → response.status = 405 →
        ∃ methods : List HttpMethod, methods.Sublist kRecognizedMethodOrder ∧
          (∀ m, m ∈ methods ↔ router.Dispatches (request.askedWith m)) ∧
          response.headers.lookup (asciiText "allow") =
            some (intercalate kAllowedMethodSeparator (methods.map methodKeyword))) ∧
    (matchedPath request = asciiText "*" →
      ∃ response, router.route routed = .unmatched response ∧ response.status = 404) ∧
    (router.hasStreamingRoute request.method request.uri
        ((request.firstHeaderValueView (asciiText "host")).getD []) = true ↔
      ∃ selection handed, router.route routed =
        .dispatched selection handed ∧ selection.streaming = true) ∧
    (∀ selection handed, router.route routed = .dispatched selection handed →
      handed.request = request ∧ handed.matchedRoute = selection.pattern ∧
      (∀ name, param name handed.params =
        (param name routed.params).or (param name (assignAll
          (patternParameters selection.pattern (matchedPath request)) []))) ∧
      ∃ entry raw, Configures registrations entry raw selection.handler ∧
        normalizedPath raw = selection.pattern ∧
        Accepts request.method entry.method entry.isAnyMethod ∧
        selection.streaming = entry.isStreaming) := by
  intro router request
  have h : (router.matchTable request).Registered (Configures registrations) :=
    matchTable_registered registrations request
  refine ⟨notAllowed_consistent h.recognised, star_notFound h, streaming_consistent h, ?_⟩
  intro selection handed hroute
  obtain ⟨hchosen, rfl⟩ := dispatched_selection hroute
  obtain ⟨hcollected, hentry⟩ := selection_registered h hchosen
  refine ⟨rfl, rfl, ?_, hentry⟩
  intro name
  rw [← hcollected]
  exact param_commitPathParameters routed selection.collected name

/-- With a route for GET alone, OPTIONS for the server as a whole is told
that GET is allowed, and GET with that target is not found. And a parameter
that the request had before stays in the place of the one of the route. -/
theorem router_stands_in_for_server :
    let router := configured [.root .get (asciiText "/") 0, .root .get (asciiText "/u/:id") 1]
    let star : HttpRequest := { method := .options, uri := asciiText "*" }
    (∃ response, router.route { request := star } = .unmatched response ∧ response.status = 405 ∧
      response.headers.lookup (asciiText "allow") = some (asciiText "GET, HEAD")) ∧
    (∃ response, router.route { request := { star with method := .get } } =
      .unmatched response ∧ response.status = 404) ∧
    ∃ selection handed, router.route
        { request := { method := .get, uri := asciiText "/u/5" }
          params := [(asciiText "id", asciiText "9")] } =
      .dispatched selection handed ∧ selection.handler = 1 ∧
      param (asciiText "id") handed.params = some (asciiText "9") := by
  refine ⟨⟨writeNotFoundOrNotAllowed { method := .options } true
      (asciiText "GET, HEAD"), by decide +kernel, by decide +kernel,
      by decide +kernel⟩,
    ⟨writeNotFoundOrNotAllowed { method := .get } false [],
      by decide +kernel, by decide +kernel⟩, ?_⟩
  refine ⟨⟨1, asciiText "/u/:id", false, [(asciiText "id", asciiText "5")]⟩,
    ⟨{ method := .get, uri := asciiText "/u/5" },
      [(asciiText "id", asciiText "9")], asciiText "/u/:id"⟩, ?_, rfl, rfl⟩
  decide +kernel

end AsynGyanis.Http

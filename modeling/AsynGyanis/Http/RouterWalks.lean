import AsynGyanis.Http.Router

/-!
# The walks over the tables of the router

Dispatch walks the routes and does two things on the way: it chooses a route,
and it remembers the methods of those that fit the path. The choice is brought
to one form, `findSome?` in the order of the passes. What is remembered where
nothing is chosen are the methods for which the same walk would choose: this
needs that every route is for a recognised method or for all of them.
-/

namespace AsynGyanis.Http

open List

variable {Handler : Type}

/-! ## Which methods a route serves -/

variable (table : RouteTable Handler) (requestPath : Bytes)
  (method : HttpMethod)
  {scan : Nat → List HttpMethod → List HttpMethod × Option (Selection Handler)}
  (allowed : List HttpMethod)

/-- A route serves the methods it is registered for, HEAD with GET. -/
def Accepts (method routeMethod : HttpMethod) (isAnyMethod : Bool) : Prop := method ≠ .unknown ∧
    (isAnyMethod = true ∨ routeMethod = method ∨ (method = .head ∧ routeMethod = .get))

/-- What a route adds to the methods of its path. -/
def Remembers (routeMethod : HttpMethod) (isAnyMethod : Bool) (method : HttpMethod) : Prop :=
  if isAnyMethod then method ≠ .unknown else method = routeMethod

def passesOf (method : HttpMethod) : List Nat :=
  if method = .head then [0, 1] else [0]

theorem selected_in_some_pass_iff (method routeMethod : HttpMethod) (isAnyMethod : Bool) :
    (∃ pass ∈ passesOf method, isRouteCandidateSelected method
      (method ≠ .unknown) routeMethod isAnyMethod pass) ↔
    Accepts method routeMethod isAnyMethod := by
  cases method <;> cases routeMethod <;> cases isAnyMethod <;>
    simp [passesOf, isRouteCandidateSelected, Accepts]

theorem mem_kRecognizedMethodOrder : method ∈ kRecognizedMethodOrder ↔ method ≠ .unknown := by
  cases method <;> decide

theorem mem_addMissing (more : List HttpMethod) (allowed : List HttpMethod) : method ∈ more.foldl
      (fun allowed recognizedMethod =>
        if allowed.contains recognizedMethod then allowed
        else allowed ++ [recognizedMethod]) allowed ↔
    method ∈ allowed ∨ method ∈ more := by
  induction more generalizing allowed with
  | nil => simp
  | cons first rest ih =>
    rw [foldl_cons, ih, mem_cons]
    split
    · next h =>
        have hmem : first ∈ allowed := by simpa using h
        constructor
        · rintro (h | h)
          · exact .inl h
          · exact .inr (.inr h)
        rintro (h | rfl | h)
        · exact .inl h
        · exact .inl hmem
        · exact .inr h
    · rw [mem_append, mem_singleton, or_assoc]

theorem mem_rememberAllowedMethod (routeMethod method : HttpMethod) (isAnyMethod : Bool) :
    method ∈ rememberAllowedMethod allowed routeMethod isAnyMethod ↔
    method ∈ allowed ∨ Remembers routeMethod isAnyMethod method := by
  rw [rememberAllowedMethod, Remembers]
  split
  · rw [mem_addMissing, mem_kRecognizedMethodOrder]
  split
  · next h =>
      have hmem : routeMethod ∈ allowed := by simpa using h
      constructor
      · exact .inl
      rintro (h | rfl)
      · exact h
      · exact hmem
  · rw [mem_append, mem_singleton]

/-! ## The walks -/

/-- What the walk over the exact routes chooses. -/
def chooseExact (requestPath : Bytes) (method : HttpMethod) (pass : Nat)
    (route : ExactRoute Handler) : Option (Selection Handler) :=
  if isRouteCandidateSelected method (method ≠ .unknown) route.method route.isAnyMethod pass then
    some ⟨route.handler, requestPath, route.streaming, []⟩
  else none

/-- What the walk over the patterns chooses. -/
def choosePattern (requestPath : Bytes) (method : HttpMethod) (pass : Nat)
    (route : PatternRoute Handler) : Option (Selection Handler) :=
  if isRouteCandidateSelected method (method ≠ .unknown) route.method route.isAnyMethod pass then
    (matchesPattern route requestPath).map fun collected =>
      ⟨route.handler, route.pattern, route.streaming, collected⟩
  else none

theorem scanExactRoutes_snd (pass : Nat) (routes : List (ExactRoute Handler))
    (allowed : List HttpMethod) :
    (scanExactRoutes requestPath method pass routes allowed).2 =
    routes.findSome? (chooseExact requestPath method pass) := by
  induction routes generalizing allowed with
  | nil => rfl
  | cons route rest ih =>
    rw [scanExactRoutes, findSome?_cons, chooseExact]
    split
    · rfl
    · exact ih _

theorem scanPatternRoutes_snd (pass : Nat)
    (routes : List (PatternRoute Handler)) (allowed : List HttpMethod) :
    (scanPatternRoutes requestPath method pass routes allowed).2 =
    routes.findSome? (choosePattern requestPath method pass) := by
  induction routes generalizing allowed with
  | nil => rfl
  | cons route rest ih =>
    rw [scanPatternRoutes, findSome?_cons, choosePattern]
    cases hselected : isRouteCandidateSelected method (method ≠ .unknown)
        route.method route.isAnyMethod pass with
    | false =>
      simp only [and_true, Bool.false_eq_true, if_false]
      split
      · exact ih _
      cases matchesPattern route requestPath with
      | none => exact ih _
      | some collected => exact ih _
    | true =>
      simp only [Bool.true_eq_false, and_false, if_false, if_true]
      cases matchesPattern route requestPath with
      | none => exact ih _
      | some collected => rfl

variable {requestPath}

theorem mem_scanExactRoutes {method : HttpMethod}
    {pass : Nat} {routes : List (ExactRoute Handler)} {allowed : List HttpMethod}
    (h : (scanExactRoutes requestPath method pass routes allowed).2 = none) (m : HttpMethod) :
    m ∈ (scanExactRoutes requestPath method pass routes allowed).1 ↔
    m ∈ allowed ∨ (pass = 0 ∧ ∃ r ∈ routes, Remembers r.method r.isAnyMethod m) := by
  induction routes generalizing allowed with
  | nil => simp [scanExactRoutes]
  | cons route rest ih =>
    rw [scanExactRoutes] at h ⊢
    split at h
    · cases h
    rename_i hselected
    rw [if_neg hselected, ih h]
    split
    · next hpass =>
        rw [mem_rememberAllowedMethod, or_assoc]
        simp [hpass]
    · next hpass => simp [hpass]

theorem mem_scanPatternRoutes {method : HttpMethod}
    {pass : Nat} {routes : List (PatternRoute Handler)} {allowed : List HttpMethod}
    (h : (scanPatternRoutes requestPath method pass routes allowed).2 = none) (m : HttpMethod) :
    m ∈ (scanPatternRoutes requestPath method pass routes allowed).1 ↔
    m ∈ allowed ∨
      (pass = 0 ∧ ∃ r ∈ routes, (matchesPattern r requestPath).isSome ∧
        Remembers r.method r.isAnyMethod m) := by
  induction routes generalizing allowed with
  | nil => simp [scanPatternRoutes]
  | cons route rest ih =>
    rw [scanPatternRoutes] at h ⊢
    split at h
    · next hskip =>
        rw [if_pos hskip, ih h]
        simp [hskip.1]
    rename_i hskip
    rw [if_neg hskip]
    cases hmatch : matchesPattern route requestPath with
    | none =>
      rw [hmatch] at h
      rw [ih h]
      simp [hmatch]
    | some collected =>
      rw [hmatch] at h
      dsimp only at h ⊢
      split at h
      · cases h
      rename_i hselected
      rw [if_neg hselected, ih h]
      split
      · next hpass =>
          rw [mem_rememberAllowedMethod, or_assoc]
          simp [hpass, hmatch]
      · next hpass => simp [hpass]

/-! ## The passes -/

theorem scanPasses_snd {choose : Nat → Option (Selection Handler)}
    (hscan : ∀ pass allowed, (scan pass allowed).2 = choose pass)
    (passes : List Nat) (allowed : List HttpMethod) :
    (scanPasses scan passes allowed).2 = passes.findSome? choose := by
  induction passes generalizing allowed with
  | nil => rfl
  | cons pass rest ih =>
    rw [scanPasses, findSome?_cons, ← hscan pass allowed]
    rcases scan pass allowed with ⟨remembered, _ | selection⟩
    · exact ih remembered
    · rfl

theorem mem_scanPasses {P : HttpMethod → Prop}
    (hscan : ∀ pass allowed, (scan pass allowed).2 = none →
      ∀ m, m ∈ (scan pass allowed).1 ↔ m ∈ allowed ∨ (pass = 0 ∧ P m))
    (passes : List Nat) (allowed : List HttpMethod)
    (h : (scanPasses scan passes allowed).2 = none) (m : HttpMethod) :
    m ∈ (scanPasses scan passes allowed).1 ↔
    m ∈ allowed ∨ (0 ∈ passes ∧ P m) := by
  induction passes generalizing allowed with
  | nil => simp [scanPasses]
  | cons pass rest ih =>
    have hone := hscan pass allowed
    rw [scanPasses] at h ⊢
    generalize scan pass allowed = scanned at hone h ⊢
    obtain ⟨remembered, _ | selection⟩ := scanned
    · rw [ih remembered h, hone rfl m, mem_cons, or_assoc, ← or_and_right, eq_comm (a := pass)]
    · cases h

theorem zero_mem_passesOf : 0 ∈ passesOf method := by
  rw [passesOf]
  split <;> simp

/-- A choice among routes over the passes is one among the routes that are
selected in some pass. -/
theorem findSome_passes_isSome_iff {α : Type} (passes : List Nat)
    (routes : List α) (choose : Nat → α → Option (Selection Handler)) :
    (passes.findSome? fun pass => routes.findSome? (choose pass)).isSome ↔
    ∃ r ∈ routes, ∃ pass ∈ passes, (choose pass r).isSome := by
  rw [findSome?_isSome_iff]
  constructor
  · rintro ⟨pass, hpass, h⟩
    rw [findSome?_isSome_iff] at h
    obtain ⟨r, hr, h⟩ := h
    exact ⟨r, hr, pass, hpass, h⟩
  rintro ⟨r, hr, pass, hpass, h⟩
  refine ⟨pass, hpass, ?_⟩
  rw [findSome?_isSome_iff]
  exact ⟨r, hr, h⟩

variable (requestPath)

theorem chooseExact_isSome_iff (route : ExactRoute Handler) :
    (∃ pass ∈ passesOf method, (chooseExact requestPath method pass route).isSome) ↔
    Accepts method route.method route.isAnyMethod := by
  rw [← selected_in_some_pass_iff]
  simp [chooseExact]

theorem choosePattern_isSome_iff (route : PatternRoute Handler) :
    (∃ pass ∈ passesOf method, (choosePattern requestPath method pass route).isSome) ↔
    (matchesPattern route requestPath).isSome ∧ Accepts method route.method route.isAnyMethod := by
  rw [← selected_in_some_pass_iff]
  constructor
  · rintro ⟨pass, hpass, h⟩
    rw [choosePattern] at h
    split at h
    · next hselected =>
        rw [Option.isSome_map] at h
        exact ⟨h, pass, hpass, hselected⟩
    · cases h
  · rintro ⟨hmatch, pass, hpass, hselected⟩
    refine ⟨pass, hpass, ?_⟩
    rw [choosePattern, if_pos hselected, Option.isSome_map]
    exact hmatch

/-! ## Dispatch -/

def RouteTable.chosenExact (table : RouteTable Handler)
    (method : HttpMethod) (requestPath : Bytes) :
    Option (Selection Handler) :=
  (passesOf method).findSome? fun pass =>
    (table.exactRoutes requestPath).findSome? (chooseExact requestPath method pass)

def RouteTable.chosenPattern (table : RouteTable Handler)
    (method : HttpMethod) (requestPath : Bytes) :
    Option (Selection Handler) :=
  (passesOf method).findSome? fun pass =>
    table.patternRoutes.findSome? (choosePattern requestPath method pass)

theorem selectHandlerForMethod_snd (requestPath : Bytes) :
    (table.selectHandlerForMethod method requestPath).2 =
    (table.chosenExact method requestPath).or (table.chosenPattern method requestPath) := by
  have hexact := scanPasses_snd
    (fun pass allowed => scanExactRoutes_snd requestPath method pass
      (table.exactRoutes requestPath) allowed) (passesOf method) []
  have hpattern := scanPasses_snd
    (fun pass allowed => scanPatternRoutes_snd requestPath method pass
      table.patternRoutes allowed) (passesOf method)
  rw [RouteTable.chosenExact, RouteTable.chosenPattern, ← hexact]
  rw [RouteTable.selectHandlerForMethod, ← passesOf]
  cases scanPasses (fun pass => scanExactRoutes requestPath method pass
      (table.exactRoutes requestPath)) (passesOf method) [] with
  | mk remembered selection =>
    cases selection with
    | none => exact hpattern remembered
    | some selection => rfl

/-- The path has a route that serves the method. -/
def RouteTable.Serves (table : RouteTable Handler) (requestPath : Bytes)
    (method : HttpMethod) : Prop :=
  (∃ r ∈ table.exactRoutes requestPath, Accepts method r.method r.isAnyMethod) ∨
  ∃ r ∈ table.patternRoutes, (matchesPattern r requestPath).isSome ∧
    Accepts method r.method r.isAnyMethod

theorem chosen_isSome_iff (requestPath : Bytes) :
    (table.selectHandlerForMethod method requestPath).2.isSome ↔
    table.Serves requestPath method := by
  rw [selectHandlerForMethod_snd, Option.isSome_or, Bool.or_eq_true,
    RouteTable.chosenExact, RouteTable.chosenPattern,
    findSome_passes_isSome_iff, findSome_passes_isSome_iff]
  simp only [chooseExact_isSome_iff, choosePattern_isSome_iff]
  exact Iff.rfl

theorem mem_selectHandlerForMethod {table : RouteTable Handler}
    {method : HttpMethod} {requestPath : Bytes}
    (h : (table.selectHandlerForMethod method requestPath).2 = none)
    (m : HttpMethod) : m ∈ (table.selectHandlerForMethod method requestPath).1 ↔
    (∃ r ∈ table.exactRoutes requestPath, Remembers r.method r.isAnyMethod m) ∨
    ∃ r ∈ table.patternRoutes, (matchesPattern r requestPath).isSome ∧
      Remembers r.method r.isAnyMethod m := by
  have hexact := mem_scanPasses
    (fun pass allowed => @mem_scanExactRoutes _ requestPath method pass
      (table.exactRoutes requestPath) allowed)
    (passesOf method) []
  have hpattern := mem_scanPasses
    (fun pass allowed => @mem_scanPatternRoutes _ requestPath method pass
      table.patternRoutes allowed) (passesOf method)
  rw [RouteTable.selectHandlerForMethod, ← passesOf] at h ⊢
  generalize scanPasses (fun pass => scanExactRoutes requestPath method pass
    (table.exactRoutes requestPath)) (passesOf method) [] = scanned
    at hexact h ⊢
  obtain ⟨remembered, _ | selection⟩ := scanned
  · have hin : m ∈ remembered ↔ ∃ r ∈ table.exactRoutes requestPath,
        Remembers r.method r.isAnyMethod m := by
      rw [hexact rfl m]
      simp [zero_mem_passesOf]
    refine (hpattern remembered h m).trans ?_
    rw [hin]
    simp [zero_mem_passesOf]
  · cases h

/-! ## The list of methods -/

/-- Every route is for a recognised method or for all of them. -/
structure RouteTable.Recognised (table : RouteTable Handler) : Prop where
  exact : ∀ path, ∀ r ∈ table.exactRoutes path, r.isAnyMethod = true ∨ r.method ≠ .unknown
  pattern : ∀ r ∈ table.patternRoutes, r.isAnyMethod = true ∨ r.method ≠ .unknown

theorem accepts_iff_remembers {method routeMethod : HttpMethod} {isAnyMethod : Bool}
    (h : isAnyMethod = true ∨ routeMethod ≠ .unknown) :
    Accepts method routeMethod isAnyMethod ↔
    Remembers routeMethod isAnyMethod method ∨
      (method = .head ∧ Remembers routeMethod isAnyMethod .get) := by
  rw [Accepts, Remembers, Remembers]
  cases isAnyMethod with
  | true => cases method <;> simp
  | false =>
    have hroute : routeMethod ≠ .unknown := by simpa using h
    simp only [Bool.false_eq_true, if_false, false_or]
    constructor
    · rintro ⟨-, h | ⟨hhead, hget⟩⟩
      · exact .inl h.symm
      · exact .inr ⟨hhead, hget.symm⟩
    rintro (h | ⟨hhead, hget⟩)
    · subst h
      exact ⟨hroute, .inl rfl⟩
    refine ⟨?_, .inr ⟨hhead, hget.symm⟩⟩
    rw [hhead]
    decide

theorem mem_withHeadOfGet (m : HttpMethod) : m ∈ withHeadOfGet allowed ↔
    m ∈ allowed ∨ (m = .head ∧ .get ∈ allowed) := by
  rw [withHeadOfGet]
  split
  · next h =>
      have hget : HttpMethod.get ∈ allowed := by
        simp only [Bool.and_eq_true] at h
        simpa using h.1
      simp [hget]
  rename_i h
  constructor
  · exact .inl
  rintro (hm | ⟨rfl, hget⟩)
  · exact hm
  · by_contra hhead
    exact h (by simp [hget, hhead])

theorem mem_allowed_iff {table : RouteTable Handler}
    (hrecognised : table.Recognised) {method : HttpMethod} {requestPath : Bytes}
    (h : (table.selectHandlerForMethod method requestPath).2 = none) (m : HttpMethod) :
    m ∈ withHeadOfGet (table.selectHandlerForMethod method requestPath).1 ↔
    table.Serves requestPath m := by
  have hmem := mem_selectHandlerForMethod h
  rw [mem_withHeadOfGet, hmem, hmem, RouteTable.Serves]
  constructor
  · rintro ((⟨r, hr, h⟩ | ⟨r, hr, hmatch, h⟩) | ⟨hhead, ⟨r, hr, h⟩ | ⟨r, hr, hmatch, h⟩⟩)
    · exact .inl ⟨r, hr, (accepts_iff_remembers (hrecognised.exact _ r hr)).mpr (.inl h)⟩
    · exact .inr ⟨r, hr, hmatch, (accepts_iff_remembers (hrecognised.pattern r hr)).mpr (.inl h)⟩
    · exact .inl ⟨r, hr, (accepts_iff_remembers (hrecognised.exact _ r hr)).mpr (.inr ⟨hhead, h⟩)⟩
    · exact .inr ⟨r, hr, hmatch, (accepts_iff_remembers
        (hrecognised.pattern r hr)).mpr (.inr ⟨hhead, h⟩)⟩
  · rintro (⟨r, hr, h⟩ | ⟨r, hr, hmatch, h⟩)
    · rcases (accepts_iff_remembers (hrecognised.exact _ r hr)).mp h with
        h | ⟨hhead, h⟩
      · exact .inl (.inl ⟨r, hr, h⟩)
      · exact .inr ⟨hhead, .inl ⟨r, hr, h⟩⟩
    rcases (accepts_iff_remembers (hrecognised.pattern r hr)).mp h with
      h | ⟨hhead, h⟩
    · exact .inl (.inr ⟨r, hr, hmatch, h⟩)
    · exact .inr ⟨hhead, .inr ⟨r, hr, hmatch, h⟩⟩

theorem mem_withHeadOfGet_of_ne_nil {allowed : List HttpMethod}
    (h : allowed ≠ []) : ∃ m, m ∈ withHeadOfGet allowed := by
  obtain ⟨m, hm⟩ := exists_mem_of_ne_nil allowed h
  exact ⟨m, (mem_withHeadOfGet allowed m).mpr (.inl hm)⟩

theorem methodKeyword_ne_nil {m : HttpMethod} (h : m ≠ .unknown) : methodKeyword m ≠ [] := by
  cases m <;> first | exact absurd rfl h | decide

def joinStep (allowedMethodSet : List HttpMethod) (allowedMethods : Bytes)
    (recognizedMethod : HttpMethod) : Bytes :=
  if !allowedMethodSet.contains recognizedMethod then allowedMethods
  else if allowedMethods ≠ [] then
    allowedMethods ++ kAllowedMethodSeparator ++ methodKeyword recognizedMethod
  else allowedMethods ++ methodKeyword recognizedMethod

theorem intercalate_append {sep : Bytes} {front back : List Bytes}
    (hfront : front ≠ []) (hback : back ≠ []) :
    intercalate sep (front ++ back) =
    intercalate sep front ++ sep ++ intercalate sep back := by
  induction front with
  | nil => exact absurd rfl hfront
  | cons first rest ih =>
    by_cases hrest : rest = []
    · subst hrest
      rw [singleton_append, intercalate_cons_of_ne_nil hback, intercalate_singleton]
    · rw [cons_append, intercalate_cons_of_ne_nil (by simp [hrest]),
        ih hrest, intercalate_cons_of_ne_nil hrest]
      simp

theorem intercalate_ne_nil {sep : Bytes} {texts : List Bytes}
    (htexts : texts ≠ []) (h : ∀ text ∈ texts, text ≠ []) : intercalate sep texts ≠ [] := by
  cases texts with
  | nil => exact absurd rfl htexts
  | cons first rest =>
    cases first with
    | nil => exact absurd rfl (h [] mem_cons_self)
    | cons c text =>
      cases rest <;> simp

theorem foldl_joinStep (rest done : List HttpMethod)
    (hknown : ∀ m ∈ done ++ rest, m ≠ .unknown) : rest.foldl (joinStep allowed)
      (intercalate kAllowedMethodSeparator (done.map methodKeyword)) =
    intercalate kAllowedMethodSeparator
      ((done ++ rest.filter (allowed.contains ·)).map methodKeyword) := by
  induction rest generalizing done with
  | nil => simp
  | cons m rest ih =>
    rw [foldl_cons, filter_cons, joinStep]
    cases hm : allowed.contains m with
    | false =>
      refine ih done ?_
      intro m' hm'
      refine hknown m' ?_
      rcases mem_append.mp hm' with h | h
      · exact mem_append_left _ h
      · exact mem_append_right _ (mem_cons_of_mem _ h)
    | true =>
      simp only [Bool.not_true, Bool.false_eq_true, if_false, if_true]
      have hnext := ih (done ++ [m]) (by
        rw [append_assoc]
        exact hknown)
      rw [append_assoc, singleton_append, map_append, map_singleton] at hnext
      rw [← hnext]
      cases done with
      | nil => rw [if_neg (by simp)]; simp
      | cons first done =>
        have hne : intercalate kAllowedMethodSeparator
            ((first :: done).map methodKeyword) ≠ [] := by
          refine intercalate_ne_nil (by simp) ?_
          intro text htext
          obtain ⟨m', hm', rfl⟩ := mem_map.mp htext
          exact methodKeyword_ne_nil (hknown m' (mem_append_left _ hm'))
        rw [if_pos hne, intercalate_append (by simp) (cons_ne_nil _ _), intercalate_singleton]

theorem joinAllowedMethods_eq : joinAllowedMethods allowed = intercalate kAllowedMethodSeparator
      ((kRecognizedMethodOrder.filter (allowed.contains ·)).map methodKeyword) := by
  refine foldl_joinStep allowed kRecognizedMethodOrder [] ?_
  intro m hm
  exact (mem_kRecognizedMethodOrder m).mp hm

end AsynGyanis.Http

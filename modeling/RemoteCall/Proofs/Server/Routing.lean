import Mathlib.Data.List.Induction
import RemoteCall.Server.Routing

/-!
# What paths lead to

A router is made by a `Plan`: a first codec and steps, each of which switches the codec or adds a
route. The routers of several plans are added to a server one after the other. Of the entries of
one name the last counts, for services as for routes (`IsLast`), and a route keeps the codec that
was in force before it was added (`Plan.codecBefore`). A path `/service/method` leads to the last
such route of the last such plan, and no other path leads anywhere (`Server.routes_by`).
-/

namespace RemoteCall.Server

/-! ### Paths -/

/-- A path in two parts, neither of which is empty or holds a slash. -/
structure IsPath (path service method : String) : Prop where
  joined : path = "/" ++ service ++ "/" ++ method
  service_ne : service ≠ ""
  method_ne : method ≠ ""
  service_plain : '/' ∉ service.toList
  method_plain : '/' ∉ method.toList

theorem cutAtSlash?_eq_some {text before after : List Char} :
    cutAtSlash? text = some (before, after) ↔ text = before ++ '/' :: after ∧ '/' ∉ before := by
  induction text generalizing before with
  | nil => simp [cutAtSlash?]
  | cons c rest ih =>
    by_cases slash : c = '/'
    · -- A slash at once: nothing can stand before it.
      cases before with
      | nil => simp [cutAtSlash?, slash, eq_comm]
      | cons d before =>
        simp only [cutAtSlash?, if_pos slash]
        constructor
        · intro cut
          cases cut
        · rintro ⟨joined, plain⟩
          cases joined
          simp [slash] at plain
    · cases before with
      | nil =>
        simp only [cutAtSlash?, if_neg slash]
        constructor
        · intro cut
          split at cut <;> cases cut
        · rintro ⟨joined, -⟩
          cases joined
          exact absurd rfl slash
      | cons d before =>
        have deeper : cutAtSlash? (c :: rest) = some (d :: before, after) ↔
            c = d ∧ cutAtSlash? rest = some (before, after) := by
          simp only [cutAtSlash?, if_neg slash]
          cases cutAtSlash? rest with
          | none => simp
          | some cut => simp [Prod.ext_iff, and_assoc]
        rw [deeper, ih]
        constructor
        · rintro ⟨rfl, rfl, plain⟩
          exact ⟨rfl, by simp [plain, Ne.symm slash]⟩
        · rintro ⟨joined, plain⟩
          cases joined
          exact ⟨rfl, rfl, fun member => plain (List.mem_cons_of_mem _ member)⟩

/-- A path is split just where it has two parts. -/
theorem splitPath?_eq_some {path service method : String} :
    splitPath? path = some (service, method) ↔ IsPath path service method := by
  constructor
  · intro split
    unfold splitPath? at split
    split at split
    · rename_i rest text
      split at split
      · rename_i before after cut
        obtain ⟨joined, plain⟩ := cutAtSlash?_eq_some.mp cut
        split at split
        · cases split
        · rename_i valid
          cases split
          simp only [Bool.or_eq_true, decide_eq_true_eq, List.contains_eq_mem, not_or] at valid
          refine ⟨?_, ?_, ?_, ?_, ?_⟩
          · rw [← String.toList_inj, text, joined]
            simp
          · simpa using valid.1.1
          · simpa using valid.1.2
          · simpa using plain
          · simpa using valid.2
      · cases split
    · cases split
  · intro isPath
    have text : path.toList = '/' :: (service.toList ++ '/' :: method.toList) := by
      rw [isPath.joined]
      simp
    have cut : cutAtSlash? (service.toList ++ '/' :: method.toList) =
        some (service.toList, method.toList) :=
      cutAtSlash?_eq_some.mpr ⟨rfl, isPath.service_plain⟩
    simp [splitPath?, text, cut, isPath.service_ne, isPath.method_ne, isPath.method_plain]

/-! ### The last of several entries -/

/-- This entry is the last one with a property, and others come before it. -/
def IsLast {α : Type} (p : α → Prop) (all before : List α) (entry : α) : Prop :=
  ∃ after, all = before ++ entry :: after ∧ p entry ∧ ∀ other ∈ after, ¬ p other

theorem not_isLast_nil {α : Type} {p : α → Prop} {before : List α} {entry : α} :
    ¬ IsLast p [] before entry := by
  rintro ⟨after, joined, -⟩
  simp at joined

/-- One more entry is the last, if it has the property, and else changes nothing. -/
theorem isLast_concat {α : Type} {p : α → Prop} {all before : List α} {entry next : α} :
    IsLast p (all ++ [next]) before entry ↔
      (p next ∧ before = all ∧ entry = next) ∨ (¬ p next ∧ IsLast p all before entry) := by
  constructor
  · rintro ⟨after, joined, holds, none⟩
    rcases List.eq_nil_or_concat after with rfl | ⟨earlier, last, rfl⟩
    · obtain ⟨rfl, same⟩ := List.append_inj' joined rfl
      cases same
      exact Or.inl ⟨holds, rfl, rfl⟩
    · rw [List.concat_eq_append, ← List.cons_append, ← List.append_assoc] at joined
      obtain ⟨rfl, same⟩ := List.append_inj' joined rfl
      cases same
      exact Or.inr ⟨none next (by simp), earlier, rfl, holds,
        fun other member => none other (by simp [member])⟩
  · rintro (⟨holds, rfl, rfl⟩ | ⟨fails, after, rfl, holds, none⟩)
    · exact ⟨[], rfl, holds, by simp⟩
    · refine ⟨after ++ [next], by simp, holds, fun other member => ?_⟩
      rcases List.mem_append.mp member with earlier | last
      · exact none other earlier
      · rw [List.mem_singleton.mp last]
        exact fails

/-! ### Routers -/

variable {K R : Type}

/-- A step in the making of a router. -/
inductive Building (K R : Type) where
  | withCodec (codec : K)
  | route (method : String) (route : R)

/-- How a router is made. -/
structure Plan (K R : Type) where
  name : String
  /-- The codec in force at first. -/
  codec : K
  steps : List (Building K R) := []

namespace Building

def codec? : Building K R → Option K
  | withCodec codec => some codec
  | route _ _ => none

/-- The method under which a step adds a route. -/
def method? : Building K R → Option String
  | withCodec _ => none
  | route method _ => some method

end Building

def Router.build (router : Router K R) : Building K R → Router K R
  | .withCodec codec => router.withCodec codec
  | .route method route => router.route method route

namespace Plan

def router (plan : Plan K R) : Router K R :=
  plan.steps.foldl Router.build { name := plan.name, codec := plan.codec }

/-- The codec in force behind some first steps: that of the last switch among them. -/
def codecBehind (plan : Plan K R) (first : List (Building K R)) : K :=
  (first.filterMap Building.codec?).getLast?.getD plan.codec

/-- One more step at the end. -/
def further (plan : Plan K R) (step : Building K R) : Plan K R :=
  { plan with steps := plan.steps ++ [step] }

/-- A plan is made step by step. -/
@[elab_as_elim]
theorem induction {motive : Plan K R → Prop} (bare : ∀ name codec, motive { name, codec })
    (further : ∀ plan step, motive plan → motive (plan.further step)) (plan : Plan K R) :
    motive plan := by
  obtain ⟨name, codec, steps⟩ := plan
  induction steps using List.reverseRecOn with
  | nil => exact bare name codec
  | append_singleton steps step kept => exact further ⟨name, codec, steps⟩ step kept

theorem router_further (plan : Plan K R) (step : Building K R) :
    (plan.further step).router = plan.router.build step := by
  simp [router, further]

theorem router_name (plan : Plan K R) : plan.router.name = plan.name := by
  induction plan using induction with
  | bare name codec => rfl
  | further plan step kept =>
    rw [router_further]
    cases step <;> exact kept

theorem router_codec (plan : Plan K R) : plan.router.codec = plan.codecBehind plan.steps := by
  induction plan using induction with
  | bare name codec => rfl
  | further plan step kept =>
    rw [router_further]
    cases step with
    | withCodec codec =>
      simp [Router.build, Router.withCodec, codecBehind, further, Building.codec?]
    | route method route =>
      simp [Router.build, Router.route, kept, codecBehind, further, Building.codec?]

/-- A method has the last route that was added for it, with the codec in force before that. -/
theorem lookup?_router {plan : Plan K R} {method : String} {route : R} {codec : K} :
    lookup? plan.router.methods method = some (route, codec) ↔
      ∃ before, IsLast (fun step => step.method? = some method) plan.steps before
        (.route method route) ∧ codec = plan.codecBehind before := by
  induction plan using induction with
  | bare name first => simp [router, lookup?, not_isLast_nil]
  | further plan step ih =>
    rw [router_further]
    simp only [further, isLast_concat]
    cases step with
    | withCodec next =>
      simp only [Building.method?, reduceCtorEq, false_and, false_or, not_false_eq_true, true_and]
      exact ih
    | route other next =>
      by_cases same : method = other
      · subst same
        have added : (plan.router.build (.route method next)).methods =
            register plan.router.methods method (next, plan.router.codec) := rfl
        rw [added, lookup?_register_self, router_codec]
        constructor
        · intro found
          cases found
          exact ⟨plan.steps, Or.inl ⟨rfl, rfl, rfl⟩, rfl⟩
        · rintro ⟨before, ⟨-, rfl, same⟩ | ⟨absurd, -⟩, rfl⟩
          · cases same
            rfl
          · exact (absurd rfl).elim
      · have added : (plan.router.build (.route other next)).methods =
            register plan.router.methods other (next, plan.router.codec) := rfl
        have differs : ¬ other = method := Ne.symm same
        rw [added, lookup?_register_of_ne _ same, ih]
        simp only [Building.method?, Option.some.injEq, differs, false_and, false_or,
          not_false_eq_true, true_and]
        exact Iff.rfl

end Plan

/-! ### Servers -/

/-- The server with the routers of some plans, added in order. -/
def ofPlans (config : ServerConfig) (plans : List (Plan K R)) : Server K R :=
  plans.foldl (fun server plan => server.add plan.router) { config }

theorem ofPlans_concat (config : ServerConfig) (plans : List (Plan K R)) (plan : Plan K R) :
    ofPlans config (plans ++ [plan]) = (ofPlans config plans).add plan.router := by
  simp [ofPlans]

/-- A service has the last router of its name. -/
theorem lookup?_ofPlans {config : ServerConfig} {plans : List (Plan K R)} {service : String}
    {router : Router K R} :
    lookup? (ofPlans config plans).services service = some router ↔
      ∃ before plan, IsLast (fun plan => plan.name = service) plans before plan ∧
        router = plan.router := by
  induction plans using List.reverseRecOn with
  | nil => simp [ofPlans, lookup?, not_isLast_nil]
  | append_singleton plans plan ih =>
    have added : (ofPlans config (plans ++ [plan])).services =
        register (ofPlans config plans).services plan.name plan.router := by
      rw [ofPlans_concat, ← plan.router_name]
      rfl
    simp only [isLast_concat]
    rw [added]
    by_cases same : service = plan.name
    · subst same
      rw [lookup?_register_self]
      constructor
      · intro found
        cases found
        exact ⟨plans, plan, Or.inl ⟨rfl, rfl, rfl⟩, rfl⟩
      · rintro ⟨before, other, ⟨-, rfl, rfl⟩ | ⟨absurd, -⟩, rfl⟩
        · rfl
        · exact (absurd rfl).elim
    · have differs : ¬ plan.name = service := Ne.symm same
      rw [lookup?_register_of_ne _ same, ih]
      simp only [differs, false_and, false_or, not_false_eq_true, true_and]

/-- A path leads to a route: its service is that of the last plan of this name, its method that of
the last route of this name there, and the codec the one in force before that route was added. -/
def Leads (plans : List (Plan K R)) (path : String) (route : R) (codec : K) : Prop :=
  ∃ service method, IsPath path service method ∧
    ∃ others plan, IsLast (fun plan => plan.name = service) plans others plan ∧
      ∃ before, IsLast (fun step => step.method? = some method) plan.steps before
        (.route method route) ∧ codec = plan.codecBehind before

theorem handle?_eq_some {config : ServerConfig} {plans : List (Plan K R)} {path : String}
    {route : R} {codec : K} :
    (ofPlans config plans).handle? path = some (route, codec) ↔ Leads plans path route codec := by
  constructor
  · intro handled
    unfold handle? at handled
    split at handled
    · rename_i service method split
      split at handled
      · rename_i router registered
        obtain ⟨others, plan, last, rfl⟩ := lookup?_ofPlans.mp registered
        exact ⟨service, method, splitPath?_eq_some.mp split, others, plan, last,
          Plan.lookup?_router.mp handled⟩
      · cases handled
    · cases handled
  · rintro ⟨service, method, isPath, others, plan, last, added⟩
    have split := splitPath?_eq_some.mpr isPath
    have registered : lookup? (ofPlans config plans).services service = some plan.router :=
      lookup?_ofPlans.mpr ⟨others, plan, last, rfl⟩
    simp only [handle?, split, registered]
    exact Plan.lookup?_router.mpr added

/-- A server finds for each path where it leads, and answers a path that leads nowhere only when it
dispatches it. -/
structure RoutesBy (server : Server K R) (plans : List (Plan K R)) : Prop where
  handled : ∀ path route codec,
    server.handle? path = some (route, codec) ↔ Leads plans path route codec
  /-- Nothing is sent for a path that leads somewhere. -/
  found : ∀ path route codec, Leads plans path route codec →
    ∀ {T α : Type} (send : T → ResponsePart α → T) (transport : T),
      server.dispatch send path transport = (some (route, codec), transport)
  /-- One part is sent for any other path, and it ends the call. -/
  lost : ∀ path, (∀ route codec, ¬ Leads plans path route codec) →
    server.handle? path = none ∧
    ∀ {T α : Type} (send : T → ResponsePart α → T) (transport : T),
      server.dispatch send path transport =
        (none, send transport (.finish ⟨.unimplemented, some "method not found"⟩ .empty))

/-- Paths are split exactly, and a server goes by the plans of its routers. -/
theorem routes_by (config : ServerConfig) (plans : List (Plan K R)) :
    (∀ path service method,
      splitPath? path = some (service, method) ↔ IsPath path service method) ∧
    (ofPlans config plans).RoutesBy plans := by
  refine ⟨fun _ _ _ => splitPath?_eq_some, fun _ _ _ => handle?_eq_some, ?_, ?_⟩
  · intro path route codec leads T α send transport
    simp [dispatch, handle?_eq_some.mpr leads]
  · intro path nowhere
    have unhandled : (ofPlans config plans).handle? path = none := by
      cases handled : (ofPlans config plans).handle? path with
      | none => rfl
      | some found => exact absurd (handle?_eq_some.mp handled) (nowhere found.1 found.2)
    refine ⟨unhandled, fun send transport => ?_⟩
    simp [dispatch, unhandled, notFound]

/-- A codec that comes later leaves a route alone, a route that comes later replaces it. -/
example :
    (ofPlans {} [⟨"s", "json", [.route "m" 1, .withCodec "raw", .route "n" 2, .withCodec "json"]⟩,
      ⟨"t", "json", [.route "m" 3, .route "m" 4]⟩]).handle? <$> ["/s/m", "/s/n", "/t/m", "/s/o",
      "/s/m/", "s/m"] =
      [some (1, "json"), some (2, "raw"), some (4, "json"), none, none, none] := by
  decide

end RemoteCall.Server

import Gatehouse.Http.Server
import Gatehouse.Proofs.Service.Run

/-!
# What pages of other origins are told

The headers for pages of other origins are set last and disturb no others, and they depend on no more of a
request than the origin that it names and whether it brings cookies.
-/

namespace Gatehouse.Http

open Run

/-! ## Headers -/

section
variable {name value other : String} {headers : List (String × String)}

theorem lookup_cons_ite (first : String × String) (rest : List (String × String)) :
    (first :: rest).lookup other = if other = first.1 then some first.2 else rest.lookup other := by
  by_cases h : other = first.1
  · rw [List.lookup_cons, beq_iff_eq.mpr h, if_pos h]
  · rw [List.lookup_cons, beq_eq_false_iff_ne.mpr h, if_neg h]

theorem lookup_filter_ne (h : other ≠ name) (headers : List (String × String)) :
    (headers.filter (·.1 != name)).lookup other = headers.lookup other := by
  induction headers with
  | nil => rfl
  | cons first rest ih =>
    rw [List.filter_cons]
    by_cases hfirst : first.1 = name
    · simp [hfirst, h, ih, lookup_cons_ite]
    · simp [hfirst, ih, lookup_cons_ite]

theorem lookup_setHeader : (setHeader name value headers).lookup other =
    if other = name then some value else headers.lookup other := by
  induction headers with
  | nil => exact lookup_cons_ite (name, value) []
  | cons first rest ih =>
    rw [setHeader]
    by_cases hfirst : first.1 = name
    · by_cases h : other = name
      · simp [hfirst, h]
      · simp [hfirst, h, lookup_cons_ite, lookup_filter_ne h]
    · have hlater : (first.1 == name) = false := beq_eq_false_iff_ne.mpr hfirst
      rw [hlater, if_neg Bool.false_ne_true, lookup_cons_ite, lookup_cons_ite, ih]
      by_cases h : other = name
      · rw [h, if_neg (Ne.symm hfirst), if_pos rfl, if_pos rfl]
      · rw [if_neg h, if_neg h]

theorem lookup_addVary (h : other ≠ "vary") : (addVary name headers).lookup other = headers.lookup other := by
  unfold addVary
  split <;> rw [lookup_setHeader, if_neg h]

end

/-! ## Responses -/

namespace Cors

def markNames : List String :=
  ["access-control-allow-origin", "access-control-allow-credentials", "vary"]

section
variable {c : Cors} {r r₁ r₂ : Request} {response : Response}

@[simp] theorem status_answer : (c.answer r response).status = response.status := by
  unfold answer
  split <;> rfl

@[simp] theorem body_answer : (c.answer r response).body = response.body := by
  unfold answer
  split <;> rfl

@[simp] theorem setCookies_answer : (c.answer r response).setCookies = response.setCookies := by
  unfold answer
  split <;> rfl

theorem mem_simpleHeaders {h : String × String} (hh : h ∈ c.simpleHeaders) : h.1 ∈ markNames := by
  unfold simpleHeaders credentialHeader at hh
  rw [List.mem_append] at hh
  rcases hh with hh | hh <;> split at hh <;> simp_all [markNames]

theorem lookup_foldl_setHeader {name : String} {marks : List (String × String)} (hfree : ∀ h ∈ marks, h.1 ≠ name)
    (headers : List (String × String)) :
    (marks.foldl (fun headers h => setHeader h.1 h.2 headers) headers).lookup name = headers.lookup name := by
  induction marks generalizing headers with
  | nil => rfl
  | cons first rest ih =>
    rw [List.foldl_cons, ih fun h hh => hfree h (List.mem_cons_of_mem _ hh), lookup_setHeader,
      if_neg (hfree first List.mem_cons_self).symm]

theorem lookup_mark {name : String} (h : name ∉ markNames) (origin : String) (cookies : Bool)
    (headers : List (String × String)) : (c.mark origin cookies headers).lookup name = headers.lookup name := by
  have hsimple : ∀ mark ∈ c.simpleHeaders, mark.1 ≠ name := fun mark hmark heq => h (heq ▸ mem_simpleHeaders hmark)
  have horigin : name ≠ "access-control-allow-origin" := by
    rintro rfl
    exact h (by decide)
  have hvary : name ≠ "vary" := by
    rintro rfl
    exact h (by decide)
  unfold mark
  split
  · rw [lookup_addVary hvary, lookup_setHeader, if_neg horigin, lookup_foldl_setHeader hsimple]
  · exact lookup_foldl_setHeader hsimple _

/-- All other headers are left as they are. -/
theorem lookup_answer {name : String} (h : name ∉ markNames) :
    (c.answer r response).headers.lookup name = response.headers.lookup name := by
  unfold answer
  split
  · rfl
  · exact lookup_mark h _ _ _

/-- Two requests that name the same origin or none. Where every origin is admitted, both bring cookies or
neither does. -/
structure Alike (c : Cors) (r₁ r₂ : Request) : Prop where
  origin : r₁.header? "origin" = r₂.header? "origin"
  cookies : c.admitsAll = true → (r₁.header? "cookie").isSome = (r₂.header? "cookie").isSome

theorem Alike.answer (h : c.Alike r₁ r₂) (response : Response) : c.answer r₁ response = c.answer r₂ response := by
  unfold Cors.answer
  rw [h.origin]
  split
  · rfl
  · have hmark : ∀ origin headers, c.mark origin (r₁.header? "cookie").isSome headers =
        c.mark origin (r₂.header? "cookie").isSome headers := by
      intro origin headers
      unfold mark mirrors
      cases hall : c.admitsAll with
      | true => rw [h.cookies hall]
      | false => rfl
    rw [hmark]

/-! ## Preflights -/

theorem preflight?_eq_none (h : r.method ≠ "OPTIONS") : c.preflight? r = none := by
  unfold preflight?
  split
  · rw [if_neg (by simpa using h)]
  · rfl

end

end Cors

/-! ## Serving -/

section
variable {settings : Settings} {r : Request} {s t : Service}

theorem method_of_found {route : Route} (h : resolve r = .found route) : r.method = route.method := by
  unfold resolve at h
  split at h
  · rename_i found hfound
    cases h
    have hboth := List.find?_some hfound
    simp only [Bool.and_eq_true, beq_iff_eq] at hboth
    exact hboth.2.symm
  · split at h
    · cases h
    · split at h <;> cases h

theorem Route.method_ne_options (route : Route) : route.method ≠ "OPTIONS" := by
  cases route <;> decide

/-- A request that leads to an operation is no preflight. -/
theorem preflight?_of_found {route : Route} (h : resolve r = .found route) (c : Cors) : c.preflight? r = none :=
  Cors.preflight?_eq_none (method_of_found h ▸ route.method_ne_options)

theorem handle_found {route : Route} (h : resolve r = .found route) :
    handle settings r = perform settings r route := by
  unfold handle
  rw [h]

theorem serve_eq (h : settings.cors.preflight? r = none) (s : Service) : serve settings r s =
    match (handle settings r).exec s with
    | (.ok response, t) => ((settings.cors.answer r response, none), t)
    | (.error failure, t) => ((.crashed, some failure), t) := by
  unfold serve
  rw [h]
  rfl

theorem serve_eq_ok_iff (h : settings.cors.preflight? r = none) {shown : Response} :
    serve settings r s = ((shown, none), t) ↔
      ∃ response, (handle settings r).exec s = (.ok response, t) ∧ settings.cors.answer r response = shown := by
  rw [serve_eq h]
  rcases (handle settings r).exec s with ⟨failure | answered, u⟩
  · simp
  · constructor
    · intro heq
      cases heq
      exact ⟨answered, rfl, rfl⟩
    · rintro ⟨response, heq, rfl⟩
      cases heq
      rfl

/-- A preflight is answered without an operation, as a request that leads nowhere is. -/
theorem serve_state (settings : Settings) (r : Request) (s : Service) :
    (serve settings r s).2 = ((handle settings r).exec s).2 := by
  cases h : settings.cors.preflight? r with
  | none =>
    rw [serve_eq h]
    rcases (handle settings r).exec s with ⟨_ | _, t⟩ <;> rfl
  | some response =>
    have hserve : serve settings r s = ((response, none), s) := by
      unfold serve
      rw [h]
    have hnowhere : ∀ route, resolve r ≠ .found route := by
      intro route hroute
      rw [preflight?_of_found hroute] at h
      cases h
    rw [hserve]
    unfold handle
    split
    · exact absurd ‹_› (hnowhere _)
    · rfl
    · rfl
    · rfl

end

end Gatehouse.Http

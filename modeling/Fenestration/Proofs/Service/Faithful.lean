import Fenestration.Proofs.Service.Bodies
import Fenestration.Proofs.Service.Kept
import Fenestration.Proofs.Service.Literals
import Fenestration.Proofs.Service.Paths

/-!
# The service and the core

The service rejects a misshapen body with its problems, but fails itself where it has to show a
number without a literal; any other body it answers with exactly what the core makes of the project
that the body itself describes (`answer_faithful`).
-/

namespace Fenestration

theorem DocumentKind.ofName?_eq_none_iff (name : String) :
    ofName? name = none ↔ name ∉ ["customer", "sales", "production"] := by
  rw [ofName?, List.find?_eq_none]
  constructor
  · intro h hname
    simp only [List.mem_cons, List.not_mem_nil, or_false] at hname
    rcases hname with rfl | rfl | rfl
    · exact h .customer (by decide) (by decide)
    · exact h .sales (by decide) (by decide)
    · exact h .production (by decide) (by decide)
  · intro h kind _ hkind
    apply h
    rw [← of_decide_eq_true hkind]
    cases kind <;> decide

namespace Service

/-- What the core makes of a project: its estimate, its work order or a document, with null for
every number without a literal.  There is no document of another name. -/
def coreResponse (pricing : Pricing Binary64) (project : Project Binary64) : Product → Response
  | .calculate => ⟨200, finiteJson (project.estimate pricing).toJson⟩
  | .production =>
      ⟨200, finiteJson (.object
        [("openings", workOrderJson (project.workOrder pricing.timberDeduction))])⟩
  | .document name =>
      match DocumentKind.ofName? name with
      | some kind => ⟨200, finiteJson (project.document pricing kind).toJson⟩
      | none => ⟨400, .object [("detail", .text "Invalid document type")]⟩

section Core

variable {pricing : Pricing Binary64} {project : Project Binary64} {product : Product}

theorem coreResponse_of_kind {name : String} {kind : DocumentKind}
    (h : DocumentKind.ofName? name = some kind) :
    coreResponse pricing project (.document name) =
      ⟨200, finiteJson (project.document pricing kind).toJson⟩ := by
  rw [coreResponse, h]

theorem coreResponse_of_unknown {name : String} (h : DocumentKind.ofName? name = none) :
    coreResponse pricing project (.document name) = Product.refusal (.document name) := by
  rw [coreResponse, h]
  rfl

theorem coreResponse_status (pricing : Pricing Binary64) (project : Project Binary64)
    (product : Product) :
    (coreResponse pricing project product).status = 200 ∨
      (coreResponse pricing project product).status = 400 := by
  cases product with
  | calculate => exact .inl rfl
  | production => exact .inl rfl
  | document name =>
    cases hkind : DocumentKind.ofName? name with
    | some kind =>
      rw [coreResponse_of_kind hkind]
      exact .inl rfl
    | none =>
      rw [coreResponse_of_unknown hkind]
      exact .inr rfl

theorem coreResponse_refused_iff :
    (coreResponse pricing project product).status = 400 ↔
      ∃ name, product = .document name ∧ name ∉ ["customer", "sales", "production"] := by
  cases product with
  | calculate => simp [coreResponse]
  | production => simp [coreResponse]
  | document name =>
    have hname := DocumentKind.ofName?_eq_none_iff name
    cases hkind : DocumentKind.ofName? name with
    | some kind =>
      rw [coreResponse_of_kind hkind]
      constructor
      · intro hstatus
        simp at hstatus
      · rintro ⟨_, hproduct, hunknown⟩
        cases hproduct
        rw [hname.mpr hunknown] at hkind
        cases hkind
    | none =>
      rw [coreResponse_of_unknown hkind]
      exact ⟨fun _ => ⟨name, rfl, hname.mp hkind⟩, fun _ => rfl⟩

end Core

/-! ## Rejected bodies -/

theorem respond_of_isSendable (status : Nat) {value : Json} (h : isSendable value = true) :
    respond status value = ⟨status, value⟩ := by
  rw [respond, if_pos h]

theorem respond_of_not_isSendable (status : Nat) {value : Json} (h : isSendable value ≠ true) :
    respond status value = internalError := by
  rw [respond, if_neg h]

-- Of a problem only the value that has it may hold a number without a literal.
theorem isSendable_problem (problem : Problem) (input : Json) :
    isSendable (problem.toJson [("input", input)]) = isSendable input := by
  have hpath : itemsSendable (problem.path.map Step.toJson) = true := by
    rw [itemsSendable_iff, List.forall_mem_map]
    intro step _
    cases step <;> rfl
  have hfields : isSendable (problem.toJson [("input", input)]) =
      (true && (itemsSendable (problem.path.map Step.toJson) &&
        (true && (isSendable input && true)))) := rfl
  rw [hfields, hpath]
  simp only [Bool.true_and, Bool.and_true]

/-- Whether a rejection can be written. -/
theorem isSendable_rejection {problems : List BodyProblem} :
    isSendable (.object [("detail", .list (problems.map fun p =>
        p.problem.toJson [("input", shownJson p.input)]))]) = true ↔
      ∀ p ∈ problems, ¬ ShowsNonFinite p.input := by
  rw [isSendable, fieldsSendable, isSendable, fieldsSendable, Bool.and_true, itemsSendable_iff,
    List.forall_mem_map]
  simp only [isSendable_problem, isSendable_shownJson_iff]

section Rejected

variable {pricing : Pricing Binary64} {product : Product} {body : Option Json}

theorem answerBody_of_misshapen (h : Misshapen body) :
    ∃ problems, answerBody pricing body product = rejectBody problems ∧
      ∀ value, Misplaced body value ↔ ∃ p ∈ problems, p.input = value := by
  obtain ⟨problems, hread⟩ := fails_of_misshapen h
  refine ⟨problems, ?_, fun value => ?_⟩
  · rw [answerBody, hread]
  · rw [← mem_inputs_readBody, hread]
    exact List.mem_map

-- A body is rejected unless a misplaced value cannot be shown.
theorem answerBody_of_shown (h : Misshapen body)
    (hshown : ∀ value, Misplaced body value → ¬ ShowsNonFinite value) :
    (answerBody pricing body product).status = 422 := by
  obtain ⟨problems, hanswer, hinputs⟩ := answerBody_of_misshapen h
  have hsendable := isSendable_rejection.mpr fun p hp =>
    hshown p.input ((hinputs _).mpr ⟨p, hp, rfl⟩)
  rw [hanswer, rejectBody, respond_of_isSendable _ hsendable]

theorem answerBody_of_not_shown {value : Json} (hvalue : Misplaced body value)
    (h : ShowsNonFinite value) : answerBody pricing body product = internalError := by
  obtain ⟨problems, hanswer, hinputs⟩ := answerBody_of_misshapen ⟨value, hvalue⟩
  obtain ⟨p, hp, rfl⟩ := (hinputs value).mp hvalue
  rw [hanswer, rejectBody]
  exact respond_of_not_isSendable _ fun hsendable => isSendable_rejection.mp hsendable p hp h

-- Parts of a value that can be sent can be sent.
theorem Misplaced.isSendable {value : Json} (h : Misplaced body value)
    (hbody : body.all Service.isSendable = true) : Service.isSendable value = true := by
  cases h with
  | absent => rfl
  | body => exact hbody
  | rooms hrooms => exact isSendable_of_lookup hbody hrooms
  | room hrooms hroom =>
    exact itemsSendable_iff.mp (isSendable_of_lookup hbody hrooms) _ hroom
  | openings hrooms hroom hopenings =>
    have hroomFields := itemsSendable_iff.mp (isSendable_of_lookup hbody hrooms) _ hroom
    exact isSendable_of_lookup hroomFields hopenings
  | opening hrooms hroom hopenings hopening =>
    have hroomFields := itemsSendable_iff.mp (isSendable_of_lookup hbody hrooms) _ hroom
    exact itemsSendable_iff.mp (isSendable_of_lookup hroomFields hopenings) _ hopening

end Rejected

/-! ## Loaded bodies -/

section Loaded

variable {pricing : Pricing Binary64} {project : Project Binary64} {product : Product}
  {body : Option Json} {request : QuoteRequest}

theorem answerBody_of_load (hread : readBody body = .ok request)
    (hload : Project.load request.fields = .ok project) :
    answerBody pricing body product =
      match productJson pricing project product with
      | .ok value => send product.model value
      | .error _ => product.refusal := by
  have hmade : ((Project.load request.fields).asForm .project).bind
      (fun project => productJson pricing project product) =
        productJson pricing project product := by
    rw [hload]
    rfl
  rw [answerBody, hread]
  exact congrArg (fun made : Except Refusal Json =>
    match made with
    | .ok value => send product.model value
    | .error _ => product.refusal) hmade

-- What is made goes through its model as it is, so nothing is lost on the way out.
theorem answerBody_of_ok {value : Json} (hread : readBody body = .ok request)
    (hload : Project.load request.fields = .ok project)
    (hvalue : productJson pricing project product = .ok value) :
    answerBody pricing body product = ⟨200, finiteJson value⟩ := by
  have hkept : product.model value = some value := model_keeps_productJson hvalue
  rw [answerBody_of_load hread hload, hvalue]
  simp only [send, hkept, succeed, respond_of_isSendable 200 (isSendable_finiteJson value)]

-- Loading has succeeded, so a document is refused for its name and for nothing else.
theorem answerBody_eq_coreResponse (hread : readBody body = .ok request)
    (hload : Project.load request.fields = .ok project) :
    answerBody pricing body product = coreResponse pricing project product := by
  cases product with
  | calculate => exact answerBody_of_ok hread hload rfl
  | production => exact answerBody_of_ok hread hload rfl
  | document name =>
    cases hkind : DocumentKind.ofName? name with
    | some kind =>
      rw [coreResponse_of_kind hkind]
      apply answerBody_of_ok hread hload
      rw [productJson, Project.namedDocument, hkind]
      rfl
    | none =>
      have hrefused : productJson pricing project (.document name) =
          .error (.unknownDocument name) := by
        rw [productJson, Project.namedDocument, hkind]
        rfl
      rw [answerBody_of_load hread hload, hrefused, coreResponse_of_unknown hkind]

/-- A body without a misplaced value describes a project, and what the core makes of it is the
answer. -/
theorem exists_project_of_not_misshapen (pricing : Pricing Binary64) (product : Product)
    (h : ¬ Misshapen body) :
    ∃ fields request project, body = some (.object fields) ∧ readBody body = .ok request ∧
      Project.load fields = .ok project ∧ Project.load request.fields = .ok project ∧
      answerBody pricing body product = coreResponse pricing project product := by
  obtain ⟨fields, request, project, hfields, hread, hraw, hload⟩ := agree_of_not_misshapen h
  exact ⟨fields, request, project, hfields, hread, hraw, hload,
    answerBody_eq_coreResponse hread hload⟩

end Loaded

/-! ## The status of an answer -/

section Status

variable {pricing : Pricing Binary64} {product : Product} {body : Option Json}

theorem answerBody_status_of_misshapen (h : Misshapen body) :
    (answerBody pricing body product).status = 422 ∨
      (answerBody pricing body product).status = 500 := by
  obtain ⟨problems, hanswer, -⟩ := answerBody_of_misshapen h
  rw [hanswer, rejectBody, respond]
  split
  · exact .inl rfl
  · exact .inr rfl

theorem answerBody_status_of_not_misshapen (h : ¬ Misshapen body) :
    (answerBody pricing body product).status = 200 ∨
      (answerBody pricing body product).status = 400 := by
  obtain ⟨_, _, project, -, -, -, -, hanswer⟩ := exists_project_of_not_misshapen pricing product h
  rw [hanswer]
  exact coreResponse_status pricing project product

theorem answerBody_failed_iff :
    (answerBody pricing body product).status = 500 ↔
      ∃ value, Misplaced body value ∧ ShowsNonFinite value := by
  constructor
  · intro hstatus
    by_contra hnone
    have hshown (value : Json) (hvalue : Misplaced body value) : ¬ ShowsNonFinite value :=
      fun hvalue' => hnone ⟨value, hvalue, hvalue'⟩
    by_cases hbody : Misshapen body
    · rw [answerBody_of_shown hbody hshown] at hstatus
      cases hstatus
    · rcases answerBody_status_of_not_misshapen hbody with h | h <;>
        rw [h] at hstatus <;> cases hstatus
  · rintro ⟨value, hvalue, hnonfinite⟩
    rw [answerBody_of_not_shown hvalue hnonfinite]
    rfl

theorem answerBody_rejected_iff :
    (answerBody pricing body product).status = 422 ↔
      Misshapen body ∧ ∀ value, Misplaced body value → ¬ ShowsNonFinite value := by
  constructor
  · intro hstatus
    constructor
    · by_contra hbody
      rcases answerBody_status_of_not_misshapen hbody with h | h <;>
        rw [h] at hstatus <;> cases hstatus
    · intro value hvalue hnonfinite
      rw [answerBody_of_not_shown hvalue hnonfinite] at hstatus
      cases hstatus
  · rintro ⟨hbody, hshown⟩
    exact answerBody_of_shown hbody hshown

-- A rejected body is not answered with 400, whatever the product is called.
theorem answerBody_refused_iff :
    (answerBody pricing body product).status = 400 ↔ ¬ Misshapen body ∧
      ∃ name, product = .document name ∧ name ∉ ["customer", "sales", "production"] := by
  by_cases hbody : Misshapen body
  · refine iff_of_false (fun hstatus => ?_) (fun h => h.1 hbody)
    rcases answerBody_status_of_misshapen hbody with h | h <;> rw [h] at hstatus <;> cases hstatus
  · obtain ⟨_, _, _, -, -, -, -, hanswer⟩ := exists_project_of_not_misshapen pricing product hbody
    rw [hanswer, coreResponse_refused_iff]
    exact ⟨fun hname => ⟨hbody, hname⟩, And.right⟩

theorem answerBody_status (pricing : Pricing Binary64) (body : Option Json) (product : Product) :
    (answerBody pricing body product).status ∈ [200, 400, 422, 500] := by
  by_cases hbody : Misshapen body
  · rcases answerBody_status_of_misshapen hbody with h | h <;> rw [h] <;> simp
  · rcases answerBody_status_of_not_misshapen hbody with h | h <;> rw [h] <;> simp

end Status

/-! ## Answers to exchanges -/

section Exchanges

variable {product : Product}

theorem answer_post {path : String} (h : route? path = some (.product product))
    (body : Option Json) :
    answer ⟨"POST", path, body⟩ = answerBody (.ofSettings .standard) body product := by
  have hmethod : "POST".toList.flatMap Text.upperCase = "POST".toList := by decide
  rw [answer, h]
  simp only [hmethod, Route.method, ne_eq, not_true_eq_false, if_false]

theorem ask_path {body : Option Json} (h : body.all isSendable = true) :
    ask ⟨"POST", product.path, body⟩ = .ok (answer ⟨"POST", product.path, body⟩) := by
  rw [ask, h, unknownScheme?_path]
  rfl

/-- **The service is faithful to the core, but for what it cannot show.**  A body posted for a
product is rejected, with the values that are misplaced in it, if and only if there is such a value;
where one of them holds a number without a literal, the rejection cannot be written and the service
fails, and it never fails otherwise.  Any other body describes one project, whether that is loaded
from the body or from the request that it is read as, and it is answered with what the core makes of
that project.  Only a document of an unknown name is refused. -/
theorem answer_faithful (hsegment : product.IsSegment) (body : Option Json) :
    ∃ response : Response,
      route? product.path = some (.product product) ∧
      (body.all isSendable = true →
        ask ⟨"POST", product.path, body⟩ = .ok response ∧ response.status ≠ 500) ∧
      (∀ path, route? path = some (.product product) →
        answer ⟨"POST", path, body⟩ = response) ∧
      response.status ∈ [200, 400, 422, 500] ∧
      (response.status = 422 ↔
        Misshapen body ∧ ∀ value, Misplaced body value → ¬ ShowsNonFinite value) ∧
      (response.status = 500 ↔ ∃ value, Misplaced body value ∧ ShowsNonFinite value) ∧
      (response.status = 400 ↔ ¬ Misshapen body ∧
        ∃ name, product = .document name ∧ name ∉ ["customer", "sales", "production"]) ∧
      (Misshapen body → ∃ problems, response = rejectBody problems ∧
        ∀ value, Misplaced body value ↔ ∃ p ∈ problems, p.input = value) ∧
      (¬ Misshapen body → ∃ fields request project,
        body = some (.object fields) ∧ readBody body = .ok request ∧
        Project.load fields = .ok project ∧ Project.load request.fields = .ok project ∧
        response = coreResponse (.ofSettings .standard) project product) := by
  have hpath := route?_path hsegment
  refine ⟨answerBody (.ofSettings .standard) body product, hpath, fun hsendable => ⟨?_, ?_⟩,
    fun path hroute => answer_post hroute body, answerBody_status _ body product,
    answerBody_rejected_iff, answerBody_failed_iff, answerBody_refused_iff,
    answerBody_of_misshapen, exists_project_of_not_misshapen _ product⟩
  · rw [ask_path hsendable, answer_post hpath]
  · intro hfailed
    obtain ⟨value, hvalue, hnonfinite⟩ := answerBody_failed_iff.mp hfailed
    exact hnonfinite.not_isSendable (hvalue.isSendable hsendable)

-- One room with one opening, of which nothing is said.
def plainBody : Json :=
  .object [("rooms", .list [.object [("windows", .list [.object []])]])]

theorem plainBody_not_misshapen : ¬ Misshapen (some plainBody) := by
  rintro ⟨value, h⟩
  cases h with
  | body hbody => exact hbody _ rfl
  | rooms hrooms hitems =>
    cases hrooms
    exact hitems.2 _ rfl
  | room hrooms hroom hobject =>
    cases hrooms
    rw [List.mem_singleton.mp hroom] at hobject
    exact hobject _ rfl
  | openings hrooms hroom hopenings hitems =>
    cases hrooms
    cases List.mem_singleton.mp hroom
    cases hopenings
    exact hitems.2 _ rfl
  | opening hrooms hroom hopenings hopening hobject =>
    cases hrooms
    cases List.mem_singleton.mp hroom
    cases hopenings
    rw [List.mem_singleton.mp hopening] at hobject
    exact hobject _ rfl

theorem answer_faithful_plainBody :
    Product.IsSegment (.document "sales") ∧ ∃ response,
      ask ⟨"POST", Product.path (.document "sales"), some plainBody⟩ = .ok response ∧
        response.status = 200 := by
  have hsegment : Product.IsSegment (.document "sales") := by
    rw [Product.IsSegment]
    decide
  obtain ⟨response, _, hask, _, hmem, hrejected, _, hrefused, _⟩ :=
    answer_faithful hsegment (some plainBody)
  obtain ⟨hresponse, hfailed⟩ := hask rfl
  refine ⟨hsegment, response, hresponse, ?_⟩
  have hne : response.status ≠ 422 := fun h => plainBody_not_misshapen (hrejected.mp h).1
  have hok : response.status ≠ 400 := by
    intro h
    obtain ⟨_, name, hproduct, hunknown⟩ := hrefused.mp h
    cases hproduct
    exact hunknown (by decide)
  simpa [hne, hok, hfailed] using hmem

-- A number that is too large, as the whole body: no object, and the service cannot say so.
theorem answer_tooLargeNumber :
    Json.parse? "1e999" = some (.real (.infinite false)) ∧
      Misshapen (some (.real (.infinite false))) ∧
      answer ⟨"POST", "/api/calculate", some (.real (.infinite false))⟩ = internalError := by
  have hmisplaced : Misplaced (some (.real (.infinite false))) (.real (.infinite false)) :=
    .body fun fields h => by cases h
  have hroute : route? "/api/calculate" = some (.product .calculate) := by decide
  refine ⟨rfl, ⟨_, hmisplaced⟩, ?_⟩
  rw [answer_post hroute]
  exact answerBody_of_not_shown hmisplaced (.real rfl)

end Exchanges

end Service

end Fenestration

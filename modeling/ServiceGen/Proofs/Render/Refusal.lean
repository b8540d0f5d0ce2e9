import ServiceGen.Proofs.Plan.Types
import ServiceGen.Proofs.Plan.MethodNames
import ServiceGen.Proofs.Render.Items

/-!
Why the code of a plan is refused. A refusal is due to a text that cannot be read: a name that is no
identifier, a type of the plan whose text is no type, or the path of the library. Only a plan with a
method that has no place in its interface, or no constant where its body refers to one, is refused
for anything else.
-/
namespace ServiceGen

/-- Whether a method is of a kind that has code, and has a constant if its body refers to one. -/
structure MethodPlan.IsWhole (hasCode refers : MethodKind → Bool) (method : MethodPlan) : Prop where
  placed : hasCode method.kind = true
  constant : refers method.kind = true → method.constant.isSome = true

namespace Render

/-- The kinds of methods that the proxy of an activity has code for. -/
def Activity.hasCode : MethodKind → Bool
  | .call | .callAsync => true
  | _ => false

/-- The kinds of methods whose bodies refer to the constant of the method. -/
def Activity.refers : MethodKind → Bool
  | .callAsync => true
  | _ => false

/-- The kinds of methods that an interface of a workflow has code for. -/
def Workflow.hasCode : InterfaceRole → MethodKind → Bool
  | .run, .workflowId | .run, .runId | .run, .get | .run, .query | .run, .signal | .run, .update
  | .run, .updateAsync => true
  | .childRun, .workflowId | .childRun, .isReady | .childRun, .underlying | .childRun, .get
  | .childRun, .waitStart | .childRun, .select | .childRun, .selectStart | .childRun, .signal
  | .childRun, .signalAsync => true
  | .externalRun, .workflowId | .externalRun, .runId | .externalRun, .requestCancellation
  | .externalRun, .signal | .externalRun, .signalAsync => true
  | .client, .execute | .client, .getHandle | .client, .executeWithSignal _ => true
  | .childClient, .execute | .childClient, .executeAsync | .childClient, .external => true
  | _, _ => false

def Workflow.refers : InterfaceRole → MethodKind → Bool
  | .run, .query | .run, .signal | .run, .updateAsync => true
  | .childRun, .signalAsync | .externalRun, .signalAsync => true
  | .client, .executeWithSignal _ => true
  | _, _ => false

end Render

/-- Whether all methods of an interface are whole. -/
def Interface.IsWhole (interface : Interface) : Prop :=
  ∀ method ∈ interface.methods,
    method.IsWhole (Render.Workflow.hasCode interface.role) (Render.Workflow.refers interface.role)

/-- Whether all methods in the plan of a service are whole. -/
def ServicePlan.IsWhole : ServicePlan → Prop
  | .activity plan =>
    ∀ method ∈ plan.proxy.methods, method.IsWhole Render.Activity.hasCode Render.Activity.refers
  | .workflow plan => ∀ interface ∈ (ServicePlan.workflow plan).interfaces, interface.IsWhole
  | .service _ => True

/-- Whether a cause is a text that cannot be read, one of the given texts if it is that of a type.
It may be a method without code only if not all is whole. -/
def GenerateError.IsDueTo (types : List String) (whole : Prop) : GenerateError → Prop
  | .ident text => Grammar.identifier? text = none
  | .type text _ => text ∈ types ∧ Grammar.typeTokens? text = none
  | .runtimePath text => Grammar.pathTokens? text = none
  | .unsupported _ _ => ¬ whole
  | .validation _ _ => False

theorem GenerateError.IsDueTo.mono {types more : List String} {whole all : Prop}
    {cause : GenerateError} (hcause : cause.IsDueTo types whole) (htypes : types ⊆ more)
    (hall : all → whole) : cause.IsDueTo more all := by
  cases cause with
  | type text context => exact hcause.imp_left fun htext => htypes htext
  | unsupported method interface => exact fun h => hcause (hall h)
  | ident | runtimePath | validation => exact hcause

namespace Render

section

variable {α β : Type} {types : List String} {whole : Prop}

/-- That an emission is refused only for causes of this sort. -/
def Emit.FailsFor (types : List String) (whole : Prop) (emit : Emit α) : Prop :=
  ∀ cause, emit = .error cause → cause.IsDueTo types whole

namespace Emit.FailsFor

theorem pure (a : α) : Emit.FailsFor types whole (Pure.pure a) := nofun

theorem unsupported {method interface : String} (hwhole : ¬ whole) :
    Emit.FailsFor types whole (throw (.unsupported method interface) : Emit α) := by
  intro cause hcause
  rw [← Except.error.inj hcause]
  exact hwhole

theorem bindOk {first : Emit α} {next : α → Emit β} (hfirst : first.FailsFor types whole)
    (hnext : ∀ a, first = .ok a → (next a).FailsFor types whole) :
    (first >>= next).FailsFor types whole := by
  intro cause hbind
  cases first with
  | error error => exact hfirst cause (congrArg Except.error (Except.error.inj hbind))
  | ok a => exact hnext a rfl cause hbind

theorem bind {first : Emit α} {next : α → Emit β} (hfirst : first.FailsFor types whole)
    (hnext : ∀ a, (next a).FailsFor types whole) : (first >>= next).FailsFor types whole :=
  .bindOk hfirst fun a _ => hnext a

theorem mono {more : List String} {all : Prop} {emit : Emit α}
    (hemit : emit.FailsFor types whole) (hmore : types ⊆ more) (hall : all → whole) :
    emit.FailsFor more all :=
  fun cause herror => (hemit cause herror).mono hmore hall

theorem ident (text : String) : (Render.ident text).FailsFor types whole := by
  intro cause herror
  rw [Render.ident] at herror
  cases hread : Grammar.identifier? text with
  | some found => simp [hread] at herror
  | none =>
    simp only [hread, Except.error.injEq] at herror
    exact herror ▸ hread

theorem type {text context : String} (htext : text ∈ types) :
    (Render.type text context).FailsFor types whole := by
  intro cause herror
  rw [Render.type] at herror
  cases hread : Grammar.typeTokens? text with
  | some found => simp [hread] at herror
  | none =>
    simp only [hread, Except.error.injEq] at herror
    exact herror ▸ ⟨htext, hread⟩

theorem mapM {emit : α → Emit β} {list : List α}
    (hlist : ∀ a ∈ list, (emit a).FailsFor types whole) :
    (list.mapM emit).FailsFor types whole := by
  induction list with
  | nil => exact .pure []
  | cons a rest ih =>
    rw [List.mapM_cons]
    exact .bind (hlist a List.mem_cons_self) fun _ =>
      .bind (ih fun b hb => hlist b (List.mem_cons_of_mem _ hb)) fun _ => .pure _

/-- What is emitted one after the other has the types of its parts, and is whole if these are. -/
theorem flatMap {all : Prop} {emit : α → Emit β} {types : α → List String} {whole : α → Prop}
    (hemit : ∀ a, (emit a).FailsFor (types a) (whole a)) (list : List α)
    (hall : all → ∀ a ∈ list, whole a) :
    (list.mapM emit).FailsFor (list.flatMap types) all :=
  .mapM fun a ha => (hemit a).mono
    (fun _ htext => List.mem_flatMap.mpr ⟨a, ha, htext⟩) fun h => hall h a ha

end Emit.FailsFor

end

section Calls

variable {whole : Prop}

theorem requestParam_failsFor (request : Option String) (place : String) :
    (requestParam request place).FailsFor request.toList whole := by
  cases request with
  | none => exact .pure _
  | some text => exact .bind (.type (by simp)) fun _ => .pure _

theorem userClosure_failsFor (target : Code) (call : UserCall) (fallback : Code) :
    (userClosure target call fallback).FailsFor call.types whole := by
  have hcontext : (contextParam call fallback).FailsFor call.types whole := by
    unfold contextParam
    split
    · split
      next text htext =>
        refine .bind (.bind (.type ?_) fun _ => .pure _) fun _ => .pure _
        simp [UserCall.types, htext]
      next => exact .pure _
    · exact .pure _
  have hrequest : (requestClosureParam call).FailsFor call.types whole := by
    unfold requestClosureParam
    split
    next text htext =>
      refine .bind (.type ?_) fun _ => .pure _
      simp [UserCall.types, htext]
    next => exact .pure _
  exact .bind (.ident _) fun _ => .bind hcontext fun _ => .bind hrequest fun _ => .pure _

end Calls

/-! Activities and plain services -/

namespace Activity

variable (context : Context) (method : MethodPlan)

theorem signature_failsFor :
    (signature context method).FailsFor method.types (method.IsWhole hasCode refers) := by
  have hrequest : (requestParam method.request method.name).FailsFor method.types
      (method.IsWhole hasCode refers) :=
    (requestParam_failsFor _ _).mono (by simp [MethodPlan.types]) id
  refine .bind (.ident _) fun _ => .bind hrequest fun _ =>
    .bind (.type (by simp [MethodPlan.types])) fun _ => ?_
  dsimp only
  cases hkind : method.kind with
  | call | callAsync => exact .bind (.pure _) fun _ => .pure _
  | _ =>
    have hlost : ¬ method.IsWhole hasCode refers :=
      fun h => by simpa [hkind, hasCode] using h.placed
    exact .bind (.unsupported hlost) fun _ => .pure _

theorem body_failsFor (plan : ActivityPlan) :
    (body context plan method).FailsFor method.types (method.IsWhole hasCode refers) := by
  unfold body
  cases hkind : method.kind with
  | call => exact .bind (.ident _) fun _ => .pure _
  | callAsync =>
    refine .bind (.ident _) fun _ => ?_
    cases hconstant : method.constant with
    | none =>
      exact .unsupported fun h => by simpa [hconstant, hkind, refers] using h.constant
    | some text => exact .bind (.ident _) fun _ => .pure _
  | _ => exact .unsupported fun h => by simpa [hkind, hasCode] using h.placed

theorem render_failsFor (plan : ActivityPlan) :
    (render context plan).FailsFor (ServicePlan.activity plan).types
      (ServicePlan.activity plan).IsWhole := by
  have hmethods : (plan.proxy.methods.mapM (proxyMethod context plan)).FailsFor
      plan.proxy.types (ServicePlan.activity plan).IsWhole :=
    .flatMap (fun method => .bind (signature_failsFor context method) fun _ =>
      .bind (body_failsFor context method plan) fun _ => .pure _) _ id
  have hregistrations : (plan.registrations.mapM (registration context)).FailsFor
      (plan.registrations.flatMap Registration.types) (ServicePlan.activity plan).IsWhole :=
    .flatMap (fun registration => .bind (.ident _) fun _ =>
      .bind (userClosure_failsFor _ registration.call _) fun _ => .pure _) _ fun h _ _ => h
  refine .bind ?_ fun _ => .bind ?_ fun _ => .pure _
  · exact .bind (.ident _) fun _ => .bind (.ident _) fun _ => .bind (.ident _) fun _ =>
      .bind (hmethods.mono (List.subset_append_left _ _) id) fun _ => .pure _
  · exact .bind (.ident _) fun _ => .bind (.ident _) fun _ =>
      .bind (hregistrations.mono (List.subset_append_right _ _) id) fun _ => .pure _

end Activity

theorem HttpService.render_failsFor (context : Context) (plan : HttpServicePlan) {whole : Prop} :
    (render context plan).FailsFor (ServicePlan.service plan).types whole :=
  .bind (.ident _) fun _ => .bind (.ident _) fun _ => .bind (.flatMap (fun route =>
    .bind (.ident _) fun _ => .bind (userClosure_failsFor _ route.call _) fun _ => .pure _) _
      fun h _ _ => h) fun _ => .pure _

/-! Workflows -/

namespace Workflow

variable (frame : Frame) {types : List String} {whole : Prop}

theorem interfaces_failsFor (plan : WorkflowPlan) :
    (Handles.interfaces plan).FailsFor types whole :=
  .bind (.ident _) fun _ => .bind (.ident _) fun _ => .bind (.ident _) fun _ => .pure _

theorem implementations_failsFor (plan : WorkflowPlan) :
    (Handles.implementations plan).FailsFor types whole :=
  .bind (.ident _) fun _ => .bind (.ident _) fun _ => .bind (.ident _) fun _ => .pure _

theorem declared_failsFor (role : InterfaceRole) (method : MethodPlan) (handles : Handles)
    (request response : Code) :
    (declared frame role method handles request response).FailsFor method.types whole := by
  have hclient : (clientDeclared frame method handles).FailsFor method.types whole := by
    unfold clientDeclared
    split
    · exact .pure _
    · exact .pure _
    next text hkind =>
      exact .bind (.type (by simp [MethodPlan.types, hkind, MethodKind.types])) fun _ => .pure _
    · exact .pure _
  unfold declared
  dsimp only
  split <;> first | exact hclient | exact .pure _

/-- Where there is code for a method, there is a declaration. -/
theorem declared_ne_none {role : InterfaceRole} {method : MethodPlan} {handles : Handles}
    {request response : Code} {found : Option Declared}
    (hcode : hasCode role method.kind = true)
    (hfound : declared frame role method handles request response = .ok found) : found ≠ none := by
  rintro rfl
  cases hkind : method.kind with
  -- The only kind for which a type is read, so that there may be no answer at all.
  | executeWithSignal text =>
    cases role with
    | client =>
      simp only [declared, clientDeclared, hkind] at hfound
      obtain ⟨signal, -, hsignal⟩ := exists_of_bind hfound
      simp [Pure.pure, Except.pure] at hsignal
    | _ => simp [hkind, hasCode] at hcode
  | _ =>
    cases role <;>
      simp [declared, runDeclared, childRunDeclared, externalRunDeclared, signalDeclared,
        clientDeclared, childClientDeclared, hkind, hasCode, Pure.pure, Except.pure]
        at hfound hcode

section Method

variable (interface : Interface) (method : MethodPlan)

/-- That a method is whole in its interface. -/
abbrev Whole : Prop := method.IsWhole (hasCode interface.role) (refers interface.role)

theorem signature_failsFor :
    (signature frame interface method).FailsFor method.types (Whole interface method) := by
  have hrequest : (requestParam method.request method.name).FailsFor method.types
      (Whole interface method) :=
    (requestParam_failsFor _ _).mono (by simp [MethodPlan.types]) id
  refine .bind (.ident _) fun _ => .bind hrequest fun _ =>
    .bind (.type (by simp [MethodPlan.types])) fun _ =>
    .bind (interfaces_failsFor _) fun _ =>
    .bindOk (declared_failsFor frame _ _ _ _ _) fun found hfound => ?_
  cases found with
  | none => exact .unsupported fun h => declared_ne_none frame h.placed hfound rfl
  | some declared => exact .pure _

variable {interface method}

/-- A method is not whole in an interface without code for its kind. -/
theorem unplaced_failsFor {α : Type} {role : InterfaceRole} {kind : MethodKind}
    {name place : String} (hrole : interface.role = role) (hkind : method.kind = kind)
    (hcode : hasCode role kind = false) :
    (throw (.unsupported name place) : Emit α).FailsFor types (Whole interface method) :=
  .unsupported fun h => by simpa [hrole, hkind, hcode] using h.placed

theorem constantOf_failsFor {role : InterfaceRole} {kind : MethodKind}
    (hrole : interface.role = role) (hkind : method.kind = kind)
    (hrefers : refers role kind = true) :
    (constantOf interface method).FailsFor types (Whole interface method) := by
  unfold constantOf
  cases hconstant : method.constant with
  | some text => exact .ident _
  | none =>
    refine .unsupported fun h => ?_
    have hsome := h.constant (by rw [hrole, hkind, hrefers])
    simp [hconstant] at hsome

theorem runBody_failsFor (hrole : interface.role = .run) :
    (runBody interface method).FailsFor types (Whole interface method) := by
  unfold runBody
  cases hkind : method.kind with
  | workflowId | runId | get => exact .pure _
  | query | signal | updateAsync =>
    exact .bind (constantOf_failsFor hrole hkind rfl) fun _ => .pure _
  | update => exact .bind (.ident _) fun _ => .pure _
  | _ => exact unplaced_failsFor hrole hkind rfl

theorem signalBody_failsFor : (signalBody method).FailsFor types whole :=
  .bind (.ident _) fun _ => .pure _

theorem childRunBody_failsFor (hrole : interface.role = .childRun) :
    (childRunBody interface method).FailsFor types (Whole interface method) := by
  unfold childRunBody
  cases hkind : method.kind with
  | workflowId | isReady | underlying | get | waitStart | select | selectStart => exact .pure _
  | signalAsync => exact .bind (constantOf_failsFor hrole hkind rfl) fun _ => .pure _
  | signal => exact signalBody_failsFor
  | _ => exact unplaced_failsFor hrole hkind rfl

theorem externalRunBody_failsFor (hrole : interface.role = .externalRun) :
    (externalRunBody frame interface method).FailsFor types (Whole interface method) := by
  unfold externalRunBody
  cases hkind : method.kind with
  | workflowId | runId | requestCancellation => exact .pure _
  | signalAsync => exact .bind (constantOf_failsFor hrole hkind rfl) fun _ => .pure _
  | signal => exact signalBody_failsFor
  | _ => exact unplaced_failsFor hrole hkind rfl

theorem clientBody_failsFor (handles : Handles) (hrole : interface.role = .client) :
    (clientBody frame interface method handles).FailsFor types (Whole interface method) := by
  unfold clientBody
  cases hkind : method.kind with
  | execute | getHandle => exact .pure _
  | executeWithSignal _ => exact .bind (constantOf_failsFor hrole hkind rfl) fun _ => .pure _
  | _ => exact unplaced_failsFor hrole hkind rfl

theorem childClientBody_failsFor (handles : Handles) (hrole : interface.role = .childClient) :
    (childClientBody frame interface method handles).FailsFor types (Whole interface method) := by
  unfold childClientBody
  cases hkind : method.kind with
  | execute | executeAsync | external => exact .pure _
  | _ => exact unplaced_failsFor hrole hkind rfl

variable (interface method)

theorem body_failsFor :
    (body frame interface method).FailsFor types (Whole interface method) := by
  refine .bind (implementations_failsFor _) fun handles => ?_
  cases hrole : interface.role with
  | run => exact runBody_failsFor hrole
  | childRun => exact childRunBody_failsFor hrole
  | externalRun => exact externalRunBody_failsFor frame hrole
  | client => exact clientBody_failsFor frame handles hrole
  | childClient => exact childClientBody_failsFor frame handles hrole
  | activityProxy => exact unplaced_failsFor hrole rfl rfl

end Method

theorem interface_failsFor (plan : Interface) :
    (interface frame plan).FailsFor plan.types plan.IsWhole :=
  .bind (.ident _) fun _ => .bind (.ident _) fun _ => .bind (.flatMap (fun method =>
    .bind (signature_failsFor frame plan method) fun _ =>
      .bind (body_failsFor frame plan method) fun _ => .pure _) _ id) fun _ => .pure _

theorem constructors_failsFor : (constructors frame).FailsFor types whole :=
  .bind (.ident _) fun _ => .bind (.ident _) fun _ => .bind (.ident _) fun _ =>
    .bind (.ident _) fun _ => .bind (.ident _) fun _ => .bind (.ident _) fun _ => .pure _

theorem input_failsFor :
    (input frame).FailsFor (frame.plan.input.channels.map InputChannel.request) whole :=
  .bind (.ident _) fun _ => .bind (.mapM fun _ hchannel => .bind (.ident _) fun _ =>
    .bind (.type (List.mem_map_of_mem hchannel)) fun _ => .pure _) fun _ => .pure _

theorem factory_failsFor : (factory frame).FailsFor types whole :=
  .bind (.ident _) fun _ => .bind (.ident _) fun _ => .bind (.ident _) fun _ => .pure _

theorem handlers_failsFor (function : String) (registrations : List Registration) :
    (registrations.mapM (handler frame function)).FailsFor
      (registrations.flatMap Registration.types) whole :=
  .flatMap (fun registration => .bind (.ident _) fun _ =>
    .bind (userClosure_failsFor _ registration.call _) fun _ => .pure _) _ fun h _ _ => h

theorem delegate_failsFor (entrance : Option UserCall) :
    (delegate entrance).FailsFor types whole := by
  cases entrance with
  | none => exact .pure _
  | some call => exact .bind (.ident _) fun _ => .pure _

theorem controller_failsFor :
    (controller frame).FailsFor frame.plan.controller.types whole :=
  .bind (.ident _) fun _ => .bind (.ident _) fun _ => .bind (.ident _) fun _ =>
    .bind (.mapM fun _ _ => .bind (.ident _) fun _ => .bind (.ident _) fun _ => .pure _) fun _ =>
    .bind ((handlers_failsFor frame _ _).mono (List.subset_append_left _ _) id) fun _ =>
    .bind ((handlers_failsFor frame _ _).mono (List.subset_append_right _ _) id) fun _ =>
    .bind (delegate_failsFor _) fun _ => .pure _

theorem frame_failsFor (context : Context) (plan : WorkflowPlan) :
    (Frame.of context plan).FailsFor [plan.request, plan.response] whole :=
  .bind (.ident _) fun _ => .bind (.ident _) fun _ => .bind (.type List.mem_cons_self) fun _ =>
    .bind (.type (List.mem_cons_of_mem _ List.mem_cons_self)) fun _ => .pure _

theorem render_failsFor (context : Context) (plan : WorkflowPlan) :
    (render context plan).FailsFor plan.types (ServicePlan.workflow plan).IsWhole := by
  refine .bindOk ((frame_failsFor context plan).mono ?_ id) fun frame hframe => ?_
  · intro text htext
    simp only [WorkflowPlan.types, List.mem_append, htext, true_or]
  obtain rfl := plan_of_frame frame hframe
  have hinterface {plan : Interface} (htypes : plan.types ⊆ frame.plan.types)
      (hplan : plan ∈ (ServicePlan.workflow frame.plan).interfaces) :
      (interface frame plan).FailsFor frame.plan.types
        (ServicePlan.workflow frame.plan).IsWhole :=
    (interface_failsFor frame plan).mono htypes fun hall => hall plan hplan
  refine .bind (hinterface ?_ (by simp [ServicePlan.interfaces])) fun _ =>
    .bind (hinterface ?_ (by simp [ServicePlan.interfaces])) fun _ =>
    .bind (hinterface ?_ (by simp [ServicePlan.interfaces])) fun _ =>
    .bind (hinterface ?_ (by simp [ServicePlan.interfaces])) fun _ =>
    .bind (hinterface ?_ (by simp [ServicePlan.interfaces])) fun _ =>
    .bind (constructors_failsFor frame) fun _ =>
    .bind ((input_failsFor frame).mono ?_ id) fun _ => .bind (factory_failsFor frame) fun _ =>
    .bind ((controller_failsFor frame).mono ?_ id) fun _ => .pure _
  all_goals
    intro text htext
    simp only [WorkflowPlan.types, List.mem_append, htext, true_or, or_true]

end Workflow

/-! Packages -/

namespace Package

variable (context : Context)

theorem service_failsFor (plan : ServicePlan) :
    (service context plan).FailsFor plan.types plan.IsWhole := by
  cases plan with
  | activity plan => exact Activity.render_failsFor context plan
  | workflow plan => exact Workflow.render_failsFor context plan
  | service plan => exact HttpService.render_failsFor context plan

theorem gathered_failsFor {types : List String} {whole : Prop} (type : String) (held : Held)
    (entries : List GatheredInterface) :
    (gathered context type held entries).FailsFor types whole := by
  unfold gathered
  split
  · exact .pure _
  · exact .bind (.ident _) fun _ => .bind (.ident _) fun _ => .bind (.ident _) fun _ =>
      .bind (.mapM fun _ _ => .bind (.ident _) fun _ => .bind (.ident _) fun _ =>
        .bind (.ident _) fun _ => .pure _) fun _ => .pure _

theorem controllers_failsFor {types : List String} {whole : Prop}
    (entries : List GatheredController) :
    (controllers context entries).FailsFor types whole := by
  unfold controllers
  split
  · exact .pure _
  · exact .bind (.mapM fun _ _ => .bind (.ident _) fun _ => .bind (.ident _) fun _ => .pure _)
      fun _ => .pure _

theorem emit_failsFor (plan : PackagePlan) :
    (emit context plan).FailsFor plan.types (∀ service ∈ plan.services, service.IsWhole) :=
  .bind (.mapM fun _ _ => .bind (.ident _) fun _ => .pure _) fun _ =>
    .bind (.mapM fun _ hchannel => .bind (.ident _) fun _ => .bind (.ident _) fun _ =>
      .bind (.type (List.mem_append_left _ (List.mem_map_of_mem hchannel))) fun _ => .pure _)
      fun _ =>
    .bind ((Emit.FailsFor.flatMap (service_failsFor context) _ id).mono
      (List.subset_append_right _ _) id) fun _ =>
    .bind (.bind (gathered_failsFor context _ _ _) fun _ =>
      .bind (gathered_failsFor context _ _ _) fun _ =>
      .bind (gathered_failsFor context _ _ _) fun _ =>
        .bind (controllers_failsFor context _) fun _ => .pure _) fun _ => .pure _

/-- A package is refused only for a text that cannot be read, if its plan is whole. -/
theorem render_failsFor (options : GenerationOptions) (plan : PackagePlan) :
    (render options plan).FailsFor plan.types (∀ service ∈ plan.services, service.IsWhole) := by
  refine .bind ?_ fun context => .bind (emit_failsFor context plan) fun _ => .pure _
  intro cause herror
  rw [Context.of] at herror
  cases hread : Grammar.pathTokens? options.runtimeCrate with
  | some runtime => simp [hread] at herror
  | none =>
    simp only [hread, Except.error.injEq] at herror
    exact herror ▸ hread

end Package

end Render

end ServiceGen

import Wirecall.Proofs.Dispatching
import Wirecall.Proofs.Publication
import Wirecall.Proofs.RemoteErrors
import Wirecall.Proofs.WholeSeconds

/-!
# What travels is what is published

One declaration of a method is read three times: a client makes a call of it, a server a registration, and
an interface a description. Nothing but the declaration holds the three together. Still everything that
travels is what the description says: the calls that clients send, the results that servers send back,
and the errors of the interface that they report (`Interface.traffic_conforms`).

* `MethodDeclaration` is a declaration, to be made wherever it is wanted, and
  `Interface.ofDeclarations` is the description that comes out.
* `Interface.knows_of_mem_types` says that the published declarations are enough for every type that a
  method mentions, by what is known of coverage (`Interface.knows_of_covers`).
* `Validator.accepts_of_writes` is the step from native values to the wire. Validation accepts what the
  type decodes, and it decodes what was written, be it without the parts of a second.
* `Session.Run.dispatch_eq` says where responses come from: a call is refused with a reason, or what its
  handler ended in is reported.
* `MethodDescription.Covers`, `MethodDescription.Called` and `MethodDeclaration.Conforms` are the three parts of
  the statement: about wire forms, about calls, and about responses.

**The order of entries.** A map without an order of its own is listed in any order, so all statements are
about every wire form of a value (`DataType.Writes`, `Slot.Writes`).
-/

namespace Wirecall

/-! ### Declarations -/

/-- One declaration of a method over the type language. -/
structure MethodDeclaration where
  name : String
  description : String
  slots : List Slot
  result : Slot

namespace MethodDeclaration

/-- The signature that is declared. -/
def signature (d : MethodDeclaration) : Signature (Slot.Carriers d.slots) d.result.type.Carrier :=
  .ofSlots d.result.param d.slots

/-- What is published of the declaration in an interface with some errors. -/
def described (d : MethodDeclaration) (errors : Descriptor) : MethodDescription where
  name := d.name
  description := d.description
  params := d.signature.params
  result := d.signature.result
  errors

/-- Whether the records and variants inside all types of the method go by their own names. -/
def OwnNames (d : MethodDeclaration) : Prop :=
  (∀ s ∈ d.slots, s.type.OwnNames) ∧ d.result.type.OwnNames

/-- The parameter of the result is that of its slot. -/
theorem resultParam_signature (d : MethodDeclaration) : d.signature.resultParam = d.result.param := by
  unfold signature
  -- The parameters stand in front of the result and leave it alone.
  induction d.slots with
  | nil => rfl
  | cons s rest ih => exact ih

theorem params_signature (d : MethodDeclaration) :
    d.signature.params = d.slots.map fun s => s.param.describe :=
  Signature.params_ofSlots d.result.param d.slots

theorem result_signature (d : MethodDeclaration) : d.signature.result = d.result.param.describe := by
  rw [Signature.result, d.resultParam_signature]

/-- The types of a declaration are among those that its description mentions. -/
theorem mem_types_described (d : MethodDeclaration) (errors : Descriptor) :
    (∀ s ∈ d.slots, s.type.descriptor ∈ (d.described errors).types) ∧
      d.result.type.descriptor ∈ (d.described errors).types := by
  constructor
  · intro s hs
    -- The types of the parameters come first,
    refine List.mem_append_left _ ?_
    show s.type.descriptor ∈ d.signature.params.map (·.type)
    rw [d.params_signature, List.map_map]
    exact List.mem_map_of_mem hs
  · -- and that of the result comes last.
    refine List.mem_append_right _ ?_
    show d.result.type.descriptor ∈ [d.signature.result.type]
    rw [d.result_signature]
    exact List.mem_singleton_self _

end MethodDeclaration

namespace Interface

/-- The description of an interface with some errors and some methods. -/
def ofDeclarations (heading : Heading) (errors : Descriptor) (ds : List MethodDeclaration) : Interface :=
  ds.foldl (fun i d => i.declare d.name d.description d.signature)
    ((Interface.new heading).withErrors errors)

/-- Declaring methods adds their descriptions behind the others and changes nothing else. All of them carry
the errors that the interface has at that time. -/
theorem foldl_declare_eq (ds : List MethodDeclaration) (i : Interface) :
    ds.foldl (fun i d => i.declare d.name d.description d.signature) i =
      { i with methods := i.methods ++ ds.map fun d => d.described i.errors } := by
  induction ds generalizing i with
  | nil => rw [List.foldl_nil, List.map_nil, List.append_nil]
  | cons d rest ih =>
    -- The first method is behind what was there, and in front of the rest.
    rw [List.foldl_cons, ih, List.map_cons, List.append_cons]
    rfl

theorem ofDeclarations_eq (heading : Heading) (errors : Descriptor) (ds : List MethodDeclaration) :
    ofDeclarations heading errors ds = ⟨heading, errors, ds.map fun d => d.described errors⟩ :=
  foldl_declare_eq ds ((Interface.new heading).withErrors errors)

/-- The validator of an interface knows every type that a method of it, or its errors, mention. -/
theorem knows_of_mem_types {i : Interface} (hnames : i.Unambiguous) {type : DataType}
    (hown : type.OwnNames) (h : type.descriptor ∈ i.types) : i.validator.Knows type := by
  -- What is declared covers what can be visited, and all of the type can be.
  refine knows_of_covers hnames type hown (covers_of_visit ?_)
  intro e he
  exact List.mem_flatMap.2 ⟨type.descriptor, h, he⟩

section
variable {heading : Heading} {errors : DataType} {ds : List MethodDeclaration}

theorem mem_methods_ofDeclarations {d : MethodDeclaration} (hd : d ∈ ds) :
    d.described errors.descriptor ∈ (ofDeclarations heading errors.descriptor ds).methods := by
  rw [ofDeclarations_eq]
  exact List.mem_map_of_mem hd

/-- With the declarations of an interface, all types of its methods are known, -/
theorem knows_of_mem_declarations
    (hnames : (ofDeclarations heading errors.descriptor ds).Unambiguous) {d : MethodDeclaration}
    (hd : d ∈ ds) (hown : d.OwnNames) :
    (∀ s ∈ d.slots, (ofDeclarations heading errors.descriptor ds).validator.Knows s.type) ∧
      (ofDeclarations heading errors.descriptor ds).validator.Knows d.result.type := by
  -- What the method mentions, the interface mentions.
  have htypes (e : Descriptor) (he : e ∈ (d.described errors.descriptor).types) :
      e ∈ (ofDeclarations heading errors.descriptor ds).types :=
    List.mem_append_left _ (List.mem_flatMap.2 ⟨_, mem_methods_ofDeclarations hd, he⟩)
  obtain ⟨hslots, hresult⟩ := d.mem_types_described errors.descriptor
  constructor
  · intro s hs
    exact knows_of_mem_types hnames (hown.1 s hs) (htypes _ (hslots s hs))
  · exact knows_of_mem_types hnames hown.2 (htypes _ hresult)

/-- and so are its errors. -/
theorem knows_errors (hnames : (ofDeclarations heading errors.descriptor ds).Unambiguous)
    (hown : errors.OwnNames) : (ofDeclarations heading errors.descriptor ds).validator.Knows errors := by
  have hmem : errors.descriptor ∈ [(ofDeclarations heading errors.descriptor ds).errors] := by
    rw [ofDeclarations_eq]
    exact List.mem_singleton_self _
  exact knows_of_mem_types hnames hown (List.mem_append_right _ hmem)

end

end Interface

/-! ### From native values to the wire -/

/-- Every wire form of a value that can be sent is accepted. -/
theorem Validator.accepts_of_writes {c : Validator} {type : DataType} (h : c.Knows type)
    {x : type.Carrier} (hx : type.Sendable x) {v : Value} (hv : type.Writes x v) :
    c.check type.descriptor v = .accepted := by
  -- What is read need not be what was written. That something is read is enough.
  have hread : type.decode v = .ok (type.wholeSeconds x) := type.decode_of_writes hx hv
  exact (c.check_reports type v h).eq_accepted_iff.2 ⟨_, hread⟩

/-- Whether a named argument is what is published about a parameter: it has the name of the parameter, and a
validator accepts what it holds. -/
def ParamDescription.Fits (p : ParamDescription) (c : Validator) (argument : String × Value) : Prop :=
  argument.1 = p.name ∧ c.check p.type argument.2 = .accepted

namespace Slot

/-- Whether all arguments for some slots can be sent. -/
def Sendable : (slots : List Slot) → Carriers slots → Prop
  | [], _ => True
  | s :: rest, (a, as) => s.type.Sendable a ∧ Sendable rest as

/-- Whether some named arguments are a wire form of the arguments for some slots. They come in the order of the
slots, none is left out, and nothing else is among them. -/
def Writes : (slots : List Slot) → Carriers slots → Arguments → Prop
  | [], _, args => args = []
  | s :: rest, (a, as), args =>
    ∃ v more, args = (s.param.name, v) :: more ∧ s.type.Writes a v ∧ Writes rest as more

/-- What a signature writes is a wire form of its arguments. -/
theorem writes_encodeArgs {R : Type} (result : Param R) (slots : List Slot) (as : Carriers slots) :
    Writes slots as ((Signature.ofSlots result slots).encodeArgs as) := by
  induction slots with
  | nil => rfl
  | cons s rest ih =>
    obtain ⟨a, as⟩ := as
    -- Of the wire forms of an argument, the one that is written is the first choice of its type.
    exact ⟨s.type.encode a, _, rfl, s.type.writes_encode a, ih as⟩

/-- In every wire form of arguments that can be sent, each fits its parameter. -/
theorem fits_of_writes {c : Validator} {slots : List Slot} (hknows : ∀ s ∈ slots, c.Knows s.type)
    {as : Carriers slots} (has : Sendable slots as) {args : Arguments} (h : Writes slots as args) :
    List.Forall₂ (fun p argument => p.Fits c argument) (slots.map fun s => s.param.describe) args := by
  induction slots generalizing args with
  | nil =>
    cases h
    exact .nil
  | cons s rest ih =>
    obtain ⟨a, as⟩ := as
    obtain ⟨ha, has⟩ := has
    -- A wire form has the name of the parameter in front of each argument.
    obtain ⟨v, more, rfl, hv, hmore⟩ := h
    obtain ⟨hfirst, hrest⟩ := List.forall_mem_cons.1 hknows
    refine .cons ⟨rfl, ?_⟩ (ih hrest has hmore)
    exact Validator.accepts_of_writes hfirst ha hv

end Slot

/-! ### From a handler to the wire -/

section
variable {m : Type → Type} [Monad m] {E : Type}

/-- Arguments that cannot be read are reported in words. -/
theorem Signature.payload_of_decodeArgs {A R : Type} {s : Signature A R} {args : Arguments}
    {e : DispatchError} (h : s.decodeArgs args = .error e) : ∃ reason, e.payload = .string reason := by
  -- The error is that of one parameter, and those are reported by their message.
  obtain ⟨before, p, after, -, -, hp⟩ := Signature.decodeArgs_eq_error_iff.1 h
  exact ⟨e.message, Param.payload_of_read hp⟩

/-- The response that an outcome of a handler gets. -/
def Attempt.respond (a : Attempt m E) (outcome : Outcome a.R a.F) : Response :=
  Server.respond (a.report outcome)

/-- **Where responses come from.** A call of a method is refused with a reason, or what the handler of
the method ended in is reported. -/
theorem Session.Run.dispatch_eq [LawfulMonad m] {heading : Heading} {bridge : ErrorBridge E}
    {events : List (Session.Event m E)} {t : Session m E} {server : Server m}
    (run : Run (start heading bridge) events t) (hserver : t.server = some server) {a : Attempt m E}
    (ha : .attempted a (.ok ()) ∈ events) {call : Call} (hname : call.name = a.name) :
    (∃ reason, server.dispatch call = pure (.ofFailure (.string reason))) ∨
      ∃ as, server.dispatch call = a.respond <$> a.ended as := by
  have hget : server.table.get? call.name = some a.procedure := hname ▸ run.get?_of_mem hserver ha
  unfold Server.dispatch
  rcases Server.tryDispatch_cases hget with ⟨e, hrefused, he⟩ | ⟨as, hrun⟩
  · -- A refusal is reported in words, whatever it is for.
    have hreason : ∃ reason, e.payload = .string reason := by
      rcases he with rfl | ⟨args, hread⟩
      · exact ⟨_, rfl⟩
      · exact Signature.payload_of_decodeArgs hread
    obtain ⟨reason, hreason⟩ := hreason
    refine .inl ⟨reason, ?_⟩
    rw [hrefused, map_pure, Server.respond, hreason]
  · refine .inr ⟨as, ?_⟩
    rw [hrun, Functor.map_map]
    rfl

omit [Monad m] in
/-- A response is successful only if the handler returned, and then it carries the result. -/
theorem Attempt.respond_success {a : Attempt m E} {outcome : Outcome a.R a.F}
    (h : (a.respond outcome).success = true) :
    ∃ result, outcome = .returned result ∧
      (a.respond outcome).contents = a.resultCodec.encode result := by
  generalize hreport : a.report outcome = report
  unfold respond at h ⊢
  rw [hreport] at h ⊢
  -- Of the four ways to report an outcome only one is a success.
  cases reports_iff.2 hreport with
  | result => exact ⟨_, rfl, rfl⟩
  | crash => cases h
  | error => cases h
  | text => cases h

omit [Monad m] in
/-- A failure that is an error of the interface is reported by the wire form of that error. -/
theorem Attempt.respond_error {a : Attempt m E} {failure : a.F} {e : E}
    (h : a.crash? (.failed failure) = none) (he : a.error? failure = some e) :
    a.respond (.failed failure) = .ofFailure (a.errors.codec.encode e) := by
  rw [respond, reports_iff.1 (.error h he)]
  rfl

end

/-! ### The statement, part by part -/

section
variable {heading : Heading} {errors : DataType} {ds : List MethodDeclaration} {d : MethodDeclaration}

/-- Whether what is published of a method covers all that its declaration lets travel: every wire form of
arguments, results and errors that can be sent passes validation against it. -/
structure MethodDescription.Covers (published : MethodDescription) (c : Validator)
    (d : MethodDeclaration) (errors : DataType) : Prop where
  arguments : ∀ as args, Slot.Sendable d.slots as → Slot.Writes d.slots as args →
    List.Forall₂ (fun p argument => p.Fits c argument) published.params args
  results : ∀ result v, d.result.type.Sendable result → d.result.type.Writes result v →
    c.check published.result.type v = .accepted
  errors : ∀ e v, errors.Sendable e → errors.Writes e v → c.check published.errors v = .accepted

theorem Interface.covers_described (herrors : errors.OwnNames)
    (hnames : (ofDeclarations heading errors.descriptor ds).Unambiguous) (hd : d ∈ ds)
    (hown : d.OwnNames) :
    (d.described errors.descriptor).Covers (ofDeclarations heading errors.descriptor ds).validator d
      errors := by
  -- What is published is enough to validate all types of the method, and the errors.
  obtain ⟨hslots, hresult⟩ := knows_of_mem_declarations hnames hd hown
  refine ⟨?_, ?_, ?_⟩
  · intro as args has hwritten
    show List.Forall₂ _ d.signature.params args
    rw [d.params_signature]
    exact Slot.fits_of_writes hslots has hwritten
  · intro result v hsendable hv
    show Validator.check _ d.signature.result.type v = .accepted
    rw [d.result_signature]
    exact Validator.accepts_of_writes hresult hsendable hv
  · -- Errors are validated like all other types.
    intro e v hsendable hv
    exact Validator.accepts_of_writes (knows_errors hnames herrors) hsendable hv

/-- Whether the call that a client makes of a declaration is one of the method that is published, under the
name of the registration that a builder makes of it. It carries one dictionary, which has the published names
in order; arguments that can be sent fit their parameters. -/
def MethodDescription.Called {m : Type → Type} {E : Type} (published : MethodDescription) (c : Validator)
    (client : Client m E) (builder : Builder m E) (d : MethodDeclaration) (as : Slot.Carriers d.slots) :
    Prop :=
  let call := (client.declare d.name d.signature).prepare as
  call.name = client.heading.wireName published.name ∧
    (builder.declare d.name d.signature).name = call.name ∧
    ∃ args, call.params = [.dict args] ∧ args.map (·.1) = published.params.map (·.name) ∧
      (Slot.Sendable d.slots as →
        List.Forall₂ (fun p argument => p.Fits c argument) published.params args)

theorem MethodDescription.Covers.called {m : Type → Type} {E : Type} {c : Validator} {e : Descriptor}
    (h : (d.described e).Covers c d errors) {client : Client m E} {builder : Builder m E}
    (hheading : builder.heading = client.heading) (as : Slot.Carriers d.slots) :
    (d.described e).Called c client builder d as := by
  refine ⟨rfl, congrArg (Heading.wireName · d.name) hheading, d.signature.encodeArgs as, rfl,
    d.signature.names_encodeArgs as, ?_⟩
  intro has
  -- What the client writes is one of the wire forms of the arguments.
  exact h.arguments as _ has (Slot.writes_encodeArgs d.result.param d.slots as)

/-- Whether the responses to the outcomes of a handler are what is published. A success carries the result
that was returned, and an error of the interface that was reported is carried as it is written; both pass
validation if they can be sent. -/
structure MethodDeclaration.Conforms (d : MethodDeclaration) (errors : DataType)
    (published : MethodDescription) (c : Validator) {F : Type}
    (crash? : Outcome d.result.type.Carrier F → Option Crash) (error? : F → Option errors.Carrier)
    (answer : Outcome d.result.type.Carrier F → Response) : Prop where
  success : ∀ outcome, (answer outcome).success = true →
    ∃ result, outcome = .returned result ∧
      (answer outcome).contents = d.result.type.encode result ∧
      (d.result.type.Sendable result →
        c.check published.result.type (answer outcome).contents = .accepted)
  error : ∀ failure e, crash? (.failed failure) = none → error? failure = some e →
    answer (.failed failure) = .ofFailure (errors.encode e) ∧
      (errors.Sendable e →
        c.check published.errors (answer (.failed failure)).contents = .accepted)

theorem MethodDescription.Covers.conforms {m : Type → Type} {c : Validator} {e : Descriptor}
    (h : (d.described e).Covers c d errors) {F : Type} {name : String}
    {declared : ErrorBridge errors.Carrier} {style : HandlerStyle errors.Carrier F}
    {handler : Slot.Carriers d.slots → m (Outcome d.result.type.Carrier F)} {disposal : Disposal m}
    (htype : declared.type.codec = .ofType errors) :
    let a : Attempt m errors.Carrier := ⟨⟨name, d.signature, declared⟩, style, handler, disposal⟩
    d.Conforms errors (d.described e) c a.crash? a.error? a.respond := by
  intro a
  refine ⟨?_, ?_⟩
  · intro outcome hsuccess
    obtain ⟨result, houtcome, hcontents⟩ := Attempt.respond_success hsuccess
    -- The result is written by the codec of its own type, whatever stands in front of it.
    have hcodec : a.resultCodec = .ofType d.result.type := by
      show d.signature.resultParam.codec = .ofType d.result.type
      rw [d.resultParam_signature]
      rfl
    rw [hcodec] at hcontents
    refine ⟨result, houtcome, hcontents, ?_⟩
    intro hsendable
    rw [hcontents]
    exact h.results result _ hsendable (d.result.type.writes_encode result)
  · intro failure e hcrash he
    have hcodec : a.errors.codec = .ofType errors := htype
    rw [Attempt.respond_error hcrash he, hcodec]
    refine ⟨rfl, ?_⟩
    intro hsendable
    exact h.errors e _ hsendable (errors.writes_encode e)

end

/-! ### The statement -/

/-- **What travels is what is published.** Let some methods be declared alike on clients, on a builder, and
in the description of an interface, under one heading and with one type of errors. Then for each of them
there is a description such that

* every wire form of arguments, results and errors that can be sent passes validation against it, with the
  published declarations;
* a call is named as the registration is, for the method described, and it carries one dictionary with
  the described names in order, and with arguments that fit;
* a response of a server that the method was implemented on is a reason for a refusal, or made of what the
  handler ended in; if it is a success it passes against the described result, and if it reports an error
  of the interface it passes against the described errors. -/
theorem Interface.traffic_conforms {m : Type → Type} [Monad m] [LawfulMonad m] (heading : Heading)
    (errors : DataType) (herrors : errors.OwnNames) (ds : List MethodDeclaration)
    (hnames : (ofDeclarations heading errors.descriptor ds).Unambiguous) {d : MethodDeclaration}
    (hd : d ∈ ds) (hown : d.OwnNames) :
    let i := ofDeclarations heading errors.descriptor ds
    ∃ published ∈ i.methods, published = d.described errors.descriptor ∧
      published.Covers i.validator d errors ∧
      (∀ (client : Client m errors.Carrier) (builder : Builder m errors.Carrier),
        client.heading = heading → builder.heading = heading →
          ∀ as, published.Called i.validator client builder d as) ∧
      ∀ (bridge : ErrorBridge errors.Carrier) (events : List (Session.Event m errors.Carrier))
        (t : Session m errors.Carrier) (server : Server m), bridge.type.codec = .ofType errors →
        Session.Run (Session.start heading bridge) events t → t.server = some server →
        ∀ {F : Type} (style : HandlerStyle errors.Carrier F)
          (handler : Slot.Carriers d.slots → m (Outcome d.result.type.Carrier F))
          (declared : ErrorBridge errors.Carrier) (disposal : Disposal m),
          let a : Attempt m errors.Carrier :=
            ⟨⟨heading.wireName published.name, d.signature, declared⟩, style, handler, disposal⟩
          .attempted a (.ok ()) ∈ events →
          a.name ∈ server.methods ∧
          ∀ call : Call, call.name = a.name →
            (∃ reason, server.dispatch call = pure (.ofFailure (.string reason))) ∨
              ∃ as answer, server.dispatch call = answer <$> a.ended as ∧
                d.Conforms errors published i.validator a.crash? a.error? answer := by
  intro i
  have hcovers := Interface.covers_described herrors hnames hd hown
  refine ⟨d.described errors.descriptor, mem_methods_ofDeclarations hd, rfl, hcovers, ?_, ?_⟩
  · intro client builder hclient hbuilder
    exact hcovers.called (hbuilder.trans hclient.symm)
  · intro bridge events t server hbridge run hserver F style handler declared disposal a ha
    refine ⟨(run.mem_methods_iff hserver).2 ⟨a, ha, rfl⟩, ?_⟩
    intro call hname
    rcases run.dispatch_eq hserver ha hname with hrefused | ⟨as, hrun⟩
    · exact .inl hrefused
    · -- All attempts of a session are about the one type of errors that it started with.
      have htype : declared.type = bridge.type := run.recorded.attempt_type a _ ha
      exact .inr ⟨as, a.respond, hrun, hcovers.conforms (htype ▸ hbridge)⟩

/-- Visits to a garden: a moment with parts of a second goes in and comes out, next to a tree and to a
second method. -/
theorem Interface.traffic_conforms_garden :
    let heading : Heading := { name := "garden", space := some "park" }
    let visit : MethodDeclaration :=
      ⟨"visit", "", [⟨.timestamp, some "when", none⟩, ⟨.tree, none, none⟩], ⟨.timestamp, none, none⟩⟩
    let sum : MethodDeclaration := ⟨"sum", "", [⟨.tree, none, none⟩], ⟨.int64, none, none⟩⟩
    let i := ofDeclarations heading Sample.calcError.descriptor [sum, visit]
    let bridge : ErrorBridge Sample.calcError.Carrier := .direct Sample.calcErrors
    let moment : Timestamp := ⟨2024, 2, 29, 12, 30, 5, 250000000, by decide⟩
    let as : Slot.Carriers visit.slots := (moment, .node (.leaf 1) (.leaf 2), ())
    let first : Attempt Id Sample.calcError.Carrier :=
      ⟨⟨"park.visit", visit.signature, bridge⟩, .plain, fun _ => .returned moment, .quiet⟩
    let server := Server.only heading bridge (some first)
    let client : Client Id Sample.calcError.Carrier :=
      ⟨heading, .ofType Sample.calcError, server.transport⟩
    let call := (client.declare "visit" visit.signature).prepare as
    call.name = "park.visit" ∧
      (∃ args, call.params = [.dict args] ∧
        List.Forall₂ (fun p argument => p.Fits i.validator argument) visit.signature.params args) ∧
      ∀ response : Response, server.dispatch call = pure response → response.success = true →
        i.validator.check .timestamp response.contents = .accepted := by
  intro heading visit sum i bridge moment as first server client call
  have hnames : i.Unambiguous := by decide +kernel
  have hown : visit.OwnNames := by
    refine ⟨?_, trivial⟩
    -- A tree goes by its own name, and a moment has none.
    intro s hs
    simp only [visit, List.mem_cons, List.not_mem_nil, or_false] at hs
    rcases hs with rfl | rfl <;> trivial
  have hmoment : DataType.timestamp.Sendable moment :=
    DataType.sendable_timestamp_iff.2 ⟨by decide, by decide⟩
  have hsendable : Slot.Sendable visit.slots as := ⟨hmoment, trivial, trivial⟩
  -- The server is built in three steps, and its only method returns a moment with a quarter of a second.
  obtain ⟨t, run, hserver⟩ := Session.run_only (m := Id) heading bridge "visit" visit.signature .plain
    first.handler .quiet
  have hfirst := List.mem_cons_of_mem (Session.Event.declared ⟨first.registration⟩)
    (List.mem_cons_self (a := Session.Event.attempted first (.ok ())) (l := [.built server]))
  obtain ⟨published, -, rfl, -, hcalls, hresponses⟩ :=
    Interface.traffic_conforms (m := Id) heading Sample.calcError ⟨trivial, trivial, trivial⟩
      [sum, visit] hnames (d := visit) (by simp) hown
  obtain ⟨hname, -, args, hparams, -, hfits⟩ :=
    hcalls client { heading, bridge } rfl rfl as
  refine ⟨hname, ⟨args, hparams, hfits hsendable⟩, ?_⟩
  intro response hdispatch hsuccess
  rcases (hresponses bridge _ t _ rfl run hserver .plain first.handler bridge .quiet hfirst).2 call hname with
    ⟨reason, hrefused⟩ | ⟨_, answer, hanswer, hconforms⟩
  · -- A refusal is no success.
    have hfailed : response = .ofFailure (.string reason) := hdispatch.symm.trans hrefused
    rw [hfailed] at hsuccess
    cases hsuccess
  · -- The handler always returns the moment, so this is what the response was made of.
    have hreturned : response = answer (.returned moment) := hdispatch.symm.trans hanswer
    rw [hreturned] at hsuccess ⊢
    obtain ⟨result, hsame, -, haccepted⟩ := hconforms.success _ hsuccess
    cases hsame
    exact haccepted hmoment

end Wirecall

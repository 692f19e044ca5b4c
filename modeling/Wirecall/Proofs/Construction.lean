import Wirecall.Proofs.MapLookup
import Wirecall.Server

/-!
# Servers under construction

A builder takes the first implementation of each name and refuses all later ones; once the server is
built it refuses everything. What comes out is determined by the history of the builder alone, and of
that only by the first accepted attempt of each name (`Session.run_builds_accepted`).

* `Builder.get?_install` and its siblings are what a single installation does.
* A `Session` is a builder in use: with the registrations that were declared on it and still wait for
  an implementation, and with the server that was built from it, if it was. `Session.Step` lists what can
  happen to it; after the server is built, only registrations that are left over can still be tried.
* `Session.Step.mem_waiting` and `Session.Step.registration_waits` are what a step has to do with the
  registrations that wait.
* `Session.Recorded` is the invariant. It reads the table of the builder off the events that happened
  (`Session.accepted?`). Each step keeps it (`Session.Recorded.step`), hence every run does
  (`Session.Run.recorded`).
* `Session.Run.get?_of_mem` and `Session.Run.mem_methods_iff` are what is known of a server that was built
  in a run: it has the attempts that were accepted, under their names.

Registrations are values and the builder does not remember them. So an attempt can come in any order,
under any name, any number of times, with handlers that fail in either style (`Attempt`).
-/

namespace Wirecall

/-! ### Installing a procedure -/

namespace Builder

variable {m : Type → Type} {E : Type}

theorem install_of_sealed {b : Builder m E} (h : b.sealed = true) (name : String)
    (procedure : Procedure m) : b.install name procedure = (.error (.sealed name), b) :=
  if_pos h

theorem install_of_taken {b : Builder m E} (hopen : b.sealed = false) {name : String}
    (h : (b.table.get? name).isSome = true) (procedure : Procedure m) :
    b.install name procedure = (.error (.duplicate name), b) := by
  rw [install, hopen, if_neg Bool.false_ne_true, if_pos h]

theorem install_of_free {b : Builder m E} (hopen : b.sealed = false) {name : String}
    (h : (b.table.get? name).isSome = false) (procedure : Procedure m) :
    b.install name procedure =
      (.ok (), { b with table := b.table.insertNew name procedure }) := by
  rw [install, hopen, if_neg Bool.false_ne_true, if_neg (Bool.not_eq_true _ ▸ h)]

/-- Installing changes nothing but the table. -/
theorem install_frame (b : Builder m E) (name : String) (procedure : Procedure m) :
    (b.install name procedure).2.heading = b.heading ∧
      (b.install name procedure).2.bridge = b.bridge ∧
      (b.install name procedure).2.sealed = b.sealed := by
  unfold install
  split
  · exact ⟨rfl, rfl, rfl⟩
  · split <;> exact ⟨rfl, rfl, rfl⟩

/-- In the table, it shows only under its own name, and only if there was nothing. -/
theorem get?_install {b : Builder m E} (hopen : b.sealed = false) (name : String)
    (procedure : Procedure m) (n : String) :
    (b.install name procedure).2.table.get? n =
      (b.table.get? n).or (if name = n then some procedure else none) := by
  cases htaken : (b.table.get? name).isSome with
  | true =>
    -- The table stays as it is, and has an entry where the new one would be.
    rw [install_of_taken hopen htaken]
    split
    next hname =>
      obtain ⟨p, hp⟩ := Option.isSome_iff_exists.1 htaken
      rw [← hname, hp, Option.some_or]
    next => rw [Option.or_none]
  | false =>
    -- The new entry is found under its name, and all other names lead where they did.
    rw [install_of_free hopen htaken, SortedMap.get?_insertNew]
    simp only [Std.LawfulEqOrd.compare_eq_iff_eq, eq_comm (a := n)]

end Builder

/-! ### Attempts -/

/-- How a handler fails: with errors of the interface, or with raised errors. The style fixes the type of what
it fails with, so attempts of both styles can stand in one history. -/
inductive HandlerStyle (E : Type) : Type → Type 1
  | plain : HandlerStyle E E
  | raising : HandlerStyle E (Raised E)

/-- How a failure of a handler is reported, unless reporting it gives up. -/
def HandlerStyle.report {E A R F : Type} :
    HandlerStyle E F → Registration E A R → F → Except Crash DispatchError
  | .plain, r => r.fail
  | .raising, r => r.failRaised

/-- A declared method whose types are left open. -/
structure Declared (E : Type) where
  {A R : Type}
  registration : Registration E A R

/-- An attempt to implement a declared method: with a handler of one style or the other, and with whatever
happens when the remains of its crashes are put away. -/
structure Attempt (m : Type → Type) (E : Type) where
  {A R F : Type}
  registration : Registration E A R
  style : HandlerStyle E F
  handler : A → m (Outcome R F)
  disposal : Disposal m

section
variable {m : Type → Type} {E : Type}

/-- The name on the wire that the attempt is about. -/
def Attempt.name (a : Attempt m E) : String :=
  a.registration.name

variable [Monad m]

/-- What is installed if the attempt is accepted. -/
def Attempt.procedure (a : Attempt m E) : Procedure m :=
  a.registration.procedure (a.style.report a.registration) a.handler a.disposal

/-- Tries to implement a declared method. -/
def Builder.attempt (b : Builder m E) : Attempt m E → Except InstallError Unit × Builder m E
  | ⟨r, .plain, handler, disposal⟩ => b.implement r handler disposal
  | ⟨r, .raising, handler, disposal⟩ => b.implementRaising r handler disposal

theorem Builder.attempt_eq_install (b : Builder m E) (a : Attempt m E) :
    b.attempt a = b.install a.name a.procedure := by
  obtain ⟨r, style, handler, disposal⟩ := a
  -- The two ways to implement differ in how failures are reported, which is part of the procedure.
  cases style <;> rfl

end

/-! ### Sessions -/

/-- A builder in use. Who uses it holds the registrations that it gave out, and gives them back one by one; the
builder itself knows nothing of them. -/
structure Session (m : Type → Type) (E : Type) where
  builder : Builder m E
  /-- The registrations that wait for their implementation. -/
  waiting : List (Declared E) := []
  /-- The server, once it is built. -/
  server : Option (Server m) := none

namespace Session

variable {m : Type → Type} {E : Type}

/-- A session with a fresh builder. -/
def start (heading : Heading) (bridge : ErrorBridge E) : Session m E where
  builder := { heading, bridge }

/-- What can happen in a session. -/
inductive Event (m : Type → Type) (E : Type) where
  /-- The builder got another bridge. -/
  | bridged (bridge : ErrorBridge E)
  | declared (d : Declared E)
  /-- Somebody tried to implement a method, and got an answer. -/
  | attempted (a : Attempt m E) (answer : Except InstallError Unit)
  | built (server : Server m)

/-- One thing after another. A builder is used up when the server is built, and a registration when it is
tried, whatever the answer. All bridges of an interface are about its one type of errors. -/
inductive Step [Monad m] : Session m E → Event m E → Session m E → Prop
  | bridge {s : Session m E} (hopen : s.server = none) (bridge : ErrorBridge E)
    (htype : bridge.type = s.builder.bridge.type) :
    Step s (.bridged bridge) { s with builder := s.builder.withBridge bridge }
  | declare {s : Session m E} {A R : Type} (hopen : s.server = none) (name : String)
    (signature : Signature A R) :
    Step s (.declared ⟨s.builder.declare name signature⟩)
      { s with waiting := ⟨s.builder.declare name signature⟩ :: s.waiting }
  | attempt {s : Session m E} {before after : List (Declared E)} (a : Attempt m E)
    (hwaiting : s.waiting = before ++ ⟨a.registration⟩ :: after) :
    Step s (.attempted a (s.builder.attempt a).1)
      { s with builder := (s.builder.attempt a).2, waiting := before ++ after }
  | build {s : Session m E} (hopen : s.server = none) :
    Step s (.built s.builder.build.1)
      { s with builder := s.builder.build.2, server := some s.builder.build.1 }

/-- Any number of steps, with everything that happened. The latest step is the last one, so an invariant of a
run is proved from what one more step does to it. -/
inductive Run [Monad m] : Session m E → List (Event m E) → Session m E → Prop
  | nil (s : Session m E) : Run s [] s
  | snoc {s t u : Session m E} {events : List (Event m E)} {e : Event m E} (run : Run s events t)
    (step : Step t e u) : Run s (events ++ [e]) u

/-! ### What the history says -/

/-- The attempt of a name, if this is one and it was accepted. -/
def Event.accepted? (name : String) : Event m E → Option (Attempt m E)
  | .attempted a (.ok ()) => if a.name = name then some a else none
  | _ => none

/-- The first accepted attempt of a name. That there is never a second one is not built in; it is what is to be
shown. -/
def accepted? (events : List (Event m E)) (name : String) : Option (Attempt m E) :=
  events.findSome? (Event.accepted? name)

theorem Event.accepted?_eq_some_iff {name : String} {e : Event m E} {a : Attempt m E} :
    e.accepted? name = some a ↔ e = .attempted a (.ok ()) ∧ a.name = name := by
  unfold Event.accepted?
  split
  next b =>
    -- An accepted attempt is the one asked for if it has the name.
    rw [Option.ite_none_right_eq_some]
    constructor
    · rintro ⟨hname, hb⟩
      cases hb
      exact ⟨rfl, hname⟩
    · rintro ⟨hb, hname⟩
      cases hb
      exact ⟨hname, rfl⟩
  -- Nothing else counts, neither a refusal nor another event.
  next hnot => exact ⟨(nomatch ·), fun h => absurd h.1 (hnot a)⟩

theorem accepted?_snoc (events : List (Event m E)) (e : Event m E) (name : String) :
    accepted? (events ++ [e]) name = (accepted? events name).or (e.accepted? name) := by
  unfold accepted?
  rw [List.findSome?_append, List.findSome?_cons, List.findSome?_nil]
  -- The last event has a say only if no earlier one had.
  cases e.accepted? name <;> rfl

theorem isSome_accepted?_iff {events : List (Event m E)} {name : String} :
    (accepted? events name).isSome = true ↔
      ∃ a, .attempted a (.ok ()) ∈ events ∧ a.name = name := by
  rw [accepted?, List.findSome?_isSome_iff]
  simp only [Option.isSome_iff_exists, Event.accepted?_eq_some_iff]
  constructor
  · rintro ⟨_, hmem, a, rfl, hname⟩
    exact ⟨a, hmem, hname⟩
  · rintro ⟨a, hmem, hname⟩
    exact ⟨_, hmem, a, rfl, hname⟩

theorem name_of_accepted? {events : List (Event m E)} {name : String} {a : Attempt m E}
    (h : accepted? events name = some a) : .attempted a (.ok ()) ∈ events ∧ a.name = name := by
  -- What a search for the first one finds is one of the events.
  obtain ⟨before, e, after, rfl, he, _⟩ := List.findSome?_eq_some_iff.1 h
  obtain ⟨rfl, hname⟩ := Event.accepted?_eq_some_iff.1 he
  exact ⟨by simp, hname⟩

/-! ### What waits -/

variable [Monad m] {heading : Heading} {bridge : ErrorBridge E} {events : List (Event m E)}
  {s t : Session m E} {e : Event m E}

/-- What waits after a step was waiting before, or it was declared in the step, with the bridge of the
builder. -/
theorem Step.mem_waiting (step : Step s e t) {d : Declared E} (hd : d ∈ t.waiting) :
    d ∈ s.waiting ∨ e = .declared d ∧ d.registration.bridge = s.builder.bridge := by
  cases step with
  | bridge hopen bridge htype => exact .inl hd
  | declare hopen name signature =>
    rcases List.mem_cons.1 hd with rfl | hd
    · exact .inr ⟨rfl, rfl⟩
    · exact .inl hd
  | attempt a hwaiting =>
    -- The registration that is tried leaves, and nothing comes.
    rw [hwaiting]
    exact .inl (((List.sublist_cons_self _ _).append_left _).subset hd)
  | build hopen => exact .inl hd

/-- Only a registration that waits can be tried. -/
theorem Step.registration_waits {a : Attempt m E} {answer : Except InstallError Unit}
    (step : Step s (.attempted a answer) t) : ⟨a.registration⟩ ∈ s.waiting := by
  cases step with
  | attempt _ hwaiting =>
    rw [hwaiting]
    exact List.mem_append_right _ List.mem_cons_self

/-! ### The invariant -/

/-- What a session with a certain start has to do with the events that happened in it. This is the invariant of
runs: everything in the session can be told from the events. -/
structure Recorded (heading : Heading) (bridge : ErrorBridge E) (events : List (Event m E))
    (s : Session m E) : Prop where
  heading_eq : s.builder.heading = heading
  /-- The builder is sealed when there is a server. -/
  sealed_eq : s.builder.sealed = s.server.isSome
  /-- Each name in the table is that of the first accepted attempt. -/
  table_eq : ∀ name, s.builder.table.get? name = (accepted? events name).map Attempt.procedure
  /-- The server has the table of the builder. -/
  server_eq : ∀ server, s.server = some server → server = ⟨heading, s.builder.table⟩
  built_iff : ∀ server, .built server ∈ events ↔ s.server = some server
  /-- Everything is about one type of errors. -/
  bridge_type : s.builder.bridge.type = bridge.type
  waiting_type : ∀ d ∈ s.waiting, d.registration.bridge.type = bridge.type
  attempt_type : ∀ a answer, .attempted a answer ∈ events → a.registration.bridge.type = bridge.type

theorem recorded_start : Recorded heading bridge [] (start heading bridge : Session m E) where
  heading_eq := rfl
  sealed_eq := rfl
  table_eq _ := rfl
  server_eq _ h := nomatch h
  built_iff _ := ⟨(nomatch ·), (nomatch ·)⟩
  bridge_type := rfl
  waiting_type _ h := nomatch h
  attempt_type _ _ h := nomatch h

/-- The answer to an attempt is determined by what happened before. -/
theorem Recorded.answer_eq (h : Recorded heading bridge events s) (a : Attempt m E) :
    (s.builder.attempt a).1 =
      if s.server.isSome = true then .error (.sealed a.name)
      else if (accepted? events a.name).isSome = true then .error (.duplicate a.name)
      else .ok () := by
  -- A name is taken exactly if an attempt of it was accepted, as the table is read off the events.
  have htaken : (s.builder.table.get? a.name).isSome = (accepted? events a.name).isSome := by
    rw [h.table_eq, Option.isSome_map]
  rw [Builder.attempt_eq_install, ← h.sealed_eq, ← htaken]
  -- The builder asks whether it is sealed before it asks for the name.
  cases hsealed : s.builder.sealed with
  | true => rw [Builder.install_of_sealed hsealed, if_pos rfl]
  | false =>
    rw [if_neg Bool.false_ne_true]
    cases hname : (s.builder.table.get? a.name).isSome with
    | true => rw [Builder.install_of_taken hsealed hname, if_pos rfl]
    | false => rw [Builder.install_of_free hsealed hname, if_neg Bool.false_ne_true]

theorem Recorded.answer_of_step (h : Recorded heading bridge events s) {a : Attempt m E}
    {answer : Except InstallError Unit} (step : Step s (.attempted a answer) t) :
    answer =
      if s.server.isSome = true then .error (.sealed a.name)
      else if (accepted? events a.name).isSome = true then .error (.duplicate a.name)
      else .ok () := by
  cases step
  exact h.answer_eq a

/-- An attempt changes the table as its answer says. -/
theorem Recorded.get?_attempt (h : Recorded heading bridge events s) (a : Attempt m E)
    (name : String) :
    (s.builder.attempt a).2.table.get? name =
      (accepted? (events ++ [.attempted a (s.builder.attempt a).1]) name).map
        Attempt.procedure := by
  rw [accepted?_snoc, h.answer_eq a]
  cases hsealed : s.builder.sealed with
  | true =>
    -- Nothing changes any more, and the attempt is no accepted one.
    have hserver : s.server.isSome = true := h.sealed_eq ▸ hsealed
    rw [Builder.attempt_eq_install, Builder.install_of_sealed hsealed, if_pos hserver, h.table_eq]
    exact congrArg _ (Option.or_none).symm
  | false =>
    have hserver : ¬ s.server.isSome = true := by rw [← h.sealed_eq, hsealed]; exact Bool.false_ne_true
    rw [Builder.attempt_eq_install, Builder.get?_install hsealed, h.table_eq, if_neg hserver]
    by_cases hname : a.name = name
    · subst hname
      -- If there was an accepted attempt of this name before, it is the one that shows.
      cases haccepted : accepted? events a.name with
      | some first => simp
      | none => simp [Event.accepted?]
    · rw [if_neg hname, Option.or_none]
      split <;> simp [Event.accepted?, hname]

/-- **Each step keeps the record.** -/
theorem Recorded.step (h : Recorded heading bridge events s) (step : Step s e t) :
    Recorded heading bridge (events ++ [e]) t := by
  -- Only attempts can be accepted, and only building gives a server.
  have htable (he : ∀ name, e.accepted? name = none) (name : String) :
      s.builder.table.get? name = (accepted? (events ++ [e]) name).map Attempt.procedure := by
    rw [accepted?_snoc, he, Option.or_none, h.table_eq]
  -- An event that is no building leaves the list of servers as it was.
  have hbuilt (he : ∀ server, .built server ≠ e) (server : Server m) :
      .built server ∈ events ++ [e] ↔ s.server = some server := by
    rw [List.mem_append, List.mem_singleton, or_iff_left (he server), h.built_iff]
  -- What waits was declared under a bridge of the one type, now or before.
  have hwaits (d : Declared E) (hd : d ∈ t.waiting) : d.registration.bridge.type = bridge.type := by
    rcases step.mem_waiting hd with hd | ⟨-, hbridge⟩
    · exact h.waiting_type d hd
    · rw [hbridge, h.bridge_type]
  have hattempts (a : Attempt m E) (answer : Except InstallError Unit)
      (hmem : .attempted a answer ∈ events ++ [e]) : a.registration.bridge.type = bridge.type := by
    rcases List.mem_append.1 hmem with hmem | hmem
    · exact h.attempt_type a answer hmem
    · cases List.mem_singleton.1 hmem
      exact h.waiting_type _ step.registration_waits
  cases step with
  | bridge hopen bridge' htype =>
    exact
      { h with
        table_eq := htable fun _ => rfl
        built_iff := hbuilt (by simp)
        bridge_type := htype.trans h.bridge_type
        attempt_type := hattempts }
  | declare hopen name signature =>
    exact
      { h with
        table_eq := htable fun _ => rfl
        built_iff := hbuilt (by simp)
        waiting_type := hwaits
        attempt_type := hattempts }
  | attempt a hwaiting =>
    -- Whatever the answer, the attempt changes the table and nothing else of the builder.
    have hframe := s.builder.install_frame a.name a.procedure
    rw [← Builder.attempt_eq_install] at hframe
    obtain ⟨hheading, hbridge, hsealed⟩ := hframe
    exact
      { heading_eq := hheading.trans h.heading_eq
        sealed_eq := hsealed.trans h.sealed_eq
        table_eq := h.get?_attempt a
        server_eq := by
          -- Where there is a server, the builder is sealed and the attempt leaves it as it is.
          intro server hserver
          have hsealed : s.builder.sealed = true := by
            rw [h.sealed_eq, show s.server = some server from hserver, Option.isSome_some]
          rw [Builder.attempt_eq_install, Builder.install_of_sealed hsealed]
          exact h.server_eq server hserver
        built_iff := hbuilt (by simp)
        bridge_type := hbridge ▸ h.bridge_type
        waiting_type := hwaits
        attempt_type := hattempts }
  | build hopen =>
    exact
      { h with
        sealed_eq := rfl
        table_eq := htable fun _ => rfl
        server_eq := by
          rintro server ⟨⟩
          exact congrArg (Server.mk · _) h.heading_eq
        -- Before this step there was no server, so this one is the only one.
        built_iff := fun server => by simp [h.built_iff, hopen, eq_comm]
        attempt_type := hattempts }

/-- **So does every run.** -/
theorem Run.recorded (run : Run (start heading bridge) events t) :
    Recorded heading bridge events t := by
  induction run with
  | nil => exact recorded_start
  | snoc run step ih => exact ih.step step

/-- A run can be stopped before any of its events. -/
theorem Run.split {before after : List (Event m E)} (run : Run s (before ++ e :: after) t) :
    ∃ u v, Run s before u ∧ Step u e v ∧ Run v after t := by
  generalize hevents : before ++ e :: after = events at run
  induction run generalizing after with
  | nil => simp at hevents
  | snoc run step ih =>
    -- Either the last event is the one to stop before, or it comes after it.
    rcases List.eq_nil_or_concat after with rfl | ⟨rest, last, rfl⟩
    · -- It is the last one, and the run stops before its last step.
      obtain ⟨rfl, he⟩ := List.append_inj' hevents rfl
      cases he
      exact ⟨_, _, run, step, .nil _⟩
    · rw [List.concat_eq_append, ← List.cons_append, ← List.append_assoc] at hevents
      -- The last step stays at the end, and the rest is split by the induction.
      obtain ⟨hrest, hlast⟩ := List.append_inj' hevents rfl
      cases hlast
      obtain ⟨u, v, hfirst, hstep, hthen⟩ := ih hrest
      rw [List.concat_eq_append]
      exact ⟨u, v, hfirst, hstep, hthen.snoc step⟩

end Session

/-! ### What is built -/

namespace Server

variable {m : Type → Type} {E : Type}

/-- The methods are listed in ascending order, none of them twice. -/
theorem pairwise_methods (s : Server m) : s.methods.Pairwise (· < ·) := by
  unfold methods SortedMap.keys
  rw [List.pairwise_map]
  -- The table is in order, since that is part of what a sorted map is.
  exact s.table.ascending.imp fun h => compareOfLessAndEq_eq_lt.1 h

theorem mem_methods_iff {s : Server m} {name : String} :
    name ∈ s.methods ↔ (s.table.get? name).isSome = true := by
  simp only [methods, SortedMap.keys, List.mem_map, Option.isSome_iff_exists,
    SortedMap.get?_eq_some_iff]
  constructor
  · rintro ⟨⟨_, p⟩, hmem, rfl⟩
    exact ⟨p, hmem⟩
  · rintro ⟨p, hmem⟩
    exact ⟨(name, p), hmem, rfl⟩

variable [Monad m]

/-- Of a server, only what it has under the name of a call matters to the call. -/
theorem tryDispatch_congr {s s' : Server m} {call : Call}
    (h : s.table.get? call.name = s'.table.get? call.name) :
    s.tryDispatch call = s'.tryDispatch call := by
  unfold tryDispatch
  rw [h]

theorem tryDispatch_of_get? {s : Server m} {name : String} {procedure : Procedure m}
    (h : s.table.get? name = some procedure) (args : Arguments) (notification : Bool) :
    s.tryDispatch ⟨name, [.dict args], notification⟩ = procedure args := by
  simp only [tryDispatch, h]

/-- The server with at most one method: that of an attempt on a fresh builder. -/
def only (heading : Heading) (bridge : ErrorBridge E) : Option (Attempt m E) → Server m
  | none => (Session.start heading bridge).builder.build.1
  | some a => ((Session.start heading bridge).builder.attempt a).2.build.1

theorem get?_only (heading : Heading) (bridge : ErrorBridge E) (a : Attempt m E) (name : String) :
    (only heading bridge (some a)).table.get? name =
      if a.name = name then some a.procedure else none := by
  -- Building does not touch the table, so this is one installation on an empty one.
  show ((Session.start heading bridge).builder.attempt a).2.table.get? name = _
  rw [Builder.attempt_eq_install, Builder.get?_install rfl]
  rfl

end Server

namespace Session

variable {m : Type → Type} [Monad m] {E : Type} {heading : Heading} {bridge : ErrorBridge E}
  {events : List (Event m E)} {t : Session m E} {server : Server m}

/-- The shortest run to a server with a method: declare it, implement it, build. -/
theorem run_only (heading : Heading) (bridge : ErrorBridge E) {A R F : Type} (name : String)
    (signature : Signature A R) (style : HandlerStyle E F) (handler : A → m (Outcome R F))
    (disposal : Disposal m) :
    let a : Attempt m E := ⟨⟨heading.wireName name, signature, bridge⟩, style, handler, disposal⟩
    let server := Server.only heading bridge (some a)
    ∃ t, Run (start heading bridge)
        [.declared ⟨a.registration⟩, .attempted a (.ok ()), .built server] t ∧
      t.server = some server := by
  intro a server
  let builder : Builder m E := { heading, bridge }
  have declare : Run (start heading bridge) [.declared ⟨a.registration⟩]
      ⟨builder, [⟨a.registration⟩], none⟩ :=
    (Run.nil _).snoc (.declare rfl name signature)
  -- Nothing has been installed before, and no server has been built.
  have accept : (builder.attempt a).1 = .ok () := by
    rw [Builder.attempt_eq_install]
    rfl
  have implement := Step.attempt (s := ⟨builder, [⟨a.registration⟩], none⟩) a
    (List.nil_append _).symm
  rw [accept] at implement
  exact ⟨_, (declare.snoc implement).snoc (.build rfl), rfl⟩

/-- When the server was built, it had under each name what was accepted first. -/
theorem Run.get?_built {before after : List (Event m E)}
    (run : Run (start heading bridge) (before ++ .built server :: after) t) (name : String) :
    server.table.get? name = (accepted? before name).map Attempt.procedure := by
  -- The run is stopped right before, and there the table is known by the invariant.
  obtain ⟨u, v, hfirst, hstep, -⟩ := run.split
  cases hstep
  exact hfirst.recorded.table_eq name

/-- An attempt that was accepted is the first accepted one of its name. -/
theorem Run.accepted?_of_mem (run : Run (start heading bridge) events t) {a : Attempt m E}
    (ha : .attempted a (.ok ()) ∈ events) : accepted? events a.name = some a := by
  obtain ⟨before, after, rfl⟩ := List.append_of_mem ha
  obtain ⟨u, v, hfirst, hstep, -⟩ := run.split
  have hanswer := hfirst.recorded.answer_of_step hstep
  -- It was accepted, so none of its name was accepted before.
  have hnone : accepted? before a.name = none := by
    split at hanswer
    · cases hanswer
    · split at hanswer
      · cases hanswer
      next h => exact Option.not_isSome_iff_eq_none.1 h
  rw [accepted?, List.findSome?_append, show before.findSome? _ = none from hnone]
  simp [Event.accepted?]

/-- A server has under each name what was accepted first. -/
theorem Run.get?_server (run : Run (start heading bridge) events t) (hserver : t.server = some server)
    (name : String) : server.table.get? name = (accepted? events name).map Attempt.procedure := by
  rw [run.recorded.server_eq server hserver]
  exact run.recorded.table_eq name

theorem Run.get?_of_mem (run : Run (start heading bridge) events t) (hserver : t.server = some server)
    {a : Attempt m E} (ha : .attempted a (.ok ()) ∈ events) :
    server.table.get? a.name = some a.procedure := by
  rw [run.get?_server hserver, run.accepted?_of_mem ha, Option.map_some]

/-- The methods of a server are those of the accepted attempts. -/
theorem Run.mem_methods_iff (run : Run (start heading bridge) events t)
    (hserver : t.server = some server) {name : String} :
    name ∈ server.methods ↔ ∃ a, .attempted a (.ok ()) ∈ events ∧ a.name = name := by
  rw [Server.mem_methods_iff, run.get?_server hserver, Option.isSome_map, isSome_accepted?_iff]

/-- **What is built is what was accepted first.** Before the server is built, the first attempt of a name
is accepted and all others are refused; afterwards all are. The server never changes; its methods are
those that were accepted, in ascending order, each with the first handler that it got; and to any one call
it is as if the method of that name were the only one. -/
theorem run_builds_accepted (heading : Heading) (bridge : ErrorBridge E) {events : List (Event m E)}
    {t : Session m E} (run : Run (start heading bridge) events t) :
    (∀ before a answer after, events = before ++ .attempted a answer :: after →
      ((∃ server, .built server ∈ before) → answer = .error (.sealed a.name)) ∧
      ((¬ ∃ server, .built server ∈ before) →
        (answer = .ok () ↔ ¬ ∃ b, .attempted b (.ok ()) ∈ before ∧ b.name = a.name) ∧
        (answer ≠ .ok () → answer = .error (.duplicate a.name)))) ∧
    ∀ before server after, events = before ++ .built server :: after →
      t.server = some server ∧
      server.methods.Pairwise (· < ·) ∧
      (∀ name, name ∈ server.methods ↔ ∃ a, .attempted a (.ok ()) ∈ before ∧ a.name = name) ∧
      (∀ name a, accepted? before name = some a → ∀ args notification,
        server.tryDispatch ⟨name, [.dict args], notification⟩ = a.procedure args) ∧
      ∀ call,
        server.tryDispatch call =
          (Server.only heading bridge (accepted? before call.name)).tryDispatch call ∧
        server.dispatch call =
          (Server.only heading bridge (accepted? before call.name)).dispatch call := by
  refine ⟨?_, ?_⟩
  · rintro before a answer after rfl
    obtain ⟨u, v, hfirst, hstep, -⟩ := run.split
    have hrecorded := hfirst.recorded
    -- Whether there is a server, and whether a name is taken, can be read off what happened before.
    have hbuilt : (∃ server, .built server ∈ before) ↔ u.server.isSome = true := by
      simp only [hrecorded.built_iff, Option.isSome_iff_exists]
    rw [hbuilt, ← isSome_accepted?_iff, hrecorded.answer_of_step hstep]
    refine ⟨fun h => by rw [if_pos h], ?_⟩
    intro h
    rw [if_neg h]
    -- Of a builder that is still open, the answer depends on the name alone.
    by_cases htaken : (accepted? before a.name).isSome = true
    · rw [if_pos htaken]
      exact ⟨⟨(nomatch ·), fun hnot => absurd htaken hnot⟩, fun _ => rfl⟩
    · rw [if_neg htaken]
      exact ⟨⟨fun _ => htaken, fun _ => rfl⟩, fun hne => absurd rfl hne⟩
  · rintro before server after rfl
    have htable := run.get?_built
    refine ⟨?_, server.pairwise_methods, ?_, ?_, ?_⟩
    · exact (run.recorded.built_iff server).1 (by simp)
    · intro name
      rw [Server.mem_methods_iff, htable, Option.isSome_map, isSome_accepted?_iff]
    · intro name a ha
      exact Server.tryDispatch_of_get? (by rw [htable, ha, Option.map_some])
    · intro call
      -- Under the name of the call, both have the procedure of the first accepted attempt, if any.
      have hcall : server.table.get? call.name =
          (Server.only heading bridge (accepted? before call.name)).table.get? call.name := by
        rw [htable]
        cases haccepted : accepted? before call.name with
        | none => rfl
        | some a => rw [Server.get?_only, if_pos (name_of_accepted? haccepted).2, Option.map_some]
      have hdispatch := Server.tryDispatch_congr hcall
      exact ⟨hdispatch, congrArg (Server.respond <$> ·) hdispatch⟩

/-- A clock that is declared three times: once it is implemented, once again, and once too late. -/
theorem run_builds_accepted_clock :
    let heading : Heading := { name := "clock" }
    let bridge : ErrorBridge String := .direct .reason
    let signature : Signature Unit Int64 := .returning (.ofCodec (.ofType .int64))
    let now : Registration String Unit Int64 := ⟨"now", signature, bridge⟩
    let first : Attempt Id String := ⟨now, .plain, fun _ => .returned 1, .quiet⟩
    let second : Attempt Id String := ⟨now, .raising, fun _ => .returned 2, .quiet⟩
    ∃ server t,
      Run (start heading bridge)
        [.declared ⟨now⟩, .declared ⟨now⟩, .declared ⟨now⟩, .attempted first (.ok ()),
          .attempted second (.error (.duplicate "now")), .built server,
          .attempted second (.error (.sealed "now"))] t ∧
      t.server = some server ∧ "now" ∈ server.methods ∧
      server.tryDispatch ⟨"now", [.dict []], false⟩ = pure (.ok (.int 1)) := by
  intro heading bridge signature now first second
  let empty : Builder Id String := { heading, bridge }
  let builder := (empty.attempt first).2
  have declared : Run (start heading bridge) [.declared ⟨now⟩, .declared ⟨now⟩, .declared ⟨now⟩]
      ⟨empty, [⟨now⟩, ⟨now⟩, ⟨now⟩], none⟩ :=
    (((Run.nil _).snoc (.declare rfl "now" signature)).snoc (.declare rfl "now" signature)).snoc
      (.declare rfl "now" signature)
  have implement : Step ⟨empty, [⟨now⟩, ⟨now⟩, ⟨now⟩], none⟩ (.attempted first (.ok ()))
      ⟨builder, [⟨now⟩, ⟨now⟩], none⟩ := by
    have step := Step.attempt (s := ⟨empty, [⟨now⟩, ⟨now⟩, ⟨now⟩], none⟩) first
      (List.nil_append _).symm
    exact step
  have again : Step ⟨builder, [⟨now⟩, ⟨now⟩], none⟩
      (.attempted second (.error (.duplicate "now"))) ⟨builder, [⟨now⟩], none⟩ := by
    -- The first implementation is found under the name of the second.
    have htaken : (builder.table.get? second.name).isSome = true := by
      show ((empty.install first.name first.procedure).2.table.get? "now").isSome = true
      rw [Builder.get?_install rfl]
      rfl
    have hrefused : builder.attempt second = (.error (.duplicate "now"), builder) := by
      rw [Builder.attempt_eq_install, Builder.install_of_taken rfl htaken]
      rfl
    have step := Step.attempt (s := ⟨builder, [⟨now⟩, ⟨now⟩], none⟩) second
      (List.nil_append _).symm
    rwa [hrefused] at step
  -- The last attempt comes after the server was built. It is refused, too, for another reason.
  have run := (((declared.snoc implement).snoc again).snoc (.build rfl)).snoc
    (.attempt second (List.nil_append _).symm)
  obtain ⟨hserver, -, hmethods, hanswer, -⟩ :=
    (run_builds_accepted heading bridge run).2 [_, _, _, _, _] _ [_] rfl
  refine ⟨_, _, run, hserver, (hmethods "now").2 ⟨first, by simp, rfl⟩, ?_⟩
  exact hanswer "now" first rfl [] false

end Session
end Wirecall

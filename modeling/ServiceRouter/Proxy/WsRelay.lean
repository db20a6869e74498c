import Mathlib.Data.List.Infix
import ServiceRouter.Foundation.LeadingRun
import ServiceRouter.Proxy.Message

/-!
# The WebSocket relay

After the upgrade two loops copy frames, one in each direction, until one of
them ends and the other is dropped.  A loop is the state in which it waits;
events resolve what it waits for, in any order of the two loops.  A sink takes
a frame at some moment while it is being sent, or the send fails.
-/

namespace ServiceRouter

open Foundation

inductive WsMessage where
  | text (text : String)
  | binary (bytes : Bytes)
  | ping (bytes : Bytes)
  | pong (bytes : Bytes)
  | close (frame : Option (Nat × String))
  | frame (bytes : Bytes)
  deriving DecidableEq

def WsMessage.isClose : WsMessage → Bool
  | .close _ => true
  | _ => false

/-- What a stream yields; it is over when it yields `none`. -/
abbrev WsItem := Except String WsMessage

/-! ## One direction -/

inductive Ending where
  | streamEnded
  | closeRead
  | readFailed
  | sendFailed
  deriving DecidableEq

inductive Phase where
  | reading
  /-- `delivered` once the sink has taken the frame. -/
  | sending (frame : WsMessage) (delivered : Bool)
  | closing
  | ended (why : Ending)
  /-- Dropped because the other loop ended. -/
  | dropped
  deriving DecidableEq

structure Loop where
  yielded : List WsItem := []
  sent : List WsMessage := []
  phase : Phase := .reading

inductive LoopEvent where
  | yields (item : Option WsItem)
  | delivers
  | sendReturns (result : Except String Unit)
  | closeReturns

def afterNext : Option WsItem → Phase
  | none => .ended .streamEnded
  | some (.ok frame) => if frame.isClose then .closing else .sending frame false
  | some (.error _) => .ended .readFailed

def afterSend : Except String Unit → Phase
  | .ok _ => .reading
  | .error _ => .ended .sendFailed

/-- A send that succeeds has delivered its frame. -/
def Loop.step (loop : Loop) (event : LoopEvent) : Option Loop :=
  match loop.phase, event with
  | .reading, .yields item => some { loop with
      yielded := loop.yielded ++ item.toList
      phase := afterNext item }
  | .sending frame false, .delivers => some { loop with
      sent := loop.sent ++ [frame]
      phase := .sending frame true }
  | .sending _ delivered, .sendReturns result =>
      if result.isOk && !delivered then none
      else some { loop with phase := afterSend result }
  | .closing, .closeReturns => some { loop with phase := .ended .closeRead }
  | _, _ => none

/-! ## Both directions -/

inductive RelayState where
  | upgrading
  | notUpgraded
  | relaying (c2u u2c : Loop)

inductive RelayEvent where
  | upgraded (result : Except String Unit)
  | c2u (event : LoopEvent)
  | u2c (event : LoopEvent)

def Loop.isEnded (loop : Loop) : Bool :=
  match loop.phase with
  | .ended _ => true
  | _ => false

def Loop.drop (loop : Loop) : Loop := { loop with phase := .dropped }

/-- When one loop has ended the other is dropped where it waits. -/
def select (c2u u2c : Loop) : RelayState :=
  if c2u.isEnded then .relaying c2u u2c.drop
  else if u2c.isEnded then .relaying c2u.drop u2c
  else .relaying c2u u2c

def RelayState.step (state : RelayState) (event : RelayEvent) :
    Option RelayState :=
  match state, event with
  | .upgrading, .upgraded (.ok _) => some (.relaying {} {})
  | .upgrading, .upgraded (.error _) => some .notUpgraded
  | .relaying c2u u2c, .c2u event =>
      (c2u.step event).map fun c2u => select c2u u2c
  | .relaying c2u u2c, .u2c event =>
      (u2c.step event).map fun u2c => select c2u u2c
  | _, _ => none

def relayWebsocket (events : List RelayEvent) : Option RelayState :=
  events.foldlM RelayState.step .upgrading

/-! ## Faithful prefixes -/

/-- A frame to relay, when the item is one. -/
def dataFrame : WsItem → Option WsMessage
  | .ok frame => if frame.isClose then none else some frame
  | .error _ => none

/-- The frames a loop sends are a prefix of the frames its stream yielded
before the first close frame or error, and all of them once a close frame has
been read. -/
structure Loop.Faithful (loop : Loop) : Prop where
  sent_prefix : loop.sent <+: leading dataFrame loop.yielded
  complete : ∀ frame, .ok frame ∈ loop.yielded → frame.isClose = true →
    loop.yielded = loop.sent.map .ok ++ [.ok frame]
  closeRead : loop.phase = .ended .closeRead →
    ∃ frame, .ok frame ∈ loop.yielded ∧ frame.isClose = true

theorem dataFrame_eq_some {item : WsItem} {frame : WsMessage} :
    dataFrame item = some frame ↔
      item = .ok frame ∧ frame.isClose = false := by
  cases item with
  | error reason => simp [dataFrame]
  | ok message =>
      cases hclose : message.isClose with
      | true =>
          simp only [dataFrame, hclose, if_true, Except.ok.injEq,
            reduceCtorEq, false_iff, not_and]
          rintro rfl
          simp [hclose]
      | false =>
          simp only [dataFrame, hclose, Bool.false_eq_true, if_false,
            Option.some.injEq, Except.ok.injEq]
          constructor
          · rintro rfl
            exact ⟨rfl, hclose⟩
          · intro h
            exact h.1

theorem not_close_of_unbroken {items : List WsItem}
    (h : Unbroken dataFrame items) {frame : WsMessage}
    (hmem : .ok frame ∈ items) : frame.isClose = false := by
  obtain ⟨data, hdata⟩ := Option.isSome_iff_exists.mp (h _ hmem)
  obtain ⟨hframe, hclose⟩ := dataFrame_eq_some.mp hdata
  cases hframe
  exact hclose

theorem eq_map_ok_leading {items : List WsItem}
    (h : Unbroken dataFrame items) :
    items = (leading dataFrame items).map .ok :=
  eq_map_leading (fun _ _ hdata => (dataFrame_eq_some.mp hdata).1) h

/-! ## The invariant of a loop -/

/-- The loop has sent every frame its stream yielded. -/
structure AllSent (loop : Loop) : Prop where
  unbroken : Unbroken dataFrame loop.yielded
  sent : leading dataFrame loop.yielded = loop.sent

/-- Its stream has yielded one frame the sink has not taken. -/
structure OneInFlight (loop : Loop) (frame : WsMessage) : Prop where
  unbroken : Unbroken dataFrame loop.yielded
  sent : leading dataFrame loop.yielded = loop.sent ++ [frame]

/-- All but the last item its stream yielded were frames, and they are sent. -/
structure Stopped (loop : Loop) (last : WsItem) : Prop where
  noData : dataFrame last = none
  yielded : loop.yielded = loop.sent.map .ok ++ [last]
  unbroken : Unbroken dataFrame (loop.sent.map .ok)

def Loop.Inv (loop : Loop) : Prop :=
  match loop.phase with
  | .reading => AllSent loop
  | .sending frame delivered =>
      if delivered then AllSent loop else OneInFlight loop frame
  | .closing => ∃ frame, frame.isClose = true ∧ Stopped loop (.ok frame)
  | .ended .streamEnded => AllSent loop
  | .ended .closeRead =>
      ∃ frame, frame.isClose = true ∧ Stopped loop (.ok frame)
  | .ended .readFailed => ∃ reason, Stopped loop (.error reason)
  | .ended .sendFailed => loop.Faithful
  | .dropped => loop.Faithful

section Faithful

variable {loop : Loop}

/-- A stream that has only yielded frames has not closed. -/
theorem Loop.Faithful.of_unbroken (hopen : Unbroken dataFrame loop.yielded)
    (hsent : loop.sent <+: leading dataFrame loop.yielded)
    (hphase : loop.phase ≠ .ended .closeRead) : loop.Faithful where
  sent_prefix := hsent
  complete frame hmem hclose := by
    rw [not_close_of_unbroken hopen hmem] at hclose
    cases hclose
  closeRead hended := absurd hended hphase

theorem AllSent.faithful (h : AllSent loop)
    (hphase : loop.phase ≠ .ended .closeRead) : loop.Faithful := by
  apply Loop.Faithful.of_unbroken h.unbroken _ hphase
  rw [h.sent]

theorem OneInFlight.faithful {frame : WsMessage} (h : OneInFlight loop frame)
    (hphase : loop.phase ≠ .ended .closeRead) : loop.Faithful := by
  apply Loop.Faithful.of_unbroken h.unbroken _ hphase
  rw [h.sent]
  exact List.prefix_append _ _

theorem Stopped.faithful {last : WsItem} (h : Stopped loop last)
    (hclose : loop.phase = .ended .closeRead →
      ∃ frame, last = .ok frame ∧ frame.isClose = true) :
    loop.Faithful where
  sent_prefix := by
    have hsent := eq_map_ok_leading h.unbroken
    have hinj : Function.Injective (Except.ok : WsMessage → WsItem) :=
      fun _ _ => Except.ok.inj
    rw [h.yielded, leading_concat_of_none h.unbroken h.noData,
      ← hinj.list_map hsent]
  complete frame hmem hframe := by
    rw [h.yielded] at hmem ⊢
    rcases List.mem_append.mp hmem with hdata | hlast
    · rw [not_close_of_unbroken h.unbroken hdata] at hframe
      cases hframe
    · rw [List.mem_singleton.mp hlast]
  closeRead hended := by
    obtain ⟨frame, rfl, hframe⟩ := hclose hended
    refine ⟨frame, ?_, hframe⟩
    rw [h.yielded]
    exact List.mem_append_right _ List.mem_cons_self

theorem Loop.Faithful.of_phase {phase : Phase}
    (h : loop.Faithful) (hphase : phase ≠ .ended .closeRead) :
    ({ loop with phase := phase } : Loop).Faithful where
  sent_prefix := h.sent_prefix
  complete := h.complete
  closeRead hended := absurd hended hphase

theorem Loop.Inv.faithful (h : loop.Inv) : loop.Faithful := by
  unfold Loop.Inv at h
  cases hphase : loop.phase with
  | reading =>
      rw [hphase] at h
      exact h.faithful (by rw [hphase]; decide)
  | sending frame delivered =>
      rw [hphase] at h
      have hnot : loop.phase ≠ .ended .closeRead := by
        rw [hphase]
        exact Phase.noConfusion
      cases delivered with
      | true => exact AllSent.faithful h hnot
      | false => exact OneInFlight.faithful h hnot
  | closing =>
      rw [hphase] at h
      obtain ⟨frame, hclose, hstopped⟩ := h
      exact hstopped.faithful fun _ => ⟨frame, rfl, hclose⟩
  | ended why =>
      rw [hphase] at h
      cases why with
      | streamEnded => exact AllSent.faithful h (by rw [hphase]; decide)
      | closeRead =>
          obtain ⟨frame, hclose, hstopped⟩ := h
          exact hstopped.faithful fun _ => ⟨frame, rfl, hclose⟩
      | readFailed =>
          obtain ⟨reason, hstopped⟩ := h
          apply hstopped.faithful
          intro hended
          rw [hphase] at hended
          cases hended
      | sendFailed => exact h
  | dropped =>
      rw [hphase] at h
      exact h

end Faithful

/-! ## Steps keep the invariant -/

/-- What one event can do to a loop. -/
theorem Loop.step_cases {loop next : Loop} {event : LoopEvent}
    (h : loop.step event = some next) :
    (∃ item, loop.phase = .reading ∧
      next = { loop with
        yielded := loop.yielded ++ item.toList
        phase := afterNext item }) ∨
    (∃ frame, loop.phase = .sending frame false ∧
      next = { loop with
        sent := loop.sent ++ [frame]
        phase := .sending frame true }) ∨
    (∃ frame delivered result, loop.phase = .sending frame delivered ∧
      (result.isOk = true → delivered = true) ∧
      next = { loop with phase := afterSend result }) ∨
    (loop.phase = .closing ∧
      next = { loop with phase := .ended .closeRead }) := by
  unfold Loop.step at h
  split at h
  · next item hphase =>
      exact .inl ⟨item, hphase, (Option.some.inj h).symm⟩
  · next frame hphase =>
      exact .inr (.inl ⟨frame, hphase, (Option.some.inj h).symm⟩)
  · next frame delivered result hphase =>
      split at h
      · cases h
      · next hdelivered =>
          refine .inr (.inr (.inl ⟨frame, delivered, result, hphase, ?_,
            (Option.some.inj h).symm⟩))
          intro hok
          simpa [hok] using hdelivered
  · next hphase =>
      exact .inr (.inr (.inr ⟨hphase, (Option.some.inj h).symm⟩))
  · cases h

theorem Stopped.of_allSent {loop : Loop} (h : AllSent loop) {last : WsItem}
    (hlast : dataFrame last = none) (phase : Phase) :
    Stopped { loop with yielded := loop.yielded ++ [last], phase := phase }
      last := by
  have hdata := eq_map_ok_leading h.unbroken
  rw [h.sent] at hdata
  constructor
  · exact hlast
  · exact congrArg (· ++ [last]) hdata
  · rw [← hdata]
    exact h.unbroken

theorem OneInFlight.of_allSent {loop : Loop} (h : AllSent loop)
    {frame : WsMessage} (hframe : frame.isClose = false) (phase : Phase) :
    OneInFlight { loop with
      yielded := loop.yielded ++ [.ok frame]
      phase := phase } frame := by
  have hdata : dataFrame (.ok frame) = some frame :=
    dataFrame_eq_some.mpr ⟨rfl, hframe⟩
  constructor
  · exact h.unbroken.concat hdata
  · rw [leading_concat_of_some h.unbroken hdata, h.sent]

theorem Loop.Inv.of_next {loop : Loop} (h : AllSent loop)
    (item : Option WsItem) :
    ({ loop with
      yielded := loop.yielded ++ item.toList
      phase := afterNext item } : Loop).Inv := by
  cases item with
  | none =>
      have hsame : loop.yielded ++ (none : Option WsItem).toList =
          loop.yielded := List.append_nil _
      rw [hsame]
      exact ⟨h.unbroken, h.sent⟩
  | some item =>
      cases item with
      | error reason => exact ⟨reason, Stopped.of_allSent h rfl _⟩
      | ok frame =>
          cases hclose : frame.isClose with
          | true =>
              have hphase : afterNext (some (.ok frame)) = .closing := by
                simp [afterNext, hclose]
              have hnone : dataFrame (.ok frame) = none := by
                simp [dataFrame, hclose]
              rw [hphase]
              exact ⟨frame, hclose, Stopped.of_allSent h hnone _⟩
          | false =>
              have hphase : afterNext (some (.ok frame)) =
                  .sending frame false := by
                simp [afterNext, hclose]
              rw [hphase]
              exact OneInFlight.of_allSent h hclose _

theorem Loop.Inv.of_sendReturns {loop : Loop} (h : loop.Inv)
    {frame : WsMessage} {delivered : Bool} {result : Except String Unit}
    (hphase : loop.phase = .sending frame delivered)
    (hdelivered : result.isOk = true → delivered = true) :
    ({ loop with phase := afterSend result } : Loop).Inv := by
  cases result with
  | error reason =>
      have hsend : afterSend (.error reason) = .ended .sendFailed := rfl
      rw [hsend]
      exact h.faithful.of_phase (by decide)
  | ok _ =>
      rw [Loop.Inv, hphase, hdelivered rfl] at h
      exact ⟨h.unbroken, h.sent⟩

theorem Loop.Inv.step {loop next : Loop} {event : LoopEvent} (h : loop.Inv)
    (hstep : loop.step event = some next) : next.Inv := by
  rcases Loop.step_cases hstep with ⟨item, hphase, rfl⟩ |
    ⟨frame, hphase, rfl⟩ | ⟨frame, delivered, result, hphase, hok, rfl⟩ |
    ⟨hphase, rfl⟩
  · rw [Loop.Inv, hphase] at h
    exact Loop.Inv.of_next h item
  · rw [Loop.Inv, hphase] at h
    exact ⟨h.unbroken, h.sent⟩
  · exact h.of_sendReturns hphase hok
  · rw [Loop.Inv, hphase] at h
    obtain ⟨frame, hclose, hstopped⟩ := h
    exact ⟨frame, hclose, hstopped.noData, hstopped.yielded,
      hstopped.unbroken⟩

theorem Loop.Inv.drop {loop : Loop} (h : loop.Inv) : loop.drop.Inv :=
  h.faithful.of_phase Phase.noConfusion

/-! ## Runs of the relay -/

def RelayState.loops : RelayState → List Loop
  | .relaying c2u u2c => [c2u, u2c]
  | _ => []

def RelayState.Inv (state : RelayState) : Prop :=
  ∀ loop ∈ state.loops, loop.Inv

theorem select_inv {c2u u2c : Loop} (hc2u : c2u.Inv) (hu2c : u2c.Inv) :
    (select c2u u2c).Inv := by
  have hpair {first second : Loop} (hfirst : first.Inv)
      (hsecond : second.Inv) : (RelayState.relaying first second).Inv := by
    intro loop hloop
    simp only [RelayState.loops, List.mem_cons, List.not_mem_nil,
      or_false] at hloop
    rcases hloop with rfl | rfl
    · exact hfirst
    · exact hsecond
  unfold select
  split
  · exact hpair hc2u hu2c.drop
  · split
    · exact hpair hc2u.drop hu2c
    · exact hpair hc2u hu2c

theorem RelayState.Inv.step {state next : RelayState} {event : RelayEvent}
    (h : state.Inv) (hstep : state.step event = some next) : next.Inv := by
  unfold RelayState.step at hstep
  split at hstep
  · cases hstep
    have hfresh : ({} : Loop).Inv := ⟨unbroken_nil, rfl⟩
    exact select_inv hfresh hfresh
  · cases hstep
    intro loop hloop
    cases hloop
  · next c2u u2c event =>
      obtain ⟨loop, hloop, rfl⟩ := Option.map_eq_some_iff.mp hstep
      have hc2u := h c2u List.mem_cons_self
      have hu2c := h u2c (List.mem_cons_of_mem _ List.mem_cons_self)
      exact select_inv (hc2u.step hloop) hu2c
  · next c2u u2c event =>
      obtain ⟨loop, hloop, rfl⟩ := Option.map_eq_some_iff.mp hstep
      have hc2u := h c2u List.mem_cons_self
      have hu2c := h u2c (List.mem_cons_of_mem _ List.mem_cons_self)
      exact select_inv hc2u (hu2c.step hloop)
  · cases hstep

theorem RelayState.Inv.run {state final : RelayState}
    {events : List RelayEvent} (h : state.Inv)
    (hrun : events.foldlM RelayState.step state = some final) :
    final.Inv := by
  induction events generalizing state with
  | nil =>
      cases hrun
      exact h
  | cons event events ih =>
      rw [List.foldlM_cons] at hrun
      obtain ⟨next, hstep, hrest⟩ := Option.bind_eq_some_iff.mp hrun
      exact ih (h.step hstep) hrest

/-- In every state the relay can reach both loops are faithful. -/
theorem relay_faithful {events : List RelayEvent} {state : RelayState}
    (h : relayWebsocket events = some state) :
    ∀ loop ∈ state.loops, loop.Faithful := by
  have hstart : RelayState.upgrading.Inv := by
    intro loop hloop
    cases hloop
  intro loop hloop
  exact (hstart.run h loop hloop).faithful

/-! ## A client that says goodbye -/

def goodbyeEvents : List RelayEvent :=
  [.upgraded (.ok ()), .c2u (.yields (some (.ok (.text "bye")))),
    .u2c (.yields (some (.ok (.text "hi")))), .c2u .delivers,
    .c2u (.sendReturns (.ok ())),
    .c2u (.yields (some (.ok (.close none)))), .c2u .closeReturns]

def goodbyeLoop : Loop where
  yielded := [.ok (.text "bye"), .ok (.close none)]
  sent := [.text "bye"]
  phase := .ended .closeRead

/-- The frame for the client is lost, the one for the upstream is not. -/
def droppedLoop : Loop where
  yielded := [.ok (.text "hi")]
  phase := .dropped

theorem relay_faithful_goodbye :
    goodbyeLoop.Faithful ∧ droppedLoop.Faithful := by
  have hrun : relayWebsocket goodbyeEvents =
      some (.relaying goodbyeLoop droppedLoop) := rfl
  have hloops := relay_faithful hrun
  exact ⟨hloops _ List.mem_cons_self,
    hloops _ (List.mem_cons_of_mem _ List.mem_cons_self)⟩

end ServiceRouter

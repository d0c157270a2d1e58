import Mathlib.Algebra.GroupWithZero.Nat
import Mathlib.Data.Finset.Basic
import Mathlib.Data.List.DropRight
import Mathlib.Data.Rat.Defs
import Mathlib.Tactic.Simps.Basic
import SqlGateway.Library.Transition

namespace SqlGateway.InMemoryObservabilityRecorderAdapter

/-- An entry stands for its place in the order of all appends. -/
abbrev Ticket := Nat

abbrev SubscriberId := Nat

abbrev LoopId := Nat

-- sealed, so that no conversion counts to it
@[irreducible] def maxBufferedEntries : Nat := 500

def maxPerSubscriberQueueSize : Nat := 1000

def slowConsumerWarningIntervalSeconds : Rat := 30

/-- A `QueueFull`: the entry and the size of the queue that refused it. -/
structure Drop where
  ticket : Ticket
  held : Nat
  deriving DecidableEq

/-- A `_Subscriber` with its queue. The fields after the second gap are what has happened
to it so far: nothing reads them. -/
structure Subscriber where
  loop : LoopId := 0
  queue : List Ticket := []

  dropsSinceLastWarning : Nat := 0
  lastWarningAtMonotonic : Rat := 0

  registeredAt : Nat := 0
  handed : List Ticket := []
  received : List Ticket := []
  dropped : List Drop := []
  warnings : List Nat := []

namespace Subscriber

@[simps] def new (loop : LoopId) (registeredAt : Nat) : Subscriber := { loop, registeredAt }

@[simps] def hand (subscriber : Subscriber) (ticket : Ticket) : Subscriber :=
  { subscriber with handed := subscriber.handed ++ [ticket] }

@[simps] def setQueue (subscriber : Subscriber) (queue : List Ticket) : Subscriber :=
  { subscriber with queue }

def maybeWarnAboutSlowConsumer (subscriber : Subscriber) (nowMonotonic : Rat) : Subscriber :=
  if nowMonotonic - subscriber.lastWarningAtMonotonic < slowConsumerWarningIntervalSeconds then
    subscriber
  else
    { subscriber with
      lastWarningAtMonotonic := nowMonotonic
      dropsSinceLastWarning := 0
      warnings := subscriber.warnings ++ [subscriber.dropsSinceLastWarning] }

/-- `nowMonotonic` is what the clock answers if it is asked. -/
def putIfPossible (subscriber : Subscriber) (ticket : Ticket) (nowMonotonic : Rat) : Subscriber :=
  if subscriber.queue.length ≥ maxPerSubscriberQueueSize then
    maybeWarnAboutSlowConsumer
      { subscriber with
        dropsSinceLastWarning := subscriber.dropsSinceLastWarning + 1
        dropped := subscriber.dropped ++ [⟨ticket, subscriber.queue.length⟩] }
      nowMonotonic
  else
    { subscriber with
      queue := subscriber.queue ++ [ticket]
      received := subscriber.received ++ [ticket] }

end Subscriber

/-- What a call of `snapshot` returned, after how many appends and registrations. -/
structure Snapshot where
  taken : List Ticket
  appended : Nat
  registered : Nat

/-- The recorder, the event loops, and the calls of `record` that have left the lock. -/
structure State (Entry : Type) where
  entries : List Ticket := []
  subscribers : Finset SubscriberId := ∅
  subscriber : SubscriberId → Subscriber := fun _ => {}
  registered : Nat := 0
  /-- What the `for` loop of a call of `record` has still to go through. -/
  remaining : Ticket → List SubscriberId := fun _ => []
  ready : LoopId → List (SubscriberId × Ticket) := fun _ => []
  closed : Finset LoopId := ∅
  appended : List Entry := []
  snapshots : List Snapshot := []

namespace State

variable {Entry : Type}

def initial : State Entry := {}

/-- The locked part of `record`; `order` is the order in which the set was listed. -/
@[simps] def append (s : State Entry) (entry : Entry) (order : List SubscriberId) : State Entry :=
  { s with
    entries := (s.entries ++ [s.appended.length]).rtake maxBufferedEntries
    remaining := Function.update s.remaining s.appended.length order
    appended := s.appended ++ [entry] }

/-- One turn of the `for` loop of `record`, for a subscriber whose loop is closed. -/
@[simps] def skip (s : State Entry) (ticket : Ticket) (rest : List SubscriberId) : State Entry :=
  { s with remaining := Function.update s.remaining ticket rest }

/-- One turn of that loop for any other subscriber. -/
@[simps] def deliver (s : State Entry) (ticket : Ticket) (id : SubscriberId)
    (rest : List SubscriberId) : State Entry :=
  { s with
    remaining := Function.update s.remaining ticket rest
    ready := Function.update s.ready (s.subscriber id).loop
      (s.ready (s.subscriber id).loop ++ [(id, ticket)])
    subscriber := Function.update s.subscriber id ((s.subscriber id).hand ticket) }

@[simps] def runCallback (s : State Entry) (loop : LoopId) (id : SubscriberId) (ticket : Ticket)
    (rest : List (SubscriberId × Ticket)) (nowMonotonic : Rat) : State Entry :=
  { s with
    ready := Function.update s.ready loop rest
    subscriber := Function.update s.subscriber id
      ((s.subscriber id).putIfPossible ticket nowMonotonic) }

@[simps] def subscribe (s : State Entry) (loop : LoopId) : State Entry :=
  { s with
    subscribers := insert s.registered s.subscribers
    subscriber := Function.update s.subscriber s.registered (.new loop s.appended.length)
    registered := s.registered + 1 }

@[simps] def unsubscribe (s : State Entry) (id : SubscriberId) : State Entry :=
  { s with subscribers := s.subscribers.erase id }

@[simps] def snapshot (s : State Entry) : State Entry :=
  { s with snapshots := s.snapshots ++ [⟨s.entries, s.appended.length, s.registered⟩] }

@[simps] def take (s : State Entry) (id : SubscriberId) (rest : List Ticket) : State Entry :=
  { s with subscriber := Function.update s.subscriber id ((s.subscriber id).setQueue rest) }

@[simps] def close (s : State Entry) (loop : LoopId) : State Entry :=
  { s with closed := insert loop s.closed }

end State

inductive Action (Entry : Type)
  | append (entry : Entry) (order : List SubscriberId)
  | deliver (ticket : Ticket)
  | runCallback (loop : LoopId) (nowMonotonic : Rat)
  | subscribe (loop : LoopId)
  | unsubscribe (id : SubscriberId)
  | snapshot
  | take (id : SubscriberId)
  | close (loop : LoopId)

variable {Entry : Type}

/-- Worker threads, event loops and clients, one atomic part at a time. -/
inductive Step : State Entry → Action Entry → State Entry → Prop
  | append {s : State Entry} {entry : Entry} {order : List SubscriberId} :
    order.Nodup → order.toFinset = s.subscribers →
    Step s (.append entry order) (s.append entry order)
  | skip {s : State Entry} {ticket : Ticket} {id : SubscriberId} {rest : List SubscriberId} :
    s.remaining ticket = id :: rest → (s.subscriber id).loop ∈ s.closed →
    Step s (.deliver ticket) (s.skip ticket rest)
  | deliver {s : State Entry} {ticket : Ticket} {id : SubscriberId} {rest : List SubscriberId} :
    s.remaining ticket = id :: rest → (s.subscriber id).loop ∉ s.closed →
    Step s (.deliver ticket) (s.deliver ticket id rest)
  | runCallback {s : State Entry} {loop : LoopId} {id : SubscriberId} {ticket : Ticket}
      {rest : List (SubscriberId × Ticket)} {nowMonotonic : Rat} :
    loop ∉ s.closed → s.ready loop = (id, ticket) :: rest →
    Step s (.runCallback loop nowMonotonic) (s.runCallback loop id ticket rest nowMonotonic)
  | subscribe {s : State Entry} {loop : LoopId} :
    loop ∉ s.closed → Step s (.subscribe loop) (s.subscribe loop)
  | unsubscribe {s : State Entry} {id : SubscriberId} :
    Step s (.unsubscribe id) (s.unsubscribe id)
  | snapshot {s : State Entry} : Step s .snapshot s.snapshot
  | take {s : State Entry} {id : SubscriberId} {ticket : Ticket} {rest : List Ticket} :
    (s.subscriber id).queue = ticket :: rest → Step s (.take id) (s.take id rest)
  | close {s : State Entry} {loop : LoopId} : Step s (.close loop) (s.close loop)

end SqlGateway.InMemoryObservabilityRecorderAdapter
